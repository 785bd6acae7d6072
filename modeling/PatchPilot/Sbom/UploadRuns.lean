import Mathlib.Data.List.Nodup
import Mathlib.Data.List.Pairwise
import PatchPilot.Sbom.Upload

set_option autoImplicit false

/-!
# Sbom: uploads at the same time

Uploads with one idempotency key race for its reservation, which expires and is reclaimed,
and uploads of one body race for the evidence.  A reservation is completed in the transaction
that inserts or finds the evidence, with the fingerprint of the body of that upload, and it
stays so.
-/

namespace PatchPilot.Sbom

open PatchPilot.Foundation

/-! ## Bodies and fingerprints -/

section

variable {ι : Type} (hashes : UploadHashes) (request : ι → UploadSbomInput)

/-- The text behind the final fingerprint of a request. -/
def UploadHashes.finalText (input : UploadSbomInput) : JsString :=
  hashes.finalFingerprintText input.assetId input.contentType (hashes.ofBody input.body)

/-- The final fingerprint of a request. -/
def UploadHashes.finalFingerprint (input : UploadSbomInput) : JsString :=
  hashes.hashFinalFingerprint input.assetId input.contentType (hashes.ofBody input.body)

/-- Among these requests no two bodies and no two fingerprinted texts have the same
digest. -/
structure CollisionFree : Prop where
  bodies : ∀ i j, hashes.sha256 (request i).body = hashes.sha256 (request j).body →
    (request i).body = (request j).body
  texts : ∀ i j, hashes.sha256Utf8 (hashes.finalText (request i)) =
    hashes.sha256Utf8 (hashes.finalText (request j)) →
      hashes.finalText (request i) = hashes.finalText (request j)

variable {hashes} {request}

/-- A final fingerprint is that of one body. -/
theorem CollisionFree.body_eq (h : CollisionFree hashes request) {i j : ι}
    (hfinal : hashes.finalFingerprint (request i) = hashes.finalFingerprint (request j)) :
    (request i).body = (request j).body := by
  have htext := h.texts i j hfinal
  unfold UploadHashes.finalText UploadHashes.finalFingerprintText at htext
  have hjoined := List.append_cancel_left htext
  have hparts := lengthPrefixed_inj (Eq.refl 4) hjoined
  simp only [List.cons.injEq] at hparts
  exact h.bodies i j hparts.2.2.1

/-! ## The invariant -/

/-- The row holds the body of a request. -/
structure Stores (hashes : UploadHashes) (input : UploadSbomInput) (row : UploadedSbomRow) :
    Prop where
  assetId : row.assetId = input.assetId
  sha256 : row.sha256 = hashes.sha256 input.body
  byteLength : row.byteLength = input.body.length

variable (hashes) (request)

/-- A reservation was completed by a request, with evidence that holds its body. -/
def CompletedBy (i : ι) (row : IdempotencyRow) (s : UploadState) : Prop :=
  (request i).actor.organizationId = some row.organizationId ∧
    row.scope = hashes.sbomUploadIdempotencyScope (request i).assetId ∧
    row.keyHash = (request i).keyHash ∧
    row.requestFingerprint = hashes.finalFingerprint (request i) ∧
    ∃ response, row.response = some response ∧
      ∃ sbom ∈ s.sboms, sbom.id = response.sbomId ∧ Stores hashes (request i) sbom

/-- The invariant of uploads. -/
structure UploadInv (s : UploadState) : Prop where
  stored : ∀ row ∈ s.sboms, ∃ i, Stores hashes (request i) row
  asset : ∀ row ∈ s.sboms, ∃ asset, s.assets row.assetId = some asset ∧
    asset.organizationId = row.organizationId
  sbomIds : (s.sboms.map (·.id)).Nodup
  evidence : (s.sboms.map fun row => (row.assetId, row.sha256)).Nodup
  ingested : ∀ row ∈ s.ingestions, ∃ sbom ∈ s.sboms, sbom.id = row.sbomId
  ingestions : (s.ingestions.map (·.sbomId)).Nodup
  requested : ∀ row ∈ s.outbox, ∃ sbom ∈ s.sboms, sbom.id = row.sbomId
  outbox : (s.outbox.map (·.sbomId)).Nodup
  keys : s.reservations.Pairwise fun row row' =>
    ¬row.HasKey row'.organizationId row'.scope row'.keyHash
  completed : ∀ row ∈ s.reservations, row.status = .completed →
    ∃ i, CompletedBy hashes request i row s

/-- What may happen between two statements of an upload: no evidence and no completed
reservation goes away or changes. -/
structure UploadRely (s s' : UploadState) : Prop where
  sboms : ∀ row ∈ s.sboms, row ∈ s'.sboms
  ingestions : ∀ row ∈ s.ingestions, ∃ row' ∈ s'.ingestions,
    row'.id = row.id ∧ row'.sbomId = row.sbomId
  completed : ∀ row ∈ s.reservations, row.status = .completed → row ∈ s'.reservations

/-- The contract of uploads. -/
def uploadContract : Contract UploadState where
  Inv := UploadInv hashes request
  Rely := UploadRely
  refl := fun _ => ⟨fun _ h => h, fun row h => ⟨row, h, rfl, rfl⟩, fun _ h _ => h⟩
  trans := by
    intro s s' s'' h h'
    refine ⟨fun row hrow => h'.sboms row (h.sboms row hrow), fun row hrow => ?_, ?_⟩
    · obtain ⟨middle, hmiddle, hid, hsbom⟩ := h.ingestions row hrow
      obtain ⟨current, hcurrent, hid', hsbom'⟩ := h'.ingestions middle hmiddle
      exact ⟨current, hcurrent, hid'.trans hid, hsbom'.trans hsbom⟩
    · intro row hrow hcompleted
      exact h'.completed row (h.completed row hrow hcompleted) hcompleted

/-- A response names evidence that holds the body of its request, and an ingestion of it. -/
def ResponseHolds (input : UploadSbomInput) : UploadResult → UploadState → Prop
  | .error _, _ => True
  | .ok accepted, s => ∃ sbom ∈ s.sboms, sbom.id = accepted.sbomId ∧
      Stores hashes input sbom ∧ accepted.sha256 = sbom.sha256 ∧
        accepted.byteLength = sbom.byteLength ∧
          ∃ ingestion ∈ s.ingestions, ingestion.id = accepted.ingestionId ∧
            ingestion.sbomId = sbom.id

variable {hashes} {request} {s s' : UploadState}

theorem ResponseHolds.later {input : UploadSbomInput} {result : UploadResult}
    (h : ResponseHolds hashes input result s) (hrely : UploadRely s s') :
    ResponseHolds hashes input result s' := by
  cases result with
  | error failure => exact trivial
  | ok accepted =>
      obtain ⟨sbom, hsbom, hid, hstores, hsha, hlength, ingestion, hingestion, hids⟩ := h
      obtain ⟨current, hcurrent, hcurrentId, hcurrentSbom⟩ := hrely.ingestions ingestion hingestion
      exact ⟨sbom, hrely.sboms sbom hsbom, hid, hstores, hsha, hlength, current, hcurrent,
        hcurrentId.trans hids.1, hcurrentSbom.trans hids.2⟩

theorem CompletedBy.later {i : ι} {row : IdempotencyRow}
    (h : CompletedBy hashes request i row s) (hsboms : ∀ row ∈ s.sboms, row ∈ s'.sboms) :
    CompletedBy hashes request i row s' := by
  obtain ⟨horganization, hscope, hkey, hfinal, response, hresponse, sbom, hsbom, hstores⟩ := h
  exact ⟨horganization, hscope, hkey, hfinal, response, hresponse, sbom, hsboms sbom hsbom,
    hstores⟩

/-! ## Statements -/

/-- A change of the reservations that keeps the keys and the completed ones. -/
theorem UploadInv.mapReservations (h : UploadInv hashes request s)
    (change : IdempotencyRow → IdempotencyRow)
    (hkey : ∀ row, (change row).organizationId = row.organizationId ∧
      (change row).scope = row.scope ∧ (change row).keyHash = row.keyHash)
    (hkept : ∀ row, row.status = .completed → change row = row)
    (hnew : ∀ row ∈ s.reservations, row.status ≠ .completed →
      (change row).status = .completed → ∃ i, CompletedBy hashes request i (change row) s) :
    UploadRely s { s with reservations := s.reservations.map change } ∧
      UploadInv hashes request { s with reservations := s.reservations.map change } := by
  refine ⟨⟨fun _ hrow => hrow, fun row hrow => ⟨row, hrow, rfl, rfl⟩, ?_⟩,
    { h with keys := ?_, completed := ?_ }⟩
  · intro row hrow hcompleted
    exact List.mem_map.mpr ⟨row, hrow, hkept row hcompleted⟩
  · refine List.pairwise_map.mpr (h.keys.imp fun {row row'} hother hsame => hother ?_)
    obtain ⟨horganization, hscope, hkeyHash⟩ := hsame
    obtain ⟨horganization₁, hscope₁, hkeyHash₁⟩ := hkey row
    obtain ⟨horganization₂, hscope₂, hkeyHash₂⟩ := hkey row'
    exact ⟨horganization₁.symm.trans (horganization.trans horganization₂),
      hscope₁.symm.trans (hscope.trans hscope₂),
      hkeyHash₁.symm.trans (hkeyHash.trans hkeyHash₂)⟩
  · intro row' hrow' hcompleted
    obtain ⟨row, hrow, rfl⟩ := List.mem_map.mp hrow'
    by_cases hbefore : row.status = .completed
    · obtain ⟨i, hby⟩ := h.completed row hrow hbefore
      rw [hkept row hbefore]
      exact ⟨i, hby.later fun _ hsbom => hsbom⟩
    · obtain ⟨i, hby⟩ := hnew row hrow hbefore hcompleted
      exact ⟨i, hby.later fun _ hsbom => hsbom⟩

/-- A new reservation keeps the contract. -/
theorem UploadInv.createReservation (h : UploadInv hashes request s) {input : ReservationInput}
    (hcreated : s.createReservation input = some s') :
    UploadRely s s' ∧ UploadInv hashes request s' := by
  unfold UploadState.createReservation at hcreated
  split at hcreated
  · cases hcreated
  · rename_i hfree
    cases hcreated
    refine ⟨⟨fun _ hrow => hrow, fun row hrow => ⟨row, hrow, rfl, rfl⟩,
      fun row hrow _ => List.mem_cons_of_mem _ hrow⟩, { h with keys := ?_, completed := ?_ }⟩
    · refine List.pairwise_cons.mpr ⟨fun row hrow hsame => ?_, h.keys⟩
      have hother := List.find?_eq_none.mp hfree row hrow
      exact hother (decide_eq_true ⟨hsame.1.symm, hsame.2.1.symm, hsame.2.2.symm⟩)
    · intro row hrow hcompleted
      cases hrow with
      | head => cases hcompleted
      | tail _ hrow =>
          obtain ⟨i, hby⟩ := h.completed row hrow hcompleted
          exact ⟨i, hby.later fun _ hsbom => hsbom⟩

/-- A reservation that is reclaimed keeps the contract. -/
theorem UploadInv.reclaim (h : UploadInv hashes request s) (input : ReservationInput)
    (now : Timestamp) :
    UploadRely s { s with reservations := s.reservations.map (·.reclaim input now) } ∧
      UploadInv hashes request
        { s with reservations := s.reservations.map (·.reclaim input now) } := by
  refine h.mapReservations _ (fun row => ?_) (fun row hcompleted => ?_) ?_
  · unfold IdempotencyRow.reclaim
    split
    · exact ⟨rfl, rfl, rfl⟩
    · exact ⟨rfl, rfl, rfl⟩
  · unfold IdempotencyRow.reclaim
    refine if_neg fun hreclaimable => ?_
    have hstarted := hreclaimable.2.1
    rw [hcompleted] at hstarted
    cases hstarted
  · intro row _ hbefore hcompleted
    unfold IdempotencyRow.reclaim at hcompleted
    split at hcompleted
    · cases hcompleted
    · exact absurd hcompleted hbefore

/-! ## Transactions -/

/-- What the transactions of a request are given. -/
structure EvidenceOf (hashes : UploadHashes) (input : UploadSbomInput)
    (evidence : EvidenceInput) : Prop where
  organizationId : input.actor.organizationId = some evidence.reservation.organizationId
  scope : evidence.reservation.scope = hashes.sbomUploadIdempotencyScope input.assetId
  keyHash : evidence.reservation.keyHash = input.keyHash
  request : evidence.input = input
  finalFingerprint : evidence.finalFingerprint = hashes.finalFingerprint input

/-- A reservation that is completed keeps the contract, when the response names evidence
that holds the body of the request. -/
theorem UploadInv.finalizeCompleted (h : UploadInv hashes request s) {i : ι}
    {evidence : EvidenceInput} (hevidence : EvidenceOf hashes (request i) evidence)
    {sbom : UploadedSbomRow} (hsbom : sbom ∈ s.sboms) (hstores : Stores hashes (request i) sbom)
    {ingestionId : Uuid} {responseStatus : Nat} {completedAt : Timestamp}
    (hfinalized : s.finalizeCompleted ⟨evidence.reservation, evidence.finalFingerprint,
      responseStatus, ⟨sbom.id, ingestionId⟩⟩ completedAt = some s') :
    UploadRely s s' ∧ UploadInv hashes request s' ∧
      s'.sboms = s.sboms ∧ s'.ingestions = s.ingestions := by
  unfold UploadState.finalizeCompleted at hfinalized
  split at hfinalized
  · cases hfinalized
    have hkept := h.mapReservations fun row => row.finalize ⟨evidence.reservation,
      evidence.finalFingerprint, responseStatus, ⟨sbom.id, ingestionId⟩⟩ completedAt
    refine (hkept (fun row => ?_) (fun row hcompleted => ?_) ?_).imp_right fun hinv =>
      ⟨hinv, rfl, rfl⟩
    · unfold IdempotencyRow.finalize
      split
      · exact ⟨rfl, rfl, rfl⟩
      · exact ⟨rfl, rfl, rfl⟩
    · unfold IdempotencyRow.finalize
      refine if_neg fun hfinalizable => ?_
      have hstarted := hfinalizable.2.1
      rw [hcompleted] at hstarted
      cases hstarted
    · intro row _ hbefore hcompleted
      unfold IdempotencyRow.finalize at hcompleted ⊢
      split at hcompleted
      · rename_i hfinalizable
        rw [if_pos hfinalizable]
        obtain ⟨horganization, hscope, hkeyHash⟩ := hfinalizable.1
        exact ⟨i, hevidence.organizationId.trans (congrArg some horganization.symm),
          hscope.trans hevidence.scope, hkeyHash.trans hevidence.keyHash,
          hevidence.finalFingerprint, _, rfl, sbom, hsbom, rfl, hstores⟩
      · exact absurd hcompleted hbefore
  · cases hfinalized

theorem toAccepted_eq_ok {sbom : UploadedSbomRow} {ingestion : UploadedIngestionRow}
    {accepted : SbomUploadAccepted} (h : toAccepted sbom ingestion = .ok accepted) :
    accepted.sbomId = sbom.id ∧ accepted.ingestionId = ingestion.id ∧
      accepted.sha256 = sbom.sha256 ∧ accepted.byteLength = sbom.byteLength := by
  unfold toAccepted at h
  split at h
  · cases h
  · cases h
    exact ⟨rfl, rfl, rfl, rfl⟩

/-- A response that is built from evidence with the body of the request and an ingestion
of it. -/
theorem responseHolds_of_toAccepted {input : UploadSbomInput} {sbom : UploadedSbomRow}
    (hsbom : sbom ∈ s.sboms) (hstores : Stores hashes input sbom)
    {ingestion : UploadedIngestionRow} (hingestion : ingestion ∈ s.ingestions)
    (hof : ingestion.sbomId = sbom.id) {accepted : SbomUploadAccepted}
    (haccepted : toAccepted sbom ingestion = .ok accepted) :
    ResponseHolds hashes input (.ok accepted) s := by
  obtain ⟨hsbomId, hingestionId, hsha, hlength⟩ := toAccepted_eq_ok haccepted
  exact ⟨sbom, hsbom, hsbomId.symm, hstores, hsha, hlength, ingestion, hingestion,
    hingestionId.symm, hof⟩

/-- The end of a transaction, with evidence that holds the body of the request. -/
theorem UploadInv.complete (h : UploadInv hashes request s) {i : ι} {evidence : EvidenceInput}
    (hevidence : EvidenceOf hashes (request i) evidence) {sbom : UploadedSbomRow}
    (hsbom : sbom ∈ s.sboms) (hstores : Stores hashes (request i) sbom)
    {ingestion : UploadedIngestionRow} (hingestion : ingestion ∈ s.ingestions)
    (hof : ingestion.sbomId = sbom.id) {completedAt : Timestamp}
    {accepted : SbomUploadAccepted}
    (hcomplete : s.complete evidence sbom ingestion completedAt = .ok (accepted, s')) :
    UploadRely s s' ∧ UploadInv hashes request s' ∧
      ResponseHolds hashes (request i) (.ok accepted) s' := by
  unfold UploadState.complete at hcomplete
  split at hcomplete
  · cases hcomplete
  · rename_i hfinalized
    cases haccepted : toAccepted sbom ingestion with
    | error failure =>
        rw [haccepted] at hcomplete
        cases hcomplete
    | ok built =>
        rw [haccepted] at hcomplete
        cases hcomplete
        obtain ⟨hrely, hinv, hsboms, hingestions⟩ :=
          h.finalizeCompleted hevidence hsbom hstores hfinalized
        exact ⟨hrely, hinv, responseHolds_of_toAccepted (hsboms ▸ hsbom) hstores
          (hingestions ▸ hingestion) hof haccepted⟩

theorem mem_of_findCurrentForSbom {organizationId sbomId : Uuid} {row : UploadedIngestionRow}
    (h : s.findCurrentForSbom organizationId sbomId = some row) :
    row ∈ s.ingestions ∧ row.sbomId = sbomId := by
  have hmem := mem_of_leastBy compareCurrent h
  obtain ⟨hrow, hmatch⟩ := List.mem_filter.mp hmem
  exact ⟨hrow, (of_decide_eq_true hmatch).2⟩

/-- The transaction of `finalizeDuplicate`. -/
theorem UploadInv.finalizeDuplicate (h : UploadInv hashes request s) {i : ι}
    {evidence : EvidenceInput} (hevidence : EvidenceOf hashes (request i) evidence)
    {existing : UploadedSbomRow} (hexisting : existing ∈ s.sboms)
    (hstores : Stores hashes (request i) existing) {completedAt : Timestamp}
    {accepted : SbomUploadAccepted}
    (hfinalized : s.finalizeDuplicate evidence existing completedAt = .ok (accepted, s')) :
    UploadRely s s' ∧ UploadInv hashes request s' ∧
      ResponseHolds hashes (request i) (.ok accepted) s' := by
  unfold UploadState.finalizeDuplicate at hfinalized
  split at hfinalized
  · cases hfinalized
  · rename_i current hcurrent
    split at hfinalized
    · cases hfinalized
    · obtain ⟨hmem, hof⟩ := mem_of_findCurrentForSbom hcurrent
      exact h.complete hevidence hexisting hstores hmem hof hfinalized

/-- New evidence, with its ingestion and its event. -/
def UploadState.withEvidence (s : UploadState) (sbom : UploadedSbomRow)
    (ingestion : UploadedIngestionRow) (event : IngestionRequestedRow) : UploadState :=
  { s with
    sboms := sbom :: s.sboms
    ingestions := ingestion :: s.ingestions
    outbox := event :: s.outbox }

/-- Evidence that is inserted under the constraints of the tables keeps the contract. -/
theorem UploadInv.withEvidence (h : UploadInv hashes request s) {i : ι}
    {sbom : UploadedSbomRow} {ingestion : UploadedIngestionRow} {event : IngestionRequestedRow}
    (hunused : ∀ row ∈ s.sboms, row.id ≠ sbom.id) (hinsertable : s.Insertable sbom)
    (hfree : s.findByAssetAndHash sbom.organizationId sbom.assetId sbom.sha256 = none)
    (hstores : Stores hashes (request i) sbom) (hof : ingestion.sbomId = sbom.id)
    (hevent : event.sbomId = sbom.id) :
    UploadRely s (s.withEvidence sbom ingestion event) ∧
      UploadInv hashes request (s.withEvidence sbom ingestion event) := by
  have hkept : ∀ {sbomId : Uuid}, (∃ row ∈ s.sboms, row.id = sbomId) →
      ∃ row ∈ sbom :: s.sboms, row.id = sbomId := by
    intro sbomId hfound
    obtain ⟨row, hrow, hid⟩ := hfound
    exact ⟨row, List.mem_cons_of_mem _ hrow, hid⟩
  have hnew : ∀ {sbomId : Uuid}, sbomId = sbom.id → ∃ row ∈ sbom :: s.sboms, row.id = sbomId :=
    fun hid => ⟨sbom, List.mem_cons_self, hid.symm⟩
  constructor
  · exact ⟨fun row hrow => List.mem_cons_of_mem _ hrow,
      fun row hrow => ⟨row, List.mem_cons_of_mem _ hrow, rfl, rfl⟩, fun _ hrow _ => hrow⟩
  · refine ⟨?_, ?_, ?_, ?_, ?_, ?_, ?_, ?_, h.keys, ?_⟩
    · exact List.forall_mem_cons.mpr ⟨⟨i, hstores⟩, h.stored⟩
    · obtain ⟨-, -, asset, hasset, horganization⟩ := hinsertable
      exact List.forall_mem_cons.mpr ⟨⟨asset, hasset, horganization⟩, h.asset⟩
    · refine List.nodup_cons.mpr ⟨fun hmem => ?_, h.sbomIds⟩
      obtain ⟨row, hrow, hid⟩ := List.mem_map.mp hmem
      exact hunused row hrow hid
    · refine List.nodup_cons.mpr ⟨fun hmem => ?_, h.evidence⟩
      obtain ⟨row, hrow, hsame⟩ := List.mem_map.mp hmem
      obtain ⟨hassetId, hsha⟩ := Prod.mk.inj hsame
      -- the asset of both rows has one organization
      obtain ⟨-, -, asset, hasset, horganization⟩ := hinsertable
      obtain ⟨asset', hasset', horganization'⟩ := h.asset row hrow
      rw [hassetId, hasset] at hasset'
      cases hasset'
      have hother := List.find?_eq_none.mp hfree row hrow
      exact hother (decide_eq_true ⟨horganization'.symm.trans horganization, hassetId, hsha⟩)
    · exact List.forall_mem_cons.mpr ⟨hnew hof, fun row hrow => hkept (h.ingested row hrow)⟩
    · refine List.nodup_cons.mpr ⟨fun hmem => ?_, h.ingestions⟩
      obtain ⟨row, hrow, hsame⟩ := List.mem_map.mp hmem
      obtain ⟨other, hother, hid⟩ := h.ingested row hrow
      exact hunused other hother (hid.trans (hsame.trans hof))
    · exact List.forall_mem_cons.mpr ⟨hnew hevent, fun row hrow => hkept (h.requested row hrow)⟩
    · refine List.nodup_cons.mpr ⟨fun hmem => ?_, h.outbox⟩
      obtain ⟨row, hrow, hsame⟩ := List.mem_map.mp hmem
      obtain ⟨other, hother, hid⟩ := h.requested row hrow
      exact hunused other hother (hid.trans (hsame.trans hevent))
    · intro row hrow hcompleted
      obtain ⟨j, hby⟩ := h.completed row hrow hcompleted
      exact ⟨j, hby.later fun _ hmem => List.mem_cons_of_mem _ hmem⟩

/-- The transaction of `finalizeNewEvidence`. -/
theorem UploadInv.finalizeNewEvidence (h : UploadInv hashes request s) {i : ι}
    {evidence : EvidenceInput} (hevidence : EvidenceOf hashes (request i) evidence)
    {receivedAt : Timestamp} {generated : Generated} (hunused : s.Unused generated)
    {accepted : SbomUploadAccepted}
    (hfinalized : s.finalizeNewEvidence hashes evidence (hashes.ofBody (request i).body)
      receivedAt generated = .ok (accepted, s')) :
    UploadRely s s' ∧ UploadInv hashes request s' ∧
      ResponseHolds hashes (request i) (.ok accepted) s' := by
  unfold UploadState.finalizeNewEvidence at hfinalized
  dsimp only at hfinalized
  split at hfinalized
  · cases hfinalized
  · rename_i hinsertable
    split at hfinalized
    · cases hfinalized
    · rename_i hfree
      split at hfinalized
      · cases hfinalized
      · rename_i snapshot _
        split at hfinalized
        · cases hfinalized
        · have hstores : Stores hashes (request i)
              (evidence.sbomRow (hashes.ofBody (request i).body) receivedAt generated) :=
            ⟨congrArg UploadSbomInput.assetId hevidence.request, rfl, rfl⟩
          have hnone := Option.not_isSome_iff_eq_none.mp hfree
          have hof : (evidence.ingestionRow snapshot generated).sbomId = generated.sbomId := rfl
          have hevent : (evidence.eventRow hashes
              (evidence.sbomRow (hashes.ofBody (request i).body) receivedAt generated)
              (evidence.ingestionRow snapshot generated) receivedAt).sbomId =
                generated.sbomId := rfl
          obtain ⟨hrely, hinv⟩ := h.withEvidence hunused.1 (not_not.mp hinsertable) hnone hstores
            hof hevent
          obtain ⟨hrely', hinv', hholds⟩ := hinv.complete hevidence List.mem_cons_self hstores
            List.mem_cons_self rfl hfinalized
          exact ⟨(uploadContract hashes request).trans hrely hrely', hinv', hholds⟩

/-- A transaction that holds its promise when it commits. -/
theorem UploadInv.settle (h : UploadInv hashes request s) {input : UploadSbomInput}
    {result : Except TransactionFailure (SbomUploadAccepted × UploadState)}
    (hcommits : ∀ accepted s', result = .ok (accepted, s') → UploadRely s s' ∧
      UploadInv hashes request s' ∧ ResponseHolds hashes input (.ok accepted) s')
    (acknowledged : Bool) :
    UploadRely s (s.settle acknowledged result).2 ∧
      UploadInv hashes request (s.settle acknowledged result).2 ∧
        ResponseHolds hashes input
          ((s.settle acknowledged result).1.mapError mapTransactionFailure)
          (s.settle acknowledged result).2 := by
  cases result with
  | error failure => exact ⟨(uploadContract hashes request).refl s, h, trivial⟩
  | ok committed =>
      obtain ⟨accepted, s'⟩ := committed
      obtain ⟨hrely, hinv, hholds⟩ := hcommits accepted s' rfl
      cases acknowledged with
      | false => exact ⟨hrely, hinv, trivial⟩
      | true => exact ⟨hrely, hinv, hholds⟩

/-- What other code does keeps the contract. -/
theorem UploadInv.act (h : UploadInv hashes request s) (event : UploadEvent) :
    UploadRely s (event.act s) ∧ UploadInv hashes request (event.act s) := by
  cases event with
  | archive assetId isArchivedStatus archivedAt =>
      refine ⟨⟨fun _ hrow => hrow, fun row hrow => ⟨row, hrow, rfl, rfl⟩, fun _ hrow _ => hrow⟩,
        { h with asset := fun row hrow => ?_, completed := fun row hrow hcompleted => ?_ }⟩
      · obtain ⟨asset, hasset, horganization⟩ := h.asset row hrow
        by_cases hid : row.assetId = assetId
        · refine ⟨{ asset with isArchivedStatus, archivedAt }, ?_, horganization⟩
          change (if row.assetId = assetId then _ else _) = _
          rw [if_pos hid, hasset]
          rfl
        · refine ⟨asset, ?_, horganization⟩
          change (if row.assetId = assetId then _ else _) = _
          rw [if_neg hid, hasset]
      · obtain ⟨i, hby⟩ := h.completed row hrow hcompleted
        exact ⟨i, hby.later fun _ hsbom => hsbom⟩
  | process ingestionId snapshot =>
      have hids : ∀ row : UploadedIngestionRow, (if row.id = ingestionId then
          { row with snapshot, version := row.version + 1 } else row).id = row.id ∧
            (if row.id = ingestionId then
              { row with snapshot, version := row.version + 1 } else row).sbomId = row.sbomId := by
        intro row
        split
        · exact ⟨rfl, rfl⟩
        · exact ⟨rfl, rfl⟩
      refine ⟨⟨fun _ hrow => hrow, fun row hrow => ?_, fun _ hrow _ => hrow⟩,
        { h with ingested := ?_, ingestions := ?_, completed := fun row hrow hcompleted => ?_ }⟩
      · exact ⟨_, List.mem_map.mpr ⟨row, hrow, rfl⟩, hids row⟩
      · intro row' hrow'
        obtain ⟨row, hrow, rfl⟩ := List.mem_map.mp hrow'
        obtain ⟨sbom, hsbom, hid⟩ := h.ingested row hrow
        exact ⟨sbom, hsbom, hid.trans (hids row).2.symm⟩
      · have hsame : (UploadEvent.act (.process ingestionId snapshot) s).ingestions.map
            (·.sbomId) = s.ingestions.map (·.sbomId) := by
          change (s.ingestions.map _).map _ = _
          rw [List.map_map]
          exact List.map_congr_left fun row _ => (hids row).2
        rw [hsame]
        exact h.ingestions
      · obtain ⟨i, hby⟩ := h.completed row hrow hcompleted
        exact ⟨i, hby.later fun _ hsbom => hsbom⟩

end

/-! ## Parts of an upload -/

namespace Upload

section

variable {ι α : Type} {hashes : UploadHashes} {request : ι → UploadSbomInput}

/-- A part of an upload keeps the contract. -/
abbrev UploadSafe (hashes : UploadHashes) (request : ι → UploadSbomInput) {α : Type}
    (post : α → UploadState → Prop) (part : Part hashes α) (s : UploadState) : Prop :=
  @Safe _ (uploadOps hashes) _ (uploadContract hashes request) (fun _ _ => True) post part s

theorem safe_call {op : UploadOp} {next : op.Answer → Part hashes α}
    {post : α → UploadState → Prop} {s : UploadState}
    (h : ∀ s', UploadRely s s' → UploadInv hashes request s' →
      ∀ choice answer s'', op.exec hashes choice s' = some (answer, s'') →
        UploadRely s' s'' ∧ UploadInv hashes request s'' ∧
          UploadSafe hashes request post (next answer) s'') :
    UploadSafe hashes request post (call hashes op >>= next) s :=
  fun s' hrely hinv _ => h s' hrely hinv

theorem safe_pure {post : α → UploadState → Prop} {result : α} {s : UploadState}
    (h : ∀ s', UploadRely s s' → UploadInv hashes request s' → post result s') :
    UploadSafe hashes request post (pure result) s :=
  h

/-- An operation that changes no row. -/
def reads : UploadOp → Bool
  | .createReservation _ | .reclaimExpiredStarted _ | .finalizeNewEvidence _ _ _
  | .finalizeDuplicate _ _ => false
  | _ => true

theorem exec_of_reads {op : UploadOp} (hreads : reads op = true) {choice : UploadChoice}
    {s s' : UploadState} {answer : op.Answer}
    (h : op.exec hashes choice s = some (answer, s')) : s' = s := by
  cases op <;> first | (cases hreads; done) | skip
  all_goals cases choice <;> cases h <;> rfl

/-- A part that reads, and goes on in the state that it read. -/
theorem safe_read {op : UploadOp} (hreads : reads op = true)
    {next : op.Answer → Part hashes α} {post : α → UploadState → Prop} {s : UploadState}
    (h : ∀ s', UploadRely s s' → UploadInv hashes request s' →
      ∀ choice answer, op.exec hashes choice s' = some (answer, s') →
        UploadSafe hashes request post (next answer) s') :
    UploadSafe hashes request post (call hashes op >>= next) s := by
  refine safe_call fun s' hrely hinv choice answer s'' hexec => ?_
  have hsame := exec_of_reads hreads hexec
  subst hsame
  exact ⟨(uploadContract hashes request).refl _, hinv, h _ hrely hinv choice answer hexec⟩

theorem throws_safe {post : α → UploadState → Prop} {s : UploadState} :
    UploadSafe hashes request post (throws hashes) s := by
  refine safe_call fun _ _ _ choice answer _ _ => nomatch answer

/-- Evidence that was found by its digest holds the body. -/
theorem stores_of_found (hfree : CollisionFree hashes request) {i : ι} {s : UploadState}
    (hinv : UploadInv hashes request s) {organizationId : Uuid} {row : UploadedSbomRow}
    (hfound : s.findByAssetAndHash organizationId (request i).assetId
      (hashes.sha256 (request i).body) = some row) :
    row ∈ s.sboms ∧ Stores hashes (request i) row := by
  have hmem := List.mem_of_find?_eq_some hfound
  have hmatch := List.find?_some hfound
  obtain ⟨-, hassetId, hsha⟩ := of_decide_eq_true hmatch
  obtain ⟨j, hstores⟩ := hinv.stored row hmem
  have hbody := hfree.bodies i j (hsha.symm.trans hstores.sha256)
  exact ⟨hmem, hassetId, hsha, hstores.byteLength.trans (congrArg List.length hbody.symm)⟩

section

variable {i : ι} {actor : AuthorizedSbomUploadActor} {reservation : ReservationInput}

/-- The request makes the reservation for its actor. -/
structure ReservationOf (hashes : UploadHashes) (input : UploadSbomInput)
    (actor : AuthorizedSbomUploadActor) (reservation : ReservationInput) : Prop where
  tenant : input.actor.organizationId = some actor.organizationId
  organizationId : reservation.organizationId = actor.organizationId
  scope : reservation.scope = hashes.sbomUploadIdempotencyScope input.assetId
  keyHash : reservation.keyHash = input.keyHash

theorem evidenceOf (hof : ReservationOf hashes (request i) actor reservation) :
    EvidenceOf hashes (request i) (evidence hashes (request i) actor reservation
      (hashes.ofBody (request i).body)) :=
  ⟨hof.tenant.trans (congrArg some hof.organizationId.symm), hof.scope, hof.keyHash, rfl, rfl⟩

/-- A transaction ended: a response that it built holds. -/
def Finalized (hashes : UploadHashes) (input : UploadSbomInput)
    (finalized : Except TransactionFailure SbomUploadAccepted) (s : UploadState) : Prop :=
  ResponseHolds hashes input (finalized.mapError mapTransactionFailure) s

theorem finalizeDuplicate_safe (hof : ReservationOf hashes (request i) actor reservation)
    {existing : UploadedSbomRow} {s : UploadState} (hexisting : existing ∈ s.sboms)
    (hstores : Stores hashes (request i) existing) :
    UploadSafe hashes request (Finalized hashes (request i))
      (finalizeDuplicate hashes (request i) actor reservation (hashes.ofBody (request i).body)
        existing) s := by
  refine safe_read rfl fun s₁ hrely₁ _ _ _ _ => ?_
  have hexisting₁ := hrely₁.sboms existing hexisting
  intro s₂ hrely₂ hinv₂ _ choice answer s₃ hexec
  have hexisting₂ := hrely₂.sboms existing hexisting₁
  cases choice with
  | commit generated acknowledged =>
      have hcommits : ∀ accepted s', s₂.finalizeDuplicate
          (evidence hashes (request i) actor reservation (hashes.ofBody (request i).body))
            existing generated.completedAt = .ok (accepted, s') → _ := fun _ _ hcommit =>
        hinv₂.finalizeDuplicate (evidenceOf hof) hexisting₂ hstores hcommit
      have hsettled := hinv₂.settle hcommits acknowledged
      have hanswer : s₂.settle acknowledged _ = (answer, s₃) := Option.some.inj hexec
      rw [hanswer] at hsettled
      obtain ⟨hrely, hinv, hholds⟩ := hsettled
      exact ⟨hrely, hinv, safe_pure fun _ hlater _ => hholds.later hlater⟩
  | rollback =>
      cases hexec
      exact ⟨(uploadContract hashes request).refl _, hinv₂, safe_pure fun _ _ _ => trivial⟩
  | _ => cases hexec

theorem finalizeNewEvidence_safe (hof : ReservationOf hashes (request i) actor reservation)
    (s : UploadState) :
    UploadSafe hashes request (Finalized hashes (request i))
      (finalizeNewEvidence hashes (request i) actor reservation
        (hashes.ofBody (request i).body)) s := by
  refine safe_read rfl fun s₁ _ _ _ receivedAt _ => ?_
  intro s₂ _ hinv₂ _ choice answer s₃ hexec
  cases choice with
  | commit generated acknowledged =>
      have hcommit : (if s₂.Unused generated then some (s₂.settle acknowledged _) else none) =
        some (answer, s₃) := hexec
      split at hcommit
      · rename_i hunused
        have hcommits : ∀ accepted s', s₂.finalizeNewEvidence hashes
            (evidence hashes (request i) actor reservation (hashes.ofBody (request i).body))
              (hashes.ofBody (request i).body) receivedAt generated = .ok (accepted, s') → _ :=
          fun _ _ hcommit => hinv₂.finalizeNewEvidence (evidenceOf hof) hunused hcommit
        have hsettled := hinv₂.settle hcommits acknowledged
        rw [Option.some.inj hcommit] at hsettled
        obtain ⟨hrely, hinv, hholds⟩ := hsettled
        exact ⟨hrely, hinv, safe_pure fun _ hlater _ => hholds.later hlater⟩
      · cases hcommit
  | rollback =>
      cases hexec
      exact ⟨(uploadContract hashes request).refl _, hinv₂, safe_pure fun _ _ _ => trivial⟩
  | _ => cases hexec

theorem finish_safe {input : UploadSbomInput}
    {finalized : Except TransactionFailure SbomUploadAccepted} {s : UploadState}
    (h : ∀ s', UploadRely s s' → UploadInv hashes request s' →
      Finalized hashes input finalized s') :
    UploadSafe hashes request (ResponseHolds hashes input) (finish hashes finalized) s := by
  refine safe_read rfl fun s₁ hrely₁ _ _ _ _ => ?_
  cases finalized with
  | error failure => exact safe_pure fun _ _ _ => trivial
  | ok accepted =>
      exact safe_pure fun s₂ hrely₂ hinv₂ =>
        h s₂ ((uploadContract hashes request).trans hrely₁ hrely₂) hinv₂

theorem finalizeRaced_safe (hfree : CollisionFree hashes request)
    (hof : ReservationOf hashes (request i) actor reservation) (s : UploadState) :
    UploadSafe hashes request (ResponseHolds hashes (request i))
      (finalizeRaced hashes (request i) actor reservation (hashes.ofBody (request i).body)) s := by
  refine safe_read rfl fun s₁ _ hinv₁ choice raced hexec => ?_
  cases choice <;> cases hexec
  split
  · refine safe_read rfl fun s₂ _ _ _ _ _ => ?_
    exact safe_pure fun _ _ _ => trivial
  · rename_i raced hfound
    obtain ⟨hraced, hstores⟩ := stores_of_found hfree hinv₁ hfound
    exact Safe.andThen (fun finalized s₂ hholds => finish_safe hholds)
      (finalizeDuplicate_safe hof hraced hstores)

theorem finalizeBody_safe (hfree : CollisionFree hashes request)
    (hof : ReservationOf hashes (request i) actor reservation) (s : UploadState) :
    UploadSafe hashes request (ResponseHolds hashes (request i))
      (finalizeBody hashes (request i) actor reservation (hashes.ofBody (request i).body)) s := by
  refine safe_read rfl fun s₁ _ hinv₁ choice existing hexec => ?_
  cases choice <;> cases hexec
  have hfirst : UploadSafe hashes request (Finalized hashes (request i))
      (finalizeFirst hashes (request i) actor reservation (hashes.ofBody (request i).body)
        (s₁.findByAssetAndHash actor.organizationId (request i).assetId
          (hashes.ofBody (request i).body).sha256)) s₁ := by
    unfold finalizeFirst
    split
    · rename_i existing hfound
      obtain ⟨hexisting, hstores⟩ := stores_of_found hfree hinv₁ hfound
      exact finalizeDuplicate_safe hof hexisting hstores
    · exact finalizeNewEvidence_safe hof s₁
  refine Safe.andThen (fun finalized s₂ hholds => ?_) hfirst
  split
  · exact finalizeRaced_safe hfree hof s₂
  · exact finish_safe hholds

theorem storePromoteAndFinalize_safe (hfree : CollisionFree hashes request)
    (hof : ReservationOf hashes (request i) actor reservation) (s : UploadState) :
    UploadSafe hashes request (ResponseHolds hashes (request i))
      (storePromoteAndFinalize hashes (request i) actor reservation) s := by
  have hdeleted : ∀ {failure : SbomUploadFailure} {s₁ : UploadState},
      UploadSafe hashes request (ResponseHolds hashes (request i)) (do
        bestEffortDeleteTemporary hashes
        pure (.error failure)) s₁ := by
    intro failure s₁
    refine safe_read rfl fun s₂ _ _ _ _ _ => ?_
    exact safe_pure fun _ _ _ => trivial
  refine safe_read rfl fun s₁ _ _ choice put hexec => ?_
  cases choice with
  | storage failure =>
      cases failure with
      | some category =>
          cases hexec
          exact hdeleted
      | none =>
          cases hexec
          refine safe_read rfl fun s₂ _ _ _ promoted _ => ?_
          cases promoted with
          | error category => exact hdeleted
          | ok _ => exact finalizeBody_safe hfree hof s₂
  | _ => cases hexec

/-- A stored response names evidence that holds the body. -/
def NamesBody (hashes : UploadHashes) (input : UploadSbomInput)
    (response : SbomUploadIdempotencyResponseIds) (s : UploadState) : Prop :=
  ∃ sbom ∈ s.sboms, sbom.id = response.sbomId ∧ sbom.sha256 = hashes.sha256 input.body ∧
    sbom.byteLength = input.body.length

theorem reconstructAccepted_safe {response : SbomUploadIdempotencyResponseIds}
    {s : UploadState} (hnames : NamesBody hashes (request i) response s) :
    UploadSafe hashes request (ResponseHolds hashes (request i))
      (reconstructAccepted hashes (request i) actor response) s := by
  refine safe_read rfl fun s₁ hrely₁ hinv₁ choice sbom hexec => ?_
  cases choice <;> cases hexec
  split
  · exact safe_pure fun _ _ _ => trivial
  · rename_i sbom hfound
    have hmem := List.mem_of_find?_eq_some hfound
    have hmatch := List.find?_some hfound
    obtain ⟨-, hassetId, hid⟩ := of_decide_eq_true hmatch
    -- the row with this id is the one that the response names
    obtain ⟨named, hnamed, hnamedId, hsha, hlength⟩ := hnames
    have hsame : sbom = named := List.inj_on_of_nodup_map hinv₁.sbomIds hmem
      (hrely₁.sboms named hnamed) (hid.trans hnamedId.symm)
    subst hsame
    have hstores : Stores hashes (request i) sbom := ⟨hassetId, hsha, hlength⟩
    refine safe_read rfl fun s₂ hrely₂ _ choice ingestion hexec => ?_
    cases choice <;> cases hexec
    split
    · exact safe_pure fun _ _ _ => trivial
    · rename_i ingestion hingestion
      split
      · exact safe_pure fun _ _ _ => trivial
      · rename_i hof
        refine safe_pure fun s₃ hrely₃ _ => ?_
        cases haccepted : toAccepted sbom ingestion with
        | error failure => exact trivial
        | ok accepted =>
            have hholds := responseHolds_of_toAccepted (hrely₂.sboms sbom hmem) hstores
              (List.mem_of_find?_eq_some hingestion) (not_not.mp hof) haccepted
            exact hholds.later hrely₃

theorem resolveCompletedReplay_eq_ok {row : Option IdempotencyRow} {finalFingerprint : JsString}
    {response : SbomUploadIdempotencyResponseIds}
    (h : resolveCompletedReplay row finalFingerprint = .ok response) :
    ∃ found, row = some found ∧ found.status = .completed ∧
      found.requestFingerprint = finalFingerprint ∧ found.response = some response := by
  unfold resolveCompletedReplay at h
  split at h
  · cases h
  · rename_i found hfound
    obtain ⟨hrow, hcompleted⟩ := Option.filter_eq_some_iff.mp hfound
    split at h
    · cases h
    · rename_i hfingerprint
      split at h
      · rename_i hresponse
        cases h
        exact ⟨found, hrow, of_decide_eq_true hcompleted, not_not.mp hfingerprint, hresponse⟩
      · cases h

theorem fingerprintUploadBody_eq_ok {input : UploadSbomInput} {isAborted : Bool}
    {body : UploadBodyFingerprint}
    (h : hashes.fingerprintUploadBody input isAborted = .ok body) :
    body = hashes.ofBody input.body := by
  unfold UploadHashes.fingerprintUploadBody at h
  repeat' split at h
  all_goals cases h
  rfl

theorem replayCompletedUpload_safe (hfree : CollisionFree hashes request) (s : UploadState) :
    UploadSafe hashes request (ResponseHolds hashes (request i))
      (replayCompletedUpload hashes (request i) actor) s := by
  refine safe_read rfl fun s₁ _ _ choice fingerprinted hexec => ?_
  cases choice with
  | stream isAborted =>
      have hanswer : hashes.fingerprintUploadBody (request i) isAborted = fingerprinted :=
        (Prod.mk.inj (Option.some.inj hexec)).1
      cases fingerprinted with
      | error category => exact safe_pure fun _ _ _ => trivial
      | ok body =>
          have hbody := fingerprintUploadBody_eq_ok hanswer
          subst hbody
          refine safe_read rfl fun s₂ _ hinv₂ choice row hexec => ?_
          cases choice <;> cases hexec
          split
          · exact safe_pure fun _ _ _ => trivial
          · rename_i response hresolved
            obtain ⟨found, hfound, hcompleted, hfingerprint, hresponse⟩ :=
              resolveCompletedReplay_eq_ok hresolved
            obtain ⟨j, -, -, -, hfinal, stored, hstored, sbom, hsbom, hid, hstores⟩ :=
              hinv₂.completed found (List.mem_of_find?_eq_some hfound) hcompleted
            have hbody := hfree.body_eq (hfingerprint.symm.trans hfinal)
            rw [hresponse] at hstored
            cases hstored
            refine reconstructAccepted_safe ⟨sbom, hsbom, hid, ?_, ?_⟩
            · rw [hbody]
              exact hstores.sha256
            · rw [hbody]
              exact hstores.byteLength
  | _ => cases hexec

theorem reserveStarted_safe (input : ReservationInput) (s : UploadState) :
    UploadSafe hashes request (fun _ _ => True) (reserveStarted hashes input) s := by
  refine safe_call fun s₁ _ hinv₁ choice created s₂ hexec => ?_
  cases choice with
  | proceed =>
      have hcreate := hexec
      unfold UploadOp.exec at hcreate
      dsimp only at hcreate
      split at hcreate
      · cases hcreate
        refine ⟨(uploadContract hashes request).refl _, hinv₁, ?_⟩
        refine safe_read rfl fun s₃ _ _ choice existing hexec => ?_
        cases existing with
        | none => exact throws_safe
        | some existing =>
            refine safe_read rfl fun _ _ _ _ _ _ => ?_
            exact safe_pure fun _ _ _ => trivial
      · rename_i hcreated
        cases hcreate
        obtain ⟨hrely, hinv⟩ := hinv₁.createReservation hcreated
        exact ⟨hrely, hinv, safe_pure fun _ _ _ => trivial⟩
  | _ => cases hexec

theorem uploadToAsset_safe (hfree : CollisionFree hashes request)
    (hactor : (request i).actor.organizationId = some actor.organizationId) (s : UploadState) :
    UploadSafe hashes request (ResponseHolds hashes (request i))
      (uploadToAsset hashes (request i) actor) s := by
  refine safe_read rfl fun s₁ _ _ _ (now : Timestamp) _ => ?_
  have hof : ReservationOf hashes (request i) actor ⟨actor.organizationId,
      hashes.sbomUploadIdempotencyScope (request i).assetId, (request i).keyHash,
      hashes.hashReservationFingerprint (request i).assetId (request i).contentType,
      now + (request i).idempotencyTtlMs⟩ := ⟨hactor, rfl, rfl, rfl⟩
  refine Safe.andThen (fun reserved s₂ _ => ?_) (reserveStarted_safe _ s₁)
  cases reserved with
  | unexpiredStarted => exact safe_pure fun _ _ _ => trivial
  | conflict => exact safe_pure fun _ _ _ => trivial
  | completed => exact replayCompletedUpload_safe hfree s₂
  | acquired => exact storePromoteAndFinalize_safe hfree hof s₂
  | reclaimableExpired =>
      refine safe_call fun s₃ _ hinv₃ choice reclaimed s₄ hexec => ?_
      cases choice with
      | time clock =>
          cases hexec
          obtain ⟨hrely, hinv⟩ := hinv₃.reclaim _ clock
          refine ⟨hrely, hinv, ?_⟩
          split
          · exact storePromoteAndFinalize_safe hfree hof _
          · exact safe_pure fun _ _ _ => trivial
      | _ => cases hexec

theorem uploadAs_safe (hfree : CollisionFree hashes request)
    (hactor : (request i).actor.organizationId = some actor.organizationId) (s : UploadState) :
    UploadSafe hashes request (ResponseHolds hashes (request i))
      (uploadAs hashes (request i) actor) s := by
  unfold uploadAs
  split
  · exact throws_safe
  · split
    · exact safe_pure fun _ _ _ => trivial
    · refine safe_read rfl fun s₁ _ _ _ asset _ => ?_
      cases asset with
      | none => exact safe_pure fun _ _ _ => trivial
      | some asset =>
          dsimp only
          split
          · exact safe_pure fun _ _ _ => trivial
          · exact uploadToAsset_safe hfree hactor s₁

/-- An upload keeps the contract, and its response names evidence that holds its body. -/
theorem executeUploadSbom_safe (hfree : CollisionFree hashes request) (s : UploadState) :
    UploadSafe hashes request (ResponseHolds hashes (request i))
      (executeUploadSbom hashes (request i)) s := by
  unfold executeUploadSbom
  split
  · exact safe_pure fun _ _ _ => trivial
  · rename_i actor hauthorized
    unfold authorizeSbomUpload at hauthorized
    split at hauthorized
    · rename_i organizationId membershipId horganization _
      split at hauthorized
      · cases hauthorized
        exact uploadAs_safe hfree horganization s
      · cases hauthorized
    · cases hauthorized

end

end

end Upload

/-! ## Runs -/

/-- At most one element satisfies a condition that fixes its key. -/
theorem length_filter_le_one {α κ : Type} {key : α → κ} {p : α → Bool} {l : List α}
    (hnodup : (l.map key).Nodup)
    (hkey : ∀ a ∈ l, ∀ b ∈ l, p a = true → p b = true → key a = key b) :
    (l.filter p).length ≤ 1 := by
  have hsub : ((l.filter p).map key).Nodup := hnodup.sublist (List.filter_sublist.map key)
  cases hfilter : l.filter p with
  | nil => exact Nat.zero_le 1
  | cons a rest =>
      cases rest with
      | nil => exact Nat.le_refl 1
      | cons b rest =>
          have ha : a ∈ l.filter p := hfilter ▸ List.mem_cons_self
          have hb : b ∈ l.filter p := hfilter ▸ List.mem_cons_of_mem a List.mem_cons_self
          obtain ⟨hmem, hp⟩ := List.mem_filter.mp ha
          obtain ⟨hmem', hp'⟩ := List.mem_filter.mp hb
          rw [hfilter] at hsub
          refine absurd ?_ (List.nodup_cons.mp hsub).1
          rw [hkey a hmem b hmem' hp hp']
          exact List.mem_cons_self

/-- The evidence of an asset with a digest. -/
def UploadedSbomRow.Holds (row : UploadedSbomRow) (assetId : Uuid) (sha256 : JsString) : Prop :=
  row.assetId = assetId ∧ row.sha256 = sha256

instance (row : UploadedSbomRow) (assetId : Uuid) (sha256 : JsString) :
    Decidable (row.Holds assetId sha256) :=
  inferInstanceAs (Decidable (_ ∧ _))

/-- An id names evidence of an asset with a digest. -/
def UploadState.Names (s : UploadState) (assetId : Uuid) (sha256 : JsString) (sbomId : Uuid) :
    Prop :=
  ∃ sbom ∈ s.sboms, sbom.id = sbomId ∧ sbom.Holds assetId sha256

instance (s : UploadState) (assetId : Uuid) (sha256 : JsString) (sbomId : Uuid) :
    Decidable (s.Names assetId sha256 sbomId) :=
  inferInstanceAs (Decidable (∃ sbom ∈ s.sboms, _))

/-- The rows that an asset and a digest have: evidence, ingestions and outbox events. -/
def UploadState.rowsOf (s : UploadState) (assetId : Uuid) (sha256 : JsString) :
    List UploadedSbomRow × List UploadedIngestionRow × List IngestionRequestedRow :=
  (s.sboms.filter fun row => decide (row.Holds assetId sha256),
    s.ingestions.filter fun row => decide (s.Names assetId sha256 row.sbomId),
    s.outbox.filter fun row => decide (s.Names assetId sha256 row.sbomId))

section

variable {ι : Type} {hashes : UploadHashes} {request : ι → UploadSbomInput} {s : UploadState}

theorem UploadInv.names_inj (h : UploadInv hashes request s) {assetId : Uuid}
    {sha256 : JsString} {sbomId sbomId' : Uuid} (hnames : s.Names assetId sha256 sbomId)
    (hnames' : s.Names assetId sha256 sbomId') : sbomId = sbomId' := by
  obtain ⟨sbom, hsbom, rfl, hholds⟩ := hnames
  obtain ⟨sbom', hsbom', rfl, hholds'⟩ := hnames'
  have hsame : sbom = sbom' := List.inj_on_of_nodup_map h.evidence hsbom hsbom'
    (Prod.ext (hholds.1.trans hholds'.1.symm) (hholds.2.trans hholds'.2.symm))
  rw [hsame]

/-- An asset and a digest have one row each. -/
theorem UploadInv.rowsOf (h : UploadInv hashes request s) (assetId : Uuid) (sha256 : JsString) :
    (s.rowsOf assetId sha256).1.length ≤ 1 ∧ (s.rowsOf assetId sha256).2.1.length ≤ 1 ∧
      (s.rowsOf assetId sha256).2.2.length ≤ 1 := by
  refine ⟨length_filter_le_one h.evidence ?_, length_filter_le_one h.ingestions ?_,
    length_filter_le_one h.outbox ?_⟩
  · intro row _ row' _ hholds hholds'
    have hrow := of_decide_eq_true hholds
    have hrow' := of_decide_eq_true hholds'
    exact Prod.ext (hrow.1.trans hrow'.1.symm) (hrow.2.trans hrow'.2.symm)
  · intro row _ row' _ hnames hnames'
    exact h.names_inj (of_decide_eq_true hnames) (of_decide_eq_true hnames')
  · intro row _ row' _ hnames hnames'
    exact h.names_inj (of_decide_eq_true hnames) (of_decide_eq_true hnames')

/-- Two reservations with one key are the same. -/
theorem UploadInv.eq_of_hasKey (h : UploadInv hashes request s) {row row' : IdempotencyRow}
    (hrow : row ∈ s.reservations) (hrow' : row' ∈ s.reservations)
    (hkey : row'.HasKey row.organizationId row.scope row.keyHash) : row' = row := by
  by_contra hne
  have hsymm : Std.Symm fun row row' : IdempotencyRow =>
      ¬row.HasKey row'.organizationId row'.scope row'.keyHash :=
    ⟨fun a b hother hsame => hother ⟨hsame.1.symm, hsame.2.1.symm, hsame.2.2.symm⟩⟩
  exact List.Pairwise.forall h.keys hrow' hrow hne hkey

/-- There were no uploads yet. -/
structure UploadState.Empty (s : UploadState) : Prop where
  reservations : s.reservations = []
  sboms : s.sboms = []
  ingestions : s.ingestions = []
  outbox : s.outbox = []

theorem UploadState.Empty.inv (h : s.Empty) : UploadInv hashes request s := by
  obtain ⟨assets, reservations, sboms, ingestions, outbox⟩ := s
  obtain ⟨rfl, rfl, rfl, rfl⟩ : reservations = [] ∧ sboms = [] ∧ ingestions = [] ∧ outbox = [] :=
    ⟨h.reservations, h.sboms, h.ingestions, h.outbox⟩
  exact ⟨List.forall_mem_nil _, List.forall_mem_nil _, List.nodup_nil, List.nodup_nil,
    List.forall_mem_nil _, List.nodup_nil, List.forall_mem_nil _, List.nodup_nil, .nil,
    List.forall_mem_nil _⟩

/-- In every run of uploads an asset and a digest have one SBOM, one ingestion and one
outbox event, a key is completed once and with the final fingerprint of one body, and a
response names an SBOM that holds the body of its request. -/
theorem uploads_agree (hfree : CollisionFree hashes request) (hempty : s.Empty)
    {happenings : List (Happening UploadChoice ι UploadEvent)}
    {pool : (uploads hashes request).Pool}
    (hrun : ((uploads hashes request).idle s).run happenings = some pool) :
    (∀ assetId sha256, (pool.state.rowsOf assetId sha256).1.length ≤ 1 ∧
      (pool.state.rowsOf assetId sha256).2.1.length ≤ 1 ∧
        (pool.state.rowsOf assetId sha256).2.2.length ≤ 1) ∧
    (∀ row ∈ pool.state.reservations, row.status = .completed →
      (∃ i, (request i).actor.organizationId = some row.organizationId ∧
        row.scope = hashes.sbomUploadIdempotencyScope (request i).assetId ∧
          row.keyHash = (request i).keyHash ∧
            row.requestFingerprint = hashes.finalFingerprint (request i) ∧
              ∀ j, row.requestFingerprint = hashes.finalFingerprint (request j) →
                (request j).body = (request i).body) ∧
      ∀ later final, pool.run later = some final → ∀ row' ∈ final.state.reservations,
        row'.HasKey row.organizationId row.scope row.keyHash → row' = row) ∧
    ∀ process i accepted, pool.Returned process i (.ok accepted) →
      ∃ sbom ∈ pool.state.sboms, sbom.id = accepted.sbomId ∧
        sbom.sha256 = hashes.sha256 (request i).body ∧
          sbom.byteLength = (request i).body.length ∧
            accepted.sha256 = sbom.sha256 ∧ accepted.byteLength = sbom.byteLength := by
  have hprogram : ∀ i s', UploadInv hashes request s' → Upload.UploadSafe hashes request
      (ResponseHolds hashes (request i)) (Upload.executeUploadSbom hashes (request i)) s' :=
    fun i s' _ => Upload.executeUploadSbom_safe hfree s'
  have henvironment : ∀ event s' s'', (uploads hashes request).environment event s' = some s'' →
      UploadInv hashes request s' → UploadRely s' s'' ∧ UploadInv hashes request s'' := by
    intro event s' s'' hact hinv
    cases hact
    exact hinv.act event
  have hidle : ((uploads hashes request).idle s).Sound (uploadContract hashes request)
      (fun _ _ => True) fun i => ResponseHolds hashes (request i) :=
    Interleaving.Pool.sound_idle hempty.inv
  obtain ⟨-, hsound⟩ := hidle.run hprogram henvironment
    (Interleaving.Pool.permitsAll_of_forall (fun _ _ => trivial) _) hrun
  refine ⟨hsound.inv.rowsOf, fun row hrow hcompleted => ⟨?_, ?_⟩, ?_⟩
  · obtain ⟨i, horganization, hscope, hkeyHash, hfinal, -⟩ :=
      hsound.inv.completed row hrow hcompleted
    exact ⟨i, horganization, hscope, hkeyHash, hfinal, fun j hsame =>
      hfree.body_eq (hsame.symm.trans hfinal)⟩
  · intro later final hlater row' hrow' hkey
    obtain ⟨hrely, hfinal⟩ := hsound.run hprogram henvironment
      (Interleaving.Pool.permitsAll_of_forall (fun _ _ => trivial) _) hlater
    exact hfinal.inv.eq_of_hasKey (hrely.completed row hrow hcompleted) hrow' hkey
  · intro process i accepted hreturned
    obtain ⟨sbom, hsbom, hid, hstores, hsha, hlength, -⟩ := hsound.returned hreturned
    exact ⟨sbom, hsbom, hid, hstores.sha256, hstores.byteLength, hsha, hlength⟩

end

namespace TwoBodies

/-- The digests of two bodies, of their final texts and of their reservation text. -/
def hashes : UploadHashes where
  uuidText id := js "00000000-0000-4000-8000-00000000000" ++ decimalText id
  sha256 bytes :=
    if bytes = [0x7b, 0x7d] then
      js "44136fa355b3678a1146ad16f7e8649e94fb4fc21fe77e8310c060f61caaff8a"
    else js "257c1be96ae69f4b01c2c69bdb6d78605f59175819fb007d0bf245bf48444c4a"
  sha256Utf8 text :=
    if text.getLast? = some (unit '2') then
      js "849aaa09ec5a0cfc6c21369dc1c8d0d14a8f1eb39adbcc59c597a230fe6b1350"
    else if text.getLast? = some (unit '3') then
      js "3f6a32394a679dcf01aea088914aa53c7644e3149bf0e37e4b32a13e021b0a86"
    else js "1565a2225e4c02d3c661c1b5dd2ad0c28d731167f1ac22b030793d8423913605"

/-- Requests with one key and two bodies. -/
def request (isFirst : Bool) : UploadSbomInput where
  actor := ⟨some 1, some 4, [js "sbom:upload"]⟩
  assetId := 2
  keyHash := js "a0cf3c2b00232ec665726e6187b80c04fb076b1906100fe16eae585e5155162d"
  contentType := js "application/json"
  declaredByteLength := none
  body := if isFirst then [0x7b, 0x7d] else [0x7b, 0x20, 0x7d]
  maxBytes := 1000
  parserVersion := js "1"
  normalizationVersion := js "2"
  idempotencyTtlMs := 100

/-- The tables before the uploads. -/
def empty : UploadState where
  assets id := if id = 2 then some ⟨1, false, none⟩ else none
  reservations := []
  sboms := []
  ingestions := []
  outbox := []

/-- An upload, its replay, and the other body under the same key. -/
def happenings : List (Happening UploadChoice Bool UploadEvent) :=
  [.start 0 true, .call 0 .proceed, .call 0 (.time 0), .call 0 .proceed,
    .call 0 (.storage none), .call 0 (.storage none), .call 0 .proceed, .call 0 (.time 1),
    .call 0 (.commit ⟨5, 7, 1, 1⟩ true), .call 0 (.storage none),
    .start 1 true, .call 1 .proceed, .call 1 (.time 2), .call 1 .proceed, .call 1 .proceed,
    .call 1 (.time 3), .call 1 (.stream false), .call 1 .proceed, .call 1 .proceed,
    .call 1 .proceed,
    .start 2 false, .call 2 .proceed, .call 2 (.time 4), .call 2 .proceed, .call 2 .proceed,
    .call 2 (.time 5), .call 2 (.stream false), .call 2 .proceed]

theorem collisionFree : CollisionFree hashes request :=
  ⟨by decide +kernel, by decide +kernel⟩

end TwoBodies

open TwoBodies in
/-- An upload and its replay name the evidence with their body, and the other body is
refused. -/
theorem uploads_agree_replayed :
    ∃ pool, ((uploads hashes request).idle empty).run happenings = some pool ∧
      pool.result 0 = pool.result 1 ∧ (pool.result 1).isSome = true ∧
        pool.result 2 = some (.error sbomUploadIdempotencyConflict) ∧
          ∀ process i accepted, pool.Returned process i (.ok accepted) →
            ∃ sbom ∈ pool.state.sboms, sbom.id = accepted.sbomId ∧
              sbom.sha256 = hashes.sha256 (request i).body := by
  obtain ⟨pool, hrun, hsame, hsome, hrefused⟩ :
      ∃ pool ∈ ((uploads hashes request).idle empty).run happenings,
        pool.result 0 = pool.result 1 ∧ (pool.result 1).isSome = true ∧
          pool.result 2 = some (.error sbomUploadIdempotencyConflict) := by
    decide +kernel
  obtain ⟨-, -, hnames⟩ := uploads_agree collisionFree ⟨rfl, rfl, rfl, rfl⟩ hrun
  refine ⟨pool, hrun, hsame, hsome, hrefused, fun process i accepted hreturned => ?_⟩
  obtain ⟨sbom, hsbom, hid, hsha, -⟩ := hnames process i accepted hreturned
  exact ⟨sbom, hsbom, hid, hsha⟩

end PatchPilot.Sbom
