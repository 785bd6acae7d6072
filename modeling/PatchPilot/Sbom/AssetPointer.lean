import PatchPilot.Sbom.GraphAtomicity

set_option autoImplicit false

/-!
# Sbom: the pointer of an asset is a running maximum

Ingestions of one asset complete in any order.  The lock on the asset lets each of them
compare itself with the pointer as it will be until the commit, so that the pointer always
names the greatest ingestion that is completed.
-/

namespace PatchPilot.Sbom

open PatchPilot.Foundation

/-! ## Completed ingestions -/

/-- A completed ingestion of an asset. -/
structure CompletedFor (db : Database) (asset : AssetRow) (ingestion : SbomIngestionRow) :
    Prop where
  member : ingestion ∈ db.ingestions
  organizationId : ingestion.organizationId = asset.organizationId
  assetId : ingestion.assetId = asset.id
  state : ingestion.snapshot.state = .completed

/-- The pointer names the greatest completed ingestion, if there is one. -/
def PointsToGreatest (db : Database) (asset : AssetRow) : Prop :=
  (asset.lastSuccessfulSbomIngestionId = none ∧ ∀ ingestion, ¬CompletedFor db asset ingestion) ∨
    ∃ current, CompletedFor db asset current ∧
      asset.lastSuccessfulSbomIngestionId = some current.id ∧
        ∀ ingestion, CompletedFor db asset ingestion → db.rankOf ingestion ≤ db.rankOf current

theorem ingestion_eq_some {db : Database} (hids : (db.ingestions.map (·.id)).Nodup)
    {ingestion : SbomIngestionRow} (hmem : ingestion ∈ db.ingestions) :
    db.ingestion ingestion.organizationId ingestion.id = some ingestion := by
  unfold Database.ingestion
  cases hfind : db.ingestions.find? fun row =>
      decide (row.organizationId = ingestion.organizationId ∧ row.id = ingestion.id) with
  | none =>
      exact absurd ⟨rfl, rfl⟩ (of_decide_eq_false (Bool.eq_false_iff.mpr
        (List.find?_eq_none.mp hfind ingestion hmem)))
  | some found =>
      have hfound := List.find?_some hfind
      obtain ⟨-, hid⟩ := of_decide_eq_true hfound
      rw [eq_of_id hids (List.mem_of_find?_eq_some hfind) hmem hid]

theorem sbomOf_isSome {db : Database} (h : Sound db) {ingestion : SbomIngestionRow}
    (hmem : ingestion ∈ db.ingestions) : (db.sbomOf ingestion).isSome = true := by
  obtain ⟨sbom, hsbom, horganization, hid, -⟩ := sbom_isSome.mp (h.sboms ingestion hmem)
  exact List.find?_isSome.mpr ⟨sbom, hsbom, decide_eq_true ⟨horganization, hid⟩⟩

theorem completed_eq_some {db : Database} (h : Sound db) {ingestion : SbomIngestionRow}
    (hmem : ingestion ∈ db.ingestions) (hstate : ingestion.snapshot.state = .completed) :
    db.completed ingestion.organizationId ingestion.id = some ingestion := by
  unfold Database.completed
  rw [ingestion_eq_some h.ids hmem]
  refine Option.filter_eq_some_iff.mpr ⟨rfl, ?_⟩
  rw [sbomOf_isSome h hmem, decide_eq_true hstate]
  rfl

/-- What the ranking query says of two completed ingestions. -/
theorem currentWins_eq {db : Database} (h : Sound db) {asset : AssetRow}
    {candidate current : SbomIngestionRow} (hcandidate : CompletedFor db asset candidate)
    (hcurrent : CompletedFor db asset current) :
    db.currentWins asset.organizationId asset.id current.id candidate.id =
      some (decide (db.rankOf candidate ≤ db.rankOf current)) := by
  have hfirst := completed_eq_some h hcandidate.member hcandidate.state
  have hsecond := completed_eq_some h hcurrent.member hcurrent.state
  rw [hcandidate.organizationId] at hfirst
  rw [hcurrent.organizationId] at hsecond
  unfold Database.currentWins
  rw [hfirst, hsecond]
  have hfilter : (some candidate).filter (fun row => decide (row.assetId = asset.id)) =
      some candidate :=
    Option.filter_eq_some_iff.mpr ⟨rfl, decide_eq_true hcandidate.assetId⟩
  rw [hfilter]
  rfl

/-- The pointer of a stored asset. -/
theorem pointer_eq {db : Database} (hids : (db.assets.map (·.id)).Nodup) {asset : AssetRow}
    (hmem : asset ∈ db.assets) :
    db.pointer asset.organizationId asset.id = asset.lastSuccessfulSbomIngestionId := by
  unfold Database.pointer
  cases hfind : db.assets.find? fun row =>
      decide (row.organizationId = asset.organizationId ∧ row.id = asset.id) with
  | none =>
      exact absurd ⟨rfl, rfl⟩ (of_decide_eq_false (Bool.eq_false_iff.mpr
        (List.find?_eq_none.mp hfind asset hmem)))
  | some found =>
      have hfound := List.find?_some hfind
      obtain ⟨-, hid⟩ := of_decide_eq_true hfound
      have hsame : found = asset :=
        List.inj_on_of_nodup_map hids (List.mem_of_find?_eq_some hfind) hmem hid
      rw [hsame]
      rfl

/-! ## Ranks do not change -/

theorem rankOf_congr {db db' : Database} {ingestion ingestion' : SbomIngestionRow}
    (hreceived : db'.receivedAt ingestion' = db.receivedAt ingestion)
    (hcreated : ingestion'.createdAt = ingestion.createdAt)
    (hid : ingestion'.id = ingestion.id) : db'.rankOf ingestion' = db.rankOf ingestion := by
  unfold Database.rankOf
  rw [hreceived, hcreated, hid]

theorem sbomOf_owner {db : Database} {ingestion ingestion' : SbomIngestionRow}
    (h : ingestion'.owner = ingestion.owner) : db.sbomOf ingestion' = db.sbomOf ingestion := by
  have horganization := congrArg GraphOwner.organizationId h
  have hsbom := congrArg GraphOwner.sbomId h
  change ingestion'.organizationId = ingestion.organizationId at horganization
  change ingestion'.sbomId = ingestion.sbomId at hsbom
  unfold Database.sbomOf
  rw [horganization, hsbom]

theorem receivedAt_append {db db' : Database} {rows : List SbomRow}
    (hsboms : db'.sboms = db.sboms ++ rows) {ingestion : SbomIngestionRow}
    (hfound : (db.sbomOf ingestion).isSome = true) :
    db'.receivedAt ingestion = db.receivedAt ingestion := by
  obtain ⟨sbom, hsbom⟩ := Option.isSome_iff_exists.mp hfound
  unfold Database.receivedAt
  have hsame : db'.sbomOf ingestion = some sbom := by
    unfold Database.sbomOf at hsbom ⊢
    rw [hsboms, List.find?_append, hsbom]
    rfl
  rw [hsame, hsbom]

theorem receivedAt_applyAll {db : Database} {writes : List Write}
    (honSbom : ∀ row : SbomRow, ∃ parserVersion specificationVersion,
      writes.foldl Write.onSbom row =
        { row with
          parserVersionLastSucceeded := parserVersion,
          specificationVersion := specificationVersion })
    (ingestion : SbomIngestionRow) :
    (applyAll writes db).receivedAt ingestion = db.receivedAt ingestion := by
  have hkeys : ((fun row : SbomRow => decide (row.organizationId = ingestion.organizationId ∧
      row.id = ingestion.sbomId)) ∘ fun row => writes.foldl Write.onSbom row) =
      fun row => decide (row.organizationId = ingestion.organizationId ∧
        row.id = ingestion.sbomId) := by
    funext row
    obtain ⟨parserVersion, specificationVersion, hrow⟩ := honSbom row
    rw [Function.comp_apply, hrow]
  unfold Database.receivedAt Database.sbomOf
  rw [sboms_applyAll, List.find?_map, hkeys, Option.map_map]
  refine congrArg (Option.getD · 0) (congrArg (Option.map · _) ?_)
  funext row
  obtain ⟨parserVersion, specificationVersion, hrow⟩ := honSbom row
  rw [Function.comp_apply, hrow]

theorem rankOf_eq {db db' : Database} {ingestion ingestion' : SbomIngestionRow}
    (hreceived : db'.receivedAt ingestion = db.receivedAt ingestion)
    (howner : ingestion'.owner = ingestion.owner)
    (hcreated : ingestion'.createdAt = ingestion.createdAt) :
    db'.rankOf ingestion' = db.rankOf ingestion := by
  refine rankOf_congr ?_ hcreated (congrArg GraphOwner.sbomIngestionId howner)
  rw [← hreceived]
  unfold Database.receivedAt
  rw [sbomOf_owner howner]

/-! ## Assets that a step leaves alone -/

/-- An asset that is as it was, with the completed ingestions that it had. -/
structure Kept (db db' : Database) (asset : AssetRow) : Prop where
  member : asset ∈ db.assets
  completed : ∀ ingestion, CompletedFor db' asset ingestion ↔ CompletedFor db asset ingestion

/-- An asset that is new. -/
structure Created (db db' : Database) (asset : AssetRow) : Prop where
  new : ∀ other ∈ db.assets, other.id ≠ asset.id
  pointer : asset.lastSuccessfulSbomIngestionId = none
  completed : ∀ ingestion, ¬CompletedFor db' asset ingestion

/-- The ranks of the ingestions that are there do not change. -/
def RanksKept (db db' : Database) : Prop :=
  ∀ ingestion ∈ db.ingestions, db'.rankOf ingestion = db.rankOf ingestion

theorem PointsToGreatest.kept {db db' : Database} {asset : AssetRow}
    (h : PointsToGreatest db asset) (hkept : Kept db db' asset) (hranks : RanksKept db db') :
    PointsToGreatest db' asset := by
  rcases h with ⟨hnone, hempty⟩ | ⟨current, hcurrent, hpointer, hgreatest⟩
  · exact .inl ⟨hnone, fun ingestion hcompleted =>
      hempty ingestion ((hkept.completed ingestion).mp hcompleted)⟩
  · refine .inr ⟨current, (hkept.completed current).mpr hcurrent, hpointer, ?_⟩
    intro ingestion hcompleted
    have hold := (hkept.completed ingestion).mp hcompleted
    rw [hranks ingestion hold.member, hranks current hcurrent.member]
    exact hgreatest ingestion hold

theorem completedFor_congr {db db' : Database} (h : db'.ingestions = db.ingestions)
    {asset : AssetRow} {ingestion : SbomIngestionRow} :
    CompletedFor db' asset ingestion ↔ CompletedFor db asset ingestion := by
  constructor
  · rintro ⟨hmem, horganization, hasset, hstate⟩
    exact ⟨h ▸ hmem, horganization, hasset, hstate⟩
  · rintro ⟨hmem, horganization, hasset, hstate⟩
    exact ⟨h.symm ▸ hmem, horganization, hasset, hstate⟩

/-- An update of `applyTransition` leaves the completed ingestions alone. -/
theorem completedFor_update {db : Database} (h : Sound db) {update : PreparedUpdate}
    (hupdate : UpdateOk db update) {asset : AssetRow} {ingestion : SbomIngestionRow} :
    CompletedFor (update.apply db) asset ingestion ↔ CompletedFor db asset ingestion := by
  constructor
  · rintro ⟨hmem, horganization, hasset, hstate⟩
    obtain ⟨row, hrow, rfl⟩ := List.mem_map.mp hmem
    have hsame : update.onIngestion row = row := by
      unfold PreparedUpdate.onIngestion at hstate ⊢
      split at hstate
      · exact absurd hstate hupdate.next
      · rename_i hfields
        exact if_neg hfields
    rw [hsame] at horganization hasset hstate ⊢
    exact ⟨hrow, horganization, hasset, hstate⟩
  · rintro ⟨hmem, horganization, hasset, hstate⟩
    refine ⟨List.mem_map.mpr ⟨ingestion, hmem, if_neg fun hfields => ?_⟩, horganization, hasset,
      hstate⟩
    have hcurrent := hupdate.eq_current h.ids hmem hfields.2.1 hfields.2.2
    exact hupdate.notCompleted (hcurrent ▸ hstate)

/-- An ingestion that is accepted is not completed. -/
theorem completedFor_accept {db : Database} {row : SbomIngestionRow}
    (hsnapshot : applySession8IngestionTransition none .createAccepted = .ok row.snapshot)
    {asset : AssetRow} {ingestion : SbomIngestionRow} :
    CompletedFor { db with ingestions := db.ingestions ++ [row] } asset ingestion ↔
      CompletedFor db asset ingestion := by
  constructor
  · rintro ⟨hmem, horganization, hasset, hstate⟩
    rcases List.mem_append.mp hmem with hmem | hmem
    · exact ⟨hmem, horganization, hasset, hstate⟩
    · rw [List.mem_singleton.mp hmem, ← Except.ok.inj hsnapshot] at hstate
      cases hstate
  · rintro ⟨hmem, horganization, hasset, hstate⟩
    exact ⟨List.mem_append_left _ hmem, horganization, hasset, hstate⟩

/-- A commit completes the ingestion under its lock, and no other one. -/
theorem OpenOk.completedFor_commit {db : Database} {transaction : OpenTransaction}
    {next : Session8IngestionSnapshot} (h : OpenOk db transaction) (hsound : Sound db)
    (hcompleting : Completing transaction.input transaction.ingestion next db.components
      transaction.writes)
    (hnext : next.state = .completed) {asset : AssetRow} {ingestion : SbomIngestionRow} :
    CompletedFor (applyAll transaction.writes db) asset ingestion ↔
      CompletedFor db asset ingestion ∨
        (asset.organizationId = transaction.input.organizationId ∧
          asset.id = transaction.input.assetId) ∧
            ingestion = transaction.ingestion.completeWith next := by
  have hrows := h.ingestions_commit hsound.ids hcompleting
  constructor
  · rintro ⟨hmem, horganization, hasset, hstate⟩
    rw [hrows] at hmem
    obtain ⟨row, hrow, rfl⟩ := List.mem_map.mp hmem
    by_cases hsame : row = transaction.ingestion
    · rw [if_pos hsame] at horganization hasset hstate ⊢
      rw [hsame] at horganization hasset ⊢
      exact .inr ⟨⟨horganization.symm.trans h.organizationId, hasset.symm.trans h.assetId⟩, rfl⟩
    · rw [if_neg hsame] at horganization hasset hstate ⊢
      exact .inl ⟨hrow, horganization, hasset, hstate⟩
  · rintro (⟨hmem, horganization, hasset, hstate⟩ | ⟨⟨horganization, hasset⟩, rfl⟩)
    · refine ⟨?_, horganization, hasset, hstate⟩
      rw [hrows]
      refine List.mem_map.mpr ⟨ingestion, hmem, if_neg fun hsame => ?_⟩
      rw [hsame, h.state] at hstate
      cases hstate
    · refine ⟨?_, h.organizationId.trans horganization.symm, h.assetId.trans hasset.symm, hnext⟩
      rw [hrows]
      exact List.mem_map.mpr ⟨_, h.member, if_pos rfl⟩

/-! ## Transactions that hold their asset -/

/-- What a transaction that holds its asset will do to it: the pointer stays, and names an
ingestion that is not smaller, or it moves to an ingestion that is not smaller than any. -/
structure PointedOk (db : Database) (transaction : OpenTransaction) : Prop where
  other : ∀ row : AssetRow, ¬row.isOf transaction.input →
    transaction.writes.foldl Write.onAsset row = row
  own : ∀ row ∈ db.assets, row.isOf transaction.input →
    (transaction.writes.foldl Write.onAsset row = row ∧ ∃ current, CompletedFor db row current ∧
      row.lastSuccessfulSbomIngestionId = some current.id ∧
        db.rankOf transaction.ingestion ≤ db.rankOf current) ∨
    (transaction.writes.foldl Write.onAsset row =
      { row with
        lastSuccessfulSbomIngestionId := some transaction.input.sbomIngestionId,
        lastSuccessfulSbomIngestionAt := some transaction.completedAt }) ∧
      ∀ current, CompletedFor db row current →
        db.rankOf current ≤ db.rankOf transaction.ingestion

theorem PointedOk.kept {db db' : Database} {transaction : OpenTransaction}
    (h : PointedOk db transaction) (hmember : transaction.ingestion ∈ db.ingestions)
    (hkept : ∀ row ∈ db'.assets, row.isOf transaction.input → Kept db db' row)
    (hranks : RanksKept db db') : PointedOk db' transaction := by
  refine ⟨h.other, ?_⟩
  intro row hrow hof
  have hrowKept := hkept row hrow hof
  rcases h.own row hrowKept.member hof with ⟨hsame, current, hcurrent, hpointer, hle⟩ |
    ⟨hmoved, hgreatest⟩
  · refine .inl ⟨hsame, current, (hrowKept.completed current).mpr hcurrent, hpointer, ?_⟩
    rw [hranks _ hmember, hranks _ hcurrent.member]
    exact hle
  · refine .inr ⟨hmoved, fun current hcurrent => ?_⟩
    have hold := (hrowKept.completed current).mp hcurrent
    rw [hranks _ hmember, hranks _ hold.member]
    exact hgreatest current hold

/-- Under the lock of its asset a transaction ranks its ingestion against the pointer that
is committed. -/
theorem OpenOk.currentWins {db : Database} {transaction : OpenTransaction}
    {next : Session8IngestionSnapshot} (h : OpenOk db transaction) (hsound : Sound db)
    (hphase : transaction.phase ≠ .locked)
    (hcompleting : Completing transaction.input transaction.ingestion next db.components
      transaction.writes)
    (hnext : next.state = .completed) {asset : AssetRow} (hof : asset.isOf transaction.input)
    {current : SbomIngestionRow} (hcurrent : CompletedFor db asset current) :
    (applyAll transaction.writes db).currentWins asset.organizationId asset.id current.id
        transaction.input.sbomIngestionId =
      some (decide (db.rankOf transaction.ingestion ≤ db.rankOf current)) := by
  have hview := hsound.commit h hphase
  have hcandidate : CompletedFor (applyAll transaction.writes db) asset
      (transaction.ingestion.completeWith next) :=
    (h.completedFor_commit hsound hcompleting hnext).mpr (.inr ⟨hof, rfl⟩)
  have hcurrentView := (h.completedFor_commit hsound hcompleting hnext).mpr (.inl hcurrent)
  have hwins := currentWins_eq hview hcandidate hcurrentView
  have hrankCandidate : (applyAll transaction.writes db).rankOf
      (transaction.ingestion.completeWith next) = db.rankOf transaction.ingestion :=
    rankOf_eq (receivedAt_applyAll hcompleting.onSbom transaction.ingestion) rfl rfl
  have hrankCurrent : (applyAll transaction.writes db).rankOf current = db.rankOf current :=
    rankOf_eq (receivedAt_applyAll hcompleting.onSbom current) rfl rfl
  rw [hrankCandidate, hrankCurrent] at hwins
  rw [← h.id]
  exact hwins

theorem assets_applyAll_unchanged {db : Database} {writes : List Write}
    (h : ∀ row : AssetRow, writes.foldl Write.onAsset row = row) :
    (applyAll writes db).assets = db.assets := by
  rw [assets_applyAll, funext h, List.map_id']

theorem pointedOk_of_finished {db : Database} {transaction : OpenTransaction}
    {writes : List Write} (h : OpenOk db transaction) (hsound : Sound db)
    (hphase : transaction.phase ≠ .locked) (hassets : (db.assets.map (·.id)).Nodup)
    (hpointers : ∀ asset ∈ db.assets, PointsToGreatest db asset)
    (hunpointed : ∀ row : AssetRow, transaction.writes.foldl Write.onAsset row = row)
    (hfinished : Finished transaction.input transaction.completedAt
      (CurrentWins (applyAll transaction.writes db) transaction.input) writes) :
    PointedOk db
      { transaction with phase := .pointed, writes := transaction.writes ++ writes } := by
  have hfold : ∀ row : AssetRow, (transaction.writes ++ writes).foldl Write.onAsset row =
      writes.foldl Write.onAsset row := by
    intro row
    rw [List.foldl_append, hunpointed]
  refine ⟨fun row hother => ?_, fun row hrow hof => ?_⟩
  · exact (hfold row).trans (hfinished.kept row (.inr hother))
  · obtain ⟨next, hnext, hcompleting⟩ := h.completing hphase
    obtain ⟨found, hfound, hcompleted, -⟩ := completedSnapshot_eq_ok transaction.completedAt
      h.valid h.state h.startedAt (hsound.stages _ h.member)
    rw [hnext] at hfound
    cases hfound
    have hpointer : (applyAll transaction.writes db).pointer transaction.input.organizationId
        transaction.input.assetId = row.lastSuccessfulSbomIngestionId := by
      rw [← hof.1, ← hof.2]
      unfold Database.pointer
      rw [assets_applyAll_unchanged hunpointed]
      exact pointer_eq hassets hrow
    rcases hpointers row hrow with ⟨hnone, hempty⟩ | ⟨current, hcurrent, hnamed, hgreatest⟩
    · have hloses : ¬CurrentWins (applyAll transaction.writes db) transaction.input := by
        unfold CurrentWins
        rw [hpointer, hnone]
        exact nofun
      exact .inr ⟨(hfold row).trans (hfinished.replaced row hloses hof),
        fun ingestion hcompleted => absurd hcompleted (hempty ingestion)⟩
    · have hwins : CurrentWins (applyAll transaction.writes db) transaction.input ↔
          db.rankOf transaction.ingestion ≤ db.rankOf current := by
        unfold CurrentWins
        rw [hpointer, hnamed, Option.bind_some, ← hof.1, ← hof.2,
          h.currentWins hsound hphase hcompleting hcompleted hof hcurrent]
        exact Option.some_inj.trans decide_eq_true_iff
      by_cases hle : db.rankOf transaction.ingestion ≤ db.rankOf current
      · exact .inl ⟨(hfold row).trans (hfinished.kept row (.inl (hwins.mpr hle))), current,
          hcurrent, hnamed, hle⟩
      · refine .inr ⟨(hfold row).trans
          (hfinished.replaced row (fun hw => hle (hwins.mp hw)) hof), ?_⟩
        intro ingestion hcompleted
        exact (hgreatest ingestion hcompleted).trans (le_of_lt (not_le.mp hle))

/-! ## Every step keeps the pointers -/

/-- The invariant of the pointers. -/
structure Ranked (system : System) : Prop extends Consistent system where
  assetIds : (system.db.assets.map (·.id)).Nodup
  sbomAssets : ∀ sbom ∈ system.db.sboms, ∃ asset ∈ system.db.assets,
    asset.organizationId = sbom.organizationId ∧ asset.id = sbom.assetId
  pointers : ∀ asset ∈ system.db.assets, PointsToGreatest system.db asset
  unpointed : ∀ tx transaction, system.transactions tx = some transaction →
    transaction.phase ≠ .pointed → ∀ row : AssetRow,
      transaction.writes.foldl Write.onAsset row = row
  pointed : ∀ tx transaction, system.transactions tx = some transaction →
    transaction.phase = .pointed → PointedOk system.db transaction
  assetLocks : ∀ tx tx' transaction transaction', system.transactions tx = some transaction →
    system.transactions tx' = some transaction' → transaction.phase = .pointed →
    transaction'.phase = .pointed →
    transaction.input.organizationId = transaction'.input.organizationId →
    transaction.input.assetId = transaction'.input.assetId → tx = tx'

theorem Ranked.initial {system : System} (h : system.Initial) : Ranked system := by
  refine { Consistent.initial h with
    assetIds := ?_, sbomAssets := ?_, pointers := ?_, unpointed := ?_, pointed := ?_,
    assetLocks := ?_ }
  · rw [h.assets]
    exact List.nodup_nil
  · rw [h.sboms]
    exact fun sbom hsbom => (List.not_mem_nil hsbom).elim
  · rw [h.assets]
    exact fun asset hasset => (List.not_mem_nil hasset).elim
  · intro tx transaction hopen
    rw [h.transactions tx] at hopen
    cases hopen
  · intro tx transaction hopen
    rw [h.transactions tx] at hopen
    cases hopen
  · intro tx tx' transaction transaction' hopen
    rw [h.transactions tx] at hopen
    cases hopen

/-- The asset of an ingestion is stored. -/
theorem Ranked.asset_of_ingestion {system : System} (h : Ranked system)
    {ingestion : SbomIngestionRow} (hmem : ingestion ∈ system.db.ingestions) :
    ∃ asset ∈ system.db.assets, asset.organizationId = ingestion.organizationId ∧
      asset.id = ingestion.assetId := by
  obtain ⟨sbom, hsbom, horganization, -, hasset⟩ :=
    sbom_isSome.mp (h.sound.sboms ingestion hmem)
  obtain ⟨asset, hmem', horganization', hid⟩ := h.sbomAssets sbom hsbom
  exact ⟨asset, hmem', horganization'.trans horganization, hid.trans hasset⟩

/-- Other tables, with every asset as it was or new. -/
theorem Ranked.withDb {system : System} (h : Ranked system) {db : Database}
    (hconsistent : Consistent (system.withDb db)) (hids : (db.assets.map (·.id)).Nodup)
    (hsboms : ∀ sbom ∈ db.sboms, ∃ asset ∈ db.assets,
      asset.organizationId = sbom.organizationId ∧ asset.id = sbom.assetId)
    (hassets : ∀ asset ∈ db.assets, Kept system.db db asset ∨ Created system.db db asset)
    (hranks : RanksKept system.db db) : Ranked (system.withDb db) := by
  refine { hconsistent with
    assetIds := hids, sbomAssets := hsboms, pointers := ?_, unpointed := h.unpointed,
    pointed := ?_, assetLocks := h.assetLocks }
  · intro asset hasset
    rcases hassets asset hasset with hkept | hcreated
    · exact (h.pointers asset hkept.member).kept hkept hranks
    · exact .inl ⟨hcreated.pointer, hcreated.completed⟩
  · intro tx transaction hopen hphase
    have hok := h.opened tx transaction hopen
    refine (h.pointed tx transaction hopen hphase).kept hok.member ?_ hranks
    intro row hrow hof
    rcases hassets row hrow with hkept | hcreated
    · exact hkept
    · obtain ⟨asset, hasset, -, hid⟩ := h.asset_of_ingestion hok.member
      exact absurd (hid.trans (hok.assetId.trans hof.2.symm)) (hcreated.new asset hasset)

/-- A transaction is closed. -/
theorem Ranked.close {system : System} (h : Ranked system) (tx : Nat) :
    Ranked (system.setTransaction tx none) := by
  have hstill : ∀ tx' transaction,
      (system.setTransaction tx none).transactions tx' = some transaction →
        system.transactions tx' = some transaction := by
    intro tx' transaction hopen
    by_cases hsame : tx' = tx
    · rw [hsame, setTransaction_self] at hopen
      cases hopen
    · rw [setTransaction_of_ne hsame] at hopen
      exact hopen
  exact { h.toConsistent.close tx with
    assetIds := h.assetIds, sbomAssets := h.sbomAssets, pointers := h.pointers,
    unpointed := fun tx' transaction hopen =>
      h.unpointed tx' transaction (hstill tx' transaction hopen),
    pointed := fun tx' transaction hopen =>
      h.pointed tx' transaction (hstill tx' transaction hopen),
    assetLocks := fun tx' tx'' transaction transaction' hopen hopen' =>
      h.assetLocks tx' tx'' transaction transaction' (hstill tx' transaction hopen)
        (hstill tx'' transaction' hopen') }

/-- A transaction is opened or moved on before it has locked its asset. -/
theorem Ranked.setUnpointed {system : System} (h : Ranked system) {tx : Nat}
    {transaction : OpenTransaction}
    (hconsistent : Consistent (system.setTransaction tx (some transaction)))
    (hphase : transaction.phase ≠ .pointed)
    (hunpointed : ∀ row : AssetRow, transaction.writes.foldl Write.onAsset row = row) :
    Ranked (system.setTransaction tx (some transaction)) := by
  have hstill : ∀ tx' other,
      (system.setTransaction tx (some transaction)).transactions tx' = some other →
        other = transaction ∨ system.transactions tx' = some other := by
    intro tx' other hopen
    by_cases hsame : tx' = tx
    · rw [hsame, setTransaction_self] at hopen
      cases hopen
      exact .inl rfl
    · rw [setTransaction_of_ne hsame] at hopen
      exact .inr hopen
  refine { hconsistent with
    assetIds := h.assetIds, sbomAssets := h.sbomAssets, pointers := h.pointers, unpointed := ?_,
    pointed := ?_, assetLocks := ?_ }
  · intro tx' other hopen hother
    rcases hstill tx' other hopen with rfl | hopen
    · exact hunpointed
    · exact h.unpointed tx' other hopen hother
  · intro tx' other hopen hother
    rcases hstill tx' other hopen with rfl | hopen
    · exact absurd hother hphase
    · exact h.pointed tx' other hopen hother
  · intro tx' tx'' other other' hopen hopen' hother hother'
    rcases hstill tx' other hopen with rfl | hopen
    · exact absurd hother hphase
    · rcases hstill tx'' other' hopen' with rfl | hopen'
      · exact absurd hother' hphase
      · exact h.assetLocks tx' tx'' other other' hopen hopen' hother hother'

/-- A transaction locks its asset. -/
theorem Ranked.setPointed {system : System} (h : Ranked system) {tx : Nat}
    {transaction : OpenTransaction}
    (hconsistent : Consistent (system.setTransaction tx (some transaction)))
    (hok : PointedOk system.db transaction) (hphase : transaction.phase = .pointed)
    (hfree : system.AssetFree transaction.input.organizationId transaction.input.assetId) :
    Ranked (system.setTransaction tx (some transaction)) := by
  have hcases : ∀ tx' other,
      (system.setTransaction tx (some transaction)).transactions tx' = some other →
        tx' = tx ∧ other = transaction ∨ system.transactions tx' = some other := by
    intro tx' other hopen
    by_cases hsame : tx' = tx
    · rw [hsame, setTransaction_self] at hopen
      cases hopen
      exact .inl ⟨hsame, rfl⟩
    · rw [setTransaction_of_ne hsame] at hopen
      exact .inr hopen
  refine { hconsistent with
    assetIds := h.assetIds, sbomAssets := h.sbomAssets, pointers := h.pointers, unpointed := ?_,
    pointed := ?_, assetLocks := ?_ }
  · intro tx' other hopen hother
    rcases hcases tx' other hopen with ⟨-, rfl⟩ | hopen
    · exact absurd hphase hother
    · exact h.unpointed tx' other hopen hother
  · intro tx' other hopen hother
    rcases hcases tx' other hopen with ⟨-, rfl⟩ | hopen
    · exact hok
    · exact h.pointed tx' other hopen hother
  · intro tx' tx'' other other' hopen hopen' hother hother' horganization hasset
    rcases hcases tx' other hopen with ⟨rfl, rfl⟩ | hold
    · rcases hcases tx'' other' hopen' with ⟨rfl, rfl⟩ | hold'
      · rfl
      · exact absurd ⟨horganization.symm, hasset.symm⟩ (hfree tx'' other' hold' hother')
    · rcases hcases tx'' other' hopen' with ⟨rfl, rfl⟩ | hold'
      · exact absurd ⟨horganization, hasset⟩ (hfree tx' other hold hother)
      · exact h.assetLocks tx' tx'' other other' hold hold' hother hother' horganization hasset

/-! ## The commit of a transaction that holds its asset -/

theorem onAsset_key (writes : List Write) (row : AssetRow) :
    (writes.foldl Write.onAsset row).organizationId = row.organizationId ∧
      (writes.foldl Write.onAsset row).id = row.id := by
  induction writes generalizing row with
  | nil => exact ⟨rfl, rfl⟩
  | cons write rest ih =>
      have hwrite : (write.onAsset row).organizationId = row.organizationId ∧
          (write.onAsset row).id = row.id := by
        cases write with
        | replacePointer organizationId assetId candidateIngestionId completedAt =>
            change (if _ then _ else _ : AssetRow).organizationId = _ ∧
              (if _ then _ else _ : AssetRow).id = _
            split
            · exact ⟨rfl, rfl⟩
            · exact ⟨rfl, rfl⟩
        | _ => exact ⟨rfl, rfl⟩
      obtain ⟨horganization, hid⟩ := ih (write.onAsset row)
      exact ⟨horganization.trans hwrite.1, hid.trans hwrite.2⟩

theorem ranksKept_commit (db : Database) {input : PersistComponentGraphInput}
    {ingestion : SbomIngestionRow} {next : Session8IngestionSnapshot}
    {stored : List ComponentRow} {writes : List Write}
    (h : Completing input ingestion next stored writes) : RanksKept db (applyAll writes db) :=
  fun row _ => rankOf_eq (receivedAt_applyAll h.onSbom row) rfl rfl

section Commit

variable {db : Database} {transaction : OpenTransaction} {next : Session8IngestionSnapshot}

/-- The other assets are as they were. -/
theorem OpenOk.kept_commit (h : OpenOk db transaction) (hsound : Sound db)
    (hcompleting : Completing transaction.input transaction.ingestion next db.components
      transaction.writes)
    (hnext : next.state = .completed) {asset : AssetRow} (hmem : asset ∈ db.assets)
    (hother : ¬asset.isOf transaction.input) :
    Kept db (applyAll transaction.writes db) asset := by
  refine ⟨hmem, fun ingestion => ?_⟩
  rw [h.completedFor_commit hsound hcompleting hnext]
  exact ⟨fun hor => hor.resolve_right fun hnew => hother hnew.1, .inl⟩

/-- The asset of the transaction names the greatest ingestion with the new one. -/
theorem OpenOk.pointsToGreatest_commit (h : OpenOk db transaction) (hsound : Sound db)
    (hcompleting : Completing transaction.input transaction.ingestion next db.components
      transaction.writes)
    (hnext : next.state = .completed) (hpointed : PointedOk db transaction) {asset : AssetRow}
    (hmem : asset ∈ db.assets) (hof : asset.isOf transaction.input)
    (hgreatest : PointsToGreatest db asset) :
    PointsToGreatest (applyAll transaction.writes db)
      (transaction.writes.foldl Write.onAsset asset) := by
  have hranks := ranksKept_commit db hcompleting
  have hnew : (applyAll transaction.writes db).rankOf
      (transaction.ingestion.completeWith next) = db.rankOf transaction.ingestion :=
    rankOf_eq (receivedAt_applyAll hcompleting.onSbom transaction.ingestion) rfl rfl
  rcases hpointed.own asset hmem hof with ⟨hsame, current, hcurrent, hpointer, hle⟩ |
    ⟨hmoved, hle⟩
  · rw [hsame]
    refine .inr ⟨current, (h.completedFor_commit hsound hcompleting hnext).mpr (.inl hcurrent),
      hpointer, fun ingestion hcompleted => ?_⟩
    rw [hranks current hcurrent.member]
    rcases (h.completedFor_commit hsound hcompleting hnext).mp hcompleted with hold | ⟨-, rfl⟩
    · rcases hgreatest with ⟨hnone, -⟩ | ⟨named, hnamed, hpointer', hgreatest⟩
      · rw [hnone] at hpointer
        cases hpointer
      · have hid := Option.some_inj.mp (hpointer'.symm.trans hpointer)
        have heq := eq_of_id hsound.ids hnamed.member hcurrent.member hid
        rw [hranks ingestion hold.member, ← heq]
        exact hgreatest ingestion hold
    · rw [hnew]
      exact hle
  · rw [hmoved]
    refine .inr ⟨transaction.ingestion.completeWith next, ?_, congrArg some h.id.symm, ?_⟩
    · exact (h.completedFor_commit hsound hcompleting hnext).mpr (.inr ⟨hof, rfl⟩)
    · intro ingestion hcompleted
      rw [hnew]
      rcases (h.completedFor_commit hsound hcompleting hnext).mp hcompleted with hold | ⟨-, rfl⟩
      · have hold' : CompletedFor db asset ingestion :=
          ⟨hold.member, hold.organizationId, hold.assetId, hold.state⟩
        rw [hranks ingestion hold.member]
        exact hle ingestion hold'
      · rw [hnew]

end Commit

theorem Ranked.commit {system : System} (h : Ranked system) {tx : Nat}
    {transaction : OpenTransaction} (hopen : system.transactions tx = some transaction)
    (hphase : transaction.phase = .pointed) :
    Ranked ((system.withDb (applyAll transaction.writes system.db)).setTransaction tx none) := by
  have hok := h.opened tx transaction hopen
  have hwritten : transaction.phase ≠ .locked := by
    rw [hphase]
    exact nofun
  obtain ⟨next, hnext, hcompleting⟩ := hok.completing hwritten
  obtain ⟨found, hfound, hcompleted, -⟩ := completedSnapshot_eq_ok transaction.completedAt
    hok.valid hok.state hok.startedAt (h.sound.stages _ hok.member)
  rw [hnext] at hfound
  cases hfound
  have hpointed := h.pointed tx transaction hopen hphase
  have hstill : ∀ tx' other, ((system.withDb (applyAll transaction.writes
      system.db)).setTransaction tx none).transactions tx' = some other →
        tx' ≠ tx ∧ system.transactions tx' = some other := by
    intro tx' other hother
    by_cases hsame : tx' = tx
    · rw [hsame, setTransaction_self] at hother
      cases hother
    · rw [setTransaction_of_ne hsame] at hother
      exact ⟨hsame, hother⟩
  refine { h.toConsistent.commit hopen hwritten with
    assetIds := ?_, sbomAssets := ?_, pointers := ?_, unpointed := ?_, pointed := ?_,
    assetLocks := ?_ }
  · change ((applyAll transaction.writes system.db).assets.map (·.id)).Nodup
    rw [assets_applyAll, List.map_map]
    have hids : ((fun row : AssetRow => row.id) ∘ fun row =>
        transaction.writes.foldl Write.onAsset row) = fun row => row.id :=
      funext fun row => (onAsset_key transaction.writes row).2
    rw [hids]
    exact h.assetIds
  · intro sbom hsbom
    change sbom ∈ (applyAll transaction.writes system.db).sboms at hsbom
    rw [sboms_applyAll] at hsbom
    obtain ⟨old, hold, rfl⟩ := List.mem_map.mp hsbom
    obtain ⟨parserVersion, specificationVersion, hchanged⟩ := hcompleting.onSbom old
    obtain ⟨asset, hasset, horganization, hid⟩ := h.sbomAssets old hold
    obtain ⟨horganization', hid'⟩ := onAsset_key transaction.writes asset
    refine ⟨transaction.writes.foldl Write.onAsset asset, ?_, ?_, ?_⟩
    · change _ ∈ (applyAll transaction.writes system.db).assets
      rw [assets_applyAll]
      exact List.mem_map_of_mem hasset
    · rw [hchanged]
      exact horganization'.trans horganization
    · rw [hchanged]
      exact hid'.trans hid
  · intro asset hasset
    change asset ∈ (applyAll transaction.writes system.db).assets at hasset
    rw [assets_applyAll] at hasset
    obtain ⟨old, hold, rfl⟩ := List.mem_map.mp hasset
    by_cases hof : old.isOf transaction.input
    · exact hok.pointsToGreatest_commit h.sound hcompleting hcompleted hpointed hold hof
        (h.pointers old hold)
    · rw [hpointed.other old hof]
      exact (h.pointers old hold).kept
        (hok.kept_commit h.sound hcompleting hcompleted hold hof) (ranksKept_commit _ hcompleting)
  · intro tx' other hother hother'
    exact h.unpointed tx' other (hstill tx' other hother).2 hother'
  · intro tx' other hother hother'
    obtain ⟨hne, hold⟩ := hstill tx' other hother
    refine (h.pointed tx' other hold hother').kept (h.opened tx' other hold).member ?_
      (ranksKept_commit _ hcompleting)
    intro row hrow hof
    change row ∈ (applyAll transaction.writes system.db).assets at hrow
    rw [assets_applyAll] at hrow
    obtain ⟨old, holdRow, rfl⟩ := List.mem_map.mp hrow
    obtain ⟨horganization, hid⟩ := onAsset_key transaction.writes old
    have hnot : ¬old.isOf transaction.input := by
      intro hold'
      refine hne (h.assetLocks tx' tx other transaction hold hopen hother' hphase ?_ ?_)
      · exact hof.1.symm.trans (horganization.trans hold'.1)
      · exact hof.2.symm.trans (hid.trans hold'.2)
    rw [hpointed.other old hnot]
    exact hok.kept_commit h.sound hcompleting hcompleted holdRow hnot
  · intro tx' tx'' other other' hother hother'
    exact h.assetLocks tx' tx'' other other' (hstill tx' other hother).2
      (hstill tx'' other' hother').2

theorem ranked_step {system system' : System} {event : Event} (h : Ranked system)
    (hstep : System.Step system event system') : Ranked system' := by
  have hconsistent := consistent_step h.toConsistent hstep
  cases hstep with
  | createAsset row hnew hpointer =>
      refine h.withDb hconsistent ?_ ?_ ?_ fun _ _ => rfl
      · change ((system.db.assets ++ [row]).map (·.id)).Nodup
        rw [List.map_append, List.nodup_append]
        refine ⟨h.assetIds, List.nodup_singleton _, ?_⟩
        intro id hid other hother heq
        obtain ⟨asset, hasset, rfl⟩ := List.mem_map.mp hid
        rw [List.mem_singleton.mp hother] at heq
        exact hnew asset hasset heq
      · intro sbom hsbom
        obtain ⟨asset, hasset, hfields⟩ := h.sbomAssets sbom hsbom
        exact ⟨asset, List.mem_append_left _ hasset, hfields⟩
      · intro asset hasset
        rcases List.mem_append.mp hasset with hasset | hasset
        · exact .inl ⟨hasset, fun _ => completedFor_congr (by rfl)⟩
        · rw [List.mem_singleton.mp hasset]
          refine .inr ⟨hnew, hpointer, fun ingestion hcompleted => ?_⟩
          obtain ⟨other, hother, -, hid⟩ :=
            h.asset_of_ingestion hcompleted.member
          exact hnew other hother (hid.trans hcompleted.assetId)
  | receive row hnew hasset =>
      refine h.withDb hconsistent h.assetIds ?_ ?_ ?_
      · intro sbom hsbom
        rcases List.mem_append.mp hsbom with hsbom | hsbom
        · exact h.sbomAssets sbom hsbom
        · rw [List.mem_singleton.mp hsbom]
          exact hasset
      · exact fun asset hmem => .inl ⟨hmem, fun _ => completedFor_congr (by rfl)⟩
      · intro ingestion hmem
        exact rankOf_eq (receivedAt_append rfl (sbomOf_isSome h.sound hmem)) rfl rfl
  | accept row hnew hsnapshot hsbom =>
      refine h.withDb hconsistent h.assetIds h.sbomAssets ?_ fun _ _ => rfl
      exact fun asset hmem => .inl ⟨hmem, fun _ => completedFor_accept hsnapshot⟩
  | others jobs audits =>
      refine h.withDb hconsistent h.assetIds h.sbomAssets ?_ fun _ _ => rfl
      exact fun asset hmem => .inl ⟨hmem, fun _ => completedFor_congr (by rfl)⟩
  | prepare organizationId id expectedVersion command update hcommand hplan hversion =>
      exact { hconsistent with
        assetIds := h.assetIds, sbomAssets := h.sbomAssets, pointers := h.pointers,
        unpointed := h.unpointed, pointed := h.pointed, assetLocks := h.assetLocks }
  | update update hupdate hfree =>
      refine h.withDb hconsistent h.assetIds h.sbomAssets ?_ fun _ _ => rfl
      exact fun asset hmem => .inl
        ⟨hmem, fun _ => completedFor_update h.sound (h.updates update hupdate)⟩
  | invalid input hinvalid => exact h
  | refuse input error hfree hrefused => exact h
  | replay input hfree hreplayed => exact h
  | lock tx input ingestion hclosed hvalid hfree hadmitted =>
      exact h.setUnpointed hconsistent nofun fun _ => rfl
  | write tx transaction id completedAt writes hopen hphase hunused hrun hconflict =>
      refine h.setUnpointed hconsistent nofun ?_
      rcases (h.opened tx transaction hopen).writeGraph_run h.sound id completedAt with
        ⟨next, writes', -, hran, hwrote⟩ | ⟨writes', hthrown⟩
      · rw [hrun] at hran
        cases hran
        exact hwrote.onAsset
      · rw [hrun] at hthrown
        cases hthrown
  | writeError tx transaction id completedAt error writes hopen hphase hunused hrun =>
      exact absurd hrun (h.no_writeError hopen)
  | point tx transaction writes hopen hphase hfree hrun =>
      have hok := h.opened tx transaction hopen
      have hwritten : transaction.phase ≠ .locked := by
        rw [hphase]
        exact nofun
      have hunpointed := h.unpointed tx transaction hopen (by rw [hphase]; exact nofun)
      obtain ⟨writes', hran, hfinished⟩ := finishGraph_run transaction.completedAt
        transaction.input (applyAll transaction.writes system.db)
      rw [hrun] at hran
      cases hran
      exact h.setPointed hconsistent (pointedOk_of_finished hok h.sound hwritten h.assetIds
        h.pointers hunpointed hfinished) rfl hfree
  | pointError tx transaction error writes hopen hphase hfree hrun =>
      exact absurd hrun no_pointError
  | commit tx transaction hopen hphase => exact h.commit hopen hphase
  | rollback tx => exact h.close tx

/-- Every system that runs reach has its pointers right. -/
theorem ranked_of_reachable {system : System} (h : system.Reachable) : Ranked system := by
  induction h with
  | initial system hinitial => exact Ranked.initial hinitial
  | step system event system' _ hstep ih => exact ranked_step ih hstep

/-- A call for an ingestion that is completed returns without touching a table. -/
theorem db_of_completed {system system' : System} {input : PersistComponentGraphInput}
    {result : Except SbomError Unit} (h : Consistent system)
    {ingestion : SbomIngestionRow} (hmem : ingestion ∈ system.db.ingestions)
    (hid : ingestion.id = input.sbomIngestionId) (hstate : ingestion.snapshot.state = .completed)
    (hstep : System.Step system (.returned input result) system') : system'.db = system.db := by
  cases hstep with
  | invalid hinvalid => rfl
  | refuse error hfree hrefused => rfl
  | replay hfree hreplayed => rfl
  | writeError tx transaction id completedAt error writes hopen hphase hunused hrun =>
      exact absurd hrun (h.no_writeError hopen)
  | pointError tx transaction error writes hopen hphase hfree hrun =>
      exact absurd hrun no_pointError
  | commit tx transaction hopen hphase =>
      have hok := h.opened tx transaction hopen
      have hsame := eq_of_id h.sound.ids hmem hok.member (hid.trans hok.id.symm)
      rw [hsame, hok.state] at hstate
      cases hstate

/-- In every system that runs reach, once an ingestion of an asset is completed, the
pointer of the asset names the completed ingestion that is greatest by the receipt of its
SBOM, its creation and its id; and a call for an ingestion that is already completed moves
no pointer. -/
theorem pointer_names_greatest_completed {system : System} (h : system.Reachable) :
    (∀ asset ∈ system.db.assets, ∀ ingestion, CompletedFor system.db asset ingestion →
      ∃ current, CompletedFor system.db asset current ∧
        asset.lastSuccessfulSbomIngestionId = some current.id ∧
          ∀ other, CompletedFor system.db asset other → other ≠ current →
            system.db.rankOf other < system.db.rankOf current) ∧
      ∀ (input : PersistComponentGraphInput) (result : Except SbomError Unit)
        (system' : System), ∀ ingestion ∈ system.db.ingestions,
          ingestion.id = input.sbomIngestionId → ingestion.snapshot.state = .completed →
            System.Step system (.returned input result) system' →
              system'.db.assets = system.db.assets := by
  have hranked := ranked_of_reachable h
  refine ⟨fun asset hasset ingestion hcompleted => ?_, ?_⟩
  · rcases hranked.pointers asset hasset with ⟨-, hempty⟩ | ⟨current, hcurrent, hnamed, hle⟩
    · exact absurd hcompleted (hempty ingestion)
    · refine ⟨current, hcurrent, hnamed, fun other hother hne => ?_⟩
      refine lt_of_le_of_ne (hle other hother) fun heq => hne ?_
      have hid : other.id = current.id :=
        congrArg (fun rank => (ofLex (ofLex rank).2).2) heq
      exact eq_of_id hranked.sound.ids hother.member hcurrent.member hid
  · intro input result system' ingestion hmem hid hstate hstep
    exact congrArg Database.assets
      (db_of_completed hranked.toConsistent hmem hid hstate hstep)

/-- The ingestion that is completed last is not the greatest, and the pointer stays. -/
theorem pointer_names_greatest_of_two_uploads :
    ∃ system : System, system.Reachable ∧
      (∃ asset ∈ system.db.assets, asset.lastSuccessfulSbomIngestionId = some 22) ∧
        ∀ asset ∈ system.db.assets, ∀ ingestion, CompletedFor system.db asset ingestion →
          ∃ current, CompletedFor system.db asset current ∧
            asset.lastSuccessfulSbomIngestionId = some current.id ∧
              ∀ other, CompletedFor system.db asset other → other ≠ current →
                system.db.rankOf other < system.db.rankOf current := by
  obtain ⟨system, hreachable, hpointer⟩ :=
    @exampleActions_attained
      (fun db => ∃ asset ∈ db.assets, asset.lastSuccessfulSbomIngestionId = some 22) _
      (by decide +kernel)
  exact ⟨system, hreachable, hpointer, (pointer_names_greatest_completed hreachable).1⟩

end PatchPilot.Sbom
