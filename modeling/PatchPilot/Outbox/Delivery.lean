import PatchPilot.Foundation.Ownership
import PatchPilot.Outbox.Relay

set_option autoImplicit false

/-!
# Outbox: what relays may rely on

A claim is known by its event and its attempt, and it belongs to the relay that made it.  As
long as it has not expired, the event stays claimed under it or is processed, if no other relay
marks the event as failed.
-/

namespace PatchPilot.Outbox

open PatchPilot.Foundation

/-! ## The contract -/

/-- A status that does not change any more. -/
def OutboxEventRow.Final (row : OutboxEventRow) : Prop :=
  row.status = .processed ∨ row.status = .deadLettered

/-- The deterministic job id of an event. -/
def OutboxEventRow.jobId (row : OutboxEventRow) : JsString :=
  deterministicOutboxQueueJobId row.eventType row.id

/-- The rows between calls. -/
structure RelayState.Good (s : RelayState) : Prop where
  ids : (s.events.map (·.id)).Nodup
  accepted : ∀ row ∈ s.events, row.status = .processed → row.jobId ∈ s.accepted
  jobs : (s.jobs.map (·.outboxEventId)).Nodup
  jobsProcessed : ∀ job ∈ s.jobs, ∃ row ∈ s.events,
    row.id = job.outboxEventId ∧ row.status = .processed
  claims : s.claims.Nodup
  attempts : ∀ claim ∈ s.claims, ∃ row ∈ s.events, row.id = claim.1 ∧ claim.2 ≤ row.attemptCount
  marks : ∀ mark ∈ s.marks, mark.time ≤ mark.claim.leaseExpiresAt →
    mark.found = some .claimed ∨ mark.found = some .processed
  held : ∀ jobId ∈ s.held, jobId ∈ s.accepted

/-- How a row may change. -/
structure OutboxEventRow.Follows (row row' : OutboxEventRow) : Prop where
  id : row'.id = row.id
  organizationId : row'.organizationId = row.organizationId
  eventType : row'.eventType = row.eventType
  attemptCount : row.attemptCount ≤ row'.attemptCount
  final : row.Final → row' = row

theorem OutboxEventRow.Follows.refl (row : OutboxEventRow) : row.Follows row :=
  ⟨rfl, rfl, rfl, Nat.le_refl _, fun _ => rfl⟩

theorem OutboxEventRow.Follows.trans {row row' row'' : OutboxEventRow} (h : row.Follows row')
    (h' : row'.Follows row'') : row.Follows row'' where
  id := h'.id.trans h.id
  organizationId := h'.organizationId.trans h.organizationId
  eventType := h'.eventType.trans h.eventType
  attemptCount := Nat.le_trans h.attemptCount h'.attemptCount
  final := fun hfinal => by
    have hsame := h.final hfinal
    subst hsame
    exact h'.final hfinal

/-- An event is claimed under an attempt until a time, or it is processed. -/
def OutboxEventRow.Kept (row : OutboxEventRow) (attempt : Nat) (lease : Instant) : Prop :=
  row.status = .processed ∨
    (row.status = .claimed ∧ row.attemptCount = attempt ∧ row.leaseExpiresAt = some lease)

/-- How the state may change for the owner of claims. -/
structure Onward (owned : List Nat) (s s' : RelayState) : Prop where
  now : s.now ≤ s'.now
  accepted : ∀ id ∈ s.accepted, id ∈ s'.accepted
  claims : s.claims <+: s'.claims
  rows : ∀ row ∈ s.events, ∃ row' ∈ s'.events, row.Follows row'
  owned : ∀ number ∈ owned, ∀ id attempt, s.claims[number]? = some (id, attempt) →
    ∀ row ∈ s.events, row.id = id → ∀ lease, row.Kept attempt lease → s'.now ≤ lease →
      ∃ row' ∈ s'.events, row'.id = id ∧ row'.Kept attempt lease

theorem Onward.refl (owned : List Nat) (s : RelayState) : Onward owned s s where
  now := Int.le_refl _
  accepted := fun _ h => h
  claims := List.prefix_rfl
  rows := fun row hrow => ⟨row, hrow, .refl row⟩
  owned := fun _ _ _ _ _ row hrow hid _ hkept _ => ⟨row, hrow, hid, hkept⟩

theorem getElem?_later {α : Type} {l l' : List α} (h : l <+: l') {index : Nat} {a : α}
    (hget : l[index]? = some a) : l'[index]? = some a := by
  obtain ⟨rest, rfl⟩ := h
  obtain ⟨hlt, -⟩ := List.getElem?_eq_some_iff.mp hget
  rw [List.getElem?_append_left hlt]
  exact hget

theorem Onward.trans {owned : List Nat} {s s' s'' : RelayState} (h : Onward owned s s')
    (h' : Onward owned s' s'') : Onward owned s s'' where
  now := Int.le_trans h.now h'.now
  accepted := fun id hid => h'.accepted id (h.accepted id hid)
  claims := h.claims.trans h'.claims
  rows := fun row hrow => by
    obtain ⟨row', hrow', hfollows⟩ := h.rows row hrow
    obtain ⟨row'', hrow'', hfollows'⟩ := h'.rows row' hrow'
    exact ⟨row'', hrow'', hfollows.trans hfollows'⟩
  owned := fun number hnumber id attempt hclaim row hrow hid lease hkept hnow => by
    obtain ⟨row', hrow', hid', hkept'⟩ := h.owned number hnumber id attempt hclaim row hrow hid
      lease hkept (Int.le_trans h'.now hnow)
    exact h'.owned number hnumber id attempt (getElem?_later h.claims hclaim) row' hrow' hid'
      lease hkept' hnow

theorem Onward.fewer {owned : List Nat} {s s' : RelayState} (h : Onward owned s s') :
    Onward [] s s' where
  now := h.now
  accepted := h.accepted
  claims := h.claims
  rows := h.rows
  owned := nofun

/-- Claims belong to the relays that made them. -/
def relayOwnership : Ownership RelayState where
  Inv := RelayState.Good
  issued := fun s => s.claims.length
  Rely := Onward
  refl := Onward.refl
  trans := Onward.trans
  fewer := Onward.fewer
  issued_le := fun h => h.claims.length_le

/-! ## The condition -/

/-- No other relay has the event of a claim, or its claim has expired. -/
def ClaimedOutboxEvent.NotTakenOver (claim : ClaimedOutboxEvent) (s : RelayState) : Prop :=
  ∀ row ∈ s.events, row.isOf claim = true → row.status = .claimed →
    row.attemptCount ≠ claim.attemptCount →
      row.leaseExpiresAt.any (fun lease => lease < s.now) = true

instance (claim : ClaimedOutboxEvent) (s : RelayState) : Decidable (claim.NotTakenOver s) :=
  inferInstanceAs (Decidable (∀ row ∈ s.events, _))

/-- A failure is not marked on an event that another relay has claimed in the meantime. -/
def MarksOwnClaim : RelayOp → RelayState → Prop
  | .markRetryable claim _, s => claim.NotTakenOver s
  | .markDeadLetter claim, s => claim.NotTakenOver s
  | _, _ => True

instance decidableMarksOwnClaim : (op : RelayOp) → (s : RelayState) → Decidable (MarksOwnClaim op s)
  | .markRetryable claim _, s => inferInstanceAs (Decidable (claim.NotTakenOver s))
  | .markDeadLetter claim, s => inferInstanceAs (Decidable (claim.NotTakenOver s))
  | .now, _ => inferInstanceAs (Decidable True)
  | .random, _ => inferInstanceAs (Decidable True)
  | .claimDueBatch _ _ _, _ => inferInstanceAs (Decidable True)
  | .listProcessedAwaitingBackgroundJob _, _ => inferInstanceAs (Decidable True)
  | .publish _, _ => inferInstanceAs (Decidable True)
  | .markProcessed _ _, _ => inferInstanceAs (Decidable True)
  | .loadEvent _, _ => inferInstanceAs (Decidable True)
  | .createBackgroundJob _, _ => inferInstanceAs (Decidable True)
  | .findBackgroundJob _, _ => inferInstanceAs (Decidable True)

/-! ## Steps -/

section

variable {s s' : RelayState} {owned : List Nat} {number : Nat} {event : ClaimedOutboxEvent}

/-- A row is known by its id. -/
theorem eq_of_id (h : s.Good) {row row' : OutboxEventRow} (hrow : row ∈ s.events)
    (hrow' : row' ∈ s.events) (hid : row.id = row'.id) : row = row' :=
  List.inj_on_of_nodup_map h.ids hrow hrow' hid

/-- Rows that change as they may. -/
theorem onward_update {update : OutboxEventRow → OutboxEventRow} {more : List (JsString × Nat)}
    (hrows : ∀ row ∈ s.events, row.Follows (update row))
    (howned : ∀ number ∈ owned, ∀ row ∈ s.events,
      ∀ lease attempt, s.claims[number]? = some (row.id, attempt) → row.Kept attempt lease →
        s.now ≤ lease → (update row).Kept attempt lease) :
    Onward owned s
      { s with events := s.events.map update, claims := s.claims ++ more } where
  now := Int.le_refl _
  accepted := fun _ h => h
  claims := List.prefix_append _ _
  rows := fun row hrow => ⟨update row, List.mem_map_of_mem hrow, hrows row hrow⟩
  owned := fun number hnumber id attempt hclaim row hrow hid lease hkept hnow => by
    subst hid
    exact ⟨update row, List.mem_map_of_mem hrow, (hrows row hrow).id,
      howned number hnumber row hrow lease attempt hclaim hkept hnow⟩

/-- What is kept of the rows when they change as they may, and no more claims are made. -/
theorem good_update (h : s.Good) {update : OutboxEventRow → OutboxEventRow}
    (hrows : ∀ row ∈ s.events, row.Follows (update row))
    (haccepted : ∀ row ∈ s.events, (update row).status = .processed →
      row.status = .processed ∨ row.jobId ∈ s.accepted) :
    RelayState.Good { s with events := s.events.map update } where
  ids := by
    have hsame : (s.events.map update).map (·.id) = s.events.map (·.id) := by
      rw [List.map_map]
      exact List.map_congr_left fun row hrow => (hrows row hrow).id
    rw [hsame]
    exact h.ids
  accepted := fun row' hrow' hprocessed => by
    obtain ⟨row, hrow, rfl⟩ := List.mem_map.mp hrow'
    have hjobId : (update row).jobId = row.jobId := by
      unfold OutboxEventRow.jobId
      rw [(hrows row hrow).id, (hrows row hrow).eventType]
    rw [hjobId]
    rcases haccepted row hrow hprocessed with hold | hnew
    · exact h.accepted row hrow hold
    · exact hnew
  jobs := h.jobs
  jobsProcessed := fun job hjob => by
    obtain ⟨row, hrow, hid, hprocessed⟩ := h.jobsProcessed job hjob
    refine ⟨update row, List.mem_map_of_mem hrow, (hrows row hrow).id.trans hid, ?_⟩
    rw [(hrows row hrow).final (.inl hprocessed)]
    exact hprocessed
  claims := h.claims
  attempts := fun claim hclaim => by
    obtain ⟨row, hrow, hid, hle⟩ := h.attempts claim hclaim
    exact ⟨update row, List.mem_map_of_mem hrow, (hrows row hrow).id.trans hid,
      Nat.le_trans hle (hrows row hrow).attemptCount⟩
  marks := h.marks
  held := h.held

/-- A claim that a relay holds. -/
structure Holding (number : Nat) (event : ClaimedOutboxEvent) (s : RelayState) : Prop where
  claim : s.claims[number]? = some (event.id, event.attemptCount)
  known : ∃ row ∈ s.events, row.isOf event = true ∧ row.eventType = event.eventType
  current : s.now ≤ event.leaseExpiresAt → ∃ row ∈ s.events, row.id = event.id ∧
    row.Kept event.attemptCount event.leaseExpiresAt

theorem isOf_of_follows {row row' : OutboxEventRow} (h : row.Follows row')
    (hof : row.isOf event = true) : row'.isOf event = true := by
  unfold OutboxEventRow.isOf at hof ⊢
  rw [h.id, h.organizationId]
  exact hof

theorem id_of_isOf {row : OutboxEventRow} (h : row.isOf event = true) : row.id = event.id := by
  unfold OutboxEventRow.isOf at h
  exact of_decide_eq_true (Bool.and_eq_true_iff.mp h).1

theorem Holding.later (h : Holding number event s) (honward : Onward owned s s')
    (hnumber : number ∈ owned) : Holding number event s' where
  claim := getElem?_later honward.claims h.claim
  known := by
    obtain ⟨row, hrow, hof, htype⟩ := h.known
    obtain ⟨row', hrow', hfollows⟩ := honward.rows row hrow
    exact ⟨row', hrow', isOf_of_follows hfollows hof, hfollows.eventType.trans htype⟩
  current := fun hnow => by
    obtain ⟨row, hrow, hid, hkept⟩ := h.current (Int.le_trans honward.now hnow)
    exact honward.owned number hnumber event.id event.attemptCount h.claim row hrow hid _ hkept hnow

/-- The row of a claim that is held. -/
theorem Holding.unique (h : Holding number event s) (hgood : s.Good) {row : OutboxEventRow}
    (hrow : row ∈ s.events) (hid : row.id = event.id) :
    row.isOf event = true ∧ row.eventType = event.eventType := by
  obtain ⟨known, hknown, hof, htype⟩ := h.known
  have heq := eq_of_id hgood hrow hknown (hid.trans (id_of_isOf hof).symm)
  rw [heq]
  exact ⟨hof, htype⟩

/-! ### Marks -/

/-- What a mark does to a row. -/
def markRow (claim : ClaimedOutboxEvent) (statuses : List OutboxEventStatus)
    (set : OutboxEventRow → OutboxEventRow) (row : OutboxEventRow) : OutboxEventRow :=
  if row.isOf claim ∧ row.status ∈ statuses then set row else row

/-- A mark changes no row that is final. -/
theorem follows_markRow {claim : ClaimedOutboxEvent} {statuses : List OutboxEventStatus}
    {set : OutboxEventRow → OutboxEventRow} (hprocessed : .processed ∉ statuses)
    (hdead : .deadLettered ∉ statuses)
    (hset : ∀ row, (set row).id = row.id ∧ (set row).organizationId = row.organizationId ∧
      (set row).eventType = row.eventType ∧ (set row).attemptCount = row.attemptCount)
    (row : OutboxEventRow) : row.Follows (markRow claim statuses set row) := by
  unfold markRow
  split
  · rename_i hmarked
    obtain ⟨hid, horganization, htype, hattempt⟩ := hset row
    refine ⟨hid, horganization, htype, Nat.le_of_eq hattempt.symm, ?_⟩
    rintro (hfinal | hfinal)
    · exact absurd (hfinal ▸ hmarked.2) hprocessed
    · exact absurd (hfinal ▸ hmarked.2) hdead
  · exact .refl row

/-- A mark as processed keeps every claim, or processes its event. -/
theorem onward_markProcessed {acceptedAt : Instant} :
    Onward owned s (s.mark event [.claimed] (·.process acceptedAt)).2 := by
  have h := @onward_update s owned (markRow event [.claimed] (·.process acceptedAt)) []
    (fun row _ => @follows_markRow event [.claimed] (·.process acceptedAt) (by decide) (by decide)
      (fun _ => ⟨rfl, rfl, rfl, rfl⟩) row)
    (fun number _ row _ lease attempt _ hkept _ => ?_)
  · rw [List.append_nil] at h
    exact h
  · unfold markRow
    split
    · exact .inl rfl
    · exact hkept

/-- A failure that is marked on an event of one's own leaves the claims of others alone. -/
theorem onward_markFailed {statuses : List OutboxEventStatus}
    {set : OutboxEventRow → OutboxEventRow} (hgood : s.Good)
    (hclaim : s.claims[number]? = some (event.id, event.attemptCount))
    (hother : number ∉ owned) (hnotTaken : event.NotTakenOver s)
    (hprocessed : .processed ∉ statuses) (hdead : .deadLettered ∉ statuses)
    (hset : ∀ row, (set row).id = row.id ∧ (set row).organizationId = row.organizationId ∧
      (set row).eventType = row.eventType ∧ (set row).attemptCount = row.attemptCount) :
    Onward owned s (s.mark event statuses set).2 := by
  have h := @onward_update s owned (markRow event statuses set) []
    (fun row _ => follows_markRow hprocessed hdead hset row)
    (fun other hmem row hrow lease attempt hmine hkept hnow => ?_)
  · rw [List.append_nil] at h
    exact h
  · unfold markRow
    split
    · rename_i hmarked
      rcases hkept with hprocessed' | ⟨hclaimed, rfl, hlease⟩
      · exact absurd (hprocessed' ▸ hmarked.2) hprocessed
      · exfalso
        by_cases hattempt : row.attemptCount = event.attemptCount
        · -- the claim is the one that is marked
          rw [hattempt, id_of_isOf hmarked.1] at hmine
          obtain ⟨hlt, hget⟩ := List.getElem?_eq_some_iff.mp hmine
          obtain ⟨hlt', hget'⟩ := List.getElem?_eq_some_iff.mp hclaim
          have hsame := hgood.claims.getElem_inj_iff.mp (hget.trans hget'.symm)
          exact hother (hsame ▸ hmem)
        · have hexpired := hnotTaken row hrow hmarked.1 hclaimed hattempt
          rw [hlease, Option.any_some, decide_eq_true_eq] at hexpired
          exact absurd hnow (Int.not_le.mpr hexpired)
    · exact hkept

theorem good_mark (hgood : s.Good) {statuses : List OutboxEventStatus}
    {set : OutboxEventRow → OutboxEventRow} (hprocessed : .processed ∉ statuses)
    (hdead : .deadLettered ∉ statuses)
    (hset : ∀ row, (set row).id = row.id ∧ (set row).organizationId = row.organizationId ∧
      (set row).eventType = row.eventType ∧ (set row).attemptCount = row.attemptCount)
    (haccepted : ∀ row ∈ s.events, row.isOf event = true → (set row).status = .processed →
      row.jobId ∈ s.accepted) : (s.mark event statuses set).2.Good := by
  refine @good_update s hgood (markRow event statuses set)
    (fun row _ => follows_markRow hprocessed hdead hset row) fun row hrow hmarked => ?_
  unfold markRow at hmarked
  split at hmarked
  · rename_i hof
    exact .inr (haccepted row hrow hof.1 hmarked)
  · exact .inl hmarked

/-- What a mark as processed finds. -/
theorem good_recordMark (hgood : s.Good) (hholding : Holding number event s) :
    (s.recordMark event).Good := by
  refine ⟨hgood.ids, hgood.accepted, hgood.jobs, hgood.jobsProcessed, hgood.claims,
    hgood.attempts, fun mark hmark htime => ?_, hgood.held⟩
  rcases List.mem_append.mp hmark with hold | hnew
  · exact hgood.marks mark hold htime
  · cases List.mem_singleton.mp hnew
    obtain ⟨row, hrow, hid, hkept⟩ := hholding.current htime
    have hof := (hholding.unique hgood hrow hid).1
    obtain ⟨found, hfound⟩ : ∃ found, s.events.find? (·.isOf event) = some found :=
      Option.isSome_iff_exists.mp (List.find?_isSome.mpr ⟨row, hrow, hof⟩)
    have hsame : found = row := by
      refine eq_of_id hgood (List.mem_of_find?_eq_some hfound) hrow ?_
      have hof' : found.isOf event = true := by simpa using List.find?_some hfound
      rw [hid, id_of_isOf hof']
    dsimp only
    rw [hfound, Option.map_some, hsame]
    rcases hkept with hprocessed | ⟨hclaimed, -, -⟩
    · exact .inr (congrArg some hprocessed)
    · exact .inl (congrArg some hclaimed)

/-! ### Publications and background jobs -/

theorem onward_publish (job : OutboxQueueJob) (choice : RelayChoice) :
    Onward owned s (s.publish job choice).2 := by
  unfold RelayState.publish
  split
  · exact .refl owned s
  · split
    · exact ⟨Int.le_refl _, fun _ h => List.mem_cons_of_mem _ h, List.prefix_rfl,
        (Onward.refl owned s).rows, (Onward.refl owned s).owned⟩
    · exact .refl owned s

theorem good_publish (hgood : s.Good) (job : OutboxQueueJob) (choice : RelayChoice) :
    (s.publish job choice).2.Good := by
  unfold RelayState.publish
  split
  · exact hgood
  · split
    · refine ⟨hgood.ids, fun row hrow h => List.mem_cons_of_mem _ (hgood.accepted row hrow h),
        hgood.jobs, hgood.jobsProcessed, hgood.claims, hgood.attempts, hgood.marks,
        fun jobId hjobId => ?_⟩
      rcases List.mem_cons.mp hjobId with rfl | hold
      · exact List.mem_cons_self
      · exact List.mem_cons_of_mem _ (hgood.held jobId hold)
    · exact hgood

/-- The jobs that the queue holds are among those that it has accepted. -/
theorem accepted_publish (hgood : s.Good) {job : OutboxQueueJob}
    {choice : RelayChoice} {duplicate : Bool} (h : (s.publish job choice).1 = .ok duplicate) :
    job.jobId ∈ (s.publish job choice).2.accepted := by
  unfold RelayState.publish at h ⊢
  split at h
  · rename_i hmem
    rw [if_pos hmem]
    exact hgood.held _ hmem
  · rename_i hmem
    rw [if_neg hmem]
    split at h
    · rename_i hstores
      rw [if_pos hstores]
      exact List.mem_cons_self
    · cases h

theorem onward_createJob (row : BackgroundJobRow) : Onward owned s (s.createJob row).2 := by
  unfold RelayState.createJob
  split
  · exact .refl owned s
  · exact ⟨Int.le_refl _, fun _ h => h, List.prefix_rfl, (Onward.refl owned s).rows,
      (Onward.refl owned s).owned⟩

/-- An event was processed. -/
def Processed (id : JsString) (s : RelayState) : Prop :=
  ∃ row ∈ s.events, row.id = id ∧ row.status = .processed

theorem Processed.later {id : JsString} (h : Processed id s) (honward : Onward owned s s') :
    Processed id s' := by
  obtain ⟨row, hrow, hid, hprocessed⟩ := h
  obtain ⟨row', hrow', hfollows⟩ := honward.rows row hrow
  have hsame := hfollows.final (.inl hprocessed)
  subst hsame
  exact ⟨row', hrow', hid, hprocessed⟩

theorem good_createJob (hgood : s.Good) {row : BackgroundJobRow}
    (hprocessed : Processed row.outboxEventId s) : (s.createJob row).2.Good := by
  unfold RelayState.createJob
  split
  · exact hgood
  · rename_i hnone
    refine ⟨hgood.ids, hgood.accepted, ?_, fun job hjob => ?_, hgood.claims, hgood.attempts,
      hgood.marks, hgood.held⟩
    · rw [List.map_append, List.nodup_append]
      refine ⟨hgood.jobs, List.nodup_singleton _, fun id hold other hnew => ?_⟩
      obtain ⟨job, hjob, rfl⟩ := List.mem_map.mp hold
      rw [List.mem_singleton.mp hnew]
      exact fun heq => hnone ⟨job, hjob, heq⟩
    · rcases List.mem_append.mp hjob with hold | hnew
      · exact hgood.jobsProcessed job hold
      · rw [List.mem_singleton.mp hnew]
        exact hprocessed

/-! ### Claims -/

/-- The rows that a claim selects. -/
theorem mem_dueRows {locked : List JsString} {limit : Nat} {now : Instant} {row : OutboxEventRow}
    (h : row ∈ s.dueRows locked limit now) :
    row ∈ s.events ∧ (row.status = .pending ∨ row.status = .claimed ∧
      row.leaseExpiresAt.any (fun lease => lease < now) = true) := by
  rcases List.mem_append.mp h with hpending | hexpired
  · have hmem := (sortBy_perm _ _).mem_iff.mp (List.mem_of_mem_take hpending)
    obtain ⟨hrow, hdue⟩ := List.mem_filter.mp hmem
    exact ⟨hrow, .inl (of_decide_eq_true hdue).1⟩
  · have hmem := (sortBy_perm _ _).mem_iff.mp (List.mem_of_mem_take hexpired)
    obtain ⟨hrow, hdue⟩ := List.mem_filter.mp hmem
    have hdue' := of_decide_eq_true hdue
    exact ⟨hrow, .inr ⟨hdue'.1, by simpa using hdue'.2.1⟩⟩

/-- A claim selects every row once. -/
theorem nodup_dueRows (hgood : s.Good) (locked : List JsString) (limit : Nat) (now : Instant) :
    ((s.dueRows locked limit now).map (·.id)).Nodup := by
  have hevents : s.events.Nodup := hgood.ids.of_map _
  have hselected : ∀ (p : OutboxEventRow → Bool) (count : Nat),
      ((sortBy OutboxEventRow.compareDue (s.events.filter p)).take count).Nodup := by
    intro p count
    refine List.Nodup.sublist (List.take_sublist _ _) ?_
    exact (sortBy_perm _ _).nodup_iff.mpr (hevents.filter p)
  have hnodup : (s.dueRows locked limit now).Nodup := by
    refine List.nodup_append.mpr ⟨hselected _ _, hselected _ _, fun row hrow row' hrow' heq => ?_⟩
    have hpending := (List.mem_filter.mp
      ((sortBy_perm _ _).mem_iff.mp (List.mem_of_mem_take hrow))).2
    have hclaimed := (List.mem_filter.mp
      ((sortBy_perm _ _).mem_iff.mp (List.mem_of_mem_take hrow'))).2
    have hpending' := (of_decide_eq_true hpending).1
    have hclaimed' := (of_decide_eq_true hclaimed).1
    rw [heq, hclaimed'] at hpending'
    cases hpending'
  exact List.Nodup.map_on (fun row hrow row' hrow' heq =>
    eq_of_id hgood (mem_dueRows hrow).1 (mem_dueRows hrow').1 heq) hnodup

/-- What a claim does to a row. -/
def claimRow (ids : List JsString) (now leaseExpiresAt : Instant) (row : OutboxEventRow) :
    OutboxEventRow :=
  if row.id ∈ ids then row.claim now leaseExpiresAt else row

section

variable {locked : List JsString} {limit now leaseExpiresAt : Int}

/-- A row that is claimed is one that was selected. -/
theorem due_of_mem_ids (hgood : s.Good) {count : Nat} {row : OutboxEventRow} (hrow : row ∈ s.events)
    (hid : row.id ∈ (s.dueRows locked count now).map (·.id)) :
    row ∈ s.dueRows locked count now := by
  obtain ⟨due, hdue, heq⟩ := List.mem_map.mp hid
  rwa [← eq_of_id hgood (mem_dueRows hdue).1 hrow heq]

theorem follows_claimRow (hgood : s.Good) {count : Nat} {row : OutboxEventRow}
    (hrow : row ∈ s.events) :
    row.Follows (claimRow ((s.dueRows locked count now).map (·.id)) now leaseExpiresAt row) := by
  unfold claimRow
  split
  · rename_i hid
    refine ⟨rfl, rfl, rfl, Nat.le_succ _, fun hfinal => ?_⟩
    have hstatus := (mem_dueRows (due_of_mem_ids hgood hrow hid)).2
    rcases hfinal with hfinal | hfinal <;> rw [hfinal] at hstatus <;> simp at hstatus
  · exact .refl row

/-- A claim takes no event away whose lease has not expired. -/
theorem onward_claimDueBatch (hgood : s.Good) (hnow : now ≤ s.now) :
    Onward owned s (s.claimDueBatch locked limit now leaseExpiresAt).2 := by
  refine @onward_update s owned (claimRow _ now leaseExpiresAt) _
    (fun row hrow => follows_claimRow hgood hrow)
    fun number _ row hrow lease attempt _ hkept hlease => ?_
  unfold claimRow
  split
  · rename_i hid
    have hstatus := (mem_dueRows (due_of_mem_ids hgood hrow hid)).2
    exfalso
    rcases hkept with hprocessed | ⟨hclaimed, -, hexpires⟩
    · rw [hprocessed] at hstatus
      simp at hstatus
    · rw [hclaimed, hexpires] at hstatus
      rcases hstatus with hpending | ⟨-, hexpired⟩
      · cases hpending
      · rw [Option.any_some, decide_eq_true_eq] at hexpired
        exact absurd (Int.le_trans hnow hlease) (Int.not_le.mpr hexpired)
  · exact hkept

theorem good_claimDueBatch (hgood : s.Good) :
    (s.claimDueBatch locked limit now leaseExpiresAt).2.Good := by
  have hrows := @good_update s hgood (claimRow
    ((s.dueRows locked (boundClaimLimit limit) now).map (·.id)) now leaseExpiresAt)
    (fun row hrow => follows_claimRow hgood hrow) fun row hrow hprocessed => ?_
  · have hnew : ∀ claim ∈ ((s.dueRows locked (boundClaimLimit limit) now).map
        (·.claimedAs now leaseExpiresAt)).map fun event => (event.id, event.attemptCount),
        ∃ row ∈ s.dueRows locked (boundClaimLimit limit) now,
          claim = (row.id, row.attemptCount + 1) := by
      intro claim hclaim
      rw [List.map_map] at hclaim
      obtain ⟨row, hrow, rfl⟩ := List.mem_map.mp hclaim
      exact ⟨row, hrow, rfl⟩
    refine ⟨hrows.ids, hrows.accepted, hrows.jobs, hrows.jobsProcessed, ?_, fun claim hclaim => ?_,
      hrows.marks, hrows.held⟩
    · refine List.nodup_append.mpr ⟨hgood.claims, ?_, fun claim hold claim' hclaim heq => ?_⟩
      · rw [List.map_map]
        refine List.Nodup.of_map Prod.fst ?_
        rw [List.map_map]
        exact nodup_dueRows hgood locked _ now
      · obtain ⟨row, hrow, rfl⟩ := hnew claim' hclaim
        subst heq
        obtain ⟨other, hother, hid, hle⟩ := hgood.attempts _ hold
        have hsame := eq_of_id hgood hother (mem_dueRows hrow).1 hid
        subst hsame
        dsimp only at hle
        omega
    · rcases List.mem_append.mp hclaim with hold | hclaim
      · exact hrows.attempts claim hold
      · obtain ⟨row, hrow, rfl⟩ := hnew claim hclaim
        refine ⟨_, List.mem_map_of_mem (mem_dueRows hrow).1, ?_, ?_⟩
        · dsimp only
          split <;> rfl
        · rw [if_pos (List.mem_map_of_mem hrow)]
          exact Nat.le_refl _
  · unfold claimRow at hprocessed
    split at hprocessed
    · cases hprocessed
    · exact .inl hprocessed

/-- The claims that are returned are held. -/
theorem holding_claimDueBatch {index : Nat}
    (h : (s.claimDueBatch locked limit now leaseExpiresAt).1[index]? = some event) :
    Holding (s.claims.length + index) event
      (s.claimDueBatch locked limit now leaseExpiresAt).2 := by
  have hmapped : ((s.dueRows locked (boundClaimLimit limit) now).map
      (·.claimedAs now leaseExpiresAt))[index]? = some event := h
  have hclaim : (s.claims ++ ((s.dueRows locked (boundClaimLimit limit) now).map
      (·.claimedAs now leaseExpiresAt)).map fun event => (event.id, event.attemptCount))[
        s.claims.length + index]? = some (event.id, event.attemptCount) := by
    rw [List.getElem?_append_right (Nat.le_add_right _ _), Nat.add_sub_cancel_left,
      List.getElem?_map, hmapped]
    rfl
  rw [List.getElem?_map] at hmapped
  obtain ⟨row, hget, rfl⟩ := Option.map_eq_some_iff.mp hmapped
  have hrow : row ∈ s.dueRows locked (boundClaimLimit limit) now := List.mem_of_getElem? hget
  have hmem : row.claim now leaseExpiresAt ∈
      (s.claimDueBatch locked limit now leaseExpiresAt).2.events := by
    refine List.mem_map.mpr ⟨row, (mem_dueRows hrow).1, ?_⟩
    rw [if_pos (List.mem_map_of_mem hrow)]
  refine ⟨hclaim, ⟨_, hmem, ?_, rfl⟩, fun _ => ⟨_, hmem, rfl, .inr ⟨rfl, rfl, rfl⟩⟩⟩
  unfold OutboxEventRow.isOf
  rw [Bool.and_eq_true, decide_eq_true_eq, decide_eq_true_eq]
  exact ⟨rfl, rfl⟩

end

end

end PatchPilot.Outbox
