import PatchPilot.Outbox.Delivery

set_option autoImplicit false

/-!
# Outbox: relay batches at the same time

A batch owns the claims that it made.  It relays them one by one; what it still has to relay is
not touched by its marks on the others.
-/

namespace PatchPilot.Outbox

open PatchPilot.Foundation

/-! ## Programs of a relay -/

section

variable {α : Type} {owned rest : List Nat} {s s' : RelayState} {number : Nat}
  {event : ClaimedOutboxEvent} {options : OutboxRelayOptions} {now : Instant}
  {P : RelayState → Prop}

/-- What is left of a relay is as it should be. -/
abbrev Relays (post : α → List Nat → RelayState → Prop) (program : RelayProgram α)
    (owned : List Nat) (s : RelayState) : Prop :=
  Owning relayOwnership MarksOwnClaim post program owned s

/-- The others, who leave some claims alone, do not disturb it. -/
def Stays (rest : List Nat) (P : RelayState → Prop) : Prop :=
  ∀ s s', Onward rest s s' → P s → P s'

/-- No claim is made, and something holds afterwards. -/
def Staying (owned : List Nat) (P : RelayState → Prop) (_ : α) (owned' : List Nat)
    (s : RelayState) : Prop :=
  owned' = owned ∧ P s

theorem Onward.mono (h : Onward owned s s') (hsubset : rest ⊆ owned) : Onward rest s s' where
  now := h.now
  accepted := h.accepted
  claims := h.claims
  rows := h.rows
  owned := fun number hnumber => h.owned number (hsubset hnumber)

/-- A call that makes no claim. -/
theorem relays_perform {op : RelayOp} {next : op.Answer → RelayProgram α}
    {post : α → List Nat → RelayState → Prop}
    {after : RelayChoice → RelayState → op.Answer × RelayState}
    (hexec : ∀ choice s, RelayState.exec op choice s = some (after choice s))
    (h : ∀ s' choice, Onward owned s s' → s'.Good → MarksOwnClaim op s' →
      (∀ others : List Nat, (∀ number ∈ others, number ∉ owned) →
        Onward others s' (after choice s').2) ∧
          (after choice s').2.Good ∧
            Relays post (next (after choice s').1) owned (after choice s').2) :
    Relays post (perform op >>= next) owned s := by
  intro s' honward hgood hallowed choice answer s'' hexec'
  change RelayState.exec op choice s' = some (answer, s'') at hexec'
  have hafter : after choice s' = (answer, s'') :=
    Option.some.inj ((hexec choice s').symm.trans hexec')
  obtain ⟨hspares, hgood', hnext⟩ := h s' choice honward hgood hallowed
  rw [hafter] at hspares hgood' hnext
  exact ⟨[], nofun, fun others hothers => hspares others fun number hnumber =>
    (hothers number hnumber).2, hgood', hnext⟩

theorem relays_done (hstays : Stays rest P) (hsubset : rest ⊆ owned) (hP : P s) (result : α) :
    Relays (Staying owned P) (pure result) owned s :=
  fun s' honward _ => ⟨rfl, hstays s s' (honward.mono hsubset) hP⟩

/-- The row is loaded after an update. -/
theorem relays_loadUpdated (hstays : Stays rest P) (hsubset : rest ⊆ owned) (hP : P s)
    (updated : Bool) : Relays (Staying owned P) (loadUpdated event updated) owned s := by
  cases updated with
  | false => exact relays_done hstays hsubset hP false
  | true =>
      refine relays_perform (fun _ _ => rfl) fun s' choice honward hgood _ => ?_
      exact ⟨fun others _ => .refl others _, hgood,
        relays_done hstays hsubset (hstays s s' (honward.mono hsubset) hP) _⟩

/-- A background job is created for an event that was processed. -/
theorem relays_enqueueQueued {row : BackgroundJobRow} (hstays : Stays rest P)
    (hsubset : rest ⊆ owned) (hP : P s) (hprocessed : Processed row.outboxEventId s) :
    Relays (Staying owned P) (enqueueQueued row) owned s := by
  refine relays_perform (fun _ _ => rfl) fun s' choice honward hgood _ => ?_
  have hP' := hstays s s' (honward.mono hsubset) hP
  refine ⟨fun others _ => onward_createJob row,
    good_createJob hgood (hprocessed.later honward), ?_⟩
  have hP'' := hstays s' _ (onward_createJob row) hP'
  split
  · exact relays_done hstays hsubset hP'' true
  · refine relays_perform (fun _ _ => rfl) fun later choice honward hgood _ => ?_
    exact ⟨fun others _ => .refl others _, hgood,
      relays_done hstays hsubset (hstays _ later (honward.mono hsubset) hP'') _⟩

/-- The queue has accepted a publication. -/
def Accepted (event : ClaimedOutboxEvent) (s : RelayState) : Prop :=
  deterministicOutboxQueueJobId event.eventType event.id ∈ s.accepted

/-- A mark as processed, after the queue has accepted the publication. -/
theorem step_markProcessed {acceptedAt : Instant} (hgood : s.Good)
    (hholding : Holding number event s) (haccepted : Accepted event s) :
    (∀ others, Onward others s
      ((s.recordMark event).mark event [.claimed] (·.process acceptedAt)).2) ∧
      ((s.recordMark event).mark event [.claimed] (·.process acceptedAt)).2.Good ∧
        (((s.recordMark event).mark event [.claimed] (·.process acceptedAt)).1 = true →
          Processed event.id
            ((s.recordMark event).mark event [.claimed] (·.process acceptedAt)).2) := by
  have hrecord := good_recordMark hgood hholding
  refine ⟨fun others => ?_, ?_, fun hmarked => ?_⟩
  · have honward : Onward others s (s.recordMark event) :=
      ⟨Int.le_refl _, fun _ h => h, List.prefix_rfl, (Onward.refl others s).rows,
        (Onward.refl others s).owned⟩
    exact honward.trans onward_markProcessed
  · refine good_mark hrecord (by decide) (by decide) (fun _ => ⟨rfl, rfl, rfl, rfl⟩)
      fun row hrow hof _ => ?_
    have htype := (hholding.unique hgood hrow (id_of_isOf hof)).2
    unfold OutboxEventRow.jobId
    rw [htype, id_of_isOf hof]
    exact haccepted
  · obtain ⟨row, hrow, hof⟩ := List.any_eq_true.mp hmarked
    obtain ⟨hof, hstatus⟩ := Bool.and_eq_true_iff.mp hof
    refine ⟨row.process acceptedAt, List.mem_map.mpr ⟨row, hrow, ?_⟩, id_of_isOf hof, rfl⟩
    rw [if_pos ⟨hof, of_decide_eq_true hstatus⟩]

theorem relays_acknowledge {jobType : JsString} {duplicate : Bool} (hstays : Stays rest P)
    (hsubset : rest ⊆ owned) (hP : P s) (hnumber : number ∈ owned)
    (hholding : Holding number event s) (haccepted : Accepted event s) :
    Relays (Staying owned P) (acknowledge event jobType now duplicate) owned s := by
  refine relays_perform (fun _ _ => rfl) fun s' choice honward hgood _ => ?_
  have hP' := hstays s s' (honward.mono hsubset) hP
  obtain ⟨honward', hgood', hprocessed⟩ := @step_markProcessed s' number event now hgood
    (hholding.later honward hnumber) (honward.accepted _ haccepted)
  refine ⟨fun others _ => honward' others, hgood', ?_⟩
  have hP'' := hstays s' _ (honward' rest) hP'
  cases hupdated : ((s'.recordMark event).mark event [.claimed] (·.process now)).1 with
  | false => exact relays_done hstays hsubset hP'' _
  | true =>
      have hstays' : Stays rest fun s => P s ∧ Processed event.id s :=
        fun s s' honward h => ⟨hstays s s' honward h.1, h.2.later honward⟩
      refine (relays_loadUpdated hstays' hsubset ⟨hP'', hprocessed hupdated⟩ true).andThen ?_
      rintro processed owned' later - hgood ⟨rfl, hP, hprocessed⟩
      split
      · refine (relays_enqueueQueued hstays hsubset hP hprocessed).andThen ?_
        rintro enqueued owned'' later' - hgood ⟨rfl, hP⟩
        exact relays_done hstays hsubset hP _
      · exact relays_done hstays hsubset hP _

/-- A failure is marked on an event of one's own. -/
theorem relays_markFailed {op : RelayOp} {next : op.Answer → RelayProgram α}
    {post : α → List Nat → RelayState → Prop} {statuses : List OutboxEventStatus}
    {set : OutboxEventRow → OutboxEventRow} (hstays : Stays rest P) (hsubset : rest ⊆ owned)
    (hP : P s) (hnumber : number ∈ owned) (hother : number ∉ rest)
    (hholding : Holding number event s)
    {after : RelayChoice → RelayState → op.Answer × RelayState}
    (hexec : ∀ choice s, RelayState.exec op choice s = some (after choice s))
    (hafter : ∀ choice s, (after choice s).2 = (s.mark event statuses set).2)
    (hallowed : ∀ s, MarksOwnClaim op s → event.NotTakenOver s)
    (hprocessed : .processed ∉ statuses) (hdead : .deadLettered ∉ statuses)
    (hset : ∀ row, (set row).id = row.id ∧ (set row).organizationId = row.organizationId ∧
      (set row).eventType = row.eventType ∧ (set row).attemptCount = row.attemptCount)
    (hstatus : ∀ row, (set row).status ≠ .processed)
    (hnext : ∀ answer s', P s' → Relays post (next answer) owned s') :
    Relays post (perform op >>= next) owned s := by
  refine relays_perform hexec fun s' choice honward hgood hallowed' => ?_
  have hclaim := (hholding.later honward hnumber).claim
  have hmarked : ∀ others, number ∉ others → Onward others s' (after choice s').2 := by
    intro others hothers
    rw [hafter]
    exact onward_markFailed hgood hclaim hothers (hallowed s' hallowed') hprocessed hdead hset
  refine ⟨fun others hothers => hmarked others fun hmem => hothers number hmem hnumber, ?_,
    hnext _ _ ?_⟩
  · rw [hafter]
    exact good_mark hgood hprocessed hdead hset fun row _ _ h => absurd h (hstatus row)
  · exact hstays s' _ (hmarked rest hother) (hstays s s' (honward.mono hsubset) hP)

theorem relays_postpone (hstays : Stays rest P) (hsubset : rest ⊆ owned) (hP : P s)
    (hnumber : number ∈ owned) (hother : number ∉ rest) (hholding : Holding number event s) :
    Relays (Staying owned P) (postpone options event now) owned s := by
  refine relays_perform (fun _ _ => rfl) fun s' choice honward hgood _ => ?_
  refine ⟨fun others _ => .refl others _, hgood, ?_⟩
  refine relays_markFailed hstays hsubset (hstays s s' (honward.mono hsubset) hP) hnumber hother
    (hholding.later honward hnumber)
    (fun _ _ => rfl) (fun _ _ => rfl) (fun _ h => h) (by decide) (by decide)
    (fun _ => ⟨rfl, rfl, rfl, rfl⟩) (fun _ => nofun) fun updated later hP => ?_
  refine (relays_loadUpdated hstays hsubset hP updated).andThen ?_
  rintro loaded owned' later - hgood ⟨rfl, hP⟩
  exact relays_done hstays hsubset hP _

theorem relays_giveUp (hstays : Stays rest P) (hsubset : rest ⊆ owned) (hP : P s)
    (hnumber : number ∈ owned) (hother : number ∉ rest) (hholding : Holding number event s) :
    Relays (Staying owned P) (giveUp event) owned s := by
  refine relays_markFailed hstays hsubset hP hnumber hother hholding
    (fun _ _ => rfl) (fun _ _ => rfl) (fun _ h => h) (by decide) (by decide)
    (fun _ => ⟨rfl, rfl, rfl, rfl⟩) (fun _ => nofun) fun updated later hP => ?_
  refine (relays_loadUpdated hstays hsubset hP updated).andThen ?_
  rintro loaded owned' later - hgood ⟨rfl, hP⟩
  exact relays_done hstays hsubset hP _

/-- One event of a batch is relayed. -/
theorem relays_relayClaimedEvent (hstays : Stays rest P) (hsubset : rest ⊆ owned) (hP : P s)
    (hnumber : number ∈ owned) (hother : number ∉ rest) (hholding : Holding number event s) :
    Relays (Staying owned P) (relayClaimedEvent options event now) owned s := by
  unfold relayClaimedEvent
  split
  · exact relays_giveUp hstays hsubset hP hnumber hother hholding
  · rename_i jobType _
    split
    · exact relays_giveUp hstays hsubset hP hnumber hother hholding
    · refine relays_perform (fun _ _ => rfl) fun s' choice honward hgood _ => ?_
      have honward' : ∀ others, Onward others s'
          (s'.publish (toQueueJob event.toClaimableOutboxEvent jobType) choice).2 :=
        fun others => onward_publish _ choice
      have hP' := hstays _ _ (honward' rest) (hstays s s' (honward.mono hsubset) hP)
      have hholding' := (hholding.later honward hnumber).later (honward' owned) hnumber
      refine ⟨fun others _ => honward' others, good_publish hgood _ choice, ?_⟩
      cases hpublished :
          (s'.publish (toQueueJob event.toClaimableOutboxEvent jobType) choice).1 with
      | failed => exact relays_postpone hstays hsubset hP' hnumber hother hholding'
      | ok duplicate =>
          exact relays_acknowledge hstays hsubset hP' hnumber hholding'
            (accepted_publish hgood hpublished)

/-- The claims that are numbered from a number on are held. -/
def HoldingFrom (first : Nat) (events : List ClaimedOutboxEvent) (s : RelayState) : Prop :=
  ∀ index event, events[index]? = some event → Holding (first + index) event s

theorem stays_holdingFrom (first : Nat) (events : List ClaimedOutboxEvent) :
    Stays (List.range' first events.length) (HoldingFrom first events) := by
  intro s s' honward h index event hget
  refine (h index event hget).later honward (List.mem_range'_1.mpr ?_)
  obtain ⟨hlt, -⟩ := List.getElem?_eq_some_iff.mp hget
  omega

/-- The events of a batch are relayed. -/
theorem relays_relayEvents {events : List ClaimedOutboxEvent} :
    ∀ {first : Nat} {s : RelayState} {result : OutboxRelayBatchResult},
      List.range' first events.length ⊆ owned → HoldingFrom first events s →
        Relays (fun _ _ _ => True) (relayEvents options now events result) owned s := by
  induction events with
  | nil => exact fun _ _ _ _ _ => trivial
  | cons event rest ih =>
      intro first s result howned hholding
      have hfirst : first ∈ owned := howned (by simp)
      have hrest : List.range' (first + 1) rest.length ⊆ owned := by
        intro number hnumber
        refine howned (List.mem_range'_1.mpr ?_)
        have hmem := List.mem_range'_1.mp hnumber
        rw [List.length_cons]
        omega
      have hother : first ∉ List.range' (first + 1) rest.length := by
        intro hmem
        have hle := (List.mem_range'_1.mp hmem).1
        omega
      have hlater : HoldingFrom (first + 1) rest s := by
        intro index event' hget
        have h := hholding (index + 1) event' hget
        rwa [← Nat.add_assoc, Nat.add_right_comm] at h
      refine (relays_relayClaimedEvent (stays_holdingFrom _ rest) hrest hlater hfirst hother
        (hholding 0 event rfl)).andThen ?_
      rintro outcome owned' later - hgood ⟨rfl, hholding'⟩
      cases outcome with
      | none => exact fun _ _ _ => trivial
      | some outcome => exact ih hrest hholding'

/-- The events were processed. -/
def AllProcessed (events : List ClaimableOutboxEvent) (s : RelayState) : Prop :=
  ∀ event ∈ events, Processed event.id s

theorem stays_allProcessed (rest : List Nat) (events : List ClaimableOutboxEvent) :
    Stays rest (AllProcessed events) :=
  fun _ _ honward h event hevent => (h event hevent).later honward

/-- Background jobs are created for events that were processed. -/
theorem relays_reconcileJobs {events : List ClaimableOutboxEvent} :
    ∀ {owned : List Nat} {s : RelayState} {result : OutboxRelayBatchResult},
      AllProcessed events s →
        Relays (fun _ _ _ => True) (reconcileJobs events result) owned s := by
  induction events with
  | nil => exact fun _ _ _ _ => trivial
  | cons event rest ih =>
      intro owned s result h
      have hrest : AllProcessed rest s := fun other hother =>
        h other (List.mem_cons_of_mem _ hother)
      unfold reconcileJobs
      split
      · exact ih hrest
      · refine (relays_enqueueQueued (stays_allProcessed [] rest) (List.nil_subset _) hrest
          (h event List.mem_cons_self)).andThen ?_
        rintro enqueued owned' later - hgood ⟨rfl, hrest'⟩
        split
        · exact ih hrest'
        · exact fun _ _ _ => trivial

theorem allProcessed_awaiting (s : RelayState) (limit : Int) :
    AllProcessed (s.awaiting limit) s := by
  intro event hevent
  obtain ⟨row, hrow, rfl⟩ := List.mem_map.mp hevent
  have hmem := (sortBy_perm _ _).mem_iff.mp (List.mem_of_mem_take hrow)
  obtain ⟨hmem, hprocessed⟩ := List.mem_filter.mp hmem
  exact ⟨row, hmem, rfl, (of_decide_eq_true hprocessed).1⟩

/-- What a claim of due events leaves. -/
theorem step_claimDueBatch {locked : List JsString} {limit leaseExpiresAt : Int}
    {claimed : List ClaimedOutboxEvent} (hgood : s.Good) (hnow : now ≤ s.now)
    (h : s.claimDueBatch locked limit now leaseExpiresAt = (claimed, s')) :
    s'.claims.length = s.claims.length + claimed.length ∧ (∀ others, Onward others s s') ∧
      s'.Good ∧ HoldingFrom s.claims.length claimed s' := by
  have hclaimed : claimed = (s.claimDueBatch locked limit now leaseExpiresAt).1 :=
    (congrArg Prod.fst h).symm
  have hs : s' = (s.claimDueBatch locked limit now leaseExpiresAt).2 :=
    (congrArg Prod.snd h).symm
  subst hclaimed
  subst hs
  refine ⟨?_, fun others => onward_claimDueBatch hgood hnow, good_claimDueBatch hgood,
    fun index event hget => holding_claimDueBatch hget⟩
  change (s.claims ++ List.map _ (s.claimDueBatch locked limit now leaseExpiresAt).1).length = _
  rw [List.length_append, List.length_map]

/-- The claims of a batch belong to it. -/
theorem relays_claimDueBatch {limit leaseExpiresAt : Int}
    {next : List ClaimedOutboxEvent → RelayProgram α} {post : α → List Nat → RelayState → Prop}
    (hnow : now ≤ s.now)
    (hnext : ∀ claimed first s', HoldingFrom first claimed s' →
      Relays post (next claimed) (List.range' first claimed.length) s') :
    Relays post (perform (.claimDueBatch limit now leaseExpiresAt) >>= next) [] s := by
  intro s' honward hgood _ choice (claimed : List ClaimedOutboxEvent) s'' hexec
  obtain ⟨hlength, hstep, hgood', hholding⟩ :=
    step_claimDueBatch hgood (Int.le_trans hnow honward.now) (Option.some.inj hexec)
  refine ⟨List.range' s'.claims.length claimed.length, fun number hnumber => ?_,
    fun others _ => hstep others, hgood', ?_⟩
  · have hmem := List.mem_range'_1.mp hnumber
    refine ⟨hmem.1, ?_⟩
    change number < s''.claims.length
    rw [hlength]
    exact hmem.2
  · rw [List.append_nil]
    exact hnext claimed s'.claims.length s'' hholding

/-- A batch. -/
theorem relays_executeRelayBatch :
    Relays (fun _ _ _ => True) (executeRelayBatch options) [] s := by
  refine relays_perform (fun _ _ => rfl) fun s' choice _ hlater _ => ?_
  refine ⟨fun others _ => .refl others _, hlater, ?_⟩
  refine relays_claimDueBatch (Int.le_refl _) fun claimed first s'' hholding => ?_
  refine (relays_relayEvents (fun _ h => h) hholding).andThen fun result owned' later _ _ _ => ?_
  cases result with
  | none => exact fun _ _ _ => trivial
  | some result =>
      refine relays_perform (fun _ _ => rfl) fun later choice _ hgood _ => ?_
      exact ⟨fun others _ => .refl others _, hgood,
        relays_reconcileJobs (allProcessed_awaiting _ _)⟩

/-! ## The system -/

/-- What happens besides leaves every claim alone. -/
theorem spares_environment {happens : RelayEvent} (hevent : happens.apply s = some s')
    (hgood : s.Good) : (∀ others, Onward others s s') ∧ s'.Good := by
  cases happens with
  | passes milliseconds =>
      cases hevent
      refine ⟨fun others => ⟨?_, fun _ h => h, List.prefix_rfl, (Onward.refl others s).rows,
        fun number hnumber id attempt hclaim row hrow hid lease hkept _ =>
          ⟨row, hrow, hid, hkept⟩⟩, ?_⟩
      · exact Int.le_add_of_nonneg_right (Int.natCast_nonneg _)
      · exact ⟨hgood.ids, hgood.accepted, hgood.jobs, hgood.jobsProcessed, hgood.claims,
          hgood.attempts, hgood.marks, hgood.held⟩
  | committed row =>
      unfold RelayEvent.apply at hevent
      dsimp only at hevent
      split at hevent
      · rename_i hcommitted
        cases hevent
        obtain ⟨hpending, -, hfresh⟩ := hcommitted
        refine ⟨fun others => ⟨Int.le_refl _, fun _ h => h, List.prefix_rfl,
          fun other hother => ⟨other, List.mem_append_left _ hother, .refl other⟩,
          fun number hnumber id attempt hclaim other hother hid lease hkept _ =>
            ⟨other, List.mem_append_left _ hother, hid, hkept⟩⟩, ?_⟩
        refine ⟨?_, fun other hother hprocessed => ?_, hgood.jobs, fun job hjob => ?_,
          hgood.claims, fun claim hclaim => ?_, hgood.marks, hgood.held⟩
        · rw [List.map_append, List.nodup_append]
          refine ⟨hgood.ids, List.nodup_singleton _, fun id hold id' hnew => ?_⟩
          obtain ⟨other, hother, rfl⟩ := List.mem_map.mp hold
          rw [List.mem_singleton.mp hnew]
          exact hfresh other hother
        · rcases List.mem_append.mp hother with hold | hnew
          · exact hgood.accepted other hold hprocessed
          · rw [List.mem_singleton.mp hnew, hpending] at hprocessed
            cases hprocessed
        · obtain ⟨other, hother, h⟩ := hgood.jobsProcessed job hjob
          exact ⟨other, List.mem_append_left _ hother, h⟩
        · obtain ⟨other, hother, h⟩ := hgood.attempts claim hclaim
          exact ⟨other, List.mem_append_left _ hother, h⟩
      · cases hevent
  | dropped jobId =>
      cases hevent
      refine ⟨fun others => ⟨Int.le_refl _, fun _ h => h, List.prefix_rfl,
        (Onward.refl others s).rows, (Onward.refl others s).owned⟩, ?_⟩
      exact ⟨hgood.ids, hgood.accepted, hgood.jobs, hgood.jobsProcessed, hgood.claims,
        hgood.attempts, hgood.marks, fun id hid => hgood.held id (List.mem_of_mem_filter hid)⟩

end

theorem good_empty (now : Instant) : (RelayState.empty now).Good :=
  ⟨List.nodup_nil, fun _ h => absurd h List.not_mem_nil, List.nodup_nil,
    fun _ h => absurd h List.not_mem_nil, List.nodup_nil, fun _ h => absurd h List.not_mem_nil,
    fun _ h => absurd h List.not_mem_nil, fun _ h => absurd h List.not_mem_nil⟩

/-- A run whose marks of failure are permitted keeps the rows good, and nothing final changes. -/
theorem run_relays {before final : relaySystem.Pool} {owned : Nat → List Nat}
    {happenings : List (Happening RelayChoice OutboxRelayOptions RelayEvent)}
    (h : before.Owned relayOwnership MarksOwnClaim (fun _ _ _ _ => True) owned)
    (hpermits : before.PermitsAll MarksOwnClaim happenings)
    (hrun : before.run happenings = some final) :
    ∃ owned', Onward [] before.state final.state ∧
      final.Owned relayOwnership MarksOwnClaim (fun _ _ _ _ => True) owned' := by
  refine h.run (fun input s _ => relays_executeRelayBatch) ?_ hpermits hrun
  intro happens s s' hevent hgood
  obtain ⟨hspares, hgood'⟩ := spares_environment hevent hgood
  exact ⟨fun others _ => hspares others, hgood'⟩

/-- Every event that is processed was accepted by the queue under its deterministic job id. -/
def ProcessedOnlyAccepted (s : RelayState) : Prop :=
  ∀ row ∈ s.events, row.status = .processed →
    deterministicOutboxQueueJobId row.eventType row.id ∈ s.accepted

/-- An event has one background job at most, and only if it is processed. -/
def JobsOnlyProcessed (s : RelayState) : Prop :=
  (s.jobs.map (·.outboxEventId)).Nodup ∧
    ∀ job ∈ s.jobs, ∃ row ∈ s.events, row.id = job.outboxEventId ∧ row.status = .processed

/-- Whoever marks an event as processed under an unexpired claim finds it claimed or
processed. -/
def MarksFindClaim (s : RelayState) : Prop :=
  ∀ mark ∈ s.marks, mark.time ≤ mark.claim.leaseExpiresAt →
    mark.found = some .claimed ∨ mark.found = some .processed

/-- A row is there for every event that is processed or dead-lettered earlier, unchanged. -/
def FinalUnchanged (s s' : RelayState) : Prop :=
  ∀ row ∈ s.events, row.status = .processed ∨ row.status = .deadLettered →
    ∀ row' ∈ s'.events, row'.id = row.id → row' = row

/-- What an outbox delivers, at every time and from every time on. -/
structure Delivers (s s' : RelayState) : Prop where
  accepted : ProcessedOnlyAccepted s'
  final : FinalUnchanged s s'
  stays : ∀ row ∈ s.events, ∃ row' ∈ s'.events, row'.id = row.id
  jobs : JobsOnlyProcessed s'
  marks : MarksFindClaim s'

/-- If no relay marks a failure on an event that another has claimed in the meantime, then the
relays deliver as they should, in whatever order their calls come. -/
theorem relays_deliver (now : Instant)
    (before after : List (Happening RelayChoice OutboxRelayOptions RelayEvent))
    (middle final : relaySystem.Pool)
    (hbefore : (relaySystem.idle (RelayState.empty now)).PermitsAll MarksOwnClaim before)
    (hmiddle : (relaySystem.idle (RelayState.empty now)).run before = some middle)
    (hafter : middle.PermitsAll MarksOwnClaim after) (hfinal : middle.run after = some final) :
    Delivers middle.state final.state := by
  obtain ⟨owned, -, howned⟩ := run_relays (Interleaving.Pool.owned_idle (good_empty now))
    hbefore hmiddle
  obtain ⟨owned', honward, howned'⟩ := run_relays howned hafter hfinal
  have hgood : final.state.Good := howned'.inv
  refine ⟨hgood.accepted, fun row hrow hstatus row' hrow' hid => ?_, fun row hrow => ?_,
    ⟨hgood.jobs, hgood.jobsProcessed⟩, hgood.marks⟩
  · obtain ⟨row'', hrow'', hfollows⟩ := honward.rows row hrow
    have hsame := hfollows.final hstatus
    subst hsame
    exact eq_of_id hgood hrow' hrow'' hid
  · obtain ⟨row', hrow', hfollows⟩ := honward.rows row hrow
    exact ⟨row', hrow', hfollows.id⟩

/-! ## A slow relay -/

namespace RelaySamples

/-- An event that asks for an SBOM to be ingested. -/
def requested : OutboxEventRow where
  id := js "b1"
  organizationId := some (js "a1")
  aggregateType := js "sbom_ingestion"
  aggregateId := js "c1"
  eventType := sbomIngestionRequestedEventType
  dedupeKey := js "sbom.ingest"
  availableAt := 0
  claimedAt := none
  leaseExpiresAt := none
  processedAt := none
  attemptCount := 0
  lastFailureCategory := none
  lastFailureCode := none
  status := .pending

abbrev RelayHappening := Happening RelayChoice OutboxRelayOptions RelayEvent

/-- Calls of a relay, during which the queue answers. -/
def calls (relay count : Nat) : List RelayHappening :=
  List.replicate count (.call relay ⟨[], true, true, 0⟩)

/-- A call of a relay, during which the queue does not answer. -/
def silence (relay : Nat) : RelayHappening := .call relay ⟨[], false, false, 0⟩

/-- The lease of a relay expires before it publishes, and another claims the event.  The
publication of the first fails, and it marks the failure. -/
def slow : List RelayHappening :=
  [.other (.committed requested), .start 0 {}] ++ calls 0 2 ++
    [.other (.passes 30001), .start 1 {}] ++ calls 1 2 ++ [silence 0] ++ calls 0 2 ++ calls 1 2

/-- A relay whose publication is accepted. -/
def plain : List RelayHappening :=
  [.other (.committed requested), .start 0 {}] ++ calls 0 7

end RelaySamples

open RelaySamples in
/-- The second relay finds the event pending, although its own claim has not expired. -/
theorem slow_relay_takes_claim :
    ∃ final ∈ (relaySystem.idle (RelayState.empty 0)).run slow,
      (∃ mark ∈ final.state.marks, mark.claim.attemptCount = 2 ∧
        mark.time ≤ mark.claim.leaseExpiresAt ∧ mark.found = some .pending) ∧
          ¬ Delivers final.state final.state := by
  obtain ⟨final, hrun, mark, hmark, hattempt, htime, hfound⟩ :
      ∃ final ∈ (relaySystem.idle (RelayState.empty 0)).run slow,
        ∃ mark ∈ final.state.marks, mark.claim.attemptCount = 2 ∧
          mark.time ≤ mark.claim.leaseExpiresAt ∧ mark.found = some .pending := by
    decide +kernel
  refine ⟨final, hrun, ⟨mark, hmark, hattempt, htime, hfound⟩, fun hdelivers => ?_⟩
  rcases hdelivers.marks mark hmark htime with h | h <;> rw [hfound] at h <;> cases h

open RelaySamples in
/-- The event is processed, and it has its background job. -/
theorem relays_deliver_plain :
    ∃ final ∈ (relaySystem.idle (RelayState.empty 0)).run plain,
      final.state.jobs.map (·.outboxEventId) = [js "b1"] ∧
        Delivers final.state final.state := by
  obtain ⟨final, hrun, hjobs⟩ : ∃ final ∈ (relaySystem.idle (RelayState.empty 0)).run plain,
      final.state.jobs.map (·.outboxEventId) = [js "b1"] := by decide +kernel
  refine ⟨final, hrun, hjobs, relays_deliver 0 plain [] final final ?_ hrun trivial rfl⟩
  exact @of_decide_eq_true _ (@Interleaving.decidablePermitsAll _ _ _ _ relaySystem
    MarksOwnClaim decidableMarksOwnClaim _ _) (by decide +kernel)

end PatchPilot.Outbox
