import PatchPilot.Foundation.Runs
import PatchPilot.Intelligence.Transitions

set_option autoImplicit false

/-!
# Intelligence: every sync-run (`transitions.ts`)

Whatever commands a run is given, its snapshot has the shape of its state.  The shape is
more than what is asserted before a snapshot is committed; so the assertion refuses nothing
but a completion before the start.
-/

namespace PatchPilot.Intelligence

open PatchPilot.Foundation
open PatchPilot.Sbom (Timestamp)

/-! ## What a branch does -/

/-- A branch that proposes a snapshot for a run that is there: what it demands of the run
and what it proposes. -/
inductive Proposal (existing : IntelligenceSyncRunSnapshot) :
    IntelligenceSyncRunCommand → IntelligenceSyncRunSnapshot → Prop
  | startFetching {startedAt : Timestamp} {executionAttempt : Int}
      (hpositive : isPositiveSafeInteger executionAttempt = true)
      (hfrom : (existing.state = .requested ∧ executionAttempt = 1) ∨
        (existing.state = .retryWait ∧ executionAttempt = existing.executionAttempt + 1)) :
      Proposal existing (.startFetching startedAt executionAttempt)
        { existing with
          state := .fetching, stage := some .fetch, startedAt := some startedAt,
          completedAt := none, nextAttemptAt := none, executionAttempt,
          failureCategory := none, failureCode := none }
  | recordRetryWait {nextAttemptAt : Timestamp} {failureCode : IntelligenceSafeFailureCode}
      (hfrom : existing.state = .fetching) (hcode : RetryableFailed failureCode) :
      Proposal existing (.recordRetryWait nextAttemptAt failureCode)
        { existing with
          state := .retryWait, stage := some .fetch, nextAttemptAt := some nextAttemptAt,
          completedAt := none,
          failureCategory := some (classifyIntelligenceSafeFailure failureCode).category,
          failureCode := some failureCode }
  | recordStored {snapshotId : JsString} (hfrom : existing.state = .fetching) :
      Proposal existing (.recordStored snapshotId)
        { existing with
          state := .stored, stage := some .storeSnapshot, snapshotId := some snapshotId,
          completedAt := none, nextAttemptAt := none, failureCategory := none,
          failureCode := none }
  | startParsing (hfrom : existing.state = .stored) :
      Proposal existing .startParsing
        { existing with state := .parsing, stage := some .parse, completedAt := none }
  | startStaging {generationId : JsString} (hfrom : existing.state = .parsing) :
      Proposal existing (.startStaging generationId)
        { existing with
          state := .staging, stage := some .stageGeneration,
          generationId := some generationId, completedAt := none }
  | startActivating {warningCount : Int} (hfrom : existing.state = .staging) :
      Proposal existing (.startActivating warningCount)
        { existing with
          state := .activating, stage := some .activateGeneration, completedAt := none,
          warningCount := some warningCount }
  | complete {completedAt : Timestamp} {acceptedEntryCount warningCount : Int}
      (hfrom : existing.state = .activating)
      (haccepted : isNonNegativeSafeInteger acceptedEntryCount = true)
      (hwarnings : isNonNegativeSafeInteger warningCount = true) :
      Proposal existing (.complete completedAt acceptedEntryCount warningCount)
        { existing with
          state := .completed, stage := some .finalize, completedAt := some completedAt,
          acceptedEntryCount := some acceptedEntryCount, warningCount := some warningCount,
          failureCategory := none, failureCode := none, nextAttemptAt := none,
          notModifiedReason := none }
  | completeNotModified {completedAt : Timestamp} {priorAcceptedGenerationId : JsString}
      {reason : IntelligenceNotModifiedReason} (hfrom : existing.state = .fetching)
      (hsnapshot : existing.snapshotId = none) (hgeneration : existing.generationId = none) :
      Proposal existing (.completeNotModified completedAt priorAcceptedGenerationId reason)
        { existing with
          state := .notModified, stage := some .finalize, completedAt := some completedAt,
          priorAcceptedGenerationId := some priorAcceptedGenerationId,
          notModifiedReason := some reason, snapshotId := none, generationId := none,
          failureCategory := none, failureCode := none, nextAttemptAt := none }
  | fail {completedAt : Timestamp} {failureCode : IntelligenceSafeFailureCode}
      (hfrom : existing.state.isTerminal = false)
      (hcode : (classifyIntelligenceSafeFailure failureCode).disposition = .failed) :
      Proposal existing (.fail completedAt failureCode)
        { existing with
          state := .failed, completedAt := some completedAt,
          failureCategory := some (classifyIntelligenceSafeFailure failureCode).category,
          failureCode := some failureCode, nextAttemptAt := none }
  | quarantine {completedAt : Timestamp} {failureCode : IntelligenceSafeFailureCode}
      (hfrom : existing.state.isTerminal = false)
      (hcode : (classifyIntelligenceSafeFailure failureCode).disposition = .quarantined) :
      Proposal existing (.quarantine completedAt failureCode)
        { existing with
          state := .quarantined, completedAt := some completedAt,
          failureCategory := some (classifyIntelligenceSafeFailure failureCode).category,
          failureCode := some failureCode, nextAttemptAt := none }

theorem requireCurrent_eq_ok {current snapshot : IntelligenceSyncRunSnapshot} :
    requireCurrent (some current) = .ok snapshot ↔
      current.state.isTerminal = false ∧ snapshot = current := by
  unfold requireCurrent
  dsimp only
  split
  · rename_i hterminal
    exact iff_of_false nofun fun h => absurd hterminal (by rw [h.1]; exact Bool.noConfusion)
  · rename_i hterminal
    constructor
    · intro h
      cases h
      exact ⟨Bool.eq_false_iff.mpr hterminal, rfl⟩
    · rintro ⟨-, rfl⟩
      rfl

/-- Every snapshot that is proposed is one of a branch. -/
theorem proposal_of_eq_ok {existing next : IntelligenceSyncRunSnapshot}
    {command : IntelligenceSyncRunCommand} (h : proposed (some existing) command = .ok next) :
    existing.state.isTerminal = false ∧ Proposal existing command next := by
  cases command with
  | createRequested requestedAt => cases h
  | startFetching startedAt executionAttempt =>
      obtain ⟨current, hcurrent, hrest⟩ := bind_eq_ok.mp h
      obtain ⟨hterminal, rfl⟩ := requireCurrent_eq_ok.mp hcurrent
      split at hrest
      · cases hrest
      · rename_i hstate
        obtain ⟨hpositive, hrest⟩ := refuse_bind_eq_ok.mp hrest
        obtain ⟨hfirst, hrest⟩ := refuse_bind_eq_ok.mp hrest
        obtain ⟨hagain, hrest⟩ := refuse_bind_eq_ok.mp hrest
        cases hrest
        refine ⟨hterminal, .startFetching (eq_true_of_ne_false hpositive) ?_⟩
        by_cases hrequested : current.state = .requested
        · exact .inl ⟨hrequested, not_not.mp fun hne => hfirst ⟨hrequested, hne⟩⟩
        · have hwait : current.state = .retryWait :=
            not_not.mp fun hne => hstate ⟨hrequested, hne⟩
          exact .inr ⟨hwait, not_not.mp fun hne => hagain ⟨hwait, hne⟩⟩
  | recordRetryWait nextAttemptAt failureCode =>
      obtain ⟨current, hcurrent, hrest⟩ := bind_eq_ok.mp h
      obtain ⟨hterminal, rfl⟩ := requireCurrent_eq_ok.mp hcurrent
      split at hrest
      · cases hrest
      · rename_i hstate
        obtain ⟨hcode, hrest⟩ := refuse_bind_eq_ok.mp hrest
        cases hrest
        exact ⟨hterminal, .recordRetryWait (not_not.mp hstate)
          (not_not.mp hcode)⟩
  | recordStored snapshotId =>
      obtain ⟨current, hcurrent, hrest⟩ := bind_eq_ok.mp h
      obtain ⟨hterminal, rfl⟩ := requireCurrent_eq_ok.mp hcurrent
      split at hrest
      · cases hrest
      · rename_i hstate
        obtain ⟨-, hrest⟩ := refuse_bind_eq_ok.mp hrest
        cases hrest
        exact ⟨hterminal, .recordStored (not_not.mp hstate)⟩
  | startParsing =>
      obtain ⟨current, hcurrent, hrest⟩ := bind_eq_ok.mp h
      obtain ⟨hterminal, rfl⟩ := requireCurrent_eq_ok.mp hcurrent
      obtain ⟨hstate, hrest⟩ := refuse_bind_eq_ok.mp hrest
      cases hrest
      exact ⟨hterminal, .startParsing (not_not.mp (not_or.mp hstate).1)⟩
  | startStaging generationId =>
      obtain ⟨current, hcurrent, hrest⟩ := bind_eq_ok.mp h
      obtain ⟨hterminal, rfl⟩ := requireCurrent_eq_ok.mp hcurrent
      obtain ⟨hstate, hrest⟩ := refuse_bind_eq_ok.mp hrest
      obtain ⟨-, hrest⟩ := refuse_bind_eq_ok.mp hrest
      cases hrest
      exact ⟨hterminal, .startStaging (not_not.mp (not_or.mp hstate).1)⟩
  | startActivating warningCount =>
      obtain ⟨current, hcurrent, hrest⟩ := bind_eq_ok.mp h
      obtain ⟨hterminal, rfl⟩ := requireCurrent_eq_ok.mp hcurrent
      obtain ⟨hstate, hrest⟩ := refuse_bind_eq_ok.mp hrest
      obtain ⟨-, hrest⟩ := refuse_bind_eq_ok.mp hrest
      cases hrest
      exact ⟨hterminal, .startActivating (not_not.mp (not_or.mp hstate).1)⟩
  | complete completedAt acceptedEntryCount warningCount =>
      obtain ⟨current, hcurrent, hrest⟩ := bind_eq_ok.mp h
      obtain ⟨hterminal, rfl⟩ := requireCurrent_eq_ok.mp hcurrent
      split at hrest
      · cases hrest
      · rename_i hstate
        obtain ⟨-, hrest⟩ := refuse_bind_eq_ok.mp hrest
        obtain ⟨hcounts, hrest⟩ := refuse_bind_eq_ok.mp hrest
        cases hrest
        have hcounts := not_or.mp hcounts
        exact ⟨hterminal, .complete (not_not.mp hstate) (eq_true_of_ne_false hcounts.1)
          (eq_true_of_ne_false hcounts.2)⟩
  | completeNotModified completedAt priorAcceptedGenerationId reason =>
      obtain ⟨current, hcurrent, hrest⟩ := bind_eq_ok.mp h
      obtain ⟨hterminal, rfl⟩ := requireCurrent_eq_ok.mp hcurrent
      split at hrest
      · cases hrest
      · rename_i hstate
        obtain ⟨hids, hrest⟩ := refuse_bind_eq_ok.mp hrest
        obtain ⟨-, hrest⟩ := refuse_bind_eq_ok.mp hrest
        cases hrest
        have hids := not_or.mp hids
        exact ⟨hterminal, .completeNotModified (not_not.mp hstate) (not_not.mp hids.1)
          (not_not.mp hids.2)⟩
  | fail completedAt failureCode =>
      obtain ⟨current, hcurrent, hrest⟩ := bind_eq_ok.mp h
      obtain ⟨hterminal, rfl⟩ := requireCurrent_eq_ok.mp hcurrent
      split at hrest
      · cases hrest
      · obtain ⟨hcode, hrest⟩ := refuse_bind_eq_ok.mp hrest
        cases hrest
        exact ⟨hterminal, .fail hterminal (not_not.mp hcode)⟩
  | quarantine completedAt failureCode =>
      obtain ⟨current, hcurrent, hrest⟩ := bind_eq_ok.mp h
      obtain ⟨hterminal, rfl⟩ := requireCurrent_eq_ok.mp hcurrent
      split at hrest
      · cases hrest
      · obtain ⟨hcode, hrest⟩ := refuse_bind_eq_ok.mp hrest
        obtain ⟨-, hrest⟩ := refuse_bind_eq_ok.mp hrest
        obtain ⟨-, hrest⟩ := refuse_bind_eq_ok.mp hrest
        cases hrest
        exact ⟨hterminal, .quarantine hterminal (not_not.mp hcode)⟩

/-- A snapshot that is committed was proposed, and asserted. -/
theorem applyIntelligenceSyncRunTransition_eq_ok {current : Option IntelligenceSyncRunSnapshot}
    {command : IntelligenceSyncRunCommand} {next : IntelligenceSyncRunSnapshot} :
    applyIntelligenceSyncRunTransition current command = .ok next ↔
      proposed current command = .ok next ∧ assertSyncRunStateInvariants next = .ok () := by
  unfold applyIntelligenceSyncRunTransition
  rw [bind_eq_ok]
  constructor
  · rintro ⟨proposal, hproposed, hcommit⟩
    obtain ⟨_, hassert, hnext⟩ := bind_eq_ok.mp hcommit
    cases hnext
    exact ⟨hproposed, hassert⟩
  · rintro ⟨hproposed, hassert⟩
    exact ⟨next, hproposed, bind_eq_ok.mpr ⟨(), hassert, rfl⟩⟩

/-! ## The shape of a state -/

namespace IntelligenceSyncRunSnapshot

/-- A fetch was started. -/
structure Started (snapshot : IntelligenceSyncRunSnapshot) : Prop where
  startedAt : snapshot.startedAt ≠ none
  attempt : isPositiveSafeInteger snapshot.executionAttempt = true

/-- Nothing was stored yet. -/
structure WithoutSnapshot (snapshot : IntelligenceSyncRunSnapshot) : Prop where
  snapshotId : snapshot.snapshotId = none
  generationId : snapshot.generationId = none

/-- There is no failure. -/
structure WithoutFailure (snapshot : IntelligenceSyncRunSnapshot) : Prop where
  category : snapshot.failureCategory = none
  code : snapshot.failureCode = none

/-- There is a failure with a code that satisfies a condition, and with its category. -/
def FailedWith (condition : IntelligenceSafeFailureCode → Prop)
    (snapshot : IntelligenceSyncRunSnapshot) : Prop :=
  ∃ code, snapshot.failureCode = some code ∧ condition code ∧
    snapshot.failureCategory = some (classifyIntelligenceSafeFailure code).category

/-- What a snapshot satisfies in a state. -/
def ShapeIn (snapshot : IntelligenceSyncRunSnapshot) : IntelligenceSyncRunState → Prop
  | .requested => snapshot = requestedSnapshot snapshot.requestedAt
  | .fetching =>
      snapshot.Started ∧ snapshot.WithoutSnapshot ∧ snapshot.WithoutFailure ∧
        snapshot.completedAt = none ∧ snapshot.nextAttemptAt = none ∧
          snapshot.stage = some .fetch ∧ snapshot.notModifiedReason = none
  | .retryWait =>
      snapshot.Started ∧ snapshot.WithoutSnapshot ∧ snapshot.FailedWith RetryableFailed ∧
        snapshot.completedAt = none ∧ snapshot.nextAttemptAt ≠ none ∧
          snapshot.notModifiedReason = none
  | .stored | .parsing =>
      snapshot.Started ∧ snapshot.snapshotId ≠ none ∧ snapshot.generationId = none ∧
        snapshot.WithoutFailure ∧ snapshot.completedAt = none
  | .staging | .activating =>
      snapshot.Started ∧ snapshot.snapshotId ≠ none ∧ snapshot.generationId ≠ none ∧
        snapshot.WithoutFailure ∧ snapshot.completedAt = none
  | .completed =>
      snapshot.Started ∧ snapshot.snapshotId ≠ none ∧ snapshot.generationId ≠ none ∧
        snapshot.WithoutFailure ∧ snapshot.completedAt ≠ none ∧
          snapshot.acceptedEntryCount.any isNonNegativeSafeInteger = true ∧
            snapshot.warningCount.any isNonNegativeSafeInteger = true ∧
              snapshot.notModifiedReason = none
  | .notModified =>
      snapshot.Started ∧ snapshot.WithoutSnapshot ∧ snapshot.WithoutFailure ∧
        snapshot.completedAt ≠ none ∧ snapshot.priorAcceptedGenerationId ≠ none ∧
          snapshot.notModifiedReason ≠ none
  | .failed =>
      snapshot.FailedWith (fun code =>
          (classifyIntelligenceSafeFailure code).disposition = .failed) ∧
        snapshot.completedAt ≠ none
  | .quarantined =>
      snapshot.FailedWith (fun code =>
          (classifyIntelligenceSafeFailure code).disposition = .quarantined) ∧
        snapshot.completedAt ≠ none

/-- A snapshot has the shape of its state. -/
structure Shaped (snapshot : IntelligenceSyncRunSnapshot) : Prop where
  attempt : isNonNegativeSafeInteger snapshot.executionAttempt = true
  shape : snapshot.ShapeIn snapshot.state

end IntelligenceSyncRunSnapshot

open IntelligenceSyncRunSnapshot

theorem isNonNegativeSafeInteger_of_positive {value : Int}
    (h : isPositiveSafeInteger value = true) : isNonNegativeSafeInteger value = true := by
  have hpositive := of_decide_eq_true h
  refine decide_eq_true ⟨?_, hpositive.2⟩
  omega

theorem shaped_requestedSnapshot (requestedAt : Timestamp) :
    (requestedSnapshot requestedAt).Shaped :=
  ⟨rfl, rfl⟩

/-- Every branch proposes a snapshot with the shape of its state. -/
theorem Proposal.shaped {existing next : IntelligenceSyncRunSnapshot}
    {command : IntelligenceSyncRunCommand} (h : Proposal existing command next)
    (hshaped : existing.Shaped) : next.Shaped := by
  obtain ⟨hattempt, hshape⟩ := hshaped
  cases h with
  | startFetching hpositive hfrom =>
      have hwithout : existing.WithoutSnapshot ∧ existing.notModifiedReason = none := by
        rcases hfrom with ⟨hstate, -⟩ | ⟨hstate, -⟩
        · rw [hstate] at hshape
          have hrequested : existing = requestedSnapshot existing.requestedAt := hshape
          rw [hrequested]
          exact ⟨⟨rfl, rfl⟩, rfl⟩
        · rw [hstate] at hshape
          obtain ⟨-, hsnapshot, -, -, -, hreason⟩ := hshape
          exact ⟨hsnapshot, hreason⟩
      obtain ⟨⟨hsnapshot, hgeneration⟩, hreason⟩ := hwithout
      refine ⟨isNonNegativeSafeInteger_of_positive hpositive, ?_⟩
      exact ⟨⟨Option.some_ne_none _, hpositive⟩, ⟨hsnapshot, hgeneration⟩, ⟨rfl, rfl⟩, rfl, rfl,
        rfl, hreason⟩
  | recordRetryWait hfrom hcode =>
      rw [hfrom] at hshape
      obtain ⟨⟨hstarted, hpositive⟩, ⟨hsnapshot, hgeneration⟩, -, -, -, -, hreason⟩ := hshape
      exact ⟨hattempt, ⟨hstarted, hpositive⟩, ⟨hsnapshot, hgeneration⟩, ⟨_, rfl, hcode, rfl⟩, rfl,
        Option.some_ne_none _, hreason⟩
  | recordStored hfrom =>
      rw [hfrom] at hshape
      obtain ⟨⟨hstarted, hpositive⟩, ⟨-, hgeneration⟩, -⟩ := hshape
      exact ⟨hattempt, ⟨hstarted, hpositive⟩, Option.some_ne_none _, hgeneration, ⟨rfl, rfl⟩, rfl⟩
  | startParsing hfrom =>
      rw [hfrom] at hshape
      obtain ⟨⟨hstarted, hpositive⟩, hsnapshot, hgeneration, ⟨hcategory, hcode⟩, -⟩ := hshape
      exact ⟨hattempt, ⟨hstarted, hpositive⟩, hsnapshot, hgeneration, ⟨hcategory, hcode⟩, rfl⟩
  | startStaging hfrom =>
      rw [hfrom] at hshape
      obtain ⟨⟨hstarted, hpositive⟩, hsnapshot, -, ⟨hcategory, hcode⟩, -⟩ := hshape
      exact ⟨hattempt, ⟨hstarted, hpositive⟩, hsnapshot, Option.some_ne_none _,
        ⟨hcategory, hcode⟩, rfl⟩
  | startActivating hfrom =>
      rw [hfrom] at hshape
      obtain ⟨⟨hstarted, hpositive⟩, hsnapshot, hgeneration, ⟨hcategory, hcode⟩, -⟩ := hshape
      exact ⟨hattempt, ⟨hstarted, hpositive⟩, hsnapshot, hgeneration, ⟨hcategory, hcode⟩, rfl⟩
  | complete hfrom haccepted hwarnings =>
      rw [hfrom] at hshape
      obtain ⟨⟨hstarted, hpositive⟩, hsnapshot, hgeneration, -⟩ := hshape
      exact ⟨hattempt, ⟨hstarted, hpositive⟩, hsnapshot, hgeneration, ⟨rfl, rfl⟩,
        Option.some_ne_none _, haccepted, hwarnings, rfl⟩
  | completeNotModified hfrom hsnapshot hgeneration =>
      rw [hfrom] at hshape
      obtain ⟨⟨hstarted, hpositive⟩, -⟩ := hshape
      exact ⟨hattempt, ⟨hstarted, hpositive⟩, ⟨rfl, rfl⟩, ⟨rfl, rfl⟩, Option.some_ne_none _,
        Option.some_ne_none _, Option.some_ne_none _⟩
  | fail hfrom hcode => exact ⟨hattempt, ⟨_, rfl, hcode, rfl⟩, Option.some_ne_none _⟩
  | quarantine hfrom hcode => exact ⟨hattempt, ⟨_, rfl, hcode, rfl⟩, Option.some_ne_none _⟩

/-! ## The assertion -/

/-- What is asserted of a state holds of every snapshot with its shape. -/
theorem assertStateInvariants_of_shaped {snapshot : IntelligenceSyncRunSnapshot}
    (h : snapshot.Shaped) : assertStateInvariants snapshot = .ok () := by
  obtain ⟨hattempt, hshape⟩ := h
  unfold assertStateInvariants
  cases hstate : snapshot.state with
  | requested =>
      rw [hstate] at hshape
      have hrequested : snapshot = requestedSnapshot snapshot.requestedAt := hshape
      refine refuse_eq_ok.mpr ?_
      rw [hrequested]
      simp [requestedSnapshot]
  | fetching =>
      rw [hstate] at hshape
      obtain ⟨⟨hstarted, hpositive⟩, -, ⟨hcategory, hcode⟩, hcompleted, hnext, hstage, -⟩ := hshape
      refine refuse_eq_ok.mpr ?_
      simp [hstarted, hpositive, hcategory, hcode, hcompleted, hnext, hstage]
  | retryWait =>
      rw [hstate] at hshape
      obtain ⟨⟨hstarted, hpositive⟩, -, ⟨code, hcode, hretryable, hcategory⟩, hcompleted, hnext,
        -⟩ := hshape
      refine refuse_bind_eq_ok.mpr ⟨?_, refuse_eq_ok.mpr ?_⟩
      · simp [hstarted, hpositive, hcategory, hcode, hcompleted, hnext]
      · simp [hcode, hretryable, hcategory]
  | stored =>
      rw [hstate] at hshape
      obtain ⟨⟨hstarted, -⟩, hsnapshot, hgeneration, -, hcompleted⟩ := hshape
      refine refuse_eq_ok.mpr ?_
      simp [hstarted, hsnapshot, hgeneration, hcompleted]
  | parsing =>
      rw [hstate] at hshape
      obtain ⟨⟨hstarted, -⟩, hsnapshot, -, -, hcompleted⟩ := hshape
      refine refuse_eq_ok.mpr ?_
      simp [hstarted, hsnapshot, hcompleted]
  | staging =>
      rw [hstate] at hshape
      obtain ⟨⟨hstarted, -⟩, hsnapshot, hgeneration, -, hcompleted⟩ := hshape
      refine refuse_eq_ok.mpr ?_
      simp [hstarted, hsnapshot, hgeneration, hcompleted]
  | activating =>
      rw [hstate] at hshape
      obtain ⟨⟨hstarted, -⟩, hsnapshot, hgeneration, -, hcompleted⟩ := hshape
      refine refuse_eq_ok.mpr ?_
      simp [hstarted, hsnapshot, hgeneration, hcompleted]
  | completed =>
      rw [hstate] at hshape
      obtain ⟨⟨hstarted, -⟩, hsnapshot, hgeneration, ⟨hcategory, hcode⟩, hcompleted, haccepted,
        hwarnings, hreason⟩ := hshape
      refine refuse_eq_ok.mpr ?_
      simp only [hstarted, hsnapshot, hgeneration, hcategory, hcode, hcompleted, haccepted,
        hwarnings, hreason]
      simp
  | notModified =>
      rw [hstate] at hshape
      obtain ⟨⟨hstarted, -⟩, ⟨hsnapshot, hgeneration⟩, ⟨hcategory, hcode⟩, hcompleted, hprior,
        hreason⟩ := hshape
      refine refuse_eq_ok.mpr ?_
      simp [hstarted, hsnapshot, hgeneration, hcategory, hcode, hcompleted, hprior, hreason]
  | failed =>
      rw [hstate] at hshape
      obtain ⟨⟨code, hcode, -, hcategory⟩, hcompleted⟩ := hshape
      refine refuse_eq_ok.mpr ?_
      simp [hcode, hcategory, hcompleted]
  | quarantined =>
      rw [hstate] at hshape
      obtain ⟨⟨code, hcode, -, hcategory⟩, hcompleted⟩ := hshape
      refine refuse_eq_ok.mpr ?_
      simp [hcode, hcategory, hcompleted]

/-- The assertion of a snapshot with the shape of its state refuses a completion before the
start, and nothing else. -/
theorem assertSyncRunStateInvariants_of_shaped {snapshot : IntelligenceSyncRunSnapshot}
    (h : snapshot.Shaped) :
    assertSyncRunStateInvariants snapshot =
      refuse snapshot.CompletedBeforeStarted completedPrecedesStarted := by
  unfold assertSyncRunStateInvariants
  rw [show (refuse (isNonNegativeSafeInteger snapshot.executionAttempt = false)
    (js "executionAttempt must be non-negative.")) = .ok () from
      refuse_eq_ok.mpr (by rw [h.attempt]; exact Bool.noConfusion)]
  change (refuse _ _ >>= fun _ => _) = _
  unfold refuse
  split
  · rfl
  · exact assertStateInvariants_of_shaped h

/-! ## Runs of commands -/

/-- The command starts a fetch. -/
def IntelligenceSyncRunCommand.isStartFetching : IntelligenceSyncRunCommand → Bool
  | .startFetching _ _ => true
  | _ => false

/-- How many of the commands start a fetch. -/
def startFetchingCount (past : List (IntelligenceSyncRunCommand × IntelligenceSyncRunSnapshot)) :
    Nat :=
  (past.filter fun entry => entry.1.isStartFetching).length

/-- The states that commands led to, one after the other. -/
def statesOf (past : List (IntelligenceSyncRunCommand × IntelligenceSyncRunSnapshot)) :
    List IntelligenceSyncRunState :=
  past.map fun entry => entry.2.state

/-- The states through which a state is reached, from the stored snapshot on. -/
def IntelligenceSyncRunState.trail : IntelligenceSyncRunState → List IntelligenceSyncRunState
  | .stored => [.stored]
  | .parsing => [.stored, .parsing]
  | .staging => [.stored, .parsing, .staging]
  | .activating => [.stored, .parsing, .staging, .activating]
  | .completed => [.stored, .parsing, .staging, .activating, .completed]
  | _ => []

/-- What holds of a run and of the commands that it has accepted. -/
structure Lived (past : List (IntelligenceSyncRunCommand × IntelligenceSyncRunSnapshot))
    (snapshot : IntelligenceSyncRunSnapshot) : Prop where
  shaped : snapshot.Shaped
  attempts : snapshot.executionAttempt = startFetchingCount past
  trail : snapshot.state.trail <:+ statesOf past

theorem startFetchingCount_append
    (past : List (IntelligenceSyncRunCommand × IntelligenceSyncRunSnapshot))
    (command : IntelligenceSyncRunCommand) (next : IntelligenceSyncRunSnapshot) :
    startFetchingCount (past ++ [(command, next)]) =
      startFetchingCount past + if command.isStartFetching then 1 else 0 := by
  unfold startFetchingCount
  rw [List.filter_append, List.length_append]
  cases hfetching : command.isStartFetching with
  | true => simp [hfetching]
  | false => simp [hfetching]

theorem statesOf_append
    (past : List (IntelligenceSyncRunCommand × IntelligenceSyncRunSnapshot))
    (command : IntelligenceSyncRunCommand) (next : IntelligenceSyncRunSnapshot) :
    statesOf (past ++ [(command, next)]) = statesOf past ++ [next.state] :=
  List.map_append

/-- A branch counts one more attempt when it starts a fetch. -/
theorem Proposal.attempts {existing next : IntelligenceSyncRunSnapshot}
    {command : IntelligenceSyncRunCommand} (h : Proposal existing command next)
    (hshaped : existing.Shaped) :
    next.executionAttempt =
      existing.executionAttempt + if command.isStartFetching then 1 else 0 := by
  cases h with
  | startFetching hpositive hfrom =>
      rcases hfrom with ⟨hstate, hfirst⟩ | ⟨-, hagain⟩
      · have hshape := hshaped.shape
        rw [hstate] at hshape
        have hrequested : existing = requestedSnapshot existing.requestedAt := hshape
        have hnone : existing.executionAttempt = 0 := by
          rw [hrequested]
          rfl
        rw [hnone]
        exact hfirst
      · exact hagain
  | _ => exact (Int.add_zero _).symm

/-- A branch goes on along the trail, or leads to a state without one. -/
theorem Proposal.trail {existing next : IntelligenceSyncRunSnapshot}
    {command : IntelligenceSyncRunCommand} (h : Proposal existing command next) :
    next.state.trail = existing.state.trail ++ [next.state] ∨ next.state.trail = [] := by
  cases h with
  | startFetching hpositive hfrom => exact .inr rfl
  | recordRetryWait hfrom hcode => exact .inr rfl
  | recordStored hfrom => exact .inl (by rw [hfrom]; rfl)
  | startParsing hfrom => exact .inl (by rw [hfrom]; rfl)
  | startStaging hfrom => exact .inl (by rw [hfrom]; rfl)
  | startActivating hfrom => exact .inl (by rw [hfrom]; rfl)
  | complete hfrom haccepted hwarnings => exact .inl (by rw [hfrom]; rfl)
  | completeNotModified hfrom hsnapshot hgeneration => exact .inr rfl
  | fail hfrom hcode => exact .inr rfl
  | quarantine hfrom hcode => exact .inr rfl

/-- A snapshot and a generation that are set stay. -/
def KeepsIds (snapshot later : IntelligenceSyncRunSnapshot) : Prop :=
  (∀ id, snapshot.snapshotId = some id → later.snapshotId = some id) ∧
    ∀ id, snapshot.generationId = some id → later.generationId = some id

theorem keepsIds_refl (snapshot : IntelligenceSyncRunSnapshot) : KeepsIds snapshot snapshot :=
  ⟨fun _ h => h, fun _ h => h⟩

theorem KeepsIds.trans {snapshot later latest : IntelligenceSyncRunSnapshot}
    (h : KeepsIds snapshot later) (h' : KeepsIds later latest) : KeepsIds snapshot latest :=
  ⟨fun id hid => h'.1 id (h.1 id hid), fun id hid => h'.2 id (h.2 id hid)⟩

theorem Proposal.keepsIds {existing next : IntelligenceSyncRunSnapshot}
    {command : IntelligenceSyncRunCommand} (h : Proposal existing command next)
    (hshaped : existing.Shaped) : KeepsIds existing next := by
  have hshape := hshaped.shape
  cases h with
  | recordStored hfrom =>
      rw [hfrom] at hshape
      obtain ⟨-, ⟨hnone, -⟩, -⟩ := hshape
      exact ⟨fun id hid => absurd hid (by rw [hnone]; exact nofun), fun _ hid => hid⟩
  | startStaging hfrom =>
      rw [hfrom] at hshape
      obtain ⟨-, -, hnone, -⟩ := hshape
      exact ⟨fun _ hid => hid, fun id hid => absurd hid (by rw [hnone]; exact nofun)⟩
  | completeNotModified hfrom hsnapshot hgeneration =>
      exact ⟨fun id hid => absurd hid (by rw [hsnapshot]; exact nofun),
        fun id hid => absurd hid (by rw [hgeneration]; exact nofun)⟩
  | _ => exact ⟨fun _ hid => hid, fun _ hid => hid⟩

/-- A run that is there, or one that was not created yet. -/
def LivedOr (past : List (IntelligenceSyncRunCommand × IntelligenceSyncRunSnapshot)) :
    Option IntelligenceSyncRunSnapshot → Prop
  | none => past = []
  | some snapshot => Lived past snapshot

/-- A command that is accepted keeps what holds of the run. -/
theorem LivedOr.step {past : List (IntelligenceSyncRunCommand × IntelligenceSyncRunSnapshot)}
    {current : Option IntelligenceSyncRunSnapshot} {command : IntelligenceSyncRunCommand}
    {next : IntelligenceSyncRunSnapshot} (h : LivedOr past current)
    (hproposed : proposed current command = .ok next) : Lived (past ++ [(command, next)]) next := by
  cases current with
  | none =>
      have hempty : past = [] := h
      subst hempty
      cases command with
      | createRequested requestedAt =>
          cases hproposed
          exact ⟨shaped_requestedSnapshot requestedAt, rfl, List.nil_suffix⟩
      | _ => cases hproposed
  | some existing =>
      have hlived : Lived past existing := h
      obtain ⟨-, hproposal⟩ := proposal_of_eq_ok hproposed
      refine ⟨hproposal.shaped hlived.shaped, ?_, ?_⟩
      · rw [hproposal.attempts hlived.shaped, startFetchingCount_append, hlived.attempts]
        split <;> rfl
      · rw [statesOf_append]
        rcases hproposal.trail with htrail | htrail
        · rw [htrail]
          obtain ⟨before, hbefore⟩ := hlived.trail
          exact ⟨before, by rw [← hbefore, List.append_assoc]⟩
        · rw [htrail]
          exact List.nil_suffix

/-- Every run has lived. -/
theorem lived_afterAll (commands : List IntelligenceSyncRunCommand) :
    LivedOr (accepted applyIntelligenceSyncRunTransition none commands)
      (afterAll applyIntelligenceSyncRunTransition none commands) := by
  refine accepted_induction LivedOr ?_ commands [] none rfl
  intro past current command next hlived happly
  exact hlived.step (applyIntelligenceSyncRunTransition_eq_ok.mp happly).1

/-- Commands keep the ids that a run has. -/
theorem keepsIds_afterAll {snapshot : IntelligenceSyncRunSnapshot} (h : snapshot.Shaped)
    (commands : List IntelligenceSyncRunCommand) :
    ∃ later, afterAll applyIntelligenceSyncRunTransition (some snapshot) commands = some later ∧
      KeepsIds snapshot later := by
  have hstep : ∀ existing command next, existing.Shaped →
      applyIntelligenceSyncRunTransition (some existing) command = .ok next →
        KeepsIds existing next ∧ next.Shaped := by
    intro existing command next hshaped happly
    obtain ⟨-, hproposal⟩ :=
      proposal_of_eq_ok (applyIntelligenceSyncRunTransition_eq_ok.mp happly).1
    exact ⟨hproposal.keepsIds hshaped, hproposal.shaped hshaped⟩
  obtain ⟨later, hlater, hkeeps, -⟩ :=
    afterAll_related Shaped KeepsIds keepsIds_refl KeepsIds.trans hstep commands h
  exact ⟨later, hlater, hkeeps⟩

/-- A run that has ended accepts no command. -/
theorem applyIntelligenceSyncRunTransition_of_terminal {snapshot : IntelligenceSyncRunSnapshot}
    (h : snapshot.state.isTerminal = true) (command : IntelligenceSyncRunCommand)
    (next : IntelligenceSyncRunSnapshot) :
    applyIntelligenceSyncRunTransition (some snapshot) command ≠ .ok next := by
  intro happly
  obtain ⟨hopen, -⟩ := proposal_of_eq_ok (applyIntelligenceSyncRunTransition_eq_ok.mp happly).1
  rw [h] at hopen
  cases hopen

theorem Shaped.withoutSnapshot {snapshot : IntelligenceSyncRunSnapshot} (h : snapshot.Shaped)
    (hstate : snapshot.state ∈ [.requested, .fetching, .retryWait, .notModified]) :
    snapshot.snapshotId = none := by
  have hshape := h.shape
  simp only [List.mem_cons, List.not_mem_nil, or_false] at hstate
  rcases hstate with hstate | hstate | hstate | hstate
  · rw [hstate] at hshape
    have hrequested : snapshot = requestedSnapshot snapshot.requestedAt := hshape
    rw [hrequested]
    rfl
  · rw [hstate] at hshape
    exact hshape.2.1.snapshotId
  · rw [hstate] at hshape
    exact hshape.2.1.snapshotId
  · rw [hstate] at hshape
    exact hshape.2.1.snapshotId

/-- There is no failure, or one with the category of its code that the state allows. -/
theorem Shaped.failure {snapshot : IntelligenceSyncRunSnapshot} (h : snapshot.Shaped) :
    (snapshot.WithoutFailure ∧ snapshot.state ≠ .failed ∧ snapshot.state ≠ .quarantined) ∨
      snapshot.FailedWith fun code =>
        (snapshot.state = .failed →
          (classifyIntelligenceSafeFailure code).disposition = .failed) ∧
        (snapshot.state = .quarantined →
          (classifyIntelligenceSafeFailure code).disposition = .quarantined) := by
  have hshape := h.shape
  cases hstate : snapshot.state with
  | requested =>
      rw [hstate] at hshape
      have hrequested : snapshot = requestedSnapshot snapshot.requestedAt := hshape
      rw [hrequested]
      exact .inl ⟨⟨rfl, rfl⟩, nofun, nofun⟩
  | retryWait =>
      rw [hstate] at hshape
      obtain ⟨-, -, ⟨code, hcode, -, hcategory⟩, -⟩ := hshape
      exact .inr ⟨code, hcode, ⟨nofun, nofun⟩, hcategory⟩
  | failed =>
      rw [hstate] at hshape
      obtain ⟨⟨code, hcode, hdisposition, hcategory⟩, -⟩ := hshape
      exact .inr ⟨code, hcode, ⟨fun _ => hdisposition, nofun⟩, hcategory⟩
  | quarantined =>
      rw [hstate] at hshape
      obtain ⟨⟨code, hcode, hdisposition, hcategory⟩, -⟩ := hshape
      exact .inr ⟨code, hcode, ⟨nofun, fun _ => hdisposition⟩, hcategory⟩
  | fetching =>
      rw [hstate] at hshape
      exact .inl ⟨hshape.2.2.1, nofun, nofun⟩
  | notModified =>
      rw [hstate] at hshape
      exact .inl ⟨hshape.2.2.1, nofun, nofun⟩
  | _ =>
      rw [hstate] at hshape
      exact .inl ⟨hshape.2.2.2.1, nofun, nofun⟩

/-- Whatever commands a run is given: its attempt counts the fetches that were started, its
snapshot and its generation stay once they are set and are missing before they are stored,
its failure has the category of its code and the disposition of its end, it completes only
along the trail, it accepts nothing after its end, and the assertion before a commit refuses
only a completion before the start. -/
theorem sync_run_lifecycle (commands : List IntelligenceSyncRunCommand) :
    (∀ command next error,
      proposed (afterAll applyIntelligenceSyncRunTransition none commands) command = .ok next →
        commit next = .error error →
          next.CompletedBeforeStarted ∧ error = .validation completedPrecedesStarted) ∧
    ∀ snapshot, afterAll applyIntelligenceSyncRunTransition none commands = some snapshot →
      (snapshot.executionAttempt = startFetchingCount
        (accepted applyIntelligenceSyncRunTransition none commands)) ∧
      (∀ more, ∃ later,
        afterAll applyIntelligenceSyncRunTransition (some snapshot) more = some later ∧
          KeepsIds snapshot later) ∧
      (snapshot.state ∈ [.requested, .fetching, .retryWait, .notModified] →
        snapshot.snapshotId = none) ∧
      (snapshot.failureCategory = none ↔ snapshot.failureCode = none) ∧
      (∀ code, snapshot.failureCode = some code →
        snapshot.failureCategory = some (classifyIntelligenceSafeFailure code).category ∧
          (snapshot.state = .failed →
            (classifyIntelligenceSafeFailure code).disposition = .failed) ∧
          (snapshot.state = .quarantined →
            (classifyIntelligenceSafeFailure code).disposition = .quarantined)) ∧
      (snapshot.state = .completed →
        [.stored, .parsing, .staging, .activating, .completed] <:+
          statesOf (accepted applyIntelligenceSyncRunTransition none commands)) ∧
      (snapshot.state.isTerminal = true → ∀ command next,
        applyIntelligenceSyncRunTransition (some snapshot) command ≠ .ok next) := by
  have hlivedOr := lived_afterAll commands
  refine ⟨?_, ?_⟩
  · intro command next error hproposed hcommit
    have hshaped := (hlivedOr.step hproposed).shaped
    unfold commit at hcommit
    rw [assertSyncRunStateInvariants_of_shaped hshaped] at hcommit
    unfold refuse at hcommit
    split at hcommit
    · rename_i hbefore
      cases hcommit
      exact ⟨hbefore, rfl⟩
    · cases hcommit
  · intro snapshot hsnapshot
    rw [hsnapshot] at hlivedOr
    have hlived : Lived _ snapshot := hlivedOr
    have hshaped := hlived.shaped
    refine ⟨hlived.attempts, keepsIds_afterAll hshaped, Shaped.withoutSnapshot hshaped, ?_, ?_,
      ?_, applyIntelligenceSyncRunTransition_of_terminal⟩
    · rcases Shaped.failure hshaped with ⟨⟨hcategory, hcode⟩, -⟩ | ⟨code, hcode, -, hcategory⟩
      · exact iff_of_true hcategory hcode
      · rw [hcode, hcategory]
        exact iff_of_false nofun nofun
    · intro code hcode
      rcases Shaped.failure hshaped with ⟨⟨-, hnone⟩, -⟩ | ⟨code', hcode', hallowed, hcategory⟩
      · rw [hnone] at hcode
        cases hcode
      · rw [hcode] at hcode'
        cases hcode'
        exact ⟨hcategory, hallowed⟩
    · intro hcompleted
      have htrail := hlived.trail
      rw [hcompleted] at htrail
      exact htrail

/-- The commands of a run that waits once and completes. -/
def completingCommands : List IntelligenceSyncRunCommand :=
  [.createRequested 0, .startFetching 1 1, .recordRetryWait 5 .connectionTimeout,
    .startFetching 6 2, .recordStored (js "s"), .startParsing, .startStaging (js "g"),
    .startActivating 0, .complete 9 1 0, .fail 10 .processingFailed]

/-- The run completes along the trail and with two attempts. -/
theorem sync_run_lifecycle_completed :
    ∃ snapshot,
      afterAll applyIntelligenceSyncRunTransition none completingCommands = some snapshot ∧
        snapshot.state = .completed ∧
          snapshot.executionAttempt = startFetchingCount
            (accepted applyIntelligenceSyncRunTransition none completingCommands) ∧
          [.stored, .parsing, .staging, .activating, .completed] <:+
            statesOf (accepted applyIntelligenceSyncRunTransition none completingCommands) := by
  obtain ⟨snapshot, hsnapshot, hcompleted⟩ :
      ∃ snapshot ∈ afterAll applyIntelligenceSyncRunTransition none completingCommands,
        snapshot.state = .completed := by
    decide +kernel
  obtain ⟨hattempts, -, -, -, -, htrail, -⟩ :=
    (sync_run_lifecycle completingCommands).2 snapshot hsnapshot
  exact ⟨snapshot, hsnapshot, hcompleted, hattempts, htrail hcompleted⟩

end PatchPilot.Intelligence
