import PatchPilot.Foundation.Fallible
import PatchPilot.Foundation.JsString
import PatchPilot.Intelligence.Failures
import PatchPilot.Sbom.Transitions

set_option autoImplicit false

/-!
# Intelligence: the life of a sync-run (`transitions.ts`, `errors.ts`)

A run is requested, fetches a catalog, stores its snapshot, parses and stages it and
activates the generation.  A fetch may be retried after a wait.  A run ends completed, not
modified, failed or quarantined.

The stages of the type are those of a sync-run, and none of them is one of the forbidden
ones; so that check of `requireCurrent` is left out.
-/

namespace PatchPilot.Intelligence

open PatchPilot.Foundation
open PatchPilot.Sbom (Timestamp)

/-! ## States -/

/-- `IntelligenceSyncRunState`. -/
inductive IntelligenceSyncRunState
  | requested | fetching | retryWait | stored | parsing | staging | activating | completed
  | notModified | failed | quarantined
  deriving DecidableEq

/-- `isIntelligenceTerminalSyncRunState`. -/
def IntelligenceSyncRunState.isTerminal : IntelligenceSyncRunState → Bool
  | .completed | .notModified | .failed | .quarantined => true
  | _ => false

/-- `IntelligenceSyncRunStage`. -/
inductive IntelligenceSyncRunStage
  | fetch | storeSnapshot | validate | parse | stageGeneration | activateGeneration | finalize
  deriving DecidableEq

/-- `IntelligenceNotModifiedReason`. -/
inductive IntelligenceNotModifiedReason
  | contentSha256Unchanged | httpNotModified
  deriving DecidableEq

/-- `IntelligenceSyncRunSnapshot`. -/
structure IntelligenceSyncRunSnapshot where
  state : IntelligenceSyncRunState
  stage : Option IntelligenceSyncRunStage
  requestedAt : Timestamp
  startedAt : Option Timestamp
  completedAt : Option Timestamp
  nextAttemptAt : Option Timestamp
  executionAttempt : Int
  snapshotId : Option JsString
  generationId : Option JsString
  failureCategory : Option IntelligenceSafeFailureCategory
  failureCode : Option IntelligenceSafeFailureCode
  acceptedEntryCount : Option Int
  warningCount : Option Int
  priorAcceptedGenerationId : Option JsString
  notModifiedReason : Option IntelligenceNotModifiedReason
  deriving DecidableEq

/-- `IntelligenceSyncRunCommand`.  `generationComplete` is the constant `true`. -/
inductive IntelligenceSyncRunCommand
  | createRequested (requestedAt : Timestamp)
  | startFetching (startedAt : Timestamp) (executionAttempt : Int)
  | recordRetryWait (nextAttemptAt : Timestamp) (failureCode : IntelligenceSafeFailureCode)
  | recordStored (snapshotId : JsString)
  | startParsing
  | startStaging (generationId : JsString)
  | startActivating (warningCount : Int)
  | complete (completedAt : Timestamp) (acceptedEntryCount warningCount : Int)
  | completeNotModified (completedAt : Timestamp) (priorAcceptedGenerationId : JsString)
      (reason : IntelligenceNotModifiedReason)
  | fail (completedAt : Timestamp) (failureCode : IntelligenceSafeFailureCode)
  | quarantine (completedAt : Timestamp) (failureCode : IntelligenceSafeFailureCode)
  deriving DecidableEq

/-- The errors of a transition. -/
inductive IntelligenceTransitionError
  /-- `INTELLIGENCE_INVALID_TRANSITION`. -/
  | invalidTransition
  /-- `INTELLIGENCE_TERMINAL_STATE`. -/
  | terminalState
  /-- `intelligenceValidationError`. -/
  | validation (message : JsString)
  deriving DecidableEq

/-- `isPositiveSafeInteger`. -/
def isPositiveSafeInteger (value : Int) : Bool := decide (0 < value ∧ value ≤ 2 ^ 53 - 1)

/-- `isNonNegativeSafeInteger`. -/
def isNonNegativeSafeInteger (value : Int) : Bool := decide (0 ≤ value ∧ value ≤ 2 ^ 53 - 1)

/-- An early return with a validation error. -/
def refuse (failing : Prop) [Decidable failing] (message : JsString) :
    Except IntelligenceTransitionError Unit :=
  if failing then .error (.validation message) else .ok ()

theorem refuse_eq_ok {failing : Prop} [Decidable failing] {message : JsString} :
    refuse failing message = .ok () ↔ ¬failing := by
  unfold refuse
  split
  · rename_i hfailing
    exact iff_of_false nofun fun h => h hfailing
  · rename_i hfailing
    exact iff_of_true rfl hfailing

theorem refuse_bind_eq_ok {α : Type} {failing : Prop} [Decidable failing] {message : JsString}
    {rest : Unit → Except IntelligenceTransitionError α} {a : α} :
    (refuse failing message >>= rest) = .ok a ↔ ¬failing ∧ rest () = .ok a := by
  rw [bind_eq_ok]
  constructor
  · rintro ⟨_, hrefuse, h⟩
    exact ⟨refuse_eq_ok.mp hrefuse, h⟩
  · rintro ⟨hrefuse, h⟩
    exact ⟨(), refuse_eq_ok.mpr hrefuse, h⟩

/-! ## Invariants of a state (`assertSyncRunStateInvariants`) -/

/-- `completedAt` is earlier than `startedAt`. -/
def IntelligenceSyncRunSnapshot.CompletedBeforeStarted (snapshot : IntelligenceSyncRunSnapshot) :
    Prop :=
  ∃ completedAt ∈ snapshot.completedAt, ∃ startedAt ∈ snapshot.startedAt,
    completedAt < startedAt

instance (snapshot : IntelligenceSyncRunSnapshot) :
    Decidable snapshot.CompletedBeforeStarted :=
  inferInstanceAs (Decidable (∃ completedAt ∈ snapshot.completedAt, _))

/-- `completedAt cannot precede startedAt.` -/
def completedPrecedesStarted : JsString := js "completedAt cannot precede startedAt."

/-- `retry_wait requires a retryable failed-disposition safe code.` -/
def retryWaitRequiresRetryable : JsString :=
  js "retry_wait requires a retryable failed-disposition safe code."

/-- `assertRequestedInvariants`. -/
def assertRequestedInvariants (snapshot : IntelligenceSyncRunSnapshot) :
    Except IntelligenceTransitionError Unit :=
  refuse (snapshot.stage ≠ none ∨ snapshot.startedAt ≠ none ∨ snapshot.completedAt ≠ none ∨
      snapshot.nextAttemptAt ≠ none ∨ snapshot.executionAttempt ≠ 0 ∨
      snapshot.snapshotId ≠ none ∨ snapshot.generationId ≠ none ∨
      snapshot.priorAcceptedGenerationId ≠ none ∨ snapshot.failureCategory ≠ none ∨
      snapshot.failureCode ≠ none ∨ snapshot.acceptedEntryCount ≠ none ∨
      snapshot.warningCount ≠ none ∨ snapshot.notModifiedReason ≠ none)
    (js ("requested runs cannot carry start, completion, snapshot, generation, or failure " ++
      "metadata."))

/-- A failure code that a run waits with. -/
def RetryableFailed (failureCode : IntelligenceSafeFailureCode) : Prop :=
  (classifyIntelligenceSafeFailure failureCode).retryable = true ∧
    (classifyIntelligenceSafeFailure failureCode).disposition = .failed

instance (failureCode : IntelligenceSafeFailureCode) : Decidable (RetryableFailed failureCode) :=
  inferInstanceAs (Decidable (_ ∧ _))

/-- The branch of `assertSyncRunStateInvariants` for a state. -/
def assertStateInvariants (snapshot : IntelligenceSyncRunSnapshot) :
    Except IntelligenceTransitionError Unit :=
  match snapshot.state with
  | .requested => assertRequestedInvariants snapshot
  | .fetching =>
      refuse (snapshot.startedAt = none ∨ snapshot.stage ≠ some .fetch ∨
          isPositiveSafeInteger snapshot.executionAttempt = false ∨
          snapshot.completedAt ≠ none ∨ snapshot.nextAttemptAt ≠ none ∨
          snapshot.failureCategory ≠ none ∨ snapshot.failureCode ≠ none)
        (js ("fetching requires startedAt, stage fetch, a positive attempt, and no " ++
          "completion or failure metadata."))
  | .retryWait => do
      refuse (snapshot.nextAttemptAt = none ∨ snapshot.completedAt ≠ none ∨
          snapshot.startedAt = none ∨ snapshot.failureCategory = none ∨
          snapshot.failureCode = none ∨
          isPositiveSafeInteger snapshot.executionAttempt = false)
        (js ("retry_wait requires nextAttemptAt, a positive attempt, and a retryable safe " ++
          "failure."))
      refuse (∃ failureCode ∈ snapshot.failureCode, ¬RetryableFailed failureCode ∨
          snapshot.failureCategory ≠
            some (classifyIntelligenceSafeFailure failureCode).category)
        retryWaitRequiresRetryable
  | .stored =>
      refuse (snapshot.startedAt = none ∨ snapshot.snapshotId = none ∨
          snapshot.generationId ≠ none ∨ snapshot.completedAt ≠ none)
        (js ("stored requires startedAt, snapshotId, a null generationId, and a null " ++
          "completedAt."))
  | .parsing =>
      refuse (snapshot.startedAt = none ∨ snapshot.snapshotId = none ∨
          snapshot.completedAt ≠ none)
        (js "parsing requires startedAt, snapshotId, and a null completedAt.")
  | .staging =>
      refuse (snapshot.startedAt = none ∨ snapshot.snapshotId = none ∨
          snapshot.generationId = none ∨ snapshot.completedAt ≠ none)
        (js "staging requires startedAt, snapshotId, generationId, and a null completedAt.")
  | .activating =>
      refuse (snapshot.startedAt = none ∨ snapshot.snapshotId = none ∨
          snapshot.generationId = none ∨ snapshot.completedAt ≠ none)
        (js "activating requires startedAt, snapshotId, generationId, and a null completedAt.")
  | .completed =>
      refuse (snapshot.snapshotId = none ∨ snapshot.generationId = none ∨
          snapshot.startedAt = none ∨ snapshot.completedAt = none ∨
          snapshot.acceptedEntryCount.any isNonNegativeSafeInteger = false ∨
          snapshot.warningCount.any isNonNegativeSafeInteger = false ∨
          snapshot.failureCategory ≠ none ∨ snapshot.failureCode ≠ none ∨
          snapshot.notModifiedReason ≠ none)
        (js "completed requires snapshot, generation, counts, and timestamps.")
  | .notModified =>
      refuse (snapshot.startedAt = none ∨ snapshot.completedAt = none ∨
          snapshot.priorAcceptedGenerationId = none ∨ snapshot.snapshotId ≠ none ∨
          snapshot.generationId ≠ none ∨ snapshot.notModifiedReason = none ∨
          snapshot.failureCategory ≠ none ∨ snapshot.failureCode ≠ none)
        (js ("not_modified requires a prior generation, timestamps, and no new snapshot or " ++
          "generation."))
  | .failed =>
      refuse (snapshot.completedAt = none ∨ snapshot.failureCategory = none ∨
          snapshot.failureCode = none)
        (js "failed requires completedAt and a safe failure code.")
  | .quarantined =>
      refuse (snapshot.completedAt = none ∨ snapshot.failureCategory = none ∨
          snapshot.failureCode = none)
        (js "quarantined requires completedAt and a safe quarantine code.")

/-- `assertSyncRunStateInvariants`. -/
def assertSyncRunStateInvariants (snapshot : IntelligenceSyncRunSnapshot) :
    Except IntelligenceTransitionError Unit := do
  refuse (isNonNegativeSafeInteger snapshot.executionAttempt = false)
    (js "executionAttempt must be non-negative.")
  refuse snapshot.CompletedBeforeStarted completedPrecedesStarted
  assertStateInvariants snapshot

/-- `commit`. -/
def commit (next : IntelligenceSyncRunSnapshot) :
    Except IntelligenceTransitionError IntelligenceSyncRunSnapshot := do
  assertSyncRunStateInvariants next
  .ok next

/-! ## Transitions -/

/-- `requireCurrent`. -/
def requireCurrent (current : Option IntelligenceSyncRunSnapshot) :
    Except IntelligenceTransitionError IntelligenceSyncRunSnapshot :=
  match current with
  | none => .error .invalidTransition
  | some current =>
      if current.state.isTerminal then .error .terminalState else .ok current

/-- `requestedSnapshot`. -/
def requestedSnapshot (requestedAt : Timestamp) : IntelligenceSyncRunSnapshot :=
  ⟨.requested, none, requestedAt, none, none, none, 0, none, none, none, none, none, none, none,
    none⟩

/-- `quarantinableStates`. -/
def IntelligenceSyncRunState.isQuarantinable : IntelligenceSyncRunState → Bool
  | .fetching | .stored | .parsing | .staging | .activating => true
  | _ => false

/-- `failableStates`. -/
def IntelligenceSyncRunState.isFailable : IntelligenceSyncRunState → Bool
  | .requested | .fetching | .retryWait | .stored | .parsing | .staging | .activating => true
  | _ => false

/-- The snapshot that a branch of `applyIntelligenceSyncRunTransition` commits. -/
def proposed (current : Option IntelligenceSyncRunSnapshot) :
    IntelligenceSyncRunCommand →
      Except IntelligenceTransitionError IntelligenceSyncRunSnapshot
  | .createRequested requestedAt =>
      if current.isSome then .error .invalidTransition else .ok (requestedSnapshot requestedAt)
  | .startFetching startedAt executionAttempt => do
      let existing ← requireCurrent current
      if existing.state ≠ .requested ∧ existing.state ≠ .retryWait then
        .error .invalidTransition
      else do
        refuse (isPositiveSafeInteger executionAttempt = false)
          (js "Execution attempt must be a positive safe integer.")
        refuse (existing.state = .requested ∧ executionAttempt ≠ 1)
          (js "First fetch attempt must be 1.")
        refuse (existing.state = .retryWait ∧
            executionAttempt ≠ existing.executionAttempt + 1)
          (js "Retry fetch attempt must increment the previous attempt.")
        .ok { existing with
          state := .fetching, stage := some .fetch, startedAt := some startedAt,
          completedAt := none, nextAttemptAt := none, executionAttempt,
          failureCategory := none, failureCode := none }
  | .recordRetryWait nextAttemptAt failureCode => do
      let existing ← requireCurrent current
      if existing.state ≠ .fetching then .error .invalidTransition
      else do
        refuse (¬RetryableFailed failureCode) retryWaitRequiresRetryable
        .ok { existing with
          state := .retryWait, stage := some .fetch, nextAttemptAt := some nextAttemptAt,
          completedAt := none,
          failureCategory := some (classifyIntelligenceSafeFailure failureCode).category,
          failureCode := some failureCode }
  | .recordStored snapshotId => do
      let existing ← requireCurrent current
      if existing.state ≠ .fetching then .error .invalidTransition
      else do
        refuse (snapshotId.length = 0) (js "stored runs require a snapshotId.")
        .ok { existing with
          state := .stored, stage := some .storeSnapshot, snapshotId := some snapshotId,
          completedAt := none, nextAttemptAt := none, failureCategory := none,
          failureCode := none }
  | .startParsing => do
      let existing ← requireCurrent current
      refuse (existing.state ≠ .stored ∨ existing.snapshotId = none)
        (js "parsing requires a stored snapshotId.")
      .ok { existing with state := .parsing, stage := some .parse, completedAt := none }
  | .startStaging generationId => do
      let existing ← requireCurrent current
      refuse (existing.state ≠ .parsing ∨ existing.snapshotId = none)
        (js "staging requires parsing with a snapshotId.")
      refuse (generationId.length = 0) (js "staging requires a generationId.")
      .ok { existing with
        state := .staging, stage := some .stageGeneration, generationId := some generationId,
        completedAt := none }
  | .startActivating warningCount => do
      let existing ← requireCurrent current
      refuse (existing.state ≠ .staging ∨ existing.snapshotId = none ∨
          existing.generationId = none)
        (js "activating requires snapshotId and generationId.")
      refuse (isNonNegativeSafeInteger warningCount = false)
        (js "activating requires a non-negative safe warning count.")
      .ok { existing with
        state := .activating, stage := some .activateGeneration, completedAt := none,
        warningCount := some warningCount }
  | .complete completedAt acceptedEntryCount warningCount => do
      let existing ← requireCurrent current
      if existing.state ≠ .activating then .error .invalidTransition
      else do
        refuse (existing.snapshotId = none ∨ existing.generationId = none)
          (js "completed runs require snapshotId and generationId.")
        refuse (isNonNegativeSafeInteger acceptedEntryCount = false ∨
            isNonNegativeSafeInteger warningCount = false)
          (js "completed runs require non-negative safe final counts.")
        .ok { existing with
          state := .completed, stage := some .finalize, completedAt := some completedAt,
          acceptedEntryCount := some acceptedEntryCount, warningCount := some warningCount,
          failureCategory := none, failureCode := none, nextAttemptAt := none,
          notModifiedReason := none }
  | .completeNotModified completedAt priorAcceptedGenerationId reason => do
      let existing ← requireCurrent current
      if existing.state ≠ .fetching then .error .invalidTransition
      else do
        refuse (existing.snapshotId ≠ none ∨ existing.generationId ≠ none)
          (js "not_modified runs must not create a new snapshot or generation.")
        refuse (priorAcceptedGenerationId.length = 0)
          (js "not_modified requires a prior accepted generation.")
        .ok { existing with
          state := .notModified, stage := some .finalize, completedAt := some completedAt,
          priorAcceptedGenerationId := some priorAcceptedGenerationId,
          notModifiedReason := some reason, snapshotId := none, generationId := none,
          failureCategory := none, failureCode := none, nextAttemptAt := none }
  | .fail completedAt failureCode => do
      let existing ← requireCurrent current
      if existing.state.isFailable = false then .error .invalidTransition
      else do
        refuse ((classifyIntelligenceSafeFailure failureCode).disposition ≠ .failed)
          (js "failed terminal state requires a failed-disposition code.")
        .ok { existing with
          state := .failed, completedAt := some completedAt,
          failureCategory := some (classifyIntelligenceSafeFailure failureCode).category,
          failureCode := some failureCode, nextAttemptAt := none }
  | .quarantine completedAt failureCode => do
      let existing ← requireCurrent current
      if existing.state.isQuarantinable = false then .error .invalidTransition
      else do
        refuse ((classifyIntelligenceSafeFailure failureCode).disposition ≠ .quarantined)
          (js "quarantined terminal state requires a quarantine-disposition code.")
        refuse (isIntelligenceQuarantineCategory
            (classifyIntelligenceSafeFailure failureCode).category = false)
          (js ("quarantined runs require a content, integrity, schema, structural, parser, " ++
            "or catalog-regression category."))
        refuse (existing.state = .fetching ∧ existing.snapshotId ≠ none)
          (js "fetching to quarantined is truthful only when no snapshotId has been assigned.")
        .ok { existing with
          state := .quarantined, completedAt := some completedAt,
          failureCategory := some (classifyIntelligenceSafeFailure failureCode).category,
          failureCode := some failureCode, nextAttemptAt := none }

/-- `applyIntelligenceSyncRunTransition`. -/
def applyIntelligenceSyncRunTransition (current : Option IntelligenceSyncRunSnapshot)
    (command : IntelligenceSyncRunCommand) :
    Except IntelligenceTransitionError IntelligenceSyncRunSnapshot := do
  let next ← proposed current command
  commit next

end PatchPilot.Intelligence
