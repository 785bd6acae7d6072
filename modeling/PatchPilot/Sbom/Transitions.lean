import PatchPilot.Foundation.Fallible
import PatchPilot.Sbom.Component
import PatchPilot.Sbom.Failures

set_option autoImplicit false

/-!
# Sbom: the life of an ingestion (`transitions.ts`, `lifecycle.ts`, `errors.ts`)

An ingestion is accepted, queued and processed; processing ends in one of four terminal
states or is released for a retry.
-/

namespace PatchPilot.Sbom

open PatchPilot.Foundation

/-- A point in time, in milliseconds. -/
abbrev Timestamp := Int

/-! ## States -/

/-- `SbomIngestionState`. -/
inductive SbomIngestionState
  | accepted | queued | processing | completed | rejected | quarantined | failed | duplicate
  deriving DecidableEq

/-- `SbomIngestionStage`. -/
inductive SbomIngestionStage
  | validate | parse | persistGraph | correlate | enrich | score
  deriving DecidableEq

/-- `isSession8TerminalState`. -/
def SbomIngestionState.isTerminal : SbomIngestionState → Bool
  | .completed | .rejected | .quarantined | .failed => true
  | _ => false

/-- `isSession8IngestionStage`. -/
def SbomIngestionStage.isSession8 : SbomIngestionStage → Bool
  | .validate | .parse | .persistGraph => true
  | _ => false

/-- `isSession8UnusedIngestionStage`. -/
def SbomIngestionStage.isUnused : SbomIngestionStage → Bool
  | .correlate | .enrich | .score => true
  | _ => false

/-- `Session8IngestionSnapshot`.  The category of a failure is that of its code. -/
structure Session8IngestionSnapshot where
  state : SbomIngestionState
  stage : Option SbomIngestionStage
  startedAt : Option Timestamp
  completedAt : Option Timestamp
  graphCompleteness : Option GraphCompleteness
  componentCount : Option Nat
  dependencyEdgeCount : Option Nat
  warningCount : Option Nat
  failureCode : Option SafeFailureCode
  deriving DecidableEq

/-- `Session8IngestionCommand`. -/
inductive Session8IngestionCommand
  | createAccepted
  | queue
  | startProcessing (startedAt : Timestamp) (stage : SbomIngestionStage)
  | releaseForRetry (failureCode : SafeFailureCode)
  | complete (completedAt : Timestamp) (graphCompleteness : GraphCompleteness)
      (componentCount dependencyEdgeCount warningCount : Nat)
  | reject (completedAt : Timestamp) (failureCode : SafeFailureCode)
  | quarantine (completedAt : Timestamp) (failureCode : SafeFailureCode)
  | fail (completedAt : Timestamp) (failureCode : SafeFailureCode)
  deriving DecidableEq

/-- The errors of transitions and of persistence. -/
inductive SbomError
  | invalidTransition | terminalState | duplicateStateForbidden | processingRequiresStartedAt
  | completedRequirements | unsupportedStage | invalidGraph | validation
  deriving DecidableEq

/-- The `code` of an error is `validation`; otherwise it is `conflict`. -/
def SbomError.isValidation : SbomError → Bool
  | .invalidTransition | .terminalState | .duplicateStateForbidden => false
  | _ => true

/-! ## Transitions -/

/-- `acceptedSnapshot`. -/
def acceptedSnapshot : Session8IngestionSnapshot :=
  ⟨.accepted, none, none, none, none, none, none, none, none⟩

/-- `requireCurrent`. -/
def requireCurrent (current : Option Session8IngestionSnapshot) :
    Except SbomError Session8IngestionSnapshot :=
  match current with
  | none => .error .invalidTransition
  | some current =>
      if current.state = .duplicate then .error .duplicateStateForbidden
      else if current.state.isTerminal then .error .terminalState
      else if current.stage.any SbomIngestionStage.isUnused then .error .unsupportedStage
      else .ok current

/-- `requireProcessing`. -/
def requireProcessing (current : Session8IngestionSnapshot) :
    Except SbomError Session8IngestionSnapshot :=
  if current.state ≠ .processing then .error .invalidTransition
  else if current.startedAt = none then .error .processingRequiresStartedAt
  else .ok current

/-- The branch of `reject`, `quarantine` and `fail`, with what the command demands of the
failure code and the state it leads to. -/
def endProcessing (current : Option Session8IngestionSnapshot)
    (expectedOutcome : SafeFailureOutcome) (state : SbomIngestionState)
    (completedAt : Timestamp) (failureCode : SafeFailureCode) :
    Except SbomError Session8IngestionSnapshot := do
  let existing ← requireCurrent current
  let processing ← requireProcessing existing
  if failureCode.outcome ≠ expectedOutcome then .error .validation
  else .ok { processing with
    state, completedAt := some completedAt, failureCode := some failureCode }

/-- `applySession8IngestionTransition`. -/
def applySession8IngestionTransition (current : Option Session8IngestionSnapshot) :
    Session8IngestionCommand → Except SbomError Session8IngestionSnapshot
  | .createAccepted =>
      if current.isSome then .error .invalidTransition else .ok acceptedSnapshot
  | .queue => do
      let existing ← requireCurrent current
      if existing.state ≠ .accepted then .error .invalidTransition
      else .ok { existing with state := .queued }
  | .startProcessing startedAt stage => do
      let existing ← requireCurrent current
      if existing.state ≠ .accepted ∧ existing.state ≠ .queued then .error .invalidTransition
      else if stage.isSession8 = false then .error .unsupportedStage
      else .ok { existing with
        state := .processing, stage := some stage, startedAt := some startedAt,
        completedAt := none }
  | .releaseForRetry failureCode => do
      let existing ← requireCurrent current
      let processing ← requireProcessing existing
      if failureCode.outcome ≠ .retryableInfrastructure then .error .validation
      else .ok { processing with state := .queued, startedAt := none, failureCode := none }
  | .complete completedAt graphCompleteness componentCount dependencyEdgeCount warningCount => do
      let existing ← requireCurrent current
      let processing ← requireProcessing existing
      if graphCompletenessMatchesCounts graphCompleteness componentCount dependencyEdgeCount =
          false then .error .completedRequirements
      else .ok { processing with
        state := .completed, stage := some .persistGraph, completedAt := some completedAt,
        graphCompleteness := some graphCompleteness, componentCount := some componentCount,
        dependencyEdgeCount := some dependencyEdgeCount, warningCount := some warningCount,
        failureCode := none }
  | .reject completedAt failureCode =>
      endProcessing current .rejected .rejected completedAt failureCode
  | .quarantine completedAt failureCode =>
      endProcessing current .quarantined .quarantined completedAt failureCode
  | .fail completedAt failureCode =>
      endProcessing current .terminalInternal .failed completedAt failureCode

/-! ## What a transition does -/

/-- The state to which a command leads. -/
def Session8IngestionCommand.target : Session8IngestionCommand → SbomIngestionState
  | .createAccepted => .accepted
  | .queue => .queued
  | .startProcessing _ _ => .processing
  | .releaseForRetry _ => .queued
  | .complete _ _ _ _ _ => .completed
  | .reject _ _ => .rejected
  | .quarantine _ _ => .quarantined
  | .fail _ _ => .failed

/-- A snapshot from which transitions start. -/
structure Session8IngestionSnapshot.Open (snapshot : Session8IngestionSnapshot) : Prop where
  notDuplicate : snapshot.state ≠ .duplicate
  notTerminal : snapshot.state.isTerminal = false
  stage : snapshot.stage.any SbomIngestionStage.isUnused = false

theorem requireCurrent_eq_ok {current snapshot : Session8IngestionSnapshot} :
    requireCurrent (some current) = .ok snapshot ↔ current.Open ∧ snapshot = current := by
  unfold requireCurrent
  split
  · cases ‹some current = none›
  · rename_i found hfound
    cases hfound
    split
    · rename_i hduplicate
      exact iff_of_false nofun fun h => h.1.notDuplicate hduplicate
    · rename_i hduplicate
      split
      · rename_i hterminal
        refine iff_of_false nofun fun h => ?_
        have hopen := h.1.notTerminal
        rw [hterminal] at hopen
        cases hopen
      · rename_i hterminal
        split
        · rename_i hstage
          refine iff_of_false nofun fun h => ?_
          have hopen := h.1.stage
          rw [hstage] at hopen
          cases hopen
        · rename_i hstage
          constructor
          · intro h
            cases h
            exact ⟨⟨hduplicate, Bool.eq_false_iff.mpr hterminal,
              Bool.eq_false_iff.mpr hstage⟩, rfl⟩
          · rintro ⟨-, rfl⟩
            rfl

theorem requireProcessing_eq_ok {current snapshot : Session8IngestionSnapshot} :
    requireProcessing current = .ok snapshot ↔
      current.state = .processing ∧ current.startedAt ≠ none ∧ snapshot = current := by
  unfold requireProcessing
  split
  · rename_i hstate
    exact iff_of_false nofun fun h => hstate h.1
  · rename_i hstate
    split
    · rename_i hstarted
      exact iff_of_false nofun fun h => h.2.1 hstarted
    · rename_i hstarted
      constructor
      · intro h
        cases h
        exact ⟨not_not.mp hstate, hstarted, rfl⟩
      · rintro ⟨-, -, rfl⟩
        rfl

/-- What a transition that succeeds started from, and where it led. -/
structure Transitioned (current : Session8IngestionSnapshot)
    (command : Session8IngestionCommand) (next : Session8IngestionSnapshot) : Prop where
  opened : current.Open
  state : next.state = command.target
  stage : next.stage.any SbomIngestionStage.isUnused = false

theorem endProcessing_eq_ok {current next : Session8IngestionSnapshot}
    {expectedOutcome : SafeFailureOutcome} {state : SbomIngestionState}
    {completedAt : Timestamp} {failureCode : SafeFailureCode}
    (h : endProcessing (some current) expectedOutcome state completedAt failureCode =
      .ok next) :
    current.Open ∧ current.state = .processing ∧ next.state = state ∧
      next.stage = current.stage := by
  unfold endProcessing at h
  obtain ⟨existing, hexisting, hrest⟩ := bind_eq_ok.mp h
  obtain ⟨hopen, rfl⟩ := requireCurrent_eq_ok.mp hexisting
  obtain ⟨processing, hprocessing, hend⟩ := bind_eq_ok.mp hrest
  obtain ⟨hstate, -, rfl⟩ := requireProcessing_eq_ok.mp hprocessing
  split at hend
  · cases hend
  · cases hend
    exact ⟨hopen, hstate, rfl, rfl⟩

theorem isUnused_of_isSession8 {stage : SbomIngestionStage} (h : stage.isSession8 = true) :
    stage.isUnused = false := by
  cases stage with
  | validate => rfl
  | parse => rfl
  | persistGraph => rfl
  | correlate => cases h
  | enrich => cases h
  | score => cases h

/-- Every transition from a state that is there starts from an open one and leads to the
state of its command, and it leaves the stage inside the ones that are used. -/
theorem transitioned_of_eq_ok {current next : Session8IngestionSnapshot}
    {command : Session8IngestionCommand}
    (h : applySession8IngestionTransition (some current) command = .ok next) :
    Transitioned current command next := by
  unfold applySession8IngestionTransition at h
  cases command with
  | createAccepted => cases h
  | queue =>
      obtain ⟨existing, hexisting, hrest⟩ := bind_eq_ok.mp h
      obtain ⟨hopen, rfl⟩ := requireCurrent_eq_ok.mp hexisting
      split at hrest
      · cases hrest
      · cases hrest
        exact ⟨hopen, rfl, hopen.stage⟩
  | startProcessing startedAt stage =>
      obtain ⟨existing, hexisting, hrest⟩ := bind_eq_ok.mp h
      obtain ⟨hopen, rfl⟩ := requireCurrent_eq_ok.mp hexisting
      split at hrest
      · cases hrest
      · split at hrest
        · cases hrest
        · rename_i hstage
          cases hrest
          exact ⟨hopen, rfl, isUnused_of_isSession8 (eq_true_of_ne_false hstage)⟩
  | releaseForRetry failureCode =>
      obtain ⟨existing, hexisting, hrest⟩ := bind_eq_ok.mp h
      obtain ⟨hopen, rfl⟩ := requireCurrent_eq_ok.mp hexisting
      obtain ⟨processing, hprocessing, hend⟩ := bind_eq_ok.mp hrest
      obtain ⟨-, -, rfl⟩ := requireProcessing_eq_ok.mp hprocessing
      split at hend
      · cases hend
      · cases hend
        exact ⟨hopen, rfl, hopen.stage⟩
  | complete completedAt graphCompleteness componentCount dependencyEdgeCount warningCount =>
      obtain ⟨existing, hexisting, hrest⟩ := bind_eq_ok.mp h
      obtain ⟨hopen, rfl⟩ := requireCurrent_eq_ok.mp hexisting
      obtain ⟨processing, hprocessing, hend⟩ := bind_eq_ok.mp hrest
      obtain ⟨-, -, rfl⟩ := requireProcessing_eq_ok.mp hprocessing
      split at hend
      · cases hend
      · cases hend
        exact ⟨hopen, rfl, rfl⟩
  | reject completedAt failureCode =>
      obtain ⟨hopen, -, hstate, hstage⟩ := endProcessing_eq_ok h
      exact ⟨hopen, hstate, by rw [hstage]; exact hopen.stage⟩
  | quarantine completedAt failureCode =>
      obtain ⟨hopen, -, hstate, hstage⟩ := endProcessing_eq_ok h
      exact ⟨hopen, hstate, by rw [hstage]; exact hopen.stage⟩
  | fail completedAt failureCode =>
      obtain ⟨hopen, -, hstate, hstage⟩ := endProcessing_eq_ok h
      exact ⟨hopen, hstate, by rw [hstage]; exact hopen.stage⟩

/-- A completion of an ingestion that is being processed is refused for its counts only. -/
theorem complete_eq_ok {current : Session8IngestionSnapshot} {completedAt : Timestamp}
    {graphCompleteness : GraphCompleteness}
    {componentCount dependencyEdgeCount warningCount : Nat}
    (hstate : current.state = .processing) (hstarted : current.startedAt ≠ none)
    (hstage : current.stage.any SbomIngestionStage.isUnused = false)
    (hcounts : graphCompletenessMatchesCounts graphCompleteness componentCount
      dependencyEdgeCount = true) :
    applySession8IngestionTransition (some current)
        (.complete completedAt graphCompleteness componentCount dependencyEdgeCount
          warningCount) =
      .ok { current with
        state := .completed, stage := some .persistGraph, completedAt := some completedAt,
        graphCompleteness := some graphCompleteness, componentCount := some componentCount,
        dependencyEdgeCount := some dependencyEdgeCount, warningCount := some warningCount,
        failureCode := none } := by
  have hopen : current.Open := ⟨by rw [hstate]; decide, by rw [hstate]; rfl, hstage⟩
  refine bind_eq_ok.mpr ⟨current, requireCurrent_eq_ok.mpr ⟨hopen, rfl⟩, ?_⟩
  refine bind_eq_ok.mpr ⟨current, requireProcessing_eq_ok.mpr ⟨hstate, hstarted, rfl⟩, ?_⟩
  exact if_neg (by rw [hcounts]; exact Bool.noConfusion)

end PatchPilot.Sbom
