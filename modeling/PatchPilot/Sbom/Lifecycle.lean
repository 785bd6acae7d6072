import Mathlib.Data.Rat.Defs
import PatchPilot.Foundation.Runs
import PatchPilot.Foundation.JsValue
import PatchPilot.Sbom.Transitions

set_option autoImplicit false

/-!
# Sbom: every ingestion (`transitions.ts`)

The snapshots and commands of `applySession8IngestionTransition` with all their fields: the
counts of a command are numbers of any kind, and a failure has a category beside its code.
On counts that are natural numbers this is the transition that the persistence uses.

Whatever commands an ingestion is given, its snapshot has the shape of its state.
-/

namespace PatchPilot.Sbom

open PatchPilot.Foundation

/-- `SafeFailureCategory`. -/
inductive SafeFailureCategory
  | validation | limit | storage | timeout | poison | internal
  deriving DecidableEq

/-- The categories of `safeFailureCatalog`. -/
def SafeFailureCode.category : SafeFailureCode → SafeFailureCategory
  | .payloadTooLarge | .jsonDepth | .jsonNodes | .jsonStringLength | .componentLimit
  | .edgeLimit | .identifierLength | .toolLimit | .referenceLimit | .propertyLimit
  | .normalizedOutputTooLarge => .limit
  | .contentType | .utf8 | .jsonSyntax | .notCyclonedx | .unsupportedSpecVersion
  | .schemaInvalid | .duplicateBomRef | .unresolvedDependencyRef | .invalidPurl
  | .componentVersionConflict | .componentHashConflict
  | .unsupportedNormalizationVersion => .validation
  | .prototypePollution | .parserCrash => .poison
  | .hashMismatch | .objectMissing | .storageTimeout => .storage
  | .parserTimeout | .queueUnavailable => .timeout
  | .processingFailed => .internal

namespace Lifecycle

/-! ## Snapshots and commands -/

/-- `Session8IngestionSnapshot`. -/
structure Session8IngestionSnapshot where
  state : SbomIngestionState
  stage : Option SbomIngestionStage
  startedAt : Option Timestamp
  completedAt : Option Timestamp
  graphCompleteness : Option GraphCompleteness
  componentCount : Option JsNumber
  dependencyEdgeCount : Option JsNumber
  warningCount : Option JsNumber
  failureCategory : Option SafeFailureCategory
  failureCode : Option SafeFailureCode
  deriving DecidableEq

/-- `Session8IngestionCommand`. -/
inductive Session8IngestionCommand
  | createAccepted
  | queue
  | startProcessing (startedAt : Timestamp) (stage : SbomIngestionStage)
  | releaseForRetry (failureCode : SafeFailureCode)
  | complete (completedAt : Timestamp) (graphCompleteness : GraphCompleteness)
      (componentCount dependencyEdgeCount warningCount : JsNumber)
  | reject (completedAt : Timestamp) (failureCode : SafeFailureCode)
  | quarantine (completedAt : Timestamp) (failureCode : SafeFailureCode)
  | fail (completedAt : Timestamp) (failureCode : SafeFailureCode)
  deriving DecidableEq

/-- `Number.isInteger(value) && value >= 0`. -/
def isNonNegativeInteger : JsNumber → Bool
  | .finite value => decide (value.den = 1 ∧ 0 ≤ value)
  | _ => false

/-- `value === 0`. -/
def isZero : JsNumber → Bool
  | .finite value => decide (value = 0)
  | _ => false

/-- `value > 0`. -/
def isPositive : JsNumber → Bool
  | .finite value => decide (0 < value)
  | .infinity negative => !negative
  | .nan => false

/-- `graphCompletenessMatchesCounts`. -/
def graphCompletenessMatchesCounts (completeness : GraphCompleteness)
    (componentCount dependencyEdgeCount : JsNumber) : Bool :=
  match completeness with
  | .empty => isZero componentCount && isZero dependencyEdgeCount
  | .noDependencies => isPositive componentCount && isZero dependencyEdgeCount
  | .partialGraph | .complete => isPositive componentCount && isPositive dependencyEdgeCount

/-- `countsAreValid`. -/
def countsAreValid (completeness : GraphCompleteness)
    (componentCount dependencyEdgeCount warningCount : JsNumber) : Bool :=
  isNonNegativeInteger componentCount && isNonNegativeInteger dependencyEdgeCount &&
    isNonNegativeInteger warningCount &&
      graphCompletenessMatchesCounts completeness componentCount dependencyEdgeCount

/-! ## Transitions -/

/-- `acceptedSnapshot`. -/
def acceptedSnapshot : Session8IngestionSnapshot :=
  ⟨.accepted, none, none, none, none, none, none, none, none, none⟩

/-- `requireCurrent`. -/
def requireCurrent (current : Option Session8IngestionSnapshot) :
    Except SbomError Session8IngestionSnapshot :=
  match current with
  | none => .error .invalidTransition
  | some current =>
      if current.state = .duplicate then .error .duplicateStateForbidden
      else if current.state.isTerminal then .error .terminalState
      else if current.stage.any SbomIngestionStage.isUnused then .error .unsupportedStage
      else .ok current

/-- `requireProcessing`. -/
def requireProcessing (current : Session8IngestionSnapshot) :
    Except SbomError Session8IngestionSnapshot :=
  if current.state ≠ .processing then .error .invalidTransition
  else if current.startedAt = none then .error .processingRequiresStartedAt
  else .ok current

/-- The branch of `reject`, `quarantine` and `fail`, with what the command demands of the
failure code and the state it leads to. -/
def endProcessing (current : Option Session8IngestionSnapshot)
    (expectedOutcome : SafeFailureOutcome) (state : SbomIngestionState)
    (completedAt : Timestamp) (failureCode : SafeFailureCode) :
    Except SbomError Session8IngestionSnapshot := do
  let existing ← requireCurrent current
  let processing ← requireProcessing existing
  if failureCode.outcome ≠ expectedOutcome then .error .validation
  else .ok { processing with
    state, completedAt := some completedAt, failureCategory := some failureCode.category,
    failureCode := some failureCode }

/-- `applySession8IngestionTransition`. -/
def applySession8IngestionTransition (current : Option Session8IngestionSnapshot) :
    Session8IngestionCommand → Except SbomError Session8IngestionSnapshot
  | .createAccepted =>
      if current.isSome then .error .invalidTransition else .ok acceptedSnapshot
  | .queue => do
      let existing ← requireCurrent current
      if existing.state ≠ .accepted then .error .invalidTransition
      else .ok { existing with state := .queued }
  | .startProcessing startedAt stage => do
      let existing ← requireCurrent current
      if existing.state ≠ .accepted ∧ existing.state ≠ .queued then .error .invalidTransition
      else if stage.isSession8 = false then .error .unsupportedStage
      else .ok { existing with
        state := .processing, stage := some stage, startedAt := some startedAt,
        completedAt := none }
  | .releaseForRetry failureCode => do
      let existing ← requireCurrent current
      let processing ← requireProcessing existing
      if failureCode.outcome ≠ .retryableInfrastructure then .error .validation
      else .ok { processing with
        state := .queued, startedAt := none, failureCategory := none, failureCode := none }
  | .complete completedAt graphCompleteness componentCount dependencyEdgeCount warningCount => do
      let existing ← requireCurrent current
      let processing ← requireProcessing existing
      if countsAreValid graphCompleteness componentCount dependencyEdgeCount warningCount = false
      then .error .completedRequirements
      else .ok { processing with
        state := .completed, stage := some .persistGraph, completedAt := some completedAt,
        graphCompleteness := some graphCompleteness, componentCount := some componentCount,
        dependencyEdgeCount := some dependencyEdgeCount, warningCount := some warningCount,
        failureCategory := none, failureCode := none }
  | .reject completedAt failureCode =>
      endProcessing current .rejected .rejected completedAt failureCode
  | .quarantine completedAt failureCode =>
      endProcessing current .quarantined .quarantined completedAt failureCode
  | .fail completedAt failureCode =>
      endProcessing current .terminalInternal .failed completedAt failureCode

/-! ## Counts that are natural numbers -/

theorem isNonNegativeInteger_iff {value : JsNumber} :
    isNonNegativeInteger value = true ↔ ∃ n : Nat, value = .finite n := by
  cases value with
  | finite q =>
      unfold isNonNegativeInteger
      rw [decide_eq_true_iff]
      constructor
      · rintro ⟨hden, hnonneg⟩
        have hnum : 0 ≤ q.num := Rat.num_nonneg.mpr hnonneg
        refine ⟨q.num.toNat, congrArg JsNumber.finite ?_⟩
        have hint : q = (q.num : Rat) := (Rat.den_eq_one_iff q).mp hden |>.symm
        rw [hint]
        have hcast : ((q.num.toNat : Int) : Rat) = (q.num : Rat) := by
          rw [Int.toNat_of_nonneg hnum]
        exact_mod_cast hcast.symm
      · rintro ⟨n, hn⟩
        cases hn
        exact ⟨Rat.den_natCast n, Rat.natCast_nonneg⟩
  | nan => exact iff_of_false nofun nofun
  | infinity negative => exact iff_of_false nofun nofun

@[simp] theorem isZero_natCast (n : Nat) : isZero (.finite n) = decide (n = 0) := by
  unfold isZero
  exact decide_eq_decide.mpr Rat.natCast_eq_zero_iff

@[simp] theorem isPositive_natCast (n : Nat) : isPositive (.finite n) = decide (0 < n) := by
  unfold isPositive
  exact decide_eq_decide.mpr Rat.natCast_pos

theorem graphCompletenessMatchesCounts_natCast (completeness : GraphCompleteness) (n k : Nat) :
    graphCompletenessMatchesCounts completeness (.finite n) (.finite k) =
      Sbom.graphCompletenessMatchesCounts completeness n k := by
  cases completeness <;>
    simp [graphCompletenessMatchesCounts, Sbom.graphCompletenessMatchesCounts]

theorem countsAreValid_natCast (completeness : GraphCompleteness) (n k w : Nat) :
    countsAreValid completeness (.finite n) (.finite k) (.finite w) =
      Sbom.graphCompletenessMatchesCounts completeness n k := by
  unfold countsAreValid
  rw [graphCompletenessMatchesCounts_natCast, isNonNegativeInteger_iff.mpr ⟨n, rfl⟩,
    isNonNegativeInteger_iff.mpr ⟨k, rfl⟩, isNonNegativeInteger_iff.mpr ⟨w, rfl⟩]
  rfl

/-- Counts that are valid are natural numbers that match the completeness. -/
theorem countsAreValid_iff {completeness : GraphCompleteness}
    {componentCount dependencyEdgeCount warningCount : JsNumber} :
    countsAreValid completeness componentCount dependencyEdgeCount warningCount = true ↔
      ∃ n k w : Nat, componentCount = .finite n ∧ dependencyEdgeCount = .finite k ∧
        warningCount = .finite w ∧
          Sbom.graphCompletenessMatchesCounts completeness n k = true := by
  constructor
  · intro h
    have hparts := h
    simp only [countsAreValid, Bool.and_eq_true] at hparts
    obtain ⟨⟨⟨hcomponents, hedges⟩, hwarnings⟩, -⟩ := hparts
    obtain ⟨n, rfl⟩ := isNonNegativeInteger_iff.mp hcomponents
    obtain ⟨k, rfl⟩ := isNonNegativeInteger_iff.mp hedges
    obtain ⟨w, rfl⟩ := isNonNegativeInteger_iff.mp hwarnings
    exact ⟨n, k, w, rfl, rfl, rfl, (countsAreValid_natCast completeness n k w).symm.trans h⟩
  · rintro ⟨n, k, w, rfl, rfl, rfl, h⟩
    exact (countsAreValid_natCast completeness n k w).trans h

/-! ## The transition of the persistence -/

/-- A snapshot with its category and with its counts as numbers. -/
def ofSnapshot (snapshot : Sbom.Session8IngestionSnapshot) : Session8IngestionSnapshot :=
  ⟨snapshot.state, snapshot.stage, snapshot.startedAt, snapshot.completedAt,
    snapshot.graphCompleteness, snapshot.componentCount.map fun n : Nat => .finite n,
    snapshot.dependencyEdgeCount.map fun n : Nat => .finite n,
    snapshot.warningCount.map fun n : Nat => .finite n,
    snapshot.failureCode.map SafeFailureCode.category, snapshot.failureCode⟩

/-- A command with its counts as numbers. -/
def ofCommand : Sbom.Session8IngestionCommand → Session8IngestionCommand
  | .createAccepted => .createAccepted
  | .queue => .queue
  | .startProcessing startedAt stage => .startProcessing startedAt stage
  | .releaseForRetry failureCode => .releaseForRetry failureCode
  | .complete completedAt graphCompleteness componentCount dependencyEdgeCount warningCount =>
      .complete completedAt graphCompleteness (.finite componentCount)
        (.finite dependencyEdgeCount) (.finite warningCount)
  | .reject completedAt failureCode => .reject completedAt failureCode
  | .quarantine completedAt failureCode => .quarantine completedAt failureCode
  | .fail completedAt failureCode => .fail completedAt failureCode

theorem requireCurrent_ofSnapshot (current : Option Sbom.Session8IngestionSnapshot) :
    requireCurrent (current.map ofSnapshot) = (Sbom.requireCurrent current).map ofSnapshot := by
  cases current with
  | none => rfl
  | some current =>
      unfold requireCurrent Sbom.requireCurrent
      dsimp only [Option.map_some, ofSnapshot]
      split
      · rfl
      · split
        · rfl
        · split <;> rfl

theorem requireProcessing_ofSnapshot (current : Sbom.Session8IngestionSnapshot) :
    requireProcessing (ofSnapshot current) = (Sbom.requireProcessing current).map ofSnapshot := by
  unfold requireProcessing Sbom.requireProcessing
  by_cases hstate : current.state = .processing
  · have hof : (ofSnapshot current).state = .processing := hstate
    rw [if_neg (not_not.mpr hstate), if_neg (not_not.mpr hof)]
    by_cases hstarted : current.startedAt = none
    · have hof' : (ofSnapshot current).startedAt = none := hstarted
      rw [if_pos hstarted, if_pos hof']
      rfl
    · have hof' : (ofSnapshot current).startedAt ≠ none := hstarted
      rw [if_neg hstarted, if_neg hof']
      rfl
  · have hof : (ofSnapshot current).state ≠ .processing := hstate
    rw [if_pos hstate, if_pos hof]
    rfl

/-- A computation that goes on after one whose result was changed. -/
theorem map_bind_comm {ε α α' β β' : Type} {x : Except ε α} {x' : Except ε α'} {f : α → α'}
    {g : β → β'} {next : α → Except ε β} {next' : α' → Except ε β'} (hx : x' = x.map f)
    (hnext : ∀ a, next' (f a) = (next a).map g) : x' >>= next' = (x >>= next).map g := by
  subst hx
  cases x with
  | error e => rfl
  | ok a => exact hnext a

theorem endProcessing_ofSnapshot (current : Option Sbom.Session8IngestionSnapshot)
    (expectedOutcome : SafeFailureOutcome) (state : SbomIngestionState)
    (completedAt : Timestamp) (failureCode : SafeFailureCode) :
    endProcessing (current.map ofSnapshot) expectedOutcome state completedAt failureCode =
      (Sbom.endProcessing current expectedOutcome state completedAt failureCode).map
        ofSnapshot := by
  refine map_bind_comm (requireCurrent_ofSnapshot current) fun existing => ?_
  refine map_bind_comm (requireProcessing_ofSnapshot existing) fun processing => ?_
  split <;> rfl

/-- On counts that are natural numbers the transition is the one of the persistence. -/
theorem applySession8IngestionTransition_ofSnapshot
    (current : Option Sbom.Session8IngestionSnapshot) (command : Sbom.Session8IngestionCommand) :
    applySession8IngestionTransition (current.map ofSnapshot) (ofCommand command) =
      (Sbom.applySession8IngestionTransition current command).map ofSnapshot := by
  cases command with
  | createAccepted => cases current <;> rfl
  | queue =>
      refine map_bind_comm (requireCurrent_ofSnapshot current) fun existing => ?_
      dsimp only [ofSnapshot]
      split <;> rfl
  | startProcessing startedAt stage =>
      refine map_bind_comm (requireCurrent_ofSnapshot current) fun existing => ?_
      dsimp only [ofSnapshot]
      split
      · rfl
      · split <;> rfl
  | releaseForRetry failureCode =>
      refine map_bind_comm (requireCurrent_ofSnapshot current) fun existing => ?_
      refine map_bind_comm (requireProcessing_ofSnapshot existing) fun processing => ?_
      split <;> rfl
  | complete completedAt graphCompleteness componentCount dependencyEdgeCount warningCount =>
      refine map_bind_comm (requireCurrent_ofSnapshot current) fun existing => ?_
      refine map_bind_comm (requireProcessing_ofSnapshot existing) fun processing => ?_
      rw [countsAreValid_natCast]
      split <;> rfl
  | reject completedAt failureCode => exact endProcessing_ofSnapshot current _ _ _ _
  | quarantine completedAt failureCode => exact endProcessing_ofSnapshot current _ _ _ _
  | fail completedAt failureCode => exact endProcessing_ofSnapshot current _ _ _ _

/-! ## The shape of a state -/

namespace Session8IngestionSnapshot

/-- There are no counts. -/
structure WithoutCounts (snapshot : Session8IngestionSnapshot) : Prop where
  graphCompleteness : snapshot.graphCompleteness = none
  componentCount : snapshot.componentCount = none
  dependencyEdgeCount : snapshot.dependencyEdgeCount = none
  warningCount : snapshot.warningCount = none

/-- There is no failure. -/
structure WithoutFailure (snapshot : Session8IngestionSnapshot) : Prop where
  category : snapshot.failureCategory = none
  code : snapshot.failureCode = none

/-- There is a failure with an outcome, and with the category of its code. -/
def FailedWith (outcome : SafeFailureOutcome) (snapshot : Session8IngestionSnapshot) : Prop :=
  ∃ code, snapshot.failureCode = some code ∧ snapshot.failureCategory = some code.category ∧
    code.outcome = outcome

/-- There are counts that are natural numbers and match the completeness. -/
def Counted (snapshot : Session8IngestionSnapshot) : Prop :=
  ∃ completeness, ∃ n k w : Nat, snapshot.graphCompleteness = some completeness ∧
    snapshot.componentCount = some (.finite n) ∧
      snapshot.dependencyEdgeCount = some (.finite k) ∧
        snapshot.warningCount = some (.finite w) ∧
          Sbom.graphCompletenessMatchesCounts completeness n k = true

/-- What a snapshot satisfies in a state. -/
def ShapeIn (snapshot : Session8IngestionSnapshot) : SbomIngestionState → Prop
  | .accepted | .queued =>
      snapshot.startedAt = none ∧ snapshot.completedAt = none ∧ snapshot.WithoutCounts ∧
        snapshot.WithoutFailure
  | .processing =>
      snapshot.startedAt ≠ none ∧ snapshot.completedAt = none ∧ snapshot.WithoutCounts ∧
        snapshot.WithoutFailure
  | .completed => snapshot.Counted ∧ snapshot.WithoutFailure
  | .rejected =>
      snapshot.completedAt ≠ none ∧ snapshot.WithoutCounts ∧ snapshot.FailedWith .rejected
  | .quarantined =>
      snapshot.completedAt ≠ none ∧ snapshot.WithoutCounts ∧ snapshot.FailedWith .quarantined
  | .failed =>
      snapshot.completedAt ≠ none ∧ snapshot.WithoutCounts ∧
        snapshot.FailedWith .terminalInternal
  | .duplicate => False

end Session8IngestionSnapshot

theorem requireCurrent_eq_ok {current snapshot : Session8IngestionSnapshot}
    (h : requireCurrent (some current) = .ok snapshot) :
    current.state.isTerminal = false ∧ snapshot = current := by
  have hrequire : (if current.state = .duplicate then .error .duplicateStateForbidden
    else if current.state.isTerminal then .error .terminalState
    else if current.stage.any SbomIngestionStage.isUnused then .error .unsupportedStage
    else .ok current : Except SbomError Session8IngestionSnapshot) = .ok snapshot := h
  split at hrequire
  · cases hrequire
  · split at hrequire
    · cases hrequire
    · rename_i hterminal
      split at hrequire
      · cases hrequire
      · cases hrequire
        exact ⟨Bool.eq_false_iff.mpr hterminal, rfl⟩

theorem requireProcessing_eq_ok {current snapshot : Session8IngestionSnapshot}
    (h : requireProcessing current = .ok snapshot) :
    current.state = .processing ∧ snapshot = current := by
  unfold requireProcessing at h
  split at h
  · cases h
  · rename_i hstate
    split at h
    · cases h
    · cases h
      exact ⟨not_not.mp hstate, rfl⟩

/-- The end of a processing: an open ingestion that was processed fails with the outcome. -/
theorem endProcessing_eq_ok {current next : Session8IngestionSnapshot}
    {expectedOutcome : SafeFailureOutcome} {state : SbomIngestionState}
    {completedAt : Timestamp} {failureCode : SafeFailureCode}
    (h : endProcessing (some current) expectedOutcome state completedAt failureCode =
      .ok next) :
    current.state = .processing ∧ failureCode.outcome = expectedOutcome ∧
      next = { current with
        state, completedAt := some completedAt, failureCategory := some failureCode.category,
        failureCode := some failureCode } := by
  unfold endProcessing at h
  obtain ⟨existing, hexisting, hrest⟩ := bind_eq_ok.mp h
  obtain ⟨-, rfl⟩ := requireCurrent_eq_ok hexisting
  obtain ⟨processing, hprocessing, hend⟩ := bind_eq_ok.mp hrest
  obtain ⟨hstate, rfl⟩ := requireProcessing_eq_ok hprocessing
  split at hend
  · cases hend
  · rename_i houtcome
    cases hend
    exact ⟨hstate, not_not.mp houtcome, rfl⟩

/-- A processing that ends leaves no counts and a failure with the outcome. -/
theorem shapeIn_endProcessing {current next : Session8IngestionSnapshot}
    {expectedOutcome : SafeFailureOutcome} {state : SbomIngestionState}
    {completedAt : Timestamp} {failureCode : SafeFailureCode}
    (hshape : current.ShapeIn current.state)
    (h : endProcessing (some current) expectedOutcome state completedAt failureCode =
      .ok next) :
    next.state = state ∧ next.completedAt ≠ none ∧ next.WithoutCounts ∧
      next.FailedWith expectedOutcome := by
  obtain ⟨hstate, houtcome, rfl⟩ := endProcessing_eq_ok h
  rw [hstate] at hshape
  obtain ⟨-, -, ⟨hgraph, hcomponents, hedges, hwarnings⟩, -⟩ := hshape
  exact ⟨rfl, Option.some_ne_none _, ⟨hgraph, hcomponents, hedges, hwarnings⟩,
    ⟨failureCode, rfl, rfl, houtcome⟩⟩

/-- Every transition of a snapshot with the shape of its state leads to one. -/
theorem shapeIn_of_eq_ok {current next : Session8IngestionSnapshot}
    {command : Session8IngestionCommand} (hshape : current.ShapeIn current.state)
    (h : applySession8IngestionTransition (some current) command = .ok next) :
    current.state.isTerminal = false ∧ next.ShapeIn next.state := by
  unfold applySession8IngestionTransition at h
  cases command with
  | createAccepted => cases h
  | queue =>
      obtain ⟨existing, hexisting, hrest⟩ := bind_eq_ok.mp h
      obtain ⟨hopen, rfl⟩ := requireCurrent_eq_ok hexisting
      split at hrest
      · cases hrest
      · rename_i hstate
        cases hrest
        rw [not_not.mp hstate] at hshape
        obtain ⟨hstarted, hcompleted, ⟨hgraph, hcomponents, hedges, hwarnings⟩,
          ⟨hcategory, hcode⟩⟩ := hshape
        exact ⟨hopen, hstarted, hcompleted, ⟨hgraph, hcomponents, hedges, hwarnings⟩,
          ⟨hcategory, hcode⟩⟩
  | startProcessing startedAt stage =>
      obtain ⟨existing, hexisting, hrest⟩ := bind_eq_ok.mp h
      obtain ⟨hopen, rfl⟩ := requireCurrent_eq_ok hexisting
      split at hrest
      · cases hrest
      · rename_i hstate
        split at hrest
        · cases hrest
        · cases hrest
          have hwaiting : existing.WithoutCounts ∧ existing.WithoutFailure := by
            by_cases haccepted : existing.state = .accepted
            · rw [haccepted] at hshape
              exact hshape.2.2
            · rw [not_not.mp fun hne => hstate ⟨haccepted, hne⟩] at hshape
              exact hshape.2.2
          obtain ⟨⟨hgraph, hcomponents, hedges, hwarnings⟩, ⟨hcategory, hcode⟩⟩ := hwaiting
          exact ⟨hopen, Option.some_ne_none _, rfl, ⟨hgraph, hcomponents, hedges, hwarnings⟩,
            ⟨hcategory, hcode⟩⟩
  | releaseForRetry failureCode =>
      obtain ⟨existing, hexisting, hrest⟩ := bind_eq_ok.mp h
      obtain ⟨hopen, rfl⟩ := requireCurrent_eq_ok hexisting
      obtain ⟨processing, hprocessing, hend⟩ := bind_eq_ok.mp hrest
      obtain ⟨hstate, rfl⟩ := requireProcessing_eq_ok hprocessing
      split at hend
      · cases hend
      · cases hend
        rw [hstate] at hshape
        obtain ⟨-, hcompleted, ⟨hgraph, hcomponents, hedges, hwarnings⟩, -⟩ := hshape
        exact ⟨hopen, rfl, hcompleted, ⟨hgraph, hcomponents, hedges, hwarnings⟩, ⟨rfl, rfl⟩⟩
  | complete completedAt graphCompleteness componentCount dependencyEdgeCount warningCount =>
      obtain ⟨existing, hexisting, hrest⟩ := bind_eq_ok.mp h
      obtain ⟨hopen, rfl⟩ := requireCurrent_eq_ok hexisting
      obtain ⟨processing, hprocessing, hend⟩ := bind_eq_ok.mp hrest
      obtain ⟨-, rfl⟩ := requireProcessing_eq_ok hprocessing
      split at hend
      · cases hend
      · rename_i hcounts
        cases hend
        obtain ⟨n, k, w, rfl, rfl, rfl, hmatch⟩ :=
          countsAreValid_iff.mp (eq_true_of_ne_false hcounts)
        exact ⟨hopen, ⟨graphCompleteness, n, k, w, rfl, rfl, rfl, rfl, hmatch⟩, ⟨rfl, rfl⟩⟩
  | reject completedAt failureCode =>
      obtain ⟨hprocessing, -⟩ := endProcessing_eq_ok h
      obtain ⟨hstate, hends⟩ := shapeIn_endProcessing hshape h
      rw [hstate, hprocessing]
      exact ⟨rfl, hends⟩
  | quarantine completedAt failureCode =>
      obtain ⟨hprocessing, -⟩ := endProcessing_eq_ok h
      obtain ⟨hstate, hends⟩ := shapeIn_endProcessing hshape h
      rw [hstate, hprocessing]
      exact ⟨rfl, hends⟩
  | fail completedAt failureCode =>
      obtain ⟨hprocessing, -⟩ := endProcessing_eq_ok h
      obtain ⟨hstate, hends⟩ := shapeIn_endProcessing hshape h
      rw [hstate, hprocessing]
      exact ⟨rfl, hends⟩

/-! ## Runs of commands -/

/-- Whatever commands an ingestion is given, its snapshot has the shape of its state, and it
accepts nothing after its end. -/
theorem ingestion_lifecycle (commands : List Session8IngestionCommand)
    (snapshot : Session8IngestionSnapshot)
    (h : afterAll applySession8IngestionTransition none commands = some snapshot) :
    snapshot.ShapeIn snapshot.state ∧
      (snapshot.state.isTerminal = true → ∀ command next,
        applySession8IngestionTransition (some snapshot) command ≠ .ok next) := by
  have hshaped : ∀ snapshot ∈ afterAll applySession8IngestionTransition none commands,
      snapshot.ShapeIn snapshot.state := by
    refine accepted_induction (fun _ (current : Option Session8IngestionSnapshot) =>
      ∀ snapshot ∈ current, snapshot.ShapeIn snapshot.state) ?_ commands [] none
        fun _ hnone => absurd hnone (Option.not_mem_none _)
    intro past current command next hcurrent happly snapshot hsnapshot
    cases hsnapshot
    cases current with
    | none =>
        cases command with
        | createAccepted =>
            cases happly
            exact ⟨rfl, rfl, ⟨rfl, rfl, rfl, rfl⟩, ⟨rfl, rfl⟩⟩
        | _ => cases happly
    | some current => exact (shapeIn_of_eq_ok (hcurrent current rfl) happly).2
  have hshape := hshaped snapshot h
  refine ⟨hshape, fun hterminal command next happly => ?_⟩
  have hopen := (shapeIn_of_eq_ok hshape happly).1
  rw [hterminal] at hopen
  cases hopen

/-- The commands of an ingestion that is released once and then completes. -/
def releasedCommands : List Session8IngestionCommand :=
  [.createAccepted, .queue, .startProcessing 1 .parse, .releaseForRetry .storageTimeout,
    .startProcessing 2 .validate, .complete 3 .noDependencies (.finite 1) (.finite 0) (.finite 0),
    .reject 4 .utf8]

/-- The ingestion completes with its counts and without a failure. -/
theorem ingestion_lifecycle_completed :
    ∃ snapshot,
      afterAll applySession8IngestionTransition none releasedCommands = some snapshot ∧
        snapshot.Counted ∧ snapshot.WithoutFailure ∧
          applySession8IngestionTransition (some snapshot) .queue = .error .terminalState := by
  obtain ⟨snapshot, hsnapshot, hcompleted, hrefused⟩ :
      ∃ snapshot ∈ afterAll applySession8IngestionTransition none releasedCommands,
        snapshot.state = .completed ∧
          applySession8IngestionTransition (some snapshot) .queue = .error .terminalState :=
    ⟨_, rfl, rfl, rfl⟩
  obtain ⟨hshape, -⟩ := ingestion_lifecycle releasedCommands snapshot hsnapshot
  rw [hcompleted] at hshape
  exact ⟨snapshot, hsnapshot, hshape.1, hshape.2, hrefused⟩

end Lifecycle

end PatchPilot.Sbom
