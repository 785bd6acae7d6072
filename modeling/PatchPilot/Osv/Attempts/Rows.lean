import PatchPilot.Osv.LeaseAdapter
import PatchPilot.Foundation.ReadCommitted

set_option autoImplicit false

/-!
# Osv: the attempts of a stage

A stage of a run is attempted again after a failure that may be retried.  Every attempt is a
row of `osv_runtime_stage_attempt`, which the constraints and the trigger of its migration
guard.  The identifier of the retry policy is a constant of the constraints and is left out.
-/

namespace PatchPilot.Osv

open PatchPilot.Foundation

/-! ## Rows -/

/-- `OsvRuntimeAttemptState`. -/
inductive OsvRuntimeAttemptState
  | planned | running | succeeded | retryableFailed | permanentFailed | exhausted | cancelled
  deriving DecidableEq

/-- `osvRuntimeAttemptTerminalStates`. -/
def OsvRuntimeAttemptState.isTerminal (state : OsvRuntimeAttemptState) : Bool :=
  state ∈ [OsvRuntimeAttemptState.succeeded, .retryableFailed, .permanentFailed, .exhausted,
    .cancelled]

/-- `OSV_RUNTIME_ATTEMPT_EDGES`. -/
def OsvRuntimeAttemptState.edges : OsvRuntimeAttemptState → List OsvRuntimeAttemptState
  | .planned => [.running, .cancelled]
  | .running => [.succeeded, .retryableFailed, .permanentFailed, .exhausted, .cancelled]
  | _ => []

/-- `osvRuntimeAttemptTransitionAllowed`. -/
def osvRuntimeAttemptTransitionAllowed (state next : OsvRuntimeAttemptState) : Bool :=
  next ∈ state.edges

/-- `OsvRuntimeFailureCatalog`. -/
inductive OsvRuntimeFailureCatalog
  | listingPagination | listingTransport | retrieval | storage | parser | runtimeCoordination
  deriving DecidableEq

/-- What the attempts of a stage have in common: the run, the stage, and the digest of the
target if the stage has one. -/
structure AttemptTarget where
  runId : JsString
  stage : OsvRuntimeRetryableStage
  targetIdentityDigest : Option JsString
  deriving DecidableEq

/-- A row of `osv_runtime_stage_attempt`. -/
structure AttemptRow where
  id : JsString
  target : AttemptTarget
  attemptOrdinal : Nat
  state : OsvRuntimeAttemptState
  startedAt : Option Timestamptz
  terminalAt : Option Timestamptz
  failureCode : Option JsString
  failureCatalog : Option OsvRuntimeFailureCatalog
  retryDisposition : OsvRuntimeRetryEligibility
  nominalDelayMs : Nat
  selectedDelayMs : Nat
  retryNotBefore : Option Timestamptz
  retryExhausted : Bool
  versionSetFingerprint : JsString
  createdAt : Timestamptz
  deriving DecidableEq

/-- The columns of the unique indexes: one index is over the attempts without a digest, and
the other over those with one. -/
def AttemptRow.entry (row : AttemptRow) : AttemptTarget × Nat := (row.target, row.attemptOrdinal)

/-! ## Retries (`retry.ts`) -/

/-- `maxTotalAttemptsForStage`. -/
def maxTotalAttemptsForStage : OsvRuntimeRetryableStage → Nat
  | .inventoryConvergence => 0
  | .parserExecutionTimeout => 2
  | _ => 3

/-- `nextOsvRuntimeAttemptOrdinal`. -/
def nextOsvRuntimeAttemptOrdinal (currentOrdinal : Nat) (stage : OsvRuntimeRetryableStage) :
    Option Nat :=
  let maximum := maxTotalAttemptsForStage stage
  if maximum = 0 ∨ maximum ≤ currentOrdinal then none
  else
    let next := currentOrdinal + 1
    if next ∈ [1, 2, 3] then some next else none

/-- `nominalDelayMsForAttemptOrdinal`. -/
def nominalDelayMsForAttemptOrdinal (ordinal : Nat) : Nat :=
  if ordinal = 1 then 0 else if ordinal = 2 then 1000 else 4000

/-- `OSV_RUNTIME_BACKOFF_MAXIMUM_DELAY_MS`. -/
def osvRuntimeBackoffMaximumDelayMs : Nat := 30000

/-! ## Constraints -/

/-- The pattern of a SHA-256 digest. -/
def isSha256 (value : JsString) : Bool := decide (value.length = 64) && value.all isLowerHex

/-- `osv_runtime_stage_attempt_policy_chk`. -/
def AttemptRow.policyCheck (row : AttemptRow) : Bool :=
  isSha256 row.versionSetFingerprint && row.target.targetIdentityDigest.all isSha256

/-- `osv_runtime_stage_attempt_ordinal_chk`. -/
def AttemptRow.ordinalCheck (row : AttemptRow) : Bool :=
  decide (row.attemptOrdinal ∈ [1, 2, 3]) &&
    (decide (row.target.stage ≠ .parserExecutionTimeout) ||
      decide (row.attemptOrdinal ∈ [1, 2])) &&
    (decide (row.target.stage ≠ .inventoryConvergence) || decide (row.attemptOrdinal = 1))

/-- `osv_runtime_stage_attempt_delay_chk`. -/
def AttemptRow.delayCheck (row : AttemptRow) : Bool :=
  let notRetried := row.retryNotBefore.isNone && decide (row.retryDisposition ≠ .durableRetry)
  ((decide (row.attemptOrdinal = 1) && decide (row.nominalDelayMs = 0)) ||
      (decide (row.attemptOrdinal = 2) && decide (row.nominalDelayMs = 1000)) ||
      (decide (row.attemptOrdinal = 3) && decide (row.nominalDelayMs = 4000))) &&
    decide (row.selectedDelayMs ≤ 30000) &&
    (decide (row.attemptOrdinal ≠ 1) || decide (row.selectedDelayMs = 0)) &&
    (decide (row.attemptOrdinal ≠ 3) || notRetried) &&
    (!(decide (row.target.stage = .parserExecutionTimeout) && decide (row.attemptOrdinal = 2)) ||
      notRetried) &&
    (decide (row.target.stage ≠ .inventoryConvergence) ||
      (notRetried && decide (row.state ≠ .retryableFailed)))

/-- The terminal time is there, and not before the start. -/
def AttemptRow.endedAfterStart (row : AttemptRow) : Bool :=
  row.startedAt.any fun startedAt => row.terminalAt.any fun terminalAt => startedAt ≤ terminalAt

/-- The failure is named. -/
def AttemptRow.failureNamed (row : AttemptRow) : Bool :=
  row.failureCode.any isFailureCode && row.failureCatalog.isSome

/-- No failure is named. -/
def AttemptRow.failureAbsent (row : AttemptRow) : Bool :=
  row.failureCode.isNone && row.failureCatalog.isNone

/-- `INTERVAL '30 seconds'`. -/
def retryNotBeforeLimit : Timestamptz := 30000000

/-- `osv_runtime_stage_attempt_state_chk`. -/
def AttemptRow.stateCheck (row : AttemptRow) : Bool :=
  match row.state with
  | .planned =>
      row.startedAt.isNone && row.terminalAt.isNone && row.failureAbsent &&
        row.retryNotBefore.isNone && !row.retryExhausted &&
        decide (row.retryDisposition ∈ [OsvRuntimeRetryEligibility.durableRetry, .noRetry])
  | .running =>
      row.startedAt.isSome && row.terminalAt.isNone && row.failureAbsent &&
        row.retryNotBefore.isNone && !row.retryExhausted &&
        decide (row.retryDisposition ∈ [OsvRuntimeRetryEligibility.durableRetry, .noRetry])
  | .succeeded =>
      row.endedAfterStart && row.failureAbsent && row.retryNotBefore.isNone &&
        !row.retryExhausted && decide (row.retryDisposition = .noRetry)
  | .retryableFailed =>
      row.endedAfterStart && row.failureNamed &&
        (row.terminalAt.any fun terminalAt => row.retryNotBefore.any fun retryNotBefore =>
          decide (terminalAt ≤ retryNotBefore) &&
            decide (retryNotBefore ≤ terminalAt + retryNotBeforeLimit)) &&
        !row.retryExhausted && decide (row.retryDisposition = .durableRetry)
  | .permanentFailed =>
      row.endedAfterStart && row.failureNamed && row.retryNotBefore.isNone &&
        !row.retryExhausted &&
        decide (row.retryDisposition ∈
          [OsvRuntimeRetryEligibility.noRetry, .quarantineRequired, .newSynchronizationAttempt])
  | .exhausted =>
      row.endedAfterStart && row.failureNamed && row.retryNotBefore.isNone &&
        row.retryExhausted && decide (row.retryDisposition = .retryExhausted) &&
        ((decide (row.target.stage = .parserExecutionTimeout) &&
            decide (row.attemptOrdinal = 2)) ||
          (decide (row.target.stage ≠ .parserExecutionTimeout) &&
            decide (row.target.stage ≠ .inventoryConvergence) &&
            decide (row.attemptOrdinal = 3)))
  | .cancelled =>
      (row.terminalAt.any fun terminalAt => row.startedAt.all (· ≤ terminalAt)) &&
        row.retryNotBefore.isNone && !row.retryExhausted &&
        decide (row.retryDisposition = .noRetry) && (row.failureAbsent || row.failureNamed)

/-- The constraints of the table. -/
def AttemptRow.satisfiesChecks (row : AttemptRow) : Bool :=
  row.policyCheck && row.ordinalCheck && row.delayCheck && row.stateCheck

/-- `patchpilot_protect_osv_runtime_stage_attempt`. -/
def AttemptRow.triggerPermits (old new : AttemptRow) : Bool :=
  decide (new.id = old.id) && decide (new.target = old.target) &&
    decide (new.attemptOrdinal = old.attemptOrdinal) &&
    decide (new.versionSetFingerprint = old.versionSetFingerprint) &&
    decide (new.createdAt = old.createdAt) && decide (new.nominalDelayMs = old.nominalDelayMs) &&
    decide (new.selectedDelayMs = old.selectedDelayMs) && !old.state.isTerminal &&
    match old.state with
    | .planned => decide (new.state ∈ [OsvRuntimeAttemptState.planned, .running, .cancelled])
    | .running =>
        decide (new.state ∈ [OsvRuntimeAttemptState.running, .succeeded, .retryableFailed,
          .permanentFailed, .exhausted, .cancelled])
    | _ => true

/-! ## Commands (`persistence.ts`) -/

/-- What the constructors read of the target and of the ordinal. -/
def acceptsAttempt (target : AttemptTarget) (attemptOrdinal : Nat) : Bool :=
  isUuid target.runId && decide (toLowerCase target.runId = target.runId) &&
    target.targetIdentityDigest.all isSha256 && decide (attemptOrdinal ∈ [1, 2, 3])

/-- `OsvRuntimeStageAttemptReserveCommand`, as its constructor accepts it. -/
structure OsvRuntimeStageAttemptReserveCommand where
  target : AttemptTarget
  attemptOrdinal : Nat
  versionSetFingerprint : JsString
  selectedDelayMs : Nat
  retryDisposition : OsvRuntimeRetryEligibility
  accepted : acceptsAttempt target attemptOrdinal = true
  ordinal : attemptOrdinal ≤ maxTotalAttemptsForStage target.stage ∨
    target.stage = .inventoryConvergence ∧ attemptOrdinal = 1
  fingerprint : isSha256 versionSetFingerprint = true
  delay : selectedDelayMs ≤ osvRuntimeBackoffMaximumDelayMs
  firstDelay : attemptOrdinal = 1 → selectedDelayMs = 0
  disposition : retryDisposition = .noRetry ∨ retryDisposition = .durableRetry ∧
    (nextOsvRuntimeAttemptOrdinal attemptOrdinal target.stage).isSome
  deriving DecidableEq

/-- `OsvRuntimeStageAttemptStartCommand`, as its constructor accepts it. -/
structure OsvRuntimeStageAttemptStartCommand where
  target : AttemptTarget
  attemptOrdinal : Nat
  accepted : acceptsAttempt target attemptOrdinal = true
  deriving DecidableEq

/-- The state that a terminal command records: a failure after which no attempt is left is
an exhaustion. -/
def recordedState (terminalState : OsvRuntimeAttemptState) (attemptOrdinal : Nat)
    (stage : OsvRuntimeRetryableStage) : OsvRuntimeAttemptState :=
  if terminalState = .retryableFailed ∧
      nextOsvRuntimeAttemptOrdinal attemptOrdinal stage = none then .exhausted
  else terminalState

/-- `OsvRuntimeStageAttemptTerminalCommand`, as its constructor accepts it. -/
structure OsvRuntimeStageAttemptTerminalCommand where
  target : AttemptTarget
  attemptOrdinal : Nat
  expectedState : OsvRuntimeAttemptState
  terminalState : OsvRuntimeAttemptState
  failureCode : Option JsString
  failureCatalog : Option OsvRuntimeFailureCatalog
  retryDelayMs : Option Nat
  accepted : acceptsAttempt target attemptOrdinal = true
  expected : expectedState = .planned ∨ expectedState = .running
  terminal : terminalState.isTerminal = true
  code : failureCode.all isFailureCode = true
  delay : retryDelayMs.all (· ≤ osvRuntimeBackoffMaximumDelayMs) = true
  delayed : retryDelayMs.isSome = true ↔ terminalState = .retryableFailed
  transition : osvRuntimeAttemptTransitionAllowed expectedState
    (recordedState terminalState attemptOrdinal target.stage) = true
  deriving DecidableEq

/-! ## Mapping -/

/-- `OsvRuntimePersistedStageAttempt`. -/
structure OsvRuntimePersistedStageAttempt where
  id : JsString
  target : AttemptTarget
  attemptOrdinal : Nat
  state : OsvRuntimeAttemptState
  startedAt : Option JsString
  terminalAt : Option JsString
  failureCode : Option JsString
  failureCatalog : Option OsvRuntimeFailureCatalog
  retryDisposition : OsvRuntimeRetryEligibility
  nominalDelayMs : Nat
  selectedDelayMs : Nat
  retryNotBefore : Option JsString
  retryExhausted : Bool
  versionSetFingerprint : JsString
  createdAt : JsString
  deriving DecidableEq

/-- What makes a statement on the attempts fail. -/
inductive AttemptSqlError
  | uniqueViolation | foreignKeyViolation | checkViolation
  /-- The trigger of the table refuses the row. -/
  | restrictViolation
  /-- `OsvRuntimeCoordinationMappingError`, of the code that reads the row. -/
  | mapping
  deriving DecidableEq

/-- `mapAttempt`, with `createOsvRuntimePersistedStageAttempt`. -/
def mapAttempt (row : AttemptRow) :
    Except (Fault AttemptSqlError) OsvRuntimePersistedStageAttempt :=
  let maximum := maxTotalAttemptsForStage row.target.stage
  let startedAt := row.startedAt.map toIsoUtc
  let terminalAt := row.terminalAt.map toIsoUtc
  let retryNotBefore := row.retryNotBefore.map toIsoUtc
  if isUuid row.id = true ∧ isUuid row.target.runId = true ∧
      row.target.targetIdentityDigest.all isSha256 = true ∧ row.attemptOrdinal ∈ [1, 2, 3] ∧
      (maximum = 0 → row.attemptOrdinal = 1) ∧ (maximum ≠ 0 → row.attemptOrdinal ≤ maximum) ∧
      startedAt.all isUtcTimestamp = true ∧ terminalAt.all isUtcTimestamp = true ∧
      row.failureCode.all isFailureCode = true ∧
      row.nominalDelayMs = nominalDelayMsForAttemptOrdinal row.attemptOrdinal ∧
      row.selectedDelayMs ≤ osvRuntimeBackoffMaximumDelayMs ∧
      (row.attemptOrdinal = 1 → row.selectedDelayMs = 0) ∧
      retryNotBefore.all isUtcTimestamp = true ∧ isSha256 row.versionSetFingerprint = true ∧
      isUtcTimestamp (toIsoUtc row.createdAt) = true then
    .ok
      { id := toLowerCase row.id
        target := { row.target with runId := toLowerCase row.target.runId }
        attemptOrdinal := row.attemptOrdinal
        state := row.state
        startedAt
        terminalAt
        failureCode := row.failureCode
        failureCatalog := row.failureCatalog
        retryDisposition := row.retryDisposition
        nominalDelayMs := row.nominalDelayMs
        selectedDelayMs := row.selectedDelayMs
        retryNotBefore
        retryExhausted := row.retryExhausted
        versionSetFingerprint := row.versionSetFingerprint
        createdAt := toIsoUtc row.createdAt }
  else .error (.sql .mapping)

end PatchPilot.Osv
