import Mathlib.Data.List.Sort
import PatchPilot.Osv.Attempts.Rows

set_option autoImplicit false

/-!
# Osv: the adapter of the attempts (`osv-runtime-coordination-persistence.ts`)

Reserve and start are transactions of several statements; recordTerminal is one statement,
which is a transaction of its own, and a read if it found nothing.  What a transaction returns
without an exception is committed, whatever it says.
-/

namespace PatchPilot.Osv

open PatchPilot.Foundation

/-! ## Statements -/

/-- The columns of a run that the calls read. -/
structure AttemptRun where
  id : JsString
  versionSetFingerprint : JsString
  state : OsvRuntimeRunState
  deriving DecidableEq

/-- The rows of the tables. -/
structure AttemptTables where
  attempts : List AttemptRow
  runs : List AttemptRun
  deriving DecidableEq

/-- What can be locked. -/
inductive AttemptKey
  /-- An entry of the unique indexes. -/
  | entry (target : AttemptTarget) (attemptOrdinal : Nat)
  /-- A row, which is also its entry of the primary key. -/
  | row (id : JsString)
  deriving DecidableEq

/-- The time at which a transaction begins, and a generated identifier. -/
structure AttemptChoice where
  now : Timestamptz
  generatedId : JsString
  deriving DecidableEq

/-- What the `SET` of an update writes. -/
inductive AttemptChange
  | start
  | terminal (terminalState : OsvRuntimeAttemptState) (failureCode : Option JsString)
      (failureCatalog : Option OsvRuntimeFailureCatalog)
      (retryDisposition : OsvRuntimeRetryEligibility) (retryExhausted : Bool)
      (retryDelayMs : Option Nat)
  deriving DecidableEq

/-- A guarded update of an attempt, at a time. -/
structure AttemptUpdate where
  now : Timestamptz
  target : AttemptTarget
  attemptOrdinal : Nat
  expectedState : OsvRuntimeAttemptState
  change : AttemptChange
  deriving DecidableEq

/-- The `SET` of an update. -/
def AttemptUpdate.set (update : AttemptUpdate) (row : AttemptRow) : AttemptRow :=
  match update.change with
  | .start => { row with state := .running, startedAt := some update.now }
  | .terminal terminalState failureCode failureCatalog retryDisposition retryExhausted
      retryDelayMs =>
      { row with
        state := terminalState
        startedAt :=
          if row.startedAt.isNone = true ∧ terminalState ≠ .cancelled then some update.now
          else row.startedAt
        terminalAt := some update.now
        failureCode
        failureCatalog
        retryDisposition
        retryExhausted
        retryNotBefore := retryDelayMs.map fun delay => update.now + delay * 1000 }

/-- The `WHERE` of an update. -/
def AttemptUpdate.isFor (update : AttemptUpdate) (row : AttemptRow) : Bool :=
  decide (row.entry = (update.target, update.attemptOrdinal)) &&
    decide (row.state = update.expectedState)

/-- The statements. -/
inductive AttemptStatement
  /-- `findUnique` of a run. -/
  | selectRun (runId : JsString)
  /-- `findMany` of the attempts of a target. -/
  | selectAttempts (target : AttemptTarget)
  /-- `findMany` of an attempt. -/
  | selectAttempt (target : AttemptTarget) (attemptOrdinal : Nat)
  /-- `create`. -/
  | insertAttempt (now : Timestamptz) (command : OsvRuntimeStageAttemptReserveCommand)
  | updateAttempt (update : AttemptUpdate)
  deriving DecidableEq

/-- What a statement answers. -/
def AttemptStatement.Answer : AttemptStatement → Type
  | .selectRun _ => Option AttemptRun
  | .selectAttempts _ => List AttemptRow
  | .selectAttempt _ _ => List AttemptRow
  | .insertAttempt _ _ => AttemptRow
  | .updateAttempt _ => Option AttemptRow

/-- What a transaction writes. -/
inductive AttemptWrite
  | inserted (row : AttemptRow)
  | updated (row : AttemptRow)
  deriving DecidableEq

/-- The row of a reservation. -/
def plannedRow (id : JsString) (now : Timestamptz)
    (command : OsvRuntimeStageAttemptReserveCommand) : AttemptRow where
  id
  target := command.target
  attemptOrdinal := command.attemptOrdinal
  state := .planned
  startedAt := none
  terminalAt := none
  failureCode := none
  failureCatalog := none
  retryDisposition := command.retryDisposition
  nominalDelayMs := nominalDelayMsForAttemptOrdinal command.attemptOrdinal
  selectedDelayMs := command.selectedDelayMs
  retryNotBefore := none
  retryExhausted := false
  versionSetFingerprint := command.versionSetFingerprint
  createdAt := now

namespace AttemptTables

/-- The row that an update is for. -/
def find (tables : AttemptTables) (update : AttemptUpdate) : Option AttemptRow :=
  tables.attempts.find? update.isFor

/-- The attempts of a target, in the order of their ordinals. -/
def ofTarget (tables : AttemptTables) (target : AttemptTarget) : List AttemptRow :=
  (tables.attempts.filter fun row => row.target = target).insertionSort fun left right =>
    left.attemptOrdinal ≤ right.attemptOrdinal

/-- A row that is inserted passes its checks, is the only one with its identifier and its
entry, and its run is there. -/
def insert (tables : AttemptTables) (row : AttemptRow) : Except AttemptSqlError AttemptRow :=
  if row.satisfiesChecks = false then .error .checkViolation
  else if tables.attempts.any (fun other => other.id = row.id || other.entry = row.entry) then
    .error .uniqueViolation
  else if tables.runs.any (·.id = row.target.runId) = false then .error .foreignKeyViolation
  else .ok row

/-- A row that is updated: the trigger fires first. -/
def update (old new : AttemptRow) : Except AttemptSqlError AttemptRow :=
  if old.triggerPermits new = false then .error .restrictViolation
  else if new.satisfiesChecks = false then .error .checkViolation
  else .ok new

/-- The locks that a statement takes. -/
def keys : AttemptStatement → AttemptChoice → AttemptTables → List AttemptKey
  | .insertAttempt _ command, choice, _ =>
      [.entry command.target command.attemptOrdinal, .row choice.generatedId]
  | .updateAttempt update, _, tables =>
      ((tables.find update).map fun row => AttemptKey.row row.id).toList
  | _, _, _ => []

def answer : (statement : AttemptStatement) → AttemptChoice → AttemptTables →
    Except AttemptSqlError statement.Answer
  | .selectRun runId, _, tables => .ok (tables.runs.find? (·.id = runId))
  | .selectAttempts target, _, tables => .ok ((tables.ofTarget target).take 4)
  | .selectAttempt target attemptOrdinal, _, tables =>
      .ok ((tables.attempts.filter fun row => row.entry = (target, attemptOrdinal)).take 2)
  | .insertAttempt now command, choice, tables =>
      tables.insert (plannedRow choice.generatedId now command)
  | .updateAttempt update, _, tables =>
      match tables.find update with
      | none => .ok none
      | some row => (AttemptTables.update row (update.set row)).map some

/-- The rows after a write. -/
def apply : AttemptWrite → AttemptTables → AttemptTables
  | .inserted row, tables => { tables with attempts := tables.attempts ++ [row] }
  | .updated row, tables =>
      { tables with
        attempts := tables.attempts.map fun other => if other.id = row.id then row else other }

end AttemptTables

/-- The statements on the attempts. -/
def attemptSchema : Schema AttemptTables where
  Statement := AttemptStatement
  Answer := AttemptStatement.Answer
  Error := AttemptSqlError
  Write := AttemptWrite
  Key := AttemptKey
  Choice := AttemptChoice
  keys := AttemptTables.keys
  answer := AttemptTables.answer
  apply := AttemptTables.apply
  decidableKey := inferInstance

/-- A part of a transaction on the attempts. -/
abbrev AttemptSql (α : Type) := InTransaction attemptSchema α

section

variable (number : Nat)

def selectAttemptRun (runId : JsString) : AttemptSql (Option AttemptRun) :=
  @query _ attemptSchema number (.selectRun runId)

def selectAttempts (target : AttemptTarget) : AttemptSql (List AttemptRow) :=
  @query _ attemptSchema number (.selectAttempts target)

def selectAttempt (target : AttemptTarget) (attemptOrdinal : Nat) : AttemptSql (List AttemptRow) :=
  @query _ attemptSchema number (.selectAttempt target attemptOrdinal)

def insertAttempt (now : Timestamptz) (command : OsvRuntimeStageAttemptReserveCommand) :
    AttemptSql AttemptRow :=
  @query _ attemptSchema number (.insertAttempt now command)

def updateAttempt (update : AttemptUpdate) : AttemptSql (Option AttemptRow) :=
  @query _ attemptSchema number (.updateAttempt update)

end

/-! ## Results -/

/-- The codes of a rejection. -/
inductive AttemptRejectionCode
  | notFound | callerFingerprintRejected | stateConflict | invalidAttemptOrdinal
  | retryExhausted | immutableConflict | foreignKeyConflict | invalidField
  | databaseUnavailable | serializationFailure
  deriving DecidableEq

/-- `mapCaught`. -/
def mapCaughtAttempt : Fault AttemptSqlError → AttemptRejectionCode
  | .sql .mapping => .invalidField
  | .sql .uniqueViolation => .immutableConflict
  | .sql .foreignKeyViolation => .foreignKeyConflict
  | .sql .restrictViolation => .stateConflict
  -- the client reports these with a code that the translation does not know
  | .sql .checkViolation => .databaseUnavailable
  | .aborted => .databaseUnavailable
  | .closed => .serializationFailure

/-- The status of an accepted call. -/
inductive AttemptStatus
  | created | alreadyApplied | transitioned
  deriving DecidableEq

/-- What a call returns. -/
abbrev AttemptResult :=
  Except AttemptRejectionCode (AttemptStatus × OsvRuntimePersistedStageAttempt)

/-- What a callback returns, with what it wrote. -/
abbrev AttemptOutcome := AttemptResult × List AttemptWrite

/-- A callback that wrote nothing. -/
def unwritten (result : AttemptResult) : AttemptOutcome := (result, [])

/-- `runInTransaction`, and the `catch` around it. -/
def runAttemptTransaction (callback : Nat → AttemptChoice → AttemptSql AttemptOutcome) :
    Program attemptSchema.operations AttemptResult := do
  let reply ← runTransaction callback
  match reply.result with
  | .error fault => return .error (mapCaughtAttempt fault)
  | .ok result => return result

/-! ## Reserve -/

/-- The ordinals are counted from one on. -/
def countedFrom : Nat → List AttemptRow → Bool
  | _, [] => true
  | n, row :: rest => decide (row.attemptOrdinal = n) && countedFrom (n + 1) rest

/-- `expectedNextAttemptOrdinal`. -/
def expectedNextAttemptOrdinal (prior : List AttemptRow) : Option Nat :=
  match prior.getLast? with
  | none => some 1
  | some latest =>
      if countedFrom 1 prior = false then none
      else if latest.state ≠ .retryableFailed ∨ latest.retryDisposition ≠ .durableRetry then none
      else
        let next := latest.attemptOrdinal + 1
        if next ≠ 2 ∧ next ≠ 3 then none else some next

/-- `compareOsvRuntimePersistedAttemptIdentity`; `false` is a conflict. -/
def compareOsvRuntimePersistedAttemptIdentity (stored : OsvRuntimePersistedStageAttempt)
    (command : OsvRuntimeStageAttemptReserveCommand) : Bool :=
  decide (stored.target = command.target) &&
    decide (stored.attemptOrdinal = command.attemptOrdinal) &&
    decide (stored.versionSetFingerprint = command.versionSetFingerprint) &&
    decide (stored.nominalDelayMs = nominalDelayMsForAttemptOrdinal command.attemptOrdinal) &&
    decide (stored.selectedDelayMs = command.selectedDelayMs) &&
    decide (stored.retryDisposition = command.retryDisposition)

/-- The answer for a row that is there already. -/
def answerReserved (row : AttemptRow) (command : OsvRuntimeStageAttemptReserveCommand) :
    AttemptSql AttemptOutcome := do
  let mapped ← throwing (mapAttempt row)
  if compareOsvRuntimePersistedAttemptIdentity mapped command = false then
    return unwritten (.error .immutableConflict)
  else return unwritten (.ok (.alreadyApplied, mapped))

/-- `reloadAttempt`. -/
def reloadAttempt (number : Nat) (command : OsvRuntimeStageAttemptReserveCommand) :
    AttemptSql AttemptOutcome := do
  let existing ← selectAttempt number command.target command.attemptOrdinal
  match existing with
  | [] => return unwritten (.error .notFound)
  | [row] => answerReserved row command
  | _ => return unwritten (.error .stateConflict)

/-- The `create` of `reserve`, and the `catch` around it.  A row that cannot be mapped was
inserted all the same. -/
def createAttempt (number : Nat) (now : Timestamptz)
    (command : OsvRuntimeStageAttemptReserveCommand) : AttemptSql AttemptOutcome := do
  let inserted ← ExceptT.lift (insertAttempt number now command).run
  match inserted with
  | .ok row =>
      match mapAttempt row with
      | .ok mapped => return (.ok (.created, mapped), [.inserted row])
      | .error fault => return (.error (mapCaughtAttempt fault), [.inserted row])
  | .error (.sql .uniqueViolation) => reloadAttempt number command
  | .error fault => return unwritten (.error (mapCaughtAttempt fault))

/-- What `reserve` decides on the attempts that are there. -/
def reserveAfter (number : Nat) (now : Timestamptz)
    (command : OsvRuntimeStageAttemptReserveCommand) (prior : List AttemptRow) :
    AttemptSql AttemptOutcome :=
  if 3 < prior.length then return unwritten (.error .stateConflict)
  else
    match prior.find? fun row => row.attemptOrdinal = command.attemptOrdinal with
    | some existing => answerReserved existing command
    | none =>
        if prior.any (fun row => decide (row.state = .exhausted) || row.retryExhausted) then
          return unwritten (.error .retryExhausted)
        else if prior.any (fun row => row.state ∈
            [OsvRuntimeAttemptState.permanentFailed, .cancelled, .succeeded]) then
          return unwritten (.error .stateConflict)
        else if prior.any (fun row => row.state ∈
            [OsvRuntimeAttemptState.planned, .running]) then
          return unwritten (.error .stateConflict)
        else if expectedNextAttemptOrdinal prior ≠ some command.attemptOrdinal then
          return unwritten (.error .invalidAttemptOrdinal)
        else createAttempt number now command

/-- The callback of `reserve`. -/
def reserveIn (command : OsvRuntimeStageAttemptReserveCommand) (number : Nat)
    (choice : AttemptChoice) : AttemptSql AttemptOutcome := do
  let run ← selectAttemptRun number command.target.runId
  match run with
  | none => return unwritten (.error .notFound)
  | some run =>
      let maximum := maxTotalAttemptsForStage command.target.stage
      if run.versionSetFingerprint ≠ command.versionSetFingerprint then
        return unwritten (.error .callerFingerprintRejected)
      else if run.state.isTerminal then return unwritten (.error .stateConflict)
      else if command.target.stage = .inventoryConvergence ∧ command.attemptOrdinal ≠ 1 then
        return unwritten (.error .invalidAttemptOrdinal)
      else if maximum ≠ 0 ∧ maximum < command.attemptOrdinal then
        return unwritten (.error .invalidAttemptOrdinal)
      else do
        let prior ← selectAttempts number command.target
        reserveAfter number choice.now command prior

/-- `reserve`. -/
def reserve (command : OsvRuntimeStageAttemptReserveCommand) :
    Program attemptSchema.operations AttemptResult :=
  runAttemptTransaction (reserveIn command)

/-! ## Start -/

/-- `reloadStart`. -/
def reloadStart (number : Nat) (command : OsvRuntimeStageAttemptStartCommand) :
    AttemptSql AttemptOutcome := do
  let existing ← selectAttempt number command.target command.attemptOrdinal
  match existing with
  | [] => return unwritten (.error .notFound)
  | [row] => do
      let mapped ← throwing (mapAttempt row)
      if mapped.state = .running then return unwritten (.ok (.alreadyApplied, mapped))
      else return unwritten (.error .stateConflict)
  | _ => return unwritten (.error .stateConflict)

/-- The callback of `start`. -/
def startIn (command : OsvRuntimeStageAttemptStartCommand) (number : Nat)
    (choice : AttemptChoice) : AttemptSql AttemptOutcome := do
  let run ← selectAttemptRun number command.target.runId
  match run with
  | none => return unwritten (.error .notFound)
  | some run =>
      if run.state.isTerminal then return unwritten (.error .stateConflict)
      else do
        let updated ← updateAttempt number
          ⟨choice.now, command.target, command.attemptOrdinal, .planned, .start⟩
        match updated with
        | some row => do
            let mapped ← throwing (mapAttempt row)
            return (.ok (.transitioned, mapped), [.updated row])
        | none => reloadStart number command

/-- `start`. -/
def start (command : OsvRuntimeStageAttemptStartCommand) :
    Program attemptSchema.operations AttemptResult :=
  runAttemptTransaction (startIn command)

/-! ## Record a terminal state -/

/-- The disposition of a terminal state. -/
def dispositionOf : OsvRuntimeAttemptState → OsvRuntimeRetryEligibility
  | .exhausted => .retryExhausted
  | .retryableFailed => .durableRetry
  | _ => .noRetry

/-- `compareOsvRuntimePersistedAttemptTerminal`; `false` is a conflict. -/
def compareOsvRuntimePersistedAttemptTerminal (stored : OsvRuntimePersistedStageAttempt)
    (command : OsvRuntimeStageAttemptTerminalCommand) (expectedExhausted : Bool) : Bool :=
  let expectedState := if expectedExhausted then .exhausted else command.terminalState
  decide (stored.state = expectedState) && decide (stored.failureCode = command.failureCode) &&
    decide (stored.failureCatalog = command.failureCatalog) &&
    decide (stored.retryExhausted = expectedExhausted)

/-- `reloadTerminal`, which reads outside of a transaction. -/
def reloadTerminal (command : OsvRuntimeStageAttemptTerminalCommand) (expectedExhausted : Bool) :
    Program attemptSchema.operations AttemptResult :=
  runAttemptTransaction fun number _ => do
    let existing ← selectAttempt number command.target command.attemptOrdinal
    match existing with
    | [] => return unwritten (.error .notFound)
    | [row] => do
        let mapped ← throwing (mapAttempt row)
        if compareOsvRuntimePersistedAttemptTerminal mapped command expectedExhausted then
          return unwritten (.ok (.alreadyApplied, mapped))
        else return unwritten (.error .immutableConflict)
    | _ => return unwritten (.error .stateConflict)

/-- The update of `recordTerminal`. -/
def terminalUpdate (command : OsvRuntimeStageAttemptTerminalCommand)
    (terminalState : OsvRuntimeAttemptState) (now : Timestamptz) : AttemptUpdate where
  now
  target := command.target
  attemptOrdinal := command.attemptOrdinal
  expectedState := command.expectedState
  change := .terminal terminalState command.failureCode command.failureCatalog
    (dispositionOf terminalState) (decide (terminalState = .exhausted))
    (if terminalState = .retryableFailed then command.retryDelayMs else none)

/-- The statement of `recordTerminal`, which is a transaction of its own. -/
def recordTerminalIn (command : OsvRuntimeStageAttemptTerminalCommand)
    (terminalState : OsvRuntimeAttemptState) (number : Nat) (choice : AttemptChoice) :
    AttemptSql (Option AttemptRow × List AttemptWrite) := do
  let updated ← updateAttempt number (terminalUpdate command terminalState choice.now)
  return (updated, updated.toList.map .updated)

/-- `recordTerminal`. -/
def recordTerminal (command : OsvRuntimeStageAttemptTerminalCommand) :
    Program attemptSchema.operations AttemptResult := do
  let remaining := nextOsvRuntimeAttemptOrdinal command.attemptOrdinal command.target.stage
  let exhaustRetryable := decide (command.terminalState = .retryableFailed) && remaining.isNone
  let terminalState := if exhaustRetryable then .exhausted else command.terminalState
  if osvRuntimeAttemptTransitionAllowed command.expectedState terminalState = false then
    return .error .stateConflict
  else do
    let reply ← @runTransaction _ attemptSchema _ (recordTerminalIn command terminalState)
    match reply.result with
    | .error fault => return .error (mapCaughtAttempt fault)
    | .ok (some row) =>
        match mapAttempt row with
        | .ok mapped => return .ok (.transitioned, mapped)
        | .error fault => return .error (mapCaughtAttempt fault)
    | .ok none => reloadTerminal command exhaustRetryable

/-! ## The system -/

/-- A call of the adapter. -/
inductive AttemptRequest
  | reserve (command : OsvRuntimeStageAttemptReserveCommand)
  | start (command : OsvRuntimeStageAttemptStartCommand)
  | recordTerminal (command : OsvRuntimeStageAttemptTerminalCommand)
  deriving DecidableEq

/-- The program of a call. -/
def AttemptRequest.program : AttemptRequest → Program attemptSchema.operations AttemptResult
  | .reserve command => Osv.reserve command
  | .start command => Osv.start command
  | .recordTerminal command => Osv.recordTerminal command

/-- What other code does. -/
inductive AttemptEvent
  /-- The runs are changed, by any code. -/
  | setRuns (runs : List AttemptRun)
  /-- The connection of a transaction is lost, or it has taken too long. -/
  | lost (number : Nat)
  deriving DecidableEq

def AttemptEvent.apply (s : Transactions attemptSchema) : AttemptEvent → Transactions attemptSchema
  | .setRuns runs => s.setRows ⟨s.rows.attempts, runs⟩
  | .lost number => s.close number

/-- Any number of calls at the same time. -/
def attemptSystem :
    Interleaving (Transactions attemptSchema) AttemptRequest AttemptResult AttemptEvent where
  ops := attemptSchema.operations
  program := AttemptRequest.program
  environment := fun event s => some (event.apply s)

end PatchPilot.Osv
