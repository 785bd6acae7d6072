import PatchPilot.Foundation.Interleaving
import PatchPilot.Osv.Lease

set_option autoImplicit false

/-!
# Osv: the statements of the lease adapter

The lease is one row, and its run is another.  Both are read and written by SQL statements
in read-committed transactions (`osv-runtime-coordination-persistence.ts`) under the
constraints and the trigger of their migration.  `CURRENT_TIMESTAMP` is the time at which
the transaction began.

A statement sees what was committed before it, and what its own transaction wrote.  A row
version that is not committed is seen by its transaction alone, so the statements of the
transaction carry it; the database keeps the lock.  An update or an insertion that meets
the lock of another transaction waits, and looks at the row again when the lock is gone.

The scope, which is the key of the lease row, and the columns of a run that name its
policies are constants of the constraints and are left out.
-/

namespace PatchPilot.Osv

open PatchPilot.Foundation

/-! ## Rows -/

/-- `TIMESTAMPTZ(6)`: microseconds since the epoch. -/
abbrev Timestamptz := Int

/-- `osv_runtime_lease_projection_state`. -/
inductive LeaseRowState
  | held | released
  deriving DecidableEq

/-- `OsvRuntimeLeaseReleaseReason`. -/
inductive OsvRuntimeLeaseReleaseReason
  | completed | cancelled | failed | shutdown
  deriving DecidableEq

/-- A row of `osv_runtime_lease_projection`. -/
structure LeaseRow where
  runId : JsString
  holderTokenDigest : JsString
  rowRevision : Nat
  fencingToken : Nat
  state : LeaseRowState
  acquiredAt : Timestamptz
  heartbeatAt : Timestamptz
  expiresAt : Timestamptz
  releasedAt : Option Timestamptz
  releaseReason : Option OsvRuntimeLeaseReleaseReason
  createdAt : Timestamptz
  updatedAt : Timestamptz
  deriving DecidableEq

/-- `OsvRuntimeRunState`. -/
inductive OsvRuntimeRunState
  | planned | waitingForLease | running | retryWait | halted | cancelled | failed | completed
  deriving DecidableEq, Inhabited

/-- `OsvRuntimeRetryEligibility`. -/
inductive OsvRuntimeRetryEligibility
  | durableRetry | newSynchronizationAttempt | noRetry | quarantineRequired | retryExhausted
  deriving DecidableEq

/-- `OsvRuntimeRetryableStage`. -/
inductive OsvRuntimeRetryableStage
  | listingPage | inventoryConvergence | providerBodyRetrieval | artifactAttachment
  | databaseStage | parserStartup | parserExecutionTimeout | parserCapacity
  deriving DecidableEq

/-- `OsvRuntimeCancellationBoundary`. -/
inductive OsvRuntimeCancellationBoundary
  | beforeJobAcceptance | beforeLeaseAcquisition | whileWaitingForLease | afterLeaseAcquisition
  | duringPagination | duringProviderRetrieval | duringStorageAttachment
  | duringParserExecution | duringRetryBackoff | duringDatabaseTransaction | beforeReadiness
  | beforeRelease | afterTerminalCompletion
  deriving DecidableEq

/-- A row of `osv_runtime_synchronization_run`. -/
structure RunRow where
  id : JsString
  leaseScope : JsString
  state : OsvRuntimeRunState
  startedAt : Option Timestamptz
  terminalAt : Option Timestamptz
  terminalCode : Option JsString
  retryDisposition : Option OsvRuntimeRetryEligibility
  lastAcceptedStage : Option OsvRuntimeRetryableStage
  cancellationBoundary : Option OsvRuntimeCancellationBoundary
  createdAt : Timestamptz
  updatedAt : Timestamptz
  deriving DecidableEq, Inhabited

/-- `OSV_RUNTIME_RUN_EDGES`. -/
def OsvRuntimeRunState.edges : OsvRuntimeRunState → List OsvRuntimeRunState
  | .planned => [.waitingForLease, .halted, .cancelled, .failed]
  | .waitingForLease => [.running, .halted, .cancelled, .failed]
  | .running => [.retryWait, .halted, .cancelled, .failed, .completed]
  | .retryWait => [.running, .halted, .cancelled, .failed]
  | _ => []

/-- `osvRuntimeRunTerminalStates`. -/
def OsvRuntimeRunState.isTerminal (state : OsvRuntimeRunState) : Bool :=
  state ∈ [OsvRuntimeRunState.halted, .cancelled, .failed, .completed]

/-- `OsvRuntimeRunTransitionCommand`. -/
structure OsvRuntimeRunTransitionCommand where
  runId : JsString
  expectedState : OsvRuntimeRunState
  nextState : OsvRuntimeRunState
  terminalCode : Option JsString
  retryDisposition : Option OsvRuntimeRetryEligibility
  lastAcceptedStage : Option OsvRuntimeRetryableStage
  cancellationBoundary : Option OsvRuntimeCancellationBoundary
  proof : Option OsvRuntimeLeaseOwnershipProof
  deriving DecidableEq

/-! ## Constraints -/

/-- What makes a statement fail. -/
inductive SqlError
  /-- The transaction is no longer open. -/
  | aborted
  /-- A counter exceeds `BIGINT`. -/
  | numericOverflow
  /-- The trigger of the lease refuses the row. -/
  | restrictViolation
  | checkViolation
  | foreignKeyViolation
  /-- `OsvRuntimeCoordinationMappingError`, of the code that reads the row. -/
  | mapping
  deriving DecidableEq

/-- `osv_runtime_lease_holder_digest_chk`, `…_integers_chk`, `…_updated_chk` and
`…_state_chk`. -/
def LeaseRow.satisfiesChecks (row : LeaseRow) : Bool :=
  decide (row.holderTokenDigest.length = 64) && row.holderTokenDigest.all isLowerHex &&
    decide (0 < row.rowRevision) && decide (0 < row.fencingToken) &&
    decide (row.createdAt ≤ row.updatedAt) && decide (row.acquiredAt ≤ row.heartbeatAt) &&
    match row.state with
    | .held =>
        row.releasedAt.isNone && row.releaseReason.isNone &&
          decide (row.heartbeatAt < row.expiresAt)
    | .released =>
        row.releaseReason.isSome &&
          row.releasedAt.any fun releasedAt =>
            decide (row.acquiredAt ≤ releasedAt) && decide (row.heartbeatAt ≤ releasedAt)

/-- `patchpilot_protect_osv_runtime_lease_projection`. -/
def LeaseRow.triggerPermits (old new : LeaseRow) : Bool :=
  decide (old.rowRevision < new.rowRevision) && decide (old.fencingToken ≤ new.fencingToken) &&
    if old.state = .held ∧ new.state = .held ∧ new.runId = old.runId ∧
        new.holderTokenDigest = old.holderTokenDigest then
      decide (new.fencingToken = old.fencingToken)
    else decide (old.fencingToken < new.fencingToken)

/-- The lower-case letters, digits and underscores of a code. -/
def isFailureCode (s : JsString) : Bool :=
  decide (1 ≤ s.length) && decide (s.length ≤ 64) &&
    s.all fun u => isLower u || isDigit u || u == unit '_'

/-- `osv_runtime_sync_run_timestamps_chk` and `osv_runtime_sync_run_state_chk`. -/
def RunRow.satisfiesChecks (row : RunRow) : Bool :=
  decide (row.createdAt ≤ row.updatedAt) &&
    row.startedAt.all (fun startedAt => row.createdAt ≤ startedAt) &&
    row.terminalAt.all (fun terminalAt => decide (row.createdAt ≤ terminalAt) &&
      row.startedAt.all fun startedAt => startedAt ≤ terminalAt) &&
    match row.state with
    | .planned | .waitingForLease =>
        row.startedAt.isNone && row.terminalAt.isNone && row.terminalCode.isNone &&
          row.cancellationBoundary.isNone
    | .running | .retryWait =>
        row.startedAt.isSome && row.terminalAt.isNone && row.terminalCode.isNone &&
          row.cancellationBoundary.isNone
    | .completed =>
        row.startedAt.isSome && row.terminalAt.isSome && row.terminalCode.isNone &&
          row.cancellationBoundary.isNone && row.retryDisposition.all (· = .noRetry)
    | .failed =>
        row.startedAt.isSome && row.terminalAt.isSome && row.terminalCode.any isFailureCode &&
          row.cancellationBoundary.isNone
    | .halted => row.terminalAt.isSome && row.cancellationBoundary.isNone
    | .cancelled => row.terminalAt.isSome && row.cancellationBoundary.isSome

/-! ## Updates -/

/-- `INTERVAL '900000 milliseconds'`. -/
def leaseTtl : Timestamptz := 900000000

/-- A guarded update of the lease row. -/
inductive LeaseUpdate
  /-- The update of `heartbeat`. -/
  | heartbeat (proof : OsvRuntimeLeaseOwnershipProof) (digest : JsString)
  /-- The update of `release`. -/
  | release (proof : OsvRuntimeLeaseOwnershipProof) (digest : JsString)
      (reason : OsvRuntimeLeaseReleaseReason)
  /-- The update of `mutateExistingLease` that ends the ownership of the same owner. -/
  | bump (runId digest : JsString) (expectedRevision expectedFencing : Nat)
  /-- The update of `mutateExistingLease` that holds the lease. -/
  | take (runId digest : JsString) (expectedRevision expectedFencing : Nat)
  deriving DecidableEq

/-- The lease is held, by a run and a holder, with counters. -/
def LeaseRow.isHeldWith (row : LeaseRow) (runId digest : JsString) (revision fencing : Nat) :
    Bool :=
  decide (row.runId = runId) && decide (row.holderTokenDigest = digest) &&
    decide (row.rowRevision = revision) && decide (row.fencingToken = fencing) &&
    decide (row.state = .held)

/-- The `WHERE` of an update. -/
def LeaseUpdate.isFor (now : Timestamptz) (row : LeaseRow) : LeaseUpdate → Bool
  | .heartbeat proof digest =>
      row.isHeldWith proof.runId digest (digitsValue proof.leaseRevision)
        (digitsValue proof.fencingToken) && decide (now < row.expiresAt)
  | .release proof digest _ =>
      row.isHeldWith proof.runId digest (digitsValue proof.leaseRevision)
        (digitsValue proof.fencingToken) && decide (now < row.expiresAt)
  | .bump runId digest expectedRevision expectedFencing =>
      row.isHeldWith runId digest expectedRevision expectedFencing &&
        decide (row.expiresAt ≤ now)
  | .take _ _ expectedRevision expectedFencing =>
      decide (row.rowRevision = expectedRevision) &&
        decide (row.fencingToken = expectedFencing) &&
        ((decide (row.state = .held) && decide (row.expiresAt ≤ now)) ||
          decide (row.state = .released))

/-- The `SET` of an update. -/
def LeaseUpdate.set (now : Timestamptz) (row : LeaseRow) : LeaseUpdate → LeaseRow
  | .heartbeat _ _ =>
      { row with
        heartbeatAt := now, expiresAt := now + leaseTtl, rowRevision := row.rowRevision + 1
        updatedAt := now }
  | .release _ _ reason =>
      { row with
        state := .released, releasedAt := some now, releaseReason := some reason
        rowRevision := row.rowRevision + 1, fencingToken := row.fencingToken + 1
        updatedAt := now }
  | .bump _ _ _ _ =>
      { row with
        state := .released, releasedAt := some now, releaseReason := some .shutdown
        rowRevision := row.rowRevision + 1, fencingToken := row.fencingToken + 1
        updatedAt := now }
  | .take runId digest _ _ =>
      { row with
        runId, holderTokenDigest := digest, rowRevision := row.rowRevision + 1
        fencingToken := row.fencingToken + 1, state := .held, acquiredAt := now
        heartbeatAt := now, expiresAt := now + leaseTtl, releasedAt := none
        releaseReason := none, updatedAt := now }

/-- The row of `insertHeldLease`. -/
def heldLeaseRow (now : Timestamptz) (runId digest : JsString) : LeaseRow where
  runId
  holderTokenDigest := digest
  rowRevision := 1
  fencingToken := 1
  state := .held
  acquiredAt := now
  heartbeatAt := now
  expiresAt := now + leaseTtl
  releasedAt := none
  releaseReason := none
  createdAt := now
  updatedAt := now

/-- The `SET` of `transitionRunRow`. -/
def RunRow.transitioned (row : RunRow) (now : Timestamptz)
    (command : OsvRuntimeRunTransitionCommand) : RunRow :=
  let next := command.nextState
  { row with
    state := next
    startedAt :=
      if next ∈ [OsvRuntimeRunState.running, .retryWait, .completed, .failed] then
        row.startedAt.or (some now)
      else row.startedAt
    terminalAt := if next.isTerminal then some now else none
    terminalCode := command.terminalCode
    retryDisposition := command.retryDisposition
    lastAcceptedStage := command.lastAcceptedStage
    cancellationBoundary := command.cancellationBoundary
    updatedAt := now }

/-! ## The database -/

/-- A transaction: its number, when it began, and how many versions of the lease row had
been replaced by then. -/
structure Transaction where
  number : Nat
  now : Timestamptz
  since : Nat
  deriving DecidableEq

/-- What was committed, and who holds which lock.  The replaced versions of the lease row
and the transitions of runs are kept as a record of what happened; no statement reads them. -/
structure LeaseDatabase where
  lease : Option LeaseRow
  runs : List RunRow
  clock : Timestamptz
  begun : Nat
  opened : List Nat
  leaseLock : Option Nat
  runLocks : List (Nat × JsString)
  replaced : List (Option LeaseRow)
  transitions : List (Transaction × OsvRuntimeRunTransitionCommand)
  deriving DecidableEq, Inhabited

/-- Where a read of the lease row stands in the code. -/
inductive ReadSite
  /-- The read of the time after `current` was read, in `mutateExistingLease`. -/
  | afterCurrent (current : LeaseRow) (runId digest : JsString)
  /-- The read of the winner of an insertion, in `acquire`. -/
  | winnerOfInsert (runId digest : JsString)
  | elsewhere
  deriving DecidableEq

/-- The statements.  A statement carries the version of the row that its transaction has
written, if any. -/
inductive Statement
  | begin_
  | selectRun (transaction : Transaction) (runId : JsString)
  | selectLease (transaction : Transaction) (own : Option LeaseRow) (site : ReadSite)
  | insertLease (transaction : Transaction) (runId digest : JsString)
  | updateLease (transaction : Transaction) (own : Option LeaseRow) (update : LeaseUpdate)
  | updateRun (transaction : Transaction) (command : OsvRuntimeRunTransitionCommand)
  | commit (transaction : Transaction) (lease : Option LeaseRow)
      (run : Option (RunRow × OsvRuntimeRunTransitionCommand))
  | rollback (transaction : Transaction)

/-- What a statement answers. -/
def Statement.Answer : Statement → Type
  | .begin_ => Transaction
  | .selectRun _ _ => Except SqlError (Option RunRow)
  | .selectLease _ _ _ => Except SqlError (Option LeaseRow)
  | .insertLease _ _ _ => Except SqlError (Option LeaseRow)
  | .updateLease _ _ _ => Except SqlError (Option LeaseRow)
  | .updateRun _ _ => Except SqlError (Option RunRow)
  | .commit _ _ _ => Except SqlError Unit
  | .rollback _ => Unit

namespace LeaseDatabase

/-- The versions of the lease row, with the current one last. -/
def versions (s : LeaseDatabase) : List (Option LeaseRow) := s.replaced ++ [s.lease]

/-- The versions of the lease row from the begin of a transaction on. -/
def during (s : LeaseDatabase) (transaction : Transaction) : List (Option LeaseRow) :=
  s.versions.drop transaction.since

/-- The transaction is open. -/
def isOpen (s : LeaseDatabase) (transaction : Transaction) : Bool :=
  s.opened.contains transaction.number

/-- Another transaction holds the lock of the lease row. -/
def leaseLocked (s : LeaseDatabase) (transaction : Transaction) : Bool :=
  s.leaseLock.any (· ≠ transaction.number)

/-- Another transaction holds the lock of a run. -/
def runLocked (s : LeaseDatabase) (transaction : Transaction) (runId : JsString) : Bool :=
  s.runLocks.any fun (number, id) => number ≠ transaction.number && id = runId

/-- The transaction has the lock of the lease row. -/
def lockLease (s : LeaseDatabase) (transaction : Transaction) : LeaseDatabase :=
  { s with leaseLock := some transaction.number }

/-- A transaction ends, and its locks are gone. -/
def close (s : LeaseDatabase) (number : Nat) : LeaseDatabase :=
  { s with
    opened := s.opened.filter (· ≠ number)
    leaseLock := s.leaseLock.filter (· ≠ number)
    runLocks := s.runLocks.filter (·.1 ≠ number) }

/-- A committed version of the lease row. -/
def putLease (s : LeaseDatabase) : Option LeaseRow → LeaseDatabase
  | none => s
  | some row => { s with lease := some row, replaced := s.replaced ++ [s.lease] }

/-- A committed version of a run. -/
def putRun (s : LeaseDatabase) (transaction : Transaction) :
    Option (RunRow × OsvRuntimeRunTransitionCommand) → LeaseDatabase
  | none => s
  | some (row, command) =>
      { s with
        runs := s.runs.map fun other => if other.id = row.id then row else other
        transitions := s.transitions ++ [(transaction, command)] }

/-- A row that is written passes its checks, and its run is there. -/
def written (s : LeaseDatabase) (new : LeaseRow) : Except SqlError (Option LeaseRow) :=
  if new.satisfiesChecks = false then .error .checkViolation
  else if s.runs.any (·.id = new.runId) = false then .error .foreignKeyViolation
  else .ok (some new)

/-- A row that is updated: the counters are computed first, and then the trigger fires. -/
def updated (s : LeaseDatabase) (old new : LeaseRow) : Except SqlError (Option LeaseRow) :=
  if new.rowRevision > osvRuntimePostgresBigintMax ∨
      new.fencingToken > osvRuntimePostgresBigintMax then .error .numericOverflow
  else if old.triggerPermits new = false then .error .restrictViolation
  else s.written new

/-- What a statement does, unless it waits for a lock. -/
def exec : (statement : Statement) → Timestamptz → LeaseDatabase →
    Option (statement.Answer × LeaseDatabase)
  | .begin_, now, s =>
      if now < s.clock then none
      else
        some (⟨s.begun, now, s.replaced.length⟩,
          { s with clock := now, begun := s.begun + 1, opened := s.begun :: s.opened })
  | .selectRun transaction runId, _, s =>
      if s.isOpen transaction = false then some (.error .aborted, s)
      else some (.ok (s.runs.find? (·.id = runId)), s)
  | .selectLease transaction own _, _, s =>
      if s.isOpen transaction = false then some (.error .aborted, s)
      else some (.ok (own.or s.lease), s)
  | .insertLease transaction runId digest, _, s =>
      if s.isOpen transaction = false then some (.error .aborted, s)
      else
        match s.lease with
        | some _ => some (.ok none, s)
        | none =>
            if s.leaseLocked transaction then none
            else
              some (s.written (heldLeaseRow transaction.now runId digest),
                s.lockLease transaction)
  | .updateLease transaction own update, _, s =>
      if s.isOpen transaction = false then some (.error .aborted, s)
      else
        match own.or s.lease with
        | none => some (.ok none, s)
        | some row =>
            if update.isFor transaction.now row = false then some (.ok none, s)
            else if s.leaseLocked transaction then none
            else
              some (s.updated row (update.set transaction.now row), s.lockLease transaction)
  | .updateRun transaction command, _, s =>
      if s.isOpen transaction = false then some (.error .aborted, s)
      else
        match s.runs.find? fun row =>
            row.id = command.runId && row.state = command.expectedState with
        | none => some (.ok none, s)
        | some row =>
            if s.runLocked transaction row.id then none
            else
              let next := row.transitioned transaction.now command
              if next.satisfiesChecks then
                some (.ok (some next),
                  { s with runLocks := (transaction.number, row.id) :: s.runLocks })
              else some (.error .checkViolation, s)
  | .commit transaction lease run, _, s =>
      if s.isOpen transaction = false then some (.error .aborted, s)
      else
        some (.ok (), ((s.putLease lease).putRun transaction run).close transaction.number)
  | .rollback transaction, _, s => some ((), s.close transaction.number)

end LeaseDatabase

/-- The statements on the database.  The choice is the time at which a transaction
begins. -/
def leaseOperations : Operations LeaseDatabase where
  Op := Statement
  Answer := Statement.Answer
  Choice := Timestamptz
  exec := LeaseDatabase.exec

end PatchPilot.Osv
