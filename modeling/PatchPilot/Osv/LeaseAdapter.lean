import PatchPilot.Osv.LeaseStatements

set_option autoImplicit false

/-!
# Osv: the lease adapter (`osv-runtime-coordination-persistence.ts`)

Every call is a program of statements in one transaction.  What a call returns without an
exception is committed, whatever it says; an exception takes everything back.
-/

namespace PatchPilot.Osv

open PatchPilot.Foundation

/-! ## Statements in a transaction -/

/-- A part of a transaction, which an SQL error ends. -/
abbrev Sql (α : Type) := ExceptT SqlError (Program leaseOperations) α

/-- A statement. -/
def perform (statement : Statement) : Program leaseOperations statement.Answer :=
  @Program.perform _ leaseOperations statement

/-- `findUnique` of a run. -/
def selectRun (transaction : Transaction) (runId : JsString) : Sql (Option RunRow) :=
  perform (.selectRun transaction runId)

/-- `loadLease`. -/
def loadLease (transaction : Transaction) (own : Option LeaseRow) (site : ReadSite) :
    Sql (Option LeaseRow) :=
  perform (.selectLease transaction own site)

/-- `loadLeaseWithDatabaseTime`: the row, and whether it is unexpired. -/
def loadLeaseWithDatabaseTime (transaction : Transaction) (own : Option LeaseRow)
    (site : ReadSite) : Sql (Option (LeaseRow × Bool)) := do
  let row ← loadLease transaction own site
  return row.map fun row => (row, decide (transaction.now < row.expiresAt))

/-- `insertHeldLease`. -/
def insertHeldLease (transaction : Transaction) (runId digest : JsString) :
    Sql (Option LeaseRow) :=
  perform (.insertLease transaction runId digest)

/-- A guarded update of the lease row. -/
def updateLease (transaction : Transaction) (own : Option LeaseRow) (update : LeaseUpdate) :
    Sql (Option LeaseRow) :=
  perform (.updateLease transaction own update)

/-- `transitionRunRow`. -/
def transitionRunRow (transaction : Transaction) (command : OsvRuntimeRunTransitionCommand) :
    Sql (Option RunRow) :=
  perform (.updateRun transaction command)

/-- What the callback of a transaction returns, and the versions that it wrote. -/
structure TransactionOutcome (α : Type) where
  result : Except RejectionCode α
  lease : Option LeaseRow
  run : Option (RunRow × OsvRuntimeRunTransitionCommand)

/-- A callback that wrote nothing. -/
def wroteNothing {α : Type} (result : Except RejectionCode α) : TransactionOutcome α :=
  ⟨result, none, none⟩

/-- What a call returns, and its transaction if it came to one. -/
structure CallReturn (α : Type) where
  transaction : Option Transaction
  result : Except RejectionCode α

/-- `mapCaught`. -/
def mapCaught : SqlError → RejectionCode
  | .mapping => .invalidField
  | .numericOverflow => .leaseIntegerOverflow
  | .restrictViolation => .stateConflict
  | .aborted => .serializationFailure
  -- a raw query reports these with a code that the translation does not know
  | .checkViolation => .databaseUnavailable
  | .foreignKeyViolation => .databaseUnavailable

/-- `runInTransaction`, and the `catch` around it. -/
def runInTransaction {α : Type} (callback : Transaction → Sql (TransactionOutcome α)) :
    Program leaseOperations (CallReturn α) := do
  let transaction : Transaction ← perform .begin_
  let outcome ← (callback transaction).run
  match outcome with
  | .error error => do
      let _ ← perform (.rollback transaction)
      return ⟨some transaction, .error (mapCaught error)⟩
  | .ok outcome => do
      let committed : Except SqlError Unit ←
        perform (.commit transaction outcome.lease outcome.run)
      match committed with
      | .error error => return ⟨some transaction, .error (mapCaught error)⟩
      | .ok _ => return ⟨some transaction, outcome.result⟩

/-- A call that fails before its transaction. -/
def failed {α : Type} (code : RejectionCode) : Program leaseOperations (CallReturn α) :=
  return ⟨none, .error code⟩

/-! ## Mapping -/

/-- `toIsoUtc`, of the milliseconds that `Date` keeps. -/
def toIsoUtc (value : Timestamptz) : JsString := toISOString (value / 1000)

/-- The state of a projection of a row. -/
def LeaseRowState.projected : LeaseRowState → OsvRuntimeLeaseState
  | .held => .held
  | .released => .released

/-- `bigintToLeaseInteger`. -/
def bigintToLeaseInteger (value : Nat) : Except SqlError JsString :=
  if value < 1 then .error .mapping else .ok (decimalText value)

/-- `mapLeaseProjection`. -/
def mapLeaseProjection (row : LeaseRow) : Except SqlError OsvRuntimeLeaseProjection := do
  let leaseRevision ← bigintToLeaseInteger row.rowRevision
  let fencingToken ← bigintToLeaseInteger row.fencingToken
  (createOsvRuntimeLeaseProjection row.state.projected (some row.runId) leaseRevision
    fencingToken (some (toIsoUtc row.acquiredAt)) (some (toIsoUtc row.heartbeatAt))
    (some (toIsoUtc row.expiresAt)) (row.releasedAt.map toIsoUtc)).mapError fun _ => .mapping

/-- What may throw, in a transaction. -/
def orThrow {α : Type} (result : Except SqlError α) : Sql α :=
  ExceptT.mk (pure result)

/-- `attachProof` of the adapter. -/
def attachProof (runId holderToken : JsString) (projection : OsvRuntimeLeaseProjection) :
    Except RejectionCode OsvRuntimeLeaseOwnershipProof :=
  match projection.acquiredAt, projection.heartbeatAt, projection.expiresAt with
  | some acquiredAt, some heartbeatAt, some expiresAt =>
      createOsvRuntimeLeaseOwnershipProofForOwner runId holderToken projection.leaseRevision
        projection.fencingToken acquiredAt heartbeatAt expiresAt
  | _, _, _ => .error .invalidField

/-- `digestOsvRuntimeHolderToken`, with the hash that it uses. -/
def digestOsvRuntimeHolderToken (sha256 : JsString → JsString) (holderToken : JsString) :
    Except RejectionCode JsString := do
  let parsed ← readHolderTokenUuidV4 holderToken
  .ok (sha256 parsed)

/-! ## Acquire -/

/-- `OsvRuntimeLeaseAcquirePersistenceCommand`; the token is that of its secret.  Its
constructor reads the run with `readUuid`, which gives it in lower case. -/
structure OsvRuntimeLeaseAcquirePersistenceCommand where
  runId : JsString
  holderToken : Option JsString
  expectedLeaseRevision : Option JsString
  expectedFencingToken : Option JsString
  canonical : toLowerCase runId = runId
  deriving DecidableEq

/-- `heldByOtherOrSameOwner`. -/
def heldByOtherOrSameOwner (current : LeaseRow) (runId holderToken digest : JsString) :
    Except SqlError (Except RejectionCode OsvRuntimeLeaseAcquireResult) := do
  let projection ← mapLeaseProjection current
  if current.state = .held ∧ current.runId = runId ∧ current.holderTokenDigest = digest then
    .ok ((attachProof runId holderToken projection).map fun proof =>
      ⟨.alreadyHeldBySameOwner, projection, some proof⟩)
  else .ok (.ok ⟨.heldByOther, projection, none⟩)

/-- `acquiredOutcome`. -/
def acquiredOutcome (outcome : OsvRuntimeLeaseAcquireOutcome) (row : LeaseRow)
    (holderToken : JsString) :
    Except SqlError (Except RejectionCode OsvRuntimeLeaseAcquireResult) := do
  let projection ← mapLeaseProjection row
  .ok ((attachProof row.runId holderToken projection).map fun proof =>
    ⟨outcome, projection, some proof⟩)

/-- The answer that another holds the lease. -/
def heldByOther (row : LeaseRow) :
    Except SqlError (Except RejectionCode OsvRuntimeLeaseAcquireResult) := do
  let projection ← mapLeaseProjection row
  .ok (.ok ⟨.heldByOther, projection, none⟩)

/-- The answer of an update that found no row, with the winner that is read then. -/
def lostToWinner (transaction : Transaction) (own : Option LeaseRow) :
    Sql (TransactionOutcome OsvRuntimeLeaseAcquireResult) := do
  let winner ← loadLease transaction own .elsewhere
  match winner with
  | none => return ⟨.error .databaseUnavailable, own, none⟩
  | some winner => return ⟨← orThrow (heldByOther winner), own, none⟩

/-- The last update of `mutateExistingLease`. -/
def takeLease (transaction : Transaction) (own : Option LeaseRow) (takeover : Bool)
    (runId holderToken digest : JsString) (expectedRevision expectedFencing : Nat) :
    Sql (TransactionOutcome OsvRuntimeLeaseAcquireResult) := do
  let updated ← updateLease transaction own (.take runId digest expectedRevision expectedFencing)
  match updated with
  | none => lostToWinner transaction own
  | some row =>
      let outcome := if takeover then .staleTakeoverAcquired else .acquired
      return ⟨← orThrow (acquiredOutcome outcome row holderToken), some row, none⟩

/-- `mutateExistingLease`. -/
def mutateExistingLease (transaction : Transaction) (current : LeaseRow)
    (command : OsvRuntimeLeaseAcquirePersistenceCommand) (holderToken digest : JsString) :
    Sql (TransactionOutcome OsvRuntimeLeaseAcquireResult) := do
  let timed ← loadLeaseWithDatabaseTime transaction none
    (.afterCurrent current command.runId digest)
  let expired := decide (current.state = .held) && !(timed.any fun (_, unexpired) => unexpired)
  if current.state = .held ∧ expired = false then
    return wroteNothing (← orThrow
      (heldByOtherOrSameOwner current command.runId holderToken digest))
  else do
    let rowRevision ← orThrow (bigintToLeaseInteger current.rowRevision)
    let fencingToken ← orThrow (bigintToLeaseInteger current.fencingToken)
    if command.expectedLeaseRevision.getD rowRevision ≠ rowRevision ∨
        command.expectedFencingToken.getD fencingToken ≠ fencingToken then
      return wroteNothing (← orThrow (heldByOther current))
    else
      let takeover := decide (current.state = .held)
      if takeover = true ∧ current.runId = command.runId ∧
          current.holderTokenDigest = digest then do
        let bumped ← updateLease transaction none
          (.bump command.runId digest current.rowRevision current.fencingToken)
        match bumped with
        | none => lostToWinner transaction none
        | some released =>
            takeLease transaction (some released) takeover command.runId holderToken digest
              released.rowRevision released.fencingToken
      else
        takeLease transaction none takeover command.runId holderToken digest
          current.rowRevision current.fencingToken

/-- The callback of `acquire`. -/
def acquireIn (command : OsvRuntimeLeaseAcquirePersistenceCommand) (holderToken digest : JsString)
    (transaction : Transaction) : Sql (TransactionOutcome OsvRuntimeLeaseAcquireResult) := do
  let run ← selectRun transaction command.runId
  match run with
  | none => return wroteNothing (.error .notFound)
  | some run =>
      if run.leaseScope ≠ osvRuntimeLeaseScopeIdentifier then
        return wroteNothing (.error .invalidScope)
      else if run.state.isTerminal then return wroteNothing (.error .stateConflict)
      else do
        let current ← loadLease transaction none .elsewhere
        match current with
        | some current => mutateExistingLease transaction current command holderToken digest
        | none =>
            let inserted ← insertHeldLease transaction command.runId digest
            match inserted with
            | some inserted =>
                return ⟨← orThrow (acquiredOutcome .acquired inserted holderToken),
                  some inserted, none⟩
            | none =>
                let winner ← loadLease transaction none (.winnerOfInsert command.runId digest)
                match winner with
                | none => return wroteNothing (.error .databaseUnavailable)
                | some winner =>
                    return wroteNothing (← orThrow
                      (heldByOtherOrSameOwner winner command.runId holderToken digest))

/-- `acquire`. -/
def acquire (sha256 : JsString → JsString) (command : OsvRuntimeLeaseAcquirePersistenceCommand) :
    Program leaseOperations (CallReturn OsvRuntimeLeaseAcquireResult) :=
  match command.holderToken with
  | none => failed .invalidHolderToken
  | some holderToken =>
      match digestOsvRuntimeHolderToken sha256 holderToken with
      | .error code => failed code
      | .ok digest => runInTransaction (acquireIn command holderToken digest)

/-! ## Heartbeat and release -/

/-- The callback of `heartbeat`. -/
def heartbeatIn (proof : OsvRuntimeLeaseOwnershipProof) (presented digest : JsString)
    (transaction : Transaction) : Sql (TransactionOutcome OsvRuntimeLeaseHeartbeatResult) := do
  let updated ← updateLease transaction none (.heartbeat proof digest)
  match updated with
  | some row =>
      let projection ← orThrow (mapLeaseProjection row)
      return ⟨(attachProof proof.runId presented projection).map fun made =>
        ⟨.accepted, projection, some made⟩, some row, none⟩
  | none =>
      let current ← loadLease transaction none .elsewhere
      match current with
      | none =>
          return wroteNothing (.ok ⟨.ownershipLost, absentOsvRuntimeLeaseProjection, none⟩)
      | some current =>
          let projection ← orThrow (mapLeaseProjection current)
          if current.state ≠ .held then
            return wroteNothing (.ok ⟨.ownershipLost, projection, none⟩)
          else do
            let timed ← loadLeaseWithDatabaseTime transaction none .elsewhere
            let sameOwner := decide (current.runId = proof.runId) &&
              decide (current.holderTokenDigest = digest)
            if (timed.any fun (_, unexpired) => unexpired) = false ∧ sameOwner = true then
              return wroteNothing (.ok ⟨.expired, projection, none⟩)
            else return wroteNothing (.ok ⟨.ownershipLost, projection, none⟩)

/-- `heartbeat`. -/
def heartbeat (sha256 : JsString → JsString) (proof : OsvRuntimeLeaseOwnershipProof) :
    Program leaseOperations (CallReturn OsvRuntimeLeaseHeartbeatResult) :=
  match proof.holderToken with
  | none => failed .invalidHolderToken
  | some presented =>
      match digestOsvRuntimeHolderToken sha256 presented with
      | .error code => failed code
      | .ok digest => runInTransaction (heartbeatIn proof presented digest)

/-- The outcomes of a release through the adapter. -/
inductive ReleaseOutcome
  | evaluated (outcome : OsvRuntimeLeaseReleaseOutcome)
  | invalidRequest
  deriving DecidableEq

/-- What a release through the adapter returns. -/
structure ReleaseReturn where
  outcome : ReleaseOutcome
  projection : OsvRuntimeLeaseProjection
  deriving DecidableEq

/-- The callback of `release`. -/
def releaseIn (proof : OsvRuntimeLeaseOwnershipProof) (reason : OsvRuntimeLeaseReleaseReason)
    (digest : JsString) (transaction : Transaction) :
    Sql (TransactionOutcome ReleaseReturn) := do
  let answer (outcome : OsvRuntimeLeaseReleaseOutcome) (projection : OsvRuntimeLeaseProjection) :
      Sql (TransactionOutcome ReleaseReturn) :=
    return wroteNothing (.ok ⟨.evaluated outcome, projection⟩)
  let current ← loadLease transaction none .elsewhere
  match current with
  | none => answer .staleOwner absentOsvRuntimeLeaseProjection
  | some current =>
      let projection ← orThrow (mapLeaseProjection current)
      let sameOwner := decide (current.holderTokenDigest = digest) &&
        decide (current.runId = proof.runId)
      if current.state = .released then
        if current.releaseReason = some reason ∧ sameOwner = true then
          answer .alreadyReleased projection
        else if sameOwner = false then answer .staleOwner projection
        else return wroteNothing (.ok ⟨.invalidRequest, projection⟩)
      else if sameOwner = false then answer .staleOwner projection
      else if projection.leaseRevision ≠ proof.leaseRevision then
        answer .wrongRevision projection
      else if projection.fencingToken ≠ proof.fencingToken then
        answer .wrongFencingToken projection
      else do
        let updated ← updateLease transaction none (.release proof digest reason)
        match updated with
        | none => answer .staleOwner projection
        | some row =>
            let released ← orThrow (mapLeaseProjection row)
            return ⟨.ok ⟨.evaluated .released, released⟩, some row, none⟩

/-- `release`. -/
def release (sha256 : JsString → JsString) (proof : OsvRuntimeLeaseOwnershipProof)
    (reason : OsvRuntimeLeaseReleaseReason) : Program leaseOperations (CallReturn ReleaseReturn) :=
  match proof.holderToken with
  | none => failed .invalidHolderToken
  | some presented =>
      match digestOsvRuntimeHolderToken sha256 presented with
      | .error code => failed code
      | .ok digest => runInTransaction (releaseIn proof reason digest)

/-! ## Ownership -/

/-- `OsvRuntimeOwnershipInspection`; `current` alone is authorized. -/
inductive OsvRuntimeOwnershipInspection
  | absent | released | lost | policyMismatch | expired | current
  deriving DecidableEq

/-- `inspectOwnership`. -/
def inspectOwnership (sha256 : JsString → JsString) (transaction : Transaction)
    (proof : OsvRuntimeLeaseOwnershipProof) (expectedRunId : JsString) :
    Sql (Except RejectionCode OsvRuntimeOwnershipInspection) := do
  let loaded ← loadLeaseWithDatabaseTime transaction none .elsewhere
  match loaded with
  | none => return .ok .absent
  | some (row, unexpired) =>
      if row.state = .released then return .ok .released
      else
        match proof.holderToken with
        | none => return .ok .lost
        | some presented =>
            match digestOsvRuntimeHolderToken sha256 presented with
            | .error code => return .error code
            | .ok digest =>
                if proof.scope ≠ osvRuntimeLeaseScopeIdentifier then return .ok .policyMismatch
                else if proof.runId ≠ expectedRunId ∨ row.runId ≠ expectedRunId then
                  return .ok .lost
                else if digest ≠ row.holderTokenDigest then return .ok .lost
                else do
                  let projection ← orThrow (mapLeaseProjection row)
                  if proof.fencingToken ≠ projection.fencingToken then return .ok .lost
                  else if unexpired = false then return .ok .expired
                  else return .ok .current

/-- `validateOwnership`. -/
def validateOwnership (sha256 : JsString → JsString) (proof : OsvRuntimeLeaseOwnershipProof)
    (expectedRunId : JsString) :
    Program leaseOperations (CallReturn OsvRuntimeOwnershipInspection) :=
  runInTransaction fun transaction => do
    return wroteNothing (← inspectOwnership sha256 transaction proof expectedRunId)

/-! ## Transitions of a run -/

/-- The status of an `OsvRuntimeRunTransitionResult`. -/
inductive OsvRuntimeRunTransitionStatus
  | transitioned | alreadyApplied
  deriving DecidableEq

/-- `OsvRuntimeRunTransitionResult`. -/
structure OsvRuntimeRunTransitionResult where
  status : OsvRuntimeRunTransitionStatus
  run : RunRow
  deriving DecidableEq

/-- `requiresOwnership`. -/
def requiresOwnership (next : OsvRuntimeRunState) : Bool :=
  decide (next = .running) || decide (next = .retryWait) || decide (next = .completed)

/-- `reloadTransition`. -/
def reloadTransition (transaction : Transaction) (command : OsvRuntimeRunTransitionCommand) :
    Sql (Except RejectionCode OsvRuntimeRunTransitionResult) := do
  let existing ← selectRun transaction command.runId
  match existing with
  | none => return .error .notFound
  | some run =>
      if run.state ≠ command.nextState then return .error .stateConflict
      else if run.terminalCode = command.terminalCode ∧
          run.retryDisposition = command.retryDisposition ∧
          run.lastAcceptedStage = command.lastAcceptedStage ∧
          run.cancellationBoundary = command.cancellationBoundary then
        return .ok ⟨.alreadyApplied, run⟩
      else return .error .immutableConflict

/-- The guarded update of `transition`, after the check of the ownership. -/
def transitionOwned (command : OsvRuntimeRunTransitionCommand) (transaction : Transaction) :
    Sql (TransactionOutcome OsvRuntimeRunTransitionResult) := do
  let updated ← transitionRunRow transaction command
  match updated with
  | none => return wroteNothing (← reloadTransition transaction command)
  | some run => return ⟨.ok ⟨.transitioned, run⟩, none, some (run, command)⟩

/-- The callback of `transition`. -/
def transitionIn (sha256 : JsString → JsString) (command : OsvRuntimeRunTransitionCommand)
    (transaction : Transaction) : Sql (TransactionOutcome OsvRuntimeRunTransitionResult) := do
  match requiresOwnership command.nextState, command.proof with
  | true, some proof =>
      let ownership ← inspectOwnership sha256 transaction proof command.runId
      match ownership with
      | .error code => return wroteNothing (.error code)
      | .ok .current => transitionOwned command transaction
      | .ok _ => return wroteNothing (.error .ownershipConflict)
  | _, _ => transitionOwned command transaction

/-- `transition`. -/
def transition (sha256 : JsString → JsString) (command : OsvRuntimeRunTransitionCommand) :
    Program leaseOperations (CallReturn OsvRuntimeRunTransitionResult) :=
  if command.nextState ∉ command.expectedState.edges then failed .stateConflict
  else if requiresOwnership command.nextState = true ∧ command.proof = none then
    failed .invalidField
  else runInTransaction (transitionIn sha256 command)

/-! ## The system -/

/-- The calls of the adapter. -/
inductive LeaseRequest
  | acquire (command : OsvRuntimeLeaseAcquirePersistenceCommand)
  | heartbeat (proof : OsvRuntimeLeaseOwnershipProof)
  | release (proof : OsvRuntimeLeaseOwnershipProof) (reason : OsvRuntimeLeaseReleaseReason)
  | validateOwnership (proof : OsvRuntimeLeaseOwnershipProof) (expectedRunId : JsString)
  | transition (command : OsvRuntimeRunTransitionCommand)
  deriving DecidableEq

/-- What a call returns. -/
inductive LeaseReply
  | acquire (reply : CallReturn OsvRuntimeLeaseAcquireResult)
  | heartbeat (reply : CallReturn OsvRuntimeLeaseHeartbeatResult)
  | release (reply : CallReturn ReleaseReturn)
  | validateOwnership (reply : CallReturn OsvRuntimeOwnershipInspection)
  | transition (reply : CallReturn OsvRuntimeRunTransitionResult)

/-- The program of a call. -/
def leaseProgram (sha256 : JsString → JsString) :
    LeaseRequest → Program leaseOperations LeaseReply
  | .acquire command => do return .acquire (← acquire sha256 command)
  | .heartbeat proof => do return .heartbeat (← heartbeat sha256 proof)
  | .release proof reason => do return .release (← release sha256 proof reason)
  | .validateOwnership proof expectedRunId => do
      return .validateOwnership (← validateOwnership sha256 proof expectedRunId)
  | .transition command => do return .transition (← transition sha256 command)

/-- What else happens to the database. -/
inductive LeaseEvent
  /-- A transaction is taken back: its client is gone, or it took too long. -/
  | abort (transaction : Nat)
  /-- A run is ensured; a new one is planned. -/
  | ensureRun (run : RunRow)
  deriving DecidableEq

/-- The effect of an event. -/
def LeaseEvent.apply (s : LeaseDatabase) : LeaseEvent → Option LeaseDatabase
  | .abort transaction => some (s.close transaction)
  | .ensureRun run =>
      if run.state = .planned ∧ s.runs.any (·.id = run.id) = false then
        some { s with runs := run :: s.runs }
      else none

/-- Any number of calls on one database. -/
def leaseSystem (sha256 : JsString → JsString) :
    Interleaving LeaseDatabase LeaseRequest LeaseReply LeaseEvent where
  ops := leaseOperations
  program := leaseProgram sha256
  environment := fun event s => event.apply s

end PatchPilot.Osv
