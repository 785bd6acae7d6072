import PatchPilot.Foundation.Interleaving
import PatchPilot.Jobs.Execution
import PatchPilot.Sbom.PersistenceRuns

set_option autoImplicit false

/-!
# Sbom: processing an ingestion (`ingest.ts`)

A worker claims the job of an ingestion, reads the uploaded document from the object
storage, has it parsed and persists the graph.  A failure is retried or ends the ingestion,
as its code says.  The rows are those of one ingestion, and any number of workers execute
its job at the same time.  A row that was found by its organization has that organization;
the source checks this once more.
-/

namespace PatchPilot.Sbom

open PatchPilot.Foundation
open PatchPilot.Jobs

/-! ## Data -/

/-- `SbomIngestJobPayload`, as far as it is read. -/
structure SbomIngestJobPayload where
  organizationId : Uuid
  outboxEventId : JsString
  aggregateId : Uuid
  deriving DecidableEq

/-- `ProcessSbomIngestionOutcome`. -/
inductive ProcessSbomIngestionOutcome
  | completed
  | alreadyComplete
  | rejected (code : SafeFailureCode)
  | quarantined (code : SafeFailureCode)
  | failed (code : SafeFailureCode)
  | retry (code : SafeFailureCode)
  | skipped
  deriving DecidableEq

/-- `ProcessSbomIngestionOptions`, without the limits that are handed to the parser. -/
structure ProcessSbomIngestionOptions where
  workerIdentifier : JsString
  processingLeaseMs : Int
  deriving DecidableEq

/-- `StorageFailureCategory`. -/
inductive StorageFailureCategory
  | aborted | sizeLimit | invalidContent | timeout | storageUnavailable | copyFailed
  | bucketMissing | objectMissing | accessDenied | internal
  deriving DecidableEq

/-- `mapStorageFailureToSafeCode`. -/
def mapStorageFailureToSafeCode : StorageFailureCategory → SafeFailureCode
  | .objectMissing => .objectMissing
  | .timeout | .aborted | .storageUnavailable => .storageTimeout
  | .invalidContent => .hashMismatch
  | .sizeLimit => .payloadTooLarge
  | .bucketMissing | .accessDenied | .copyFailed | .internal => .processingFailed

/-- An object key: one that `isFinalSbomObjectKey` or `isTemporarySbomObjectKey` accepts,
with its segments, or another text. -/
inductive SbomObjectKey
  | final (organizationId assetId : Uuid) (sha256 : JsString)
  | temporary (organizationId assetId uploadId : Uuid)
  | other (text : JsString)
  deriving DecidableEq

/-- The key belongs to an object that was promoted for this asset: `isFinalSbomObjectKey`,
and `sbomObjectKeyScope` names the asset. -/
def SbomObjectKey.isFinalOf (key : SbomObjectKey) (organizationId assetId : Uuid) : Bool :=
  match key with
  | .final keyOrganizationId keyAssetId _ =>
      decide (keyOrganizationId = organizationId ∧ keyAssetId = assetId)
  | _ => false

/-- `SbomRecord`, as far as it is read. -/
structure SbomRecord where
  id : Uuid
  organizationId : Uuid
  objectKey : SbomObjectKey
  sha256 : JsString
  byteLength : Nat
  deriving DecidableEq

/-- The terminal commands of `finalizeTerminal`. -/
inductive TerminalCommand
  | reject | quarantine | fail
  deriving DecidableEq

/-- `commandType` of a failure. -/
def TerminalCommand.ofOutcome : SafeFailureOutcome → TerminalCommand
  | .rejected => .reject
  | .quarantined => .quarantine
  | _ => .fail

/-- The command of `applyTransition`. -/
def TerminalCommand.command (completedAt : Timestamp) (code : SafeFailureCode) :
    TerminalCommand → Session8IngestionCommand
  | .reject => .reject completedAt code
  | .quarantine => .quarantine completedAt code
  | .fail => .fail completedAt code

/-- The state that the command asks for and that its audit event reports. -/
def TerminalCommand.state : TerminalCommand → SbomIngestionState
  | .reject => .rejected
  | .quarantine => .quarantined
  | .fail => .failed

/-- The outcome that is returned. -/
def TerminalCommand.outcome (code : SafeFailureCode) :
    TerminalCommand → ProcessSbomIngestionOutcome
  | .reject => .rejected code
  | .quarantine => .quarantined code
  | .fail => .failed code

/-- An audit event `sbom.ingestion.rejected`, `.quarantined` or `.failed`, and the states of
the ingestion before and after the transaction that appended it. -/
structure TerminalAudit where
  action : TerminalCommand
  failureCode : SafeFailureCode
  before : Option SbomIngestionState
  after : Option SbomIngestionState
  deriving DecidableEq

/-- The rows that executions on one ingestion share. -/
structure IngestState where
  job : Option (BackgroundJob SafeFailureCode)
  ingestion : Option SbomIngestionRow
  audits : List TerminalAudit
  deriving DecidableEq

/-! ## Statements and transactions -/

section

variable (payload : SbomIngestJobPayload)

/-- `ingestions.findById`. -/
def IngestState.findById (s : IngestState) : Option SbomIngestionRow :=
  s.ingestion.filter fun row =>
    decide (row.organizationId = payload.organizationId ∧ row.id = payload.aggregateId)

/-- The state of the ingestion. -/
def IngestState.state (s : IngestState) : Option SbomIngestionState :=
  (s.findById payload).map (·.snapshot.state)

/-- `applyTransition` within a transaction, whose result is not looked at. -/
def IngestState.transition (expectedVersion : Nat) (command : Session8IngestionCommand)
    (s : IngestState) : IngestState :=
  match planTransition (s.findById payload) expectedVersion command with
  | .ok (some update) => { s with ingestion := s.ingestion.map update.onIngestion }
  | _ => s

/-- The transaction of `releaseForRetry`. -/
def IngestState.release (expectedVersion : Nat) (workerIdentifier : JsString)
    (code : SafeFailureCode) (s : IngestState) : IngestState :=
  { s.transition payload expectedVersion (.releaseForRetry code) with
    job := s.job.map (·.markRetry workerIdentifier code) }

/-- The transaction of `finalizeTerminal`. -/
def IngestState.finalize (expectedVersion : Nat) (workerIdentifier : JsString)
    (command : TerminalCommand) (code : SafeFailureCode) (completedAt : Timestamp)
    (s : IngestState) : IngestState :=
  let after := s.transition payload expectedVersion (command.command completedAt code)
  { ingestion := after.ingestion
    audits := s.audits ++ [⟨command, code, s.state payload, after.state payload⟩]
    job := s.job.map (·.markTerminalFailure workerIdentifier code completedAt) }

/-- The update of the job that `persistOnceForIngestion` owns. -/
def succeedOwned (owned : Option OwnedJob) (completedAt : Timestamp)
    (job : BackgroundJob SafeFailureCode) : BackgroundJob SafeFailureCode :=
  match owned with
  | none => job
  | some owned =>
      if job.OwnedBy owned.workerIdentifier ∧
          (job.leaseExpiresAt.any fun expiresAt => completedAt < expiresAt) = true then
        { job with
          status := .succeeded, completedAt := some owned.completedAt, leaseExpiresAt := none,
          failureCode := none }
      else job

/-- The transaction of `persistOnceForIngestion`, on the ingestion and its job; `none` when
it throws. -/
def IngestState.persist (input : PersistComponentGraphInput) (completedAt : Timestamp)
    (s : IngestState) : Option (Except SbomError Unit × IngestState) :=
  if validateNormalizedComponentGraph input.graph = none then some (.error .validation, s)
  else
    match decideAdmission input (s.findById payload) with
    | .replayed => some (.ok (), s)
    | .refused error => some (.error error, s)
    | .admitted ingestion =>
        match completedSnapshot ingestion input.graph completedAt with
        | .error (.returned error) => some (.error error, s)
        | .error .thrown => none
        | .ok next => some (.ok (), { s with
            ingestion := s.ingestion.map fun row =>
              if row.completes input.organizationId input.sbomIngestionId ingestion.version then
                row.completeWith next
              else row
            job := s.job.map (succeedOwned input.ownedJob completedAt) })

/-! ## Operations -/

/-- What an execution calls: the clock, statements and transactions, the storage and the
parser. -/
inductive IngestOp
  | clock
  | findByOutboxEventId
  | claimExecution (workerIdentifier : JsString) (now leaseExpiresAt : Timestamp)
  | findById
  | updateIngestion (update : PreparedUpdate)
  | markSucceeded (workerIdentifier : JsString) (completedAt : Timestamp)
  | markRetry (workerIdentifier : JsString) (code : SafeFailureCode)
  | markTerminalFailure (workerIdentifier : JsString) (code : SafeFailureCode)
      (completedAt : Timestamp)
  | findSbom
  | getObject
  | readVerified
  | parse
  | persist (input : PersistComponentGraphInput)
  | release (expectedVersion : Nat) (workerIdentifier : JsString) (code : SafeFailureCode)
  | finalize (expectedVersion : Nat) (workerIdentifier : JsString) (command : TerminalCommand)
      (code : SafeFailureCode) (completedAt : Timestamp)

/-- What they answer. -/
def IngestOp.Answer : IngestOp → Type
  | .clock => Timestamp
  | .findByOutboxEventId => Option (BackgroundJob SafeFailureCode)
  | .claimExecution _ _ _ => Option (BackgroundJob SafeFailureCode)
  | .findById => Option SbomIngestionRow
  | .updateIngestion _ => Bool
  | .findSbom => Option SbomRecord
  | .getObject => Except StorageFailureCategory Unit
  | .readVerified => Except SafeFailureCode Unit
  | .parse => Except SafeFailureCode NormalizedComponentGraph
  | .persist _ => Except SbomError Unit
  | _ => Unit

/-- What the clock, the storage and the parser decide.  The row of the SBOM does not
change, and is any row. -/
inductive IngestChoice
  | proceed
  | time (now : Timestamp)
  | sbom (row : Option SbomRecord)
  | object (result : Except StorageFailureCategory Unit)
  | bytes (result : Except SafeFailureCode Unit)
  | document (result : Except SafeFailureCode NormalizedComponentGraph)

/-- What they do. -/
def IngestOp.exec : (op : IngestOp) → IngestChoice → IngestState →
    Option (op.Answer × IngestState)
  | .clock, .time now, s => some (now, s)
  | .findByOutboxEventId, .proceed, s =>
      some (s.job.filter fun job => decide (job.organizationId = some payload.organizationId), s)
  | .claimExecution workerIdentifier now leaseExpiresAt, .proceed, s =>
      match s.job.bind (·.claimExecution workerIdentifier now leaseExpiresAt) with
      | some job => some (some job, { s with job := some job })
      | none => some (none, s)
  | .findById, .proceed, s => some (s.findById payload, s)
  | .updateIngestion update, .proceed, s =>
      some (s.ingestion.any fun row => decide (row.organizationId = update.current.organizationId ∧
          row.id = update.current.id ∧ row.version = update.expectedVersion),
        { s with ingestion := s.ingestion.map update.onIngestion })
  | .markSucceeded workerIdentifier completedAt, .proceed, s =>
      some ((), { s with job := s.job.map (·.markSucceeded workerIdentifier completedAt) })
  | .markRetry workerIdentifier code, .proceed, s =>
      some ((), { s with job := s.job.map (·.markRetry workerIdentifier code) })
  | .markTerminalFailure workerIdentifier code completedAt, .proceed, s =>
      some ((), { s with
        job := s.job.map (·.markTerminalFailure workerIdentifier code completedAt) })
  | .findSbom, .sbom row, s => some (row, s)
  | .getObject, .object result, s => some (result, s)
  | .readVerified, .bytes result, s => some (result, s)
  | .parse, .document result, s => some (result, s)
  | .persist input, .time completedAt, s => s.persist payload input completedAt
  | .release expectedVersion workerIdentifier code, .proceed, s =>
      some ((), s.release payload expectedVersion workerIdentifier code)
  | .finalize expectedVersion workerIdentifier command code completedAt, .proceed, s =>
      some ((), s.finalize payload expectedVersion workerIdentifier command code completedAt)
  | _, _, _ => none

/-- The operations of executions on one ingestion. -/
def ingestOps : Operations IngestState where
  Op := IngestOp
  Answer := IngestOp.Answer
  Choice := IngestChoice
  exec := IngestOp.exec payload

end

/-! ## Calls -/

namespace Ingest

variable (payload : SbomIngestJobPayload)

/-- A part of an execution. -/
abbrev Part (α : Type) : Type := Program (ingestOps payload) α

/-- One operation. -/
def call (op : IngestOp) : Part payload op.Answer := @Program.perform _ (ingestOps payload) op

/-- `clock.now`. -/
def now : Part payload Timestamp := call payload .clock

/-- `jobs.findByOutboxEventId`. -/
def findByOutboxEventId : Part payload (Option (BackgroundJob SafeFailureCode)) :=
  call payload .findByOutboxEventId

/-- `jobs.claimExecution`; `none` is its conflict. -/
def claimExecution (workerIdentifier : JsString) (now leaseExpiresAt : Timestamp) :
    Part payload (Option (BackgroundJob SafeFailureCode)) :=
  call payload (.claimExecution workerIdentifier now leaseExpiresAt)

/-- `jobs.markSucceeded`. -/
def markSucceeded (workerIdentifier : JsString) (completedAt : Timestamp) : Part payload Unit :=
  call payload (.markSucceeded workerIdentifier completedAt)

/-- `jobs.markRetry`. -/
def markRetry (workerIdentifier : JsString) (code : SafeFailureCode) : Part payload Unit :=
  call payload (.markRetry workerIdentifier code)

/-- `jobs.markTerminalFailure`. -/
def markTerminalFailure (workerIdentifier : JsString) (code : SafeFailureCode)
    (completedAt : Timestamp) : Part payload Unit :=
  call payload (.markTerminalFailure workerIdentifier code completedAt)

/-- `ingestions.findById`. -/
def findById : Part payload (Option SbomIngestionRow) := call payload .findById

/-- The update of `applyTransition`: whether it met a row. -/
def updateIngestion (update : PreparedUpdate) : Part payload Bool :=
  call payload (.updateIngestion update)

/-- `sbomMetadata.findByAssetAndId`. -/
def findSbom : Part payload (Option SbomRecord) := call payload .findSbom

/-- `storage.getObject`. -/
def getObject : Part payload (Except StorageFailureCategory Unit) := call payload .getObject

/-- `readVerifiedObjectBuffer`. -/
def readVerifiedObjectBuffer : Part payload (Except SafeFailureCode Unit) :=
  call payload .readVerified

/-- `parser.parse`. -/
def parse : Part payload (Except SafeFailureCode NormalizedComponentGraph) := call payload .parse

/-- `graph.persistOnceForIngestion`. -/
def persistOnceForIngestion (input : PersistComponentGraphInput) :
    Part payload (Except SbomError Unit) :=
  call payload (.persist input)

/-- The transaction of `releaseForRetry`. -/
def release (ingestionVersion : Nat) (workerIdentifier : JsString) (code : SafeFailureCode) :
    Part payload Unit :=
  call payload (.release ingestionVersion workerIdentifier code)

/-- The transaction of `finalizeTerminal`. -/
def finalize (ingestionVersion : Nat) (workerIdentifier : JsString) (command : TerminalCommand)
    (code : SafeFailureCode) (completedAt : Timestamp) : Part payload Unit :=
  call payload (.finalize ingestionVersion workerIdentifier command code completedAt)

/-! ## The execution -/

/-- `asSafeCode`. -/
def asSafeCode (value : Option SafeFailureCode) : SafeFailureCode :=
  value.getD .processingFailed

/-- `applyTransition` outside of a transaction. -/
def applyTransition (expectedVersion : Nat) (command : Session8IngestionCommand) :
    Part payload (Except SbomError SbomIngestionRow) := do
  let current ← findById payload
  match planTransition current expectedVersion command with
  | .error error => pure (.error error)
  | .ok none => pure (current.elim (.error .invalidTransition) .ok)
  | .ok (some update) =>
      let updated ← updateIngestion payload update
      if updated then
        let record ← findById payload
        pure (record.elim (.error .invalidTransition) .ok)
      else pure (.error .invalidTransition)

variable (options : ProcessSbomIngestionOptions)

/-- `releaseForRetry`. -/
def releaseForRetry (ingestionVersion : Nat) (code : SafeFailureCode) :
    Part payload ProcessSbomIngestionOutcome := do
  let _ ← now payload
  release payload ingestionVersion options.workerIdentifier code
  pure (.retry code)

/-- `finalizeTerminal`. -/
def finalizeTerminal (ingestionVersion : Nat) (code : SafeFailureCode) :
    Part payload ProcessSbomIngestionOutcome := do
  let command := TerminalCommand.ofOutcome code.outcome
  let now ← now payload
  finalize payload ingestionVersion options.workerIdentifier command code now
  pure (command.outcome code)

/-- `finalizeByCode`. -/
def finalizeByCode (ingestionVersion : Nat) (code : SafeFailureCode) :
    Part payload ProcessSbomIngestionOutcome :=
  if code.outcome = .retryableInfrastructure then
    releaseForRetry payload options ingestionVersion code
  else finalizeTerminal payload options ingestionVersion code

/-- `alignTerminalJob`, for the worker that claimed the job. -/
def alignTerminalJob (code : SafeFailureCode) : Part payload ProcessSbomIngestionOutcome := do
  let now ← now payload
  markTerminalFailure payload options.workerIdentifier code now
  pure ((TerminalCommand.ofOutcome code.outcome).outcome code)

/-- `loadProcessingIngestion`: the record, or the outcome that is returned. -/
def loadProcessingIngestion (ingestion : SbomIngestionRow) (now : Timestamp) :
    Part payload (Except ProcessSbomIngestionOutcome SbomIngestionRow) :=
  if ingestion.snapshot.state ≠ .accepted ∧ ingestion.snapshot.state ≠ .queued then
    pure (.ok ingestion)
  else do
    let started ← applyTransition payload ingestion.version (.startProcessing now .validate)
    match started with
    | .ok record => pure (.ok record)
    | .error _ =>
        let reloaded ← findById payload
        match reloaded with
        | none =>
            markRetry payload options.workerIdentifier .queueUnavailable
            pure (.error (.retry .queueUnavailable))
        | some reloaded =>
            if reloaded.snapshot.state = .processing then pure (.ok reloaded)
            else if reloaded.snapshot.state = .completed then
              markSucceeded payload options.workerIdentifier now
              pure (.error .alreadyComplete)
            else if reloaded.snapshot.state.isTerminal then
              let outcome ← alignTerminalJob payload options
                (asSafeCode reloaded.snapshot.failureCode)
              pure (.error outcome)
            else
              markRetry payload options.workerIdentifier .queueUnavailable
              pure (.error (.retry .queueUnavailable))

/-- `handlePersistFailure`. -/
def handlePersistFailure (ingestion : SbomIngestionRow) (error : SbomError) :
    Part payload ProcessSbomIngestionOutcome :=
  if error.isValidation then
    finalizeByCode payload options ingestion.version .processingFailed
  else do
    let latest ← findById payload
    match latest with
    | none => releaseForRetry payload options ingestion.version .storageTimeout
    | some latest =>
        if latest.snapshot.state = .completed then
          let now ← now payload
          markSucceeded payload options.workerIdentifier now
          pure .alreadyComplete
        else if latest.snapshot.state.isTerminal then
          alignTerminalJob payload options (asSafeCode latest.snapshot.failureCode)
        else releaseForRetry payload options ingestion.version .storageTimeout

/-- `processSbomIngestion`, from a parsed document on. -/
def persistDocument (jobId : Uuid) (current : SbomIngestionRow) (sbomId : Uuid)
    (graph : NormalizedComponentGraph) : Part payload ProcessSbomIngestionOutcome := do
  let now ← now payload
  let persisted ← persistOnceForIngestion payload
    ⟨current.organizationId, current.assetId, sbomId, current.id, graph, payload.outboxEventId,
      some ⟨jobId, options.workerIdentifier, now⟩⟩
  match persisted with
  | .error error => handlePersistFailure payload options current error
  | .ok _ => pure .completed

/-- `processSbomIngestion`, from the row of the SBOM on. -/
def readDocument (jobId : Uuid) (current : SbomIngestionRow) (sbomId : Uuid) :
    Part payload ProcessSbomIngestionOutcome := do
  let downloaded ← getObject payload
  match downloaded with
  | .error category =>
      finalizeByCode payload options current.version (mapStorageFailureToSafeCode category)
  | .ok _ =>
      let verified ← readVerifiedObjectBuffer payload
      match verified with
      | .error code => finalizeByCode payload options current.version code
      | .ok _ =>
          let parsedDocument ← parse payload
          match parsedDocument with
          | .error code => finalizeByCode payload options current.version code
          | .ok graph => persistDocument payload options jobId current sbomId graph

/-- `processSbomIngestion`, from an ingestion that is processed on. -/
def processDocument (jobId : Uuid) (current : SbomIngestionRow) :
    Part payload ProcessSbomIngestionOutcome := do
  let sbom ← findSbom payload
  match sbom with
  | none => finalizeByCode payload options current.version .objectMissing
  | some sbom =>
      if sbom.organizationId ≠ current.organizationId then
        finalizeByCode payload options current.version .objectMissing
      else if sbom.objectKey.isFinalOf current.organizationId current.assetId = false then
        finalizeByCode payload options current.version .processingFailed
      else readDocument payload options jobId current sbom.id

/-- `processSbomIngestion`, from a claimed job on. -/
def processClaimed (jobId : Uuid) (now : Timestamp) :
    Part payload ProcessSbomIngestionOutcome := do
  let ingestion ← findById payload
  match ingestion with
  | none => finalizeByCode payload options 0 .processingFailed
  | some ingestion =>
      if ingestion.snapshot.state = .completed then
        markSucceeded payload options.workerIdentifier now
        pure .alreadyComplete
      else if ingestion.snapshot.state.isTerminal then
        alignTerminalJob payload options (asSafeCode ingestion.snapshot.failureCode)
      else
        let current ← loadProcessingIngestion payload options ingestion now
        match current with
        | .error outcome => pure outcome
        | .ok current => processDocument payload options jobId current

/-- The statuses in which a job is not executed again. -/
def endedWithoutSuccess (status : BackgroundJobStatus) : Prop :=
  status = .failed ∨ status = .deadLettered ∨ status = .cancelled

instance (status : BackgroundJobStatus) : Decidable (endedWithoutSuccess status) :=
  inferInstanceAs (Decidable (_ ∨ _))

/-- `processSbomIngestion`, for a payload that was parsed. -/
def processSbomIngestion : Part payload ProcessSbomIngestionOutcome := do
  let job ← findByOutboxEventId payload
  match job with
  | none => pure (.retry .queueUnavailable)
  | some job =>
      if job.jobType ≠ js "sbom.ingest" then pure .skipped
      else if job.status = .succeeded then pure .alreadyComplete
      else if endedWithoutSuccess job.status then pure (.failed (asSafeCode job.failureCode))
      else
        let now ← now payload
        let claim ← claimExecution payload options.workerIdentifier now
          (now + options.processingLeaseMs)
        match claim with
        | none => pure (.retry .queueUnavailable)
        | some _ => processClaimed payload options job.id now

end Ingest

/-- Executions on one ingestion. -/
def ingestion (payload : SbomIngestJobPayload) :
    Interleaving IngestState ProcessSbomIngestionOptions ProcessSbomIngestionOutcome Empty where
  ops := ingestOps payload
  program := Ingest.processSbomIngestion payload
  environment event := nomatch event

end PatchPilot.Sbom
