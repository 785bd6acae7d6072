import PatchPilot.Foundation.Comparator
import PatchPilot.Foundation.Interleaving
import PatchPilot.Foundation.JsString

set_option autoImplicit false

/-!
# Outbox: the relay (`relay.ts`, `outbox-relay-persistence.ts`, `background-job-execution.ts`)

A relay claims due events, publishes each to the queue, and marks it by what the queue
answered.  Each statement is one step on the rows; the rows that a claim finds locked by others
are a choice.  An update goes by the status of the row, whoever has claimed it.  All relays
share one clock: a relay reads its time at the start of a batch and goes on with it, but no
relay is ahead of another.
-/

namespace PatchPilot.Outbox

open PatchPilot.Foundation

/-- A time, in milliseconds. -/
abbrev Instant := Int

/-! ## Rows -/

/-- `outbox_event_status`. -/
inductive OutboxEventStatus
  | pending | claimed | processed | failed | deadLettered
  deriving DecidableEq

/-- A row of `outbox_event`. -/
structure OutboxEventRow where
  id : JsString
  organizationId : Option JsString
  aggregateType : JsString
  aggregateId : JsString
  eventType : JsString
  dedupeKey : JsString
  availableAt : Instant
  claimedAt : Option Instant
  leaseExpiresAt : Option Instant
  processedAt : Option Instant
  attemptCount : Nat
  lastFailureCategory : Option JsString
  lastFailureCode : Option JsString
  status : OutboxEventStatus
  deriving DecidableEq

/-- A row of `background_job`, as the relay creates it. -/
structure BackgroundJobRow where
  organizationId : Option JsString
  outboxEventId : JsString
  jobType : JsString
  deriving DecidableEq

/-- `ClaimableOutboxEvent`. -/
structure ClaimableOutboxEvent where
  id : JsString
  organizationId : Option JsString
  aggregateType : JsString
  aggregateId : JsString
  eventType : JsString
  dedupeKey : JsString
  availableAt : Instant
  attemptCount : Nat
  deriving DecidableEq

/-- `ClaimedOutboxEvent`. -/
structure ClaimedOutboxEvent extends ClaimableOutboxEvent where
  claimedAt : Instant
  leaseExpiresAt : Instant
  deriving DecidableEq

/-- `OutboxQueueJob`. -/
structure OutboxQueueJob where
  jobId : JsString
  jobType : JsString
  organizationId : Option JsString
  outboxEventId : JsString
  aggregateType : JsString
  aggregateId : JsString
  eventType : JsString
  dedupeKey : JsString
  deriving DecidableEq

/-- `OutboxQueuePublishResult`. -/
inductive OutboxQueuePublishResult
  | ok (duplicate : Bool)
  | failed
  deriving DecidableEq

/-! ## Constants -/

/-- `SBOM_INGESTION_REQUESTED_EVENT_TYPE`. -/
def sbomIngestionRequestedEventType : JsString := js "sbom.ingestion.requested.v1"

/-- `INTELLIGENCE_SYNC_REQUESTED_EVENT_TYPE`. -/
def intelligenceSyncRequestedEventType : JsString := js "intelligence.sync.requested.v1"

/-- `SBOM_INGEST_JOB_TYPE`. -/
def sbomIngestJobType : JsString := js "sbom.ingest"

/-- `INTELLIGENCE_SYNC_JOB_TYPE`. -/
def intelligenceSyncJobType : JsString := js "intelligence.sync"

/-- `OutboxRelayOptions`, with the defaults of `OUTBOX_RELAY_DEFAULTS`. -/
structure OutboxRelayOptions where
  batchLimit : Int := 50
  leaseMs : Int := 30000
  maxAttempts : Int := 5
  retryBaseMs : Int := 5000
  retryCapMs : Int := 900000
  deriving DecidableEq

/-- `jobTypeForOutboxEvent`. -/
def jobTypeForOutboxEvent (eventType : JsString) : Option JsString :=
  if eventType = sbomIngestionRequestedEventType then some sbomIngestJobType
  else if eventType = intelligenceSyncRequestedEventType then some intelligenceSyncJobType
  else none

/-- `outboxRetryDelayMs`.  The random number is a fraction of `2 ^ 53`. -/
def outboxRetryDelayMs (attemptCount : Nat) (options : OutboxRelayOptions) (random : Nat) : Int :=
  let exponential := min options.retryCapMs (options.retryBaseMs * 2 ^ (attemptCount - 1))
  let jittered := exponential * (2 ^ 53 + (random % 2 ^ 53 : Nat)) / 2 ^ 54
  min options.retryCapMs (max 1 jittered)

/-- `deterministicOutboxQueueJobId`. -/
def deterministicOutboxQueueJobId (eventType id : JsString) : JsString :=
  eventType ++ js "__" ++ id

/-- `boundClaimLimit`.  A limit that is not an integer is refused as zero is. -/
def boundClaimLimit (limit : Int) : Nat :=
  if limit < 1 then 0 else if limit > 100 then 100 else limit.toNat

/-! ## The database and the queue -/

/-- What a relay found when it marked an event processed. -/
structure ProcessedMark where
  claim : ClaimedOutboxEvent
  found : Option OutboxEventStatus
  time : Instant
  deriving DecidableEq

/-- The rows, the jobs that the queue holds, and the time, which is of one clock that all
relays read.  What the queue has accepted, which claims there were and what the marks found is
kept as a record, which nothing reads. -/
structure RelayState where
  now : Instant
  events : List OutboxEventRow
  jobs : List BackgroundJobRow
  held : List JsString
  accepted : List JsString
  claims : List (JsString × Nat)
  marks : List ProcessedMark
  deriving DecidableEq

/-- Nothing has happened. -/
def RelayState.empty (now : Instant) : RelayState := ⟨now, [], [], [], [], [], []⟩

/-- What no relay decides: the rows that others have locked, whether the queue stores a job and
whether its answer arrives, and a random number. -/
structure RelayChoice where
  locked : List JsString
  stores : Bool
  answers : Bool
  random : Nat
  deriving DecidableEq

/-- The calls of a relay.  A mark names the claim that it is made for. -/
inductive RelayOp
  | now
  | random
  | claimDueBatch (limit now leaseExpiresAt : Int)
  | listProcessedAwaitingBackgroundJob (limit : Int)
  | publish (job : OutboxQueueJob)
  | markProcessed (claim : ClaimedOutboxEvent) (acceptedAt : Instant)
  | markRetryable (claim : ClaimedOutboxEvent) (availableAt : Instant)
  | markDeadLetter (claim : ClaimedOutboxEvent)
  | loadEvent (claim : ClaimedOutboxEvent)
  | createBackgroundJob (row : BackgroundJobRow)
  | findBackgroundJob (outboxEventId : JsString)
  deriving DecidableEq

/-- What they answer: an update answers whether it changed a row, an insert whether it was not
a unique violation. -/
def RelayOp.Answer : RelayOp → Type
  | .now => Instant
  | .random => Nat
  | .claimDueBatch _ _ _ => List ClaimedOutboxEvent
  | .listProcessedAwaitingBackgroundJob _ => List ClaimableOutboxEvent
  | .publish _ => OutboxQueuePublishResult
  | .markProcessed _ _ => Bool
  | .markRetryable _ _ => Bool
  | .markDeadLetter _ => Bool
  | .loadEvent _ => Option OutboxEventRow
  | .createBackgroundJob _ => Bool
  | .findBackgroundJob _ => Option BackgroundJobRow

namespace OutboxEventRow

/-- `ORDER BY "available_at" ASC, "id" ASC`. -/
def compareDue (left right : OutboxEventRow) : Ordering :=
  (compare left.availableAt right.availableAt).then (compareCodeUnits left.id right.id)

/-- `ORDER BY "processed_at" ASC, "id" ASC`. -/
def compareProcessed (left right : OutboxEventRow) : Ordering :=
  (compare (left.processedAt.getD 0) (right.processedAt.getD 0)).then
    (compareCodeUnits left.id right.id)

def claimable (row : OutboxEventRow) : ClaimableOutboxEvent where
  id := row.id
  organizationId := row.organizationId
  aggregateType := row.aggregateType
  aggregateId := row.aggregateId
  eventType := row.eventType
  dedupeKey := row.dedupeKey
  availableAt := row.availableAt
  attemptCount := row.attemptCount

/-- The `SET` of a claim. -/
def claim (row : OutboxEventRow) (now leaseExpiresAt : Instant) : OutboxEventRow :=
  { row with
    status := .claimed, claimedAt := some now, leaseExpiresAt := some leaseExpiresAt,
    attemptCount := row.attemptCount + 1 }

/-- What a claim of the row returns. -/
def claimedAs (row : OutboxEventRow) (now leaseExpiresAt : Instant) : ClaimedOutboxEvent :=
  { (row.claim now leaseExpiresAt).claimable with claimedAt := now, leaseExpiresAt }

/-- The row is that of a claim (`organizationWhere`). -/
def isOf (row : OutboxEventRow) (claim : ClaimedOutboxEvent) : Bool :=
  decide (row.id = claim.id) && decide (row.organizationId = claim.organizationId)

/-- The `SET` of `markProcessedAfterQueueAcceptance`. -/
def process (row : OutboxEventRow) (acceptedAt : Instant) : OutboxEventRow :=
  { row with status := .processed, processedAt := some acceptedAt }

/-- The `SET` of `markRetryableDeliveryFailure`. -/
def retry (row : OutboxEventRow) (availableAt : Instant) : OutboxEventRow :=
  { row with
    status := .pending, claimedAt := none, leaseExpiresAt := none, availableAt
    lastFailureCategory := some (js "timeout"), lastFailureCode := some (js "queue_unavailable") }

/-- The `SET` of `markDeadLetter`. -/
def deadLetter (row : OutboxEventRow) : OutboxEventRow :=
  { row with
    status := .deadLettered, claimedAt := none, leaseExpiresAt := none
    lastFailureCategory := some (js "internal"), lastFailureCode := some (js "processing_failed") }

end OutboxEventRow

namespace RelayState

/-- The rows that a claim selects: pending ones that are due, and then those whose lease has
expired, as many as there is room for. -/
def dueRows (s : RelayState) (locked : List JsString) (limit : Nat) (now : Instant) :
    List OutboxEventRow :=
  let pending := (sortBy OutboxEventRow.compareDue (s.events.filter fun row =>
    row.status = .pending ∧ row.availableAt ≤ now ∧ row.id ∉ locked)).take limit
  let expired := (sortBy OutboxEventRow.compareDue (s.events.filter fun row =>
    row.status = .claimed ∧ row.leaseExpiresAt.any (fun lease => lease < now) ∧
      row.id ∉ locked)).take (limit - pending.length)
  pending ++ expired

/-- The claim of rows. -/
def claimRows (s : RelayState) (ids : List JsString) (now leaseExpiresAt : Instant) :
    RelayState :=
  { s with
    events := s.events.map fun row => if row.id ∈ ids then row.claim now leaseExpiresAt else row }

/-- `claimDueBatch`. -/
def claimDueBatch (s : RelayState) (locked : List JsString) (limit : Int)
    (now leaseExpiresAt : Instant) : List ClaimedOutboxEvent × RelayState :=
  let rows := s.dueRows locked (boundClaimLimit limit) now
  let claimed := rows.map (·.claimedAs now leaseExpiresAt)
  (claimed,
    { s.claimRows (rows.map (·.id)) now leaseExpiresAt with
      claims := s.claims ++ claimed.map fun event => (event.id, event.attemptCount) })

/-- `listProcessedAwaitingBackgroundJob`. -/
def awaiting (s : RelayState) (limit : Int) : List ClaimableOutboxEvent :=
  ((sortBy OutboxEventRow.compareProcessed (s.events.filter fun row =>
    row.status = .processed ∧ ¬ ∃ job ∈ s.jobs, job.outboxEventId = row.id)).take
      (boundClaimLimit limit)).map (·.claimable)

/-- `publish`: a job that the queue holds is a duplicate. -/
def publish (s : RelayState) (job : OutboxQueueJob) (choice : RelayChoice) :
    OutboxQueuePublishResult × RelayState :=
  if job.jobId ∈ s.held then (if choice.answers then .ok true else .failed, s)
  else if choice.stores then
    (if choice.answers then .ok false else .failed,
      { s with held := job.jobId :: s.held, accepted := job.jobId :: s.accepted })
  else (.failed, s)

/-- An `UPDATE` of the row of a claim, if its status is one of some. -/
def mark (s : RelayState) (claim : ClaimedOutboxEvent) (statuses : List OutboxEventStatus)
    (set : OutboxEventRow → OutboxEventRow) : Bool × RelayState :=
  (s.events.any fun row => row.isOf claim && decide (row.status ∈ statuses),
    { s with
      events := s.events.map fun row =>
        if row.isOf claim ∧ row.status ∈ statuses then set row else row })

/-- `createBackgroundJob`, under `background_job_outbox_event_uidx`. -/
def createJob (s : RelayState) (row : BackgroundJobRow) : Bool × RelayState :=
  if ∃ job ∈ s.jobs, job.outboxEventId = row.outboxEventId then (false, s)
  else (true, { s with jobs := s.jobs ++ [row] })

/-- What a mark as processed finds, kept as a record. -/
def recordMark (s : RelayState) (claim : ClaimedOutboxEvent) : RelayState :=
  { s with
    marks := s.marks ++ [⟨claim, (s.events.find? (·.isOf claim)).map (·.status), s.now⟩] }

/-- What a call answers and leaves. -/
def exec : (op : RelayOp) → RelayChoice → RelayState → Option (op.Answer × RelayState)
  | .now, _, s => some (s.now, s)
  | .random, choice, s => some (choice.random, s)
  | .claimDueBatch limit now leaseExpiresAt, choice, s =>
      some (s.claimDueBatch choice.locked limit now leaseExpiresAt)
  | .listProcessedAwaitingBackgroundJob limit, _, s => some (s.awaiting limit, s)
  | .publish job, choice, s => some (s.publish job choice)
  | .markProcessed claim acceptedAt, _, s =>
      some ((s.recordMark claim).mark claim [.claimed] (·.process acceptedAt))
  | .markRetryable claim availableAt, _, s =>
      some (s.mark claim [.claimed] (·.retry availableAt))
  | .markDeadLetter claim, _, s =>
      some (s.mark claim [.claimed, .pending, .failed] (·.deadLetter))
  | .loadEvent claim, _, s => some (s.events.find? (·.isOf claim), s)
  | .createBackgroundJob row, _, s => some (s.createJob row)
  | .findBackgroundJob outboxEventId, _, s =>
      some (s.jobs.find? (·.outboxEventId = outboxEventId), s)

end RelayState

/-- The operations of a relay. -/
def relayOperations : Operations RelayState where
  Op := RelayOp
  Answer := RelayOp.Answer
  Choice := RelayChoice
  exec := RelayState.exec

abbrev RelayProgram (α : Type) := Program relayOperations α

/-- A call of a relay. -/
def perform (op : RelayOp) : RelayProgram op.Answer := @Program.perform _ relayOperations op

/-! ## The relay -/

/-- `OutboxRelayBatchResult`. -/
structure OutboxRelayBatchResult where
  claimed : Nat
  published : Nat
  duplicated : Nat
  retried : Nat
  deadLettered : Nat
  reconciledJobs : Nat
  deriving DecidableEq

/-- What became of an event. -/
inductive RelayOutcome
  | published | duplicated | retried | deadLettered
  deriving DecidableEq

/-- `result[outcome] += 1`. -/
def OutboxRelayBatchResult.count (result : OutboxRelayBatchResult) :
    RelayOutcome → OutboxRelayBatchResult
  | .published => { result with published := result.published + 1 }
  | .duplicated => { result with duplicated := result.duplicated + 1 }
  | .retried => { result with retried := result.retried + 1 }
  | .deadLettered => { result with deadLettered := result.deadLettered + 1 }

/-- The rest of a mark: the row is loaded if one was updated. -/
def loadUpdated (claim : ClaimedOutboxEvent) : Bool → RelayProgram Bool
  | false => return false
  | true => do
      let row : Option OutboxEventRow ← perform (.loadEvent claim)
      return row.isSome

/-- `enqueueQueued`; `false` when it throws. -/
def enqueueQueued (row : BackgroundJobRow) : RelayProgram Bool := do
  let created : Bool ← perform (.createBackgroundJob row)
  if created then return true
  else do
    let existing : Option BackgroundJobRow ← perform (.findBackgroundJob row.outboxEventId)
    return existing.isSome

/-- `toQueueJob`. -/
def toQueueJob (event : ClaimableOutboxEvent) (jobType : JsString) : OutboxQueueJob where
  jobId := deterministicOutboxQueueJobId event.eventType event.id
  jobType
  organizationId := event.organizationId
  outboxEventId := event.id
  aggregateType := event.aggregateType
  aggregateId := event.aggregateId
  eventType := event.eventType
  dedupeKey := event.dedupeKey

/-- What a publication that was accepted comes to. -/
def outcomeOf (duplicate : Bool) : RelayOutcome := if duplicate then .duplicated else .published

/-- After the queue has accepted a publication. -/
def acknowledge (event : ClaimedOutboxEvent) (jobType : JsString) (now : Instant)
    (duplicate : Bool) : RelayProgram (Option RelayOutcome) := do
  let updated : Bool ← perform (.markProcessed event now)
  let processed ← loadUpdated event updated
  if processed then do
    let enqueued ← enqueueQueued ⟨event.organizationId, event.id, jobType⟩
    return if enqueued then some (outcomeOf duplicate) else none
  else return some (outcomeOf duplicate)

/-- After a publication has failed. -/
def postpone (options : OutboxRelayOptions) (event : ClaimedOutboxEvent) (now : Instant) :
    RelayProgram (Option RelayOutcome) := do
  let random : Nat ← perform .random
  let updated : Bool ← perform
    (.markRetryable event (now + outboxRetryDelayMs event.attemptCount options random))
  let _ ← loadUpdated event updated
  return some .retried

/-- An event that is not published any more. -/
def giveUp (event : ClaimedOutboxEvent) : RelayProgram (Option RelayOutcome) := do
  let updated : Bool ← perform (.markDeadLetter event)
  let _ ← loadUpdated event updated
  return some .deadLettered

/-- `relayClaimedEvent`; `none` when it throws. -/
def relayClaimedEvent (options : OutboxRelayOptions) (event : ClaimedOutboxEvent)
    (now : Instant) : RelayProgram (Option RelayOutcome) :=
  match jobTypeForOutboxEvent event.eventType with
  | none => giveUp event
  | some jobType =>
      if event.attemptCount > options.maxAttempts then giveUp event
      else do
        let published : OutboxQueuePublishResult ←
          perform (.publish (toQueueJob event.toClaimableOutboxEvent jobType))
        match published with
        | .failed => postpone options event now
        | .ok duplicate => acknowledge event jobType now duplicate

/-- The loop over the claimed events. -/
def relayEvents (options : OutboxRelayOptions) (now : Instant) :
    List ClaimedOutboxEvent → OutboxRelayBatchResult →
      RelayProgram (Option OutboxRelayBatchResult)
  | [], result => return some result
  | event :: rest, result => do
      match ← relayClaimedEvent options event now with
      | none => return none
      | some outcome => relayEvents options now rest (result.count outcome)

/-- The loop over the processed events that await their background job. -/
def reconcileJobs : List ClaimableOutboxEvent → OutboxRelayBatchResult →
    RelayProgram (Option OutboxRelayBatchResult)
  | [], result => return some result
  | event :: rest, result =>
      match jobTypeForOutboxEvent event.eventType with
      | none => reconcileJobs rest result
      | some jobType => do
          let enqueued ← enqueueQueued ⟨event.organizationId, event.id, jobType⟩
          if enqueued then
            reconcileJobs rest { result with reconciledJobs := result.reconciledJobs + 1 }
          else return none

/-- `executeRelayBatch`; `none` when it throws. -/
def executeRelayBatch (options : OutboxRelayOptions) :
    RelayProgram (Option OutboxRelayBatchResult) := do
  let now : Instant ← perform .now
  let claimed : List ClaimedOutboxEvent ←
    perform (.claimDueBatch options.batchLimit now (now + options.leaseMs))
  match ← relayEvents options now claimed ⟨claimed.length, 0, 0, 0, 0, 0⟩ with
  | none => return none
  | some result => do
      let awaiting : List ClaimableOutboxEvent ←
        perform (.listProcessedAwaitingBackgroundJob options.batchLimit)
      reconcileJobs awaiting result

/-! ## The system -/

/-- What happens besides: time passes, an event is committed, the queue drops a job. -/
inductive RelayEvent
  | passes (milliseconds : Nat)
  | committed (row : OutboxEventRow)
  | dropped (jobId : JsString)
  deriving DecidableEq

/-- An event is committed with an id of its own, pending and without an attempt. -/
def RelayEvent.apply (s : RelayState) : RelayEvent → Option RelayState
  | .passes milliseconds => some { s with now := s.now + milliseconds }
  | .committed row =>
      if row.status = .pending ∧ row.attemptCount = 0 ∧ ∀ other ∈ s.events, other.id ≠ row.id then
        some { s with events := s.events ++ [row] }
      else none
  | .dropped jobId => some { s with held := s.held.filter (· ≠ jobId) }

/-- Relay batches at the same time. -/
def relaySystem :
    Interleaving RelayState OutboxRelayOptions (Option OutboxRelayBatchResult) RelayEvent where
  ops := relayOperations
  program := executeRelayBatch
  environment := fun event s => event.apply s

end PatchPilot.Outbox
