import PatchPilot.Outbox.Relay
import PatchPilot.Sbom.Ingest

set_option autoImplicit false

/-!
# Jobs: the rows of one table (`schema.prisma`)

Three components work on `background_job`: the relay creates a row for each event, workers
execute the job, and the transaction that stores a graph ends the execution.  Each of them has
rows of its own here, with the columns that it reads or decides.  A row below has the columns of
all three, and the rows of the three are what they see of it: what one of them does to what it
sees is what it does to the row, and it changes nothing that the relay sees.
-/

namespace PatchPilot.Jobs

open PatchPilot.Foundation
open PatchPilot.Sbom

/-! ## Rows -/

/-- A row of `background_job`. -/
structure BackgroundJobTableRow extends BackgroundJob SafeFailureCode where
  outboxEventId : Option Uuid

/-- A job of an organization, as the transaction that stores a graph sees it. -/
def graphRow (job : BackgroundJob SafeFailureCode) (organizationId : Uuid) :
    Sbom.BackgroundJobRow where
  id := job.id
  organizationId
  status := job.status
  leaseExpiresAt := job.leaseExpiresAt
  completedAt := job.completedAt
  failureCode := job.failureCode
  workerIdentifier := job.workerIdentifier

namespace BackgroundJobTableRow

/-- The row, as the transaction sees it. -/
def ofGraph (row : BackgroundJobTableRow) : Option Sbom.BackgroundJobRow :=
  row.organizationId.map (graphRow row.toBackgroundJob)

/-- The row of an event, as the relay sees it.  The relay keeps the texts of ids. -/
def ofRelay (text : Uuid → JsString) (row : BackgroundJobTableRow) :
    Option Outbox.BackgroundJobRow :=
  row.outboxEventId.map fun outboxEventId =>
    { organizationId := row.organizationId.map text
      outboxEventId := text outboxEventId
      jobType := row.jobType }

/-- The row that `enqueueQueued` creates; the other columns have their defaults. -/
def queued (id : Uuid) (organizationId : Option Uuid) (outboxEventId : Uuid) (jobType : JsString) :
    BackgroundJobTableRow where
  id
  organizationId
  jobType
  status := .queued
  attempt := 0
  startedAt := none
  leaseExpiresAt := none
  completedAt := none
  failureCode := none
  workerIdentifier := none
  outboxEventId := some outboxEventId

end BackgroundJobTableRow

/-! ## Executions -/

/-- An update of a row by the worker that executes the job. -/
inductive BackgroundJobUpdate
  | claimExecution (workerIdentifier : JsString) (now leaseExpiresAt : Timestamp)
  | markRetry (workerIdentifier : JsString) (failureCode : SafeFailureCode)
  | markSucceeded (workerIdentifier : JsString) (completedAt : Timestamp)
  | markTerminalFailure (workerIdentifier : JsString) (failureCode : SafeFailureCode)
      (completedAt : Timestamp)
  | succeedOwned (owned : OwnedJob) (completedAt : Timestamp)

/-- What an update makes of a job. -/
def BackgroundJobUpdate.onJob (job : BackgroundJob SafeFailureCode) :
    BackgroundJobUpdate → BackgroundJob SafeFailureCode
  | .claimExecution workerIdentifier now leaseExpiresAt =>
      (job.claimExecution workerIdentifier now leaseExpiresAt).getD job
  | .markRetry workerIdentifier failureCode => job.markRetry workerIdentifier failureCode
  | .markSucceeded workerIdentifier completedAt => job.markSucceeded workerIdentifier completedAt
  | .markTerminalFailure workerIdentifier failureCode completedAt =>
      job.markTerminalFailure workerIdentifier failureCode completedAt
  | .succeedOwned owned completedAt => Sbom.succeedOwned (some owned) completedAt job

/-- What an update makes of a row. -/
def BackgroundJobUpdate.onRow (row : BackgroundJobTableRow) (update : BackgroundJobUpdate) :
    BackgroundJobTableRow :=
  { row with toBackgroundJob := update.onJob row.toBackgroundJob }

/-- No update changes what a job is. -/
theorem identity_onJob (job : BackgroundJob SafeFailureCode) (update : BackgroundJobUpdate) :
    (update.onJob job).id = job.id ∧ (update.onJob job).organizationId = job.organizationId ∧
      (update.onJob job).jobType = job.jobType := by
  cases update with
  | claimExecution workerIdentifier now leaseExpiresAt =>
      unfold BackgroundJobUpdate.onJob BackgroundJob.claimExecution
      dsimp only
      split <;> exact ⟨rfl, rfl, rfl⟩
  | markRetry workerIdentifier failureCode =>
      unfold BackgroundJobUpdate.onJob BackgroundJob.markRetry
      dsimp only
      split <;> exact ⟨rfl, rfl, rfl⟩
  | markSucceeded workerIdentifier completedAt =>
      unfold BackgroundJobUpdate.onJob BackgroundJob.markSucceeded
      dsimp only
      split <;> exact ⟨rfl, rfl, rfl⟩
  | markTerminalFailure workerIdentifier failureCode completedAt =>
      unfold BackgroundJobUpdate.onJob BackgroundJob.markTerminalFailure
      dsimp only
      split <;> exact ⟨rfl, rfl, rfl⟩
  | succeedOwned owned completedAt =>
      unfold BackgroundJobUpdate.onJob Sbom.succeedOwned
      dsimp only
      split <;> exact ⟨rfl, rfl, rfl⟩

/-- The relay sees nothing of an update. -/
theorem ofRelay_onRow (text : Uuid → JsString) (row : BackgroundJobTableRow)
    (update : BackgroundJobUpdate) : (update.onRow row).ofRelay text = row.ofRelay text := by
  obtain ⟨-, horganization, htype⟩ := identity_onJob row.toBackgroundJob update
  unfold BackgroundJobTableRow.ofRelay BackgroundJobUpdate.onRow
  dsimp only
  rw [horganization, htype]

/-- The relay sees the same rows after a worker has updated some of them. -/
theorem relayed_update (text : Uuid → JsString) (table : List BackgroundJobTableRow)
    (named : BackgroundJobTableRow → Bool) (update : BackgroundJobUpdate) :
    (table.map fun row => if named row then update.onRow row else row).filterMap
        (·.ofRelay text) = table.filterMap (·.ofRelay text) := by
  rw [List.filterMap_map]
  refine congrArg (List.filterMap · table) (funext fun row => ?_)
  change (if named row then update.onRow row else row).ofRelay text = row.ofRelay text
  split
  · exact ofRelay_onRow text row update
  · rfl

/-! ## The end of an execution -/

/-- What `succeedJob` writes is what a worker writes that succeeds, while its lease lasts. -/
theorem succeedOwned_eq (owned : OwnedJob) (completedAt : Timestamp)
    (job : BackgroundJob SafeFailureCode) :
    Sbom.succeedOwned (some owned) completedAt job =
      if (job.leaseExpiresAt.any fun expiresAt => completedAt < expiresAt) = true then
        job.markSucceeded owned.workerIdentifier owned.completedAt
      else job := by
  unfold Sbom.succeedOwned BackgroundJob.markSucceeded
  dsimp only
  by_cases howned : job.OwnedBy owned.workerIdentifier
  · by_cases hlease : (job.leaseExpiresAt.any fun expiresAt => completedAt < expiresAt) = true
    · rw [if_pos ⟨howned, hlease⟩, if_pos hlease, if_pos howned]
    · rw [if_neg fun h => hlease h.2, if_neg hlease]
  · rw [if_neg fun h => howned h.1, if_neg howned, ite_self]

/-- What `succeedJob` does to a job that the transaction sees. -/
theorem onJob_graphRow (organizationId organization : Uuid) (owned : OwnedJob)
    (completedAt : Timestamp) (job : BackgroundJob SafeFailureCode) :
    (Write.succeedJob organizationId owned completedAt).onJob (graphRow job organization) =
      if organization = organizationId ∧ job.id = owned.jobId then
        graphRow (Sbom.succeedOwned (some owned) completedAt job) organization
      else graphRow job organization := by
  unfold Write.onJob Sbom.succeedOwned
  dsimp only [graphRow]
  by_cases hjob : organization = organizationId ∧ job.id = owned.jobId
  · rw [if_pos hjob]
    by_cases howned : job.OwnedBy owned.workerIdentifier ∧
        (job.leaseExpiresAt.any fun expiresAt => completedAt < expiresAt) = true
    · have hwrite : job.id = owned.jobId ∧ organization = organizationId ∧
          job.workerIdentifier = some owned.workerIdentifier ∧ job.status = .running ∧
            (job.leaseExpiresAt.any fun expiresAt => completedAt < expiresAt) = true :=
        ⟨hjob.2, hjob.1, howned.1.1, howned.1.2, howned.2⟩
      rw [if_pos howned]
      exact if_pos hwrite
    · rw [if_neg howned]
      exact if_neg fun h => howned ⟨⟨h.2.2.1, h.2.2.2.1⟩, h.2.2.2.2⟩
  · rw [if_neg hjob]
    exact if_neg fun h => hjob ⟨h.2.1, h.1⟩

/-- The update of the rows that the transaction makes. -/
def BackgroundJobTableRow.succeeded (organizationId : Uuid) (owned : OwnedJob)
    (completedAt : Timestamp) (row : BackgroundJobTableRow) : BackgroundJobTableRow :=
  if row.organizationId = some organizationId ∧ row.id = owned.jobId then
    (BackgroundJobUpdate.succeedOwned owned completedAt).onRow row
  else row

theorem ofGraph_succeeded (organizationId : Uuid) (owned : OwnedJob) (completedAt : Timestamp)
    (row : BackgroundJobTableRow) :
    (row.succeeded organizationId owned completedAt).ofGraph =
      row.ofGraph.map fun job => (Write.succeedJob organizationId owned completedAt).onJob job := by
  obtain ⟨-, hsame, -⟩ := identity_onJob row.toBackgroundJob (.succeedOwned owned completedAt)
  unfold BackgroundJobTableRow.succeeded
  by_cases hjob : row.organizationId = some organizationId ∧ row.id = owned.jobId
  · rw [if_pos hjob, BackgroundJobTableRow.ofGraph, BackgroundJobTableRow.ofGraph,
      BackgroundJobUpdate.onRow, hsame, hjob.1, Option.map_some, Option.map_some, Option.map_some,
      onJob_graphRow, if_pos ⟨rfl, hjob.2⟩]
    rfl
  · rw [if_neg hjob, BackgroundJobTableRow.ofGraph]
    cases horganization : row.organizationId with
    | none => rfl
    | some organization =>
        have hother : ¬ (organization = organizationId ∧ row.id = owned.jobId) :=
          fun h => hjob ⟨horganization.trans (congrArg some h.1), h.2⟩
        rw [Option.map_some, Option.map_some, onJob_graphRow, if_neg hother]

/-- The transaction's write of its rows is that update of the table. -/
theorem jobs_succeedJob (organizationId : Uuid) (owned : OwnedJob) (completedAt : Timestamp)
    (table : List BackgroundJobTableRow) :
    (table.map (·.succeeded organizationId owned completedAt)).filterMap (·.ofGraph) =
      (table.filterMap (·.ofGraph)).map
        fun job => (Write.succeedJob organizationId owned completedAt).onJob job := by
  rw [List.filterMap_map, List.map_filterMap]
  exact congrArg (List.filterMap · table)
    (funext (ofGraph_succeeded organizationId owned completedAt))

/-! ## The begin of an execution -/

/-- `enqueueQueued`: the row is created unless the event has one. -/
def enqueueQueued (table : List BackgroundJobTableRow) (id : Uuid) (organizationId : Option Uuid)
    (outboxEventId : Uuid) (jobType : JsString) : Bool × List BackgroundJobTableRow :=
  if ∃ row ∈ table, row.outboxEventId = some outboxEventId then (false, table)
  else (true, table ++ [.queued id organizationId outboxEventId jobType])

/-- What the relay's creation of a row answers and leaves is what it does to the table. -/
theorem createJob_enqueueQueued {text : Uuid → JsString} (hinjective : Function.Injective text)
    {s : Outbox.RelayState} {table : List BackgroundJobTableRow}
    (hjobs : s.jobs = table.filterMap (·.ofRelay text)) (id : Uuid) (organizationId : Option Uuid)
    (outboxEventId : Uuid) (jobType : JsString) :
    s.createJob ⟨organizationId.map text, text outboxEventId, jobType⟩ =
      ((enqueueQueued table id organizationId outboxEventId jobType).1,
        { s with
          jobs := (enqueueQueued table id organizationId outboxEventId jobType).2.filterMap
            (·.ofRelay text) }) := by
  have hexists : (∃ job ∈ s.jobs, job.outboxEventId = text outboxEventId) ↔
      ∃ row ∈ table, row.outboxEventId = some outboxEventId := by
    rw [hjobs]
    constructor
    · rintro ⟨job, hjob, heq⟩
      obtain ⟨row, hrow, hseen⟩ := List.mem_filterMap.mp hjob
      obtain ⟨event, hevent, rfl⟩ := Option.map_eq_some_iff.mp hseen
      exact ⟨row, hrow, hevent.trans (congrArg some (hinjective heq))⟩
    · rintro ⟨row, hrow, hevent⟩
      have hseen : row.ofRelay text =
          some ⟨row.organizationId.map text, text outboxEventId, row.jobType⟩ := by
        rw [BackgroundJobTableRow.ofRelay, hevent]
        rfl
      exact ⟨_, List.mem_filterMap.mpr ⟨row, hrow, hseen⟩, rfl⟩
  unfold Outbox.RelayState.createJob enqueueQueued
  dsimp only
  by_cases hrow : ∃ row ∈ table, row.outboxEventId = some outboxEventId
  · rw [if_pos (hexists.mpr hrow), if_pos hrow, ← hjobs]
  · rw [if_neg fun h => hrow (hexists.mp h), if_neg hrow]
    dsimp only
    rw [List.filterMap_append, ← hjobs]
    rfl

end PatchPilot.Jobs
