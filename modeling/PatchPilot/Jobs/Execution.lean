import PatchPilot.Sbom.Database

set_option autoImplicit false

/-!
# Jobs: executions of a background job (`background-job-execution.ts`)

A job is executed by the worker that claimed it, until its lease expires.  Every update
but the claim is one of the row with the identifier of that worker while it is running.
-/

namespace PatchPilot.Jobs

open PatchPilot.Foundation
open PatchPilot.Sbom

/-- `BackgroundJobRecord`.  The failures of its type of job have codes in `κ`. -/
structure BackgroundJob (κ : Type) where
  id : Uuid
  organizationId : Option Uuid
  jobType : JsString
  status : BackgroundJobStatus
  attempt : Nat
  startedAt : Option Timestamp
  leaseExpiresAt : Option Timestamp
  completedAt : Option Timestamp
  failureCode : Option κ
  workerIdentifier : Option JsString
  deriving DecidableEq

namespace BackgroundJob

variable {κ : Type}

/-- The `where` of the claim. -/
def Claimable (job : BackgroundJob κ) (now : Timestamp) : Prop :=
  job.status = .queued ∨
    (job.status = .running ∧ (job.leaseExpiresAt.any fun expiresAt => expiresAt < now) = true)

instance (job : BackgroundJob κ) (now : Timestamp) : Decidable (job.Claimable now) :=
  inferInstanceAs (Decidable (_ ∨ _))

/-- The `where` of every other update. -/
def OwnedBy (job : BackgroundJob κ) (workerIdentifier : JsString) : Prop :=
  job.workerIdentifier = some workerIdentifier ∧ job.status = .running

instance (job : BackgroundJob κ) (workerIdentifier : JsString) :
    Decidable (job.OwnedBy workerIdentifier) :=
  inferInstanceAs (Decidable (_ ∧ _))

/-- `claimExecution`; `none` is its conflict. -/
def claimExecution (job : BackgroundJob κ) (workerIdentifier : JsString)
    (now leaseExpiresAt : Timestamp) : Option (BackgroundJob κ) :=
  if job.Claimable now then
    some { job with
      status := .running, workerIdentifier := some workerIdentifier,
      leaseExpiresAt := some leaseExpiresAt, startedAt := job.startedAt.or (some now),
      attempt := job.attempt + 1 }
  else none

/-- `markRetry`. -/
def markRetry (job : BackgroundJob κ) (workerIdentifier : JsString) (failureCode : κ) :
    BackgroundJob κ :=
  if job.OwnedBy workerIdentifier then
    { job with
      status := .queued, workerIdentifier := none, leaseExpiresAt := none,
      failureCode := some failureCode }
  else job

/-- `markSucceeded`. -/
def markSucceeded (job : BackgroundJob κ) (workerIdentifier : JsString)
    (completedAt : Timestamp) : BackgroundJob κ :=
  if job.OwnedBy workerIdentifier then
    { job with
      status := .succeeded, completedAt := some completedAt, leaseExpiresAt := none,
      failureCode := none }
  else job

/-- `markTerminalFailure`. -/
def markTerminalFailure (job : BackgroundJob κ) (workerIdentifier : JsString)
    (failureCode : κ) (completedAt : Timestamp) : BackgroundJob κ :=
  if job.OwnedBy workerIdentifier then
    { job with
      status := .failed, completedAt := some completedAt, leaseExpiresAt := none,
      failureCode := some failureCode }
  else job

/-! ## What the updates do to the status -/

variable {job : BackgroundJob κ} {workerIdentifier : JsString}

/-- A claim leaves a job running. -/
theorem status_of_claimExecution {now leaseExpiresAt : Timestamp} {claimed : BackgroundJob κ}
    (h : job.claimExecution workerIdentifier now leaseExpiresAt = some claimed) :
    job.Claimable now ∧ claimed.status = .running ∧ claimed.attempt = job.attempt + 1 := by
  unfold claimExecution at h
  split at h
  · rename_i hclaimable
    cases h
    exact ⟨hclaimable, rfl, rfl⟩
  · cases h

theorem markRetry_failed {failureCode : κ}
    (h : (job.markRetry workerIdentifier failureCode).status = .failed) :
    job.status = .failed := by
  unfold markRetry at h
  split at h
  · cases h
  · exact h

theorem markSucceeded_failed {completedAt : Timestamp}
    (h : (job.markSucceeded workerIdentifier completedAt).status = .failed) :
    job.status = .failed := by
  unfold markSucceeded at h
  split at h
  · cases h
  · exact h

end BackgroundJob

end PatchPilot.Jobs
