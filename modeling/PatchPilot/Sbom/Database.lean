import Mathlib.Data.Prod.Lex
import PatchPilot.Foundation.Work
import PatchPilot.Sbom.Transitions

set_option autoImplicit false

/-!
# Sbom: the rows that persistence reads and writes (`schema.prisma`)

Only the columns that persistence reads or decides are kept.  An id is the number of its
UUID, so that ids are ordered as PostgreSQL orders them.
-/

namespace PatchPilot.Sbom

open PatchPilot.Foundation

/-- A UUID. -/
abbrev Uuid := Nat

/-! ## Rows -/

/-- A row of `asset`. -/
structure AssetRow where
  id : Uuid
  organizationId : Uuid
  lastSuccessfulSbomIngestionId : Option Uuid
  lastSuccessfulSbomIngestionAt : Option Timestamp
  deriving DecidableEq

/-- A row of `sbom`. -/
structure SbomRow where
  id : Uuid
  organizationId : Uuid
  assetId : Uuid
  receivedAt : Timestamp
  parserVersionLastSucceeded : Option JsString
  specificationVersion : Option SbomSpecificationVersion
  deriving DecidableEq

/-- A row of `sbom_ingestion`. -/
structure SbomIngestionRow where
  id : Uuid
  organizationId : Uuid
  sbomId : Uuid
  assetId : Uuid
  snapshot : Session8IngestionSnapshot
  version : Nat
  createdAt : Timestamp
  deriving DecidableEq

/-- A row of `component`. -/
structure ComponentRow where
  id : Uuid
  organizationId : Uuid
  identityKey : JsString
  purl : Option JsString
  ecosystem : Option JsString
  ns : Option JsString
  name : JsString
  identityState : ComponentIdentityState
  deriving DecidableEq

/-- A row of `component_occurrence`. -/
structure ComponentOccurrenceRow where
  id : Uuid
  organizationId : Uuid
  assetId : Uuid
  sbomId : Uuid
  sbomIngestionId : Uuid
  componentId : Uuid
  bomRef : Option JsString
  version : OccurrenceVersionColumns
  versionedPurl : Option JsString
  isDirect : Option Bool
  deriving DecidableEq

/-- A row of `dependency_relationship`. -/
structure DependencyRelationshipRow where
  organizationId : Uuid
  sbomId : Uuid
  sbomIngestionId : Uuid
  fromOccurrenceId : Uuid
  toOccurrenceId : Uuid
  deriving DecidableEq

/-- A row of `audit_event` with the action `sbom.ingestion.completed`. -/
structure CompletedAuditRow where
  organizationId : Uuid
  subjectId : Uuid
  correlationId : JsString
  sbomId : Uuid
  graphCompleteness : GraphCompleteness
  componentCount : Nat
  dependencyEdgeCount : Nat
  warningCount : Nat
  parserVersion : JsString
  normalizationVersion : JsString
  deriving DecidableEq

/-- `BackgroundJobStatus`. -/
inductive BackgroundJobStatus
  | pending | queued | running | succeeded | failed | deadLettered | cancelled
  deriving DecidableEq

/-- A row of `background_job`. -/
structure BackgroundJobRow where
  id : Uuid
  organizationId : Uuid
  status : BackgroundJobStatus
  leaseExpiresAt : Option Timestamp
  completedAt : Option Timestamp
  failureCode : Option SafeFailureCode
  workerIdentifier : Option JsString
  deriving DecidableEq

/-- The tables. -/
structure Database where
  assets : List AssetRow
  sboms : List SbomRow
  ingestions : List SbomIngestionRow
  components : List ComponentRow
  occurrences : List ComponentOccurrenceRow
  edges : List DependencyRelationshipRow
  audits : List CompletedAuditRow
  jobs : List BackgroundJobRow
  deriving DecidableEq

/-! ## Queries -/

/-- `sbomIngestion.findFirst` by organization and id. -/
def Database.ingestion (db : Database) (organizationId id : Uuid) : Option SbomIngestionRow :=
  db.ingestions.find? fun row => decide (row.organizationId = organizationId ∧ row.id = id)

/-- `sbom.findFirst` by organization, id and asset. -/
def Database.sbom (db : Database) (organizationId id assetId : Uuid) : Option SbomRow :=
  db.sboms.find? fun row =>
    decide (row.organizationId = organizationId ∧ row.id = id ∧ row.assetId = assetId)

/-- `component.findUnique` by organization and identity key. -/
def Database.component (db : Database) (organizationId : Uuid) (identityKey : JsString) :
    Option ComponentRow :=
  db.components.find? fun row =>
    decide (row.organizationId = organizationId ∧ row.identityKey = identityKey)

/-- `listOccurrencesForIngestion`, all pages. -/
def Database.occurrencesOf (db : Database) (organizationId sbomIngestionId : Uuid) :
    List ComponentOccurrenceRow :=
  db.occurrences.filter fun row =>
    decide (row.organizationId = organizationId ∧ row.sbomIngestionId = sbomIngestionId)

/-- `listEdgesForIngestion`, all pages. -/
def Database.edgesOf (db : Database) (organizationId sbomIngestionId : Uuid) :
    List DependencyRelationshipRow :=
  db.edges.filter fun row =>
    decide (row.organizationId = organizationId ∧ row.sbomIngestionId = sbomIngestionId)

/-- The pointer that `lockAssetForPointerUpdate` reads. -/
def Database.pointer (db : Database) (organizationId assetId : Uuid) : Option Uuid :=
  (db.assets.find? fun row =>
    decide (row.organizationId = organizationId ∧ row.id = assetId)).bind
      (·.lastSuccessfulSbomIngestionId)

/-- The SBOM with which the ranking query joins an ingestion. -/
def Database.sbomOf (db : Database) (ingestion : SbomIngestionRow) : Option SbomRow :=
  db.sboms.find? fun row => decide (row.organizationId = ingestion.organizationId ∧
    row.id = ingestion.sbomId)

/-- When the SBOM of an ingestion was received. -/
def Database.receivedAt (db : Database) (ingestion : SbomIngestionRow) : Timestamp :=
  ((db.sbomOf ingestion).map (·.receivedAt)).getD 0

/-- How ingestions are ranked: what `replaceAssetPointerIfCandidateIsCurrent` compares. -/
def Database.rankOf (db : Database) (ingestion : SbomIngestionRow) :
    Timestamp ×ₗ Timestamp ×ₗ Uuid :=
  toLex (db.receivedAt ingestion, toLex (ingestion.createdAt, ingestion.id))

/-- The completed ingestion with an id, when the query can join it with its SBOM. -/
def Database.completed (db : Database) (organizationId id : Uuid) : Option SbomIngestionRow :=
  (db.ingestion organizationId id).filter fun row =>
    decide (row.snapshot.state = .completed) && (db.sbomOf row).isSome

/-- `current_wins`; `none` when the query has no row. -/
def Database.currentWins (db : Database) (organizationId assetId currentId candidateId : Uuid) :
    Option Bool := do
  let candidate ← (db.completed organizationId candidateId).filter (·.assetId = assetId)
  let current ← db.completed organizationId currentId
  some (decide (db.rankOf candidate ≤ db.rankOf current))

/-! ## Writes -/

/-- `PersistOwnedBackgroundJob`. -/
structure OwnedJob where
  jobId : Uuid
  workerIdentifier : JsString
  completedAt : Timestamp
  deriving DecidableEq

/-- The writes of `persistOnceForIngestion`. -/
inductive Write
  | createComponent (row : ComponentRow)
  | createOccurrence (row : ComponentOccurrenceRow)
  | createEdges (rows : List DependencyRelationshipRow)
  | completeIngestion (organizationId id : Uuid) (version : Nat)
      (next : Session8IngestionSnapshot)
  | updateSbom (organizationId id : Uuid) (parserVersion : JsString)
      (specificationVersion : SbomSpecificationVersion)
  | replacePointer (organizationId assetId candidateIngestionId : Uuid)
      (completedAt : Timestamp)
  | createAudit (row : CompletedAuditRow)
  | succeedJob (organizationId : Uuid) (job : OwnedJob) (completedAt : Timestamp)
  deriving DecidableEq

/-- The `where` of the update that completes an ingestion. -/
def SbomIngestionRow.completes (row : SbomIngestionRow) (organizationId id : Uuid)
    (version : Nat) : Bool :=
  decide (row.organizationId = organizationId ∧ row.id = id ∧ row.version = version ∧
    row.snapshot.state = .processing)

/-- The `data` of the update that completes an ingestion. -/
def SbomIngestionRow.completeWith (row : SbomIngestionRow) (next : Session8IngestionSnapshot) :
    SbomIngestionRow :=
  { row with
    snapshot := { row.snapshot with
      state := next.state, stage := next.stage, completedAt := next.completedAt,
      graphCompleteness := next.graphCompleteness, componentCount := next.componentCount,
      dependencyEdgeCount := next.dependencyEdgeCount, warningCount := next.warningCount,
      failureCode := none },
    version := row.version + 1 }

/-- What a write does to an ingestion. -/
def Write.onIngestion (row : SbomIngestionRow) : Write → SbomIngestionRow
  | .completeIngestion organizationId id version next =>
      if row.completes organizationId id version then row.completeWith next else row
  | _ => row

/-- What a write does to an SBOM. -/
def Write.onSbom (row : SbomRow) : Write → SbomRow
  | .updateSbom organizationId id parserVersion specificationVersion =>
      if row.organizationId = organizationId ∧ row.id = id then
        { row with
          parserVersionLastSucceeded := some parserVersion,
          specificationVersion := some specificationVersion }
      else row
  | _ => row

/-- What a write does to an asset. -/
def Write.onAsset (row : AssetRow) : Write → AssetRow
  | .replacePointer organizationId assetId candidateIngestionId completedAt =>
      if row.organizationId = organizationId ∧ row.id = assetId then
        { row with
          lastSuccessfulSbomIngestionId := some candidateIngestionId,
          lastSuccessfulSbomIngestionAt := some completedAt }
      else row
  | _ => row

/-- What a write does to a job. -/
def Write.onJob (row : BackgroundJobRow) : Write → BackgroundJobRow
  | .succeedJob organizationId job completedAt =>
      if row.id = job.jobId ∧ row.organizationId = organizationId ∧
          row.workerIdentifier = some job.workerIdentifier ∧ row.status = .running ∧
          (row.leaseExpiresAt.any fun expiresAt => completedAt < expiresAt) = true then
        { row with
          status := .succeeded, completedAt := some job.completedAt, leaseExpiresAt := none,
          failureCode := none }
      else row
  | _ => row

/-- The components that a write creates. -/
def Write.components : Write → List ComponentRow
  | .createComponent row => [row]
  | _ => []

/-- The occurrences that a write creates. -/
def Write.occurrences : Write → List ComponentOccurrenceRow
  | .createOccurrence row => [row]
  | _ => []

/-- The edges that a write creates. -/
def Write.edges : Write → List DependencyRelationshipRow
  | .createEdges rows => rows
  | _ => []

/-- The audit events that a write creates. -/
def Write.audits : Write → List CompletedAuditRow
  | .createAudit row => [row]
  | _ => []

/-- A write updates the rows it names and appends the rows it creates. -/
instance : Writable Write Database where
  apply write db :=
    { assets := db.assets.map (write.onAsset ·)
      sboms := db.sboms.map (write.onSbom ·)
      ingestions := db.ingestions.map (write.onIngestion ·)
      components := db.components ++ write.components
      occurrences := db.occurrences ++ write.occurrences
      edges := db.edges ++ write.edges
      audits := db.audits ++ write.audits
      jobs := db.jobs.map (write.onJob ·) }

/-! ## What a list of writes does -/

theorem components_applyAll (writes : List Write) (db : Database) :
    (applyAll writes db).components = db.components ++ writes.flatMap Write.components :=
  applyAll_table Database.components Write.components (fun _ _ _ => rfl) db

theorem occurrences_applyAll (writes : List Write) (db : Database) :
    (applyAll writes db).occurrences = db.occurrences ++ writes.flatMap Write.occurrences :=
  applyAll_table Database.occurrences Write.occurrences (fun _ _ _ => rfl) db

theorem edges_applyAll (writes : List Write) (db : Database) :
    (applyAll writes db).edges = db.edges ++ writes.flatMap Write.edges :=
  applyAll_table Database.edges Write.edges (fun _ _ _ => rfl) db

theorem ingestions_applyAll (writes : List Write) (db : Database) :
    (applyAll writes db).ingestions =
      db.ingestions.map fun row => writes.foldl Write.onIngestion row :=
  applyAll_rows Database.ingestions Write.onIngestion (fun _ _ => rfl) writes db

theorem sboms_applyAll (writes : List Write) (db : Database) :
    (applyAll writes db).sboms = db.sboms.map fun row => writes.foldl Write.onSbom row :=
  applyAll_rows Database.sboms Write.onSbom (fun _ _ => rfl) writes db

theorem assets_applyAll (writes : List Write) (db : Database) :
    (applyAll writes db).assets = db.assets.map fun row => writes.foldl Write.onAsset row :=
  applyAll_rows Database.assets Write.onAsset (fun _ _ => rfl) writes db

end PatchPilot.Sbom
