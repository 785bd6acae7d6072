import PatchPilot.Foundation.Comparator
import PatchPilot.Foundation.LengthPrefix
import PatchPilot.Sbom.GraphPersistence
import PatchPilot.Sbom.Ingest

set_option autoImplicit false

/-!
# Sbom: uploads (`upload.ts`, `sbom-upload-idempotency.ts`)

An upload reserves its idempotency key, stores the body, and in one transaction either
inserts the evidence with its ingestion and its outbox event or links the key to evidence
that is there.  The fingerprint of the reservation does not cover the body; the one that
the key is completed with does.

An id is a UUID and not one of its spellings: the storage takes no object key with another
spelling than the canonical one.  The digests are parameters.  Audit events are appended by
the same transactions and read by nothing here.
-/

namespace PatchPilot.Sbom

open PatchPilot.Foundation

/-! ## Requests -/

/-- The bytes of a body. -/
abbrev Bytes := List UInt8

/-- `SbomUploadActor`, as far as it is read. -/
structure SbomUploadActor where
  organizationId : Option Uuid
  membershipId : Option Uuid
  permissions : List JsString
  deriving DecidableEq

/-- `AuthorizedSbomUploadActor`. -/
structure AuthorizedSbomUploadActor where
  organizationId : Uuid
  membershipId : Uuid
  deriving DecidableEq

/-- `UploadSbomInput`, with the hash of its idempotency key. -/
structure UploadSbomInput where
  actor : SbomUploadActor
  assetId : Uuid
  keyHash : JsString
  contentType : JsString
  declaredByteLength : Option Int
  body : Bytes
  maxBytes : Int
  parserVersion : JsString
  normalizationVersion : JsString
  idempotencyTtlMs : Int
  deriving DecidableEq

/-- `ErrorCode`, as far as uploads use it. -/
inductive UploadErrorCode
  | validation | forbidden | notFound | conflict | internal
  deriving DecidableEq

/-- `SbomUploadFailureOutcome`. -/
inductive SbomUploadFailureOutcome
  | notFound | forbidden | archived | inProgress | idempotencyConflict | clientAborted
  | storageFailed | possibleOrphan | missingIngestion | internal
  deriving DecidableEq

/-- `SbomUploadFailure`. -/
structure SbomUploadFailure where
  code : UploadErrorCode
  message : JsString
  outcome : SbomUploadFailureOutcome
  deriving DecidableEq

/-- `SbomUploadAccepted`. -/
structure SbomUploadAccepted where
  sbomId : Uuid
  ingestionId : Uuid
  assetId : Uuid
  state : SbomIngestionState
  sha256 : JsString
  byteLength : Nat
  receivedAt : Timestamp
  deriving DecidableEq

/-! ## Failures (`errors.ts`) -/

/-- `SBOM_UPLOAD_IN_PROGRESS`. -/
def sbomUploadInProgress : SbomUploadFailure :=
  ⟨.conflict, js "Upload is already in progress.", .inProgress⟩

/-- `SBOM_UPLOAD_IDEMPOTENCY_CONFLICT`. -/
def sbomUploadIdempotencyConflict : SbomUploadFailure :=
  ⟨.conflict, js "Idempotency key was reused with a different request.", .idempotencyConflict⟩

/-- `SBOM_UPLOAD_CLIENT_ABORTED`. -/
def sbomUploadClientAborted : SbomUploadFailure :=
  ⟨.validation, js "Upload was aborted.", .clientAborted⟩

/-- `SBOM_UPLOAD_MISSING_INGESTION`. -/
def sbomUploadMissingIngestion : SbomUploadFailure :=
  ⟨.internal, js "Existing SBOM evidence is missing a current ingestion.", .missingIngestion⟩

/-- `SBOM_UPLOAD_REPLAY_UNAVAILABLE`. -/
def sbomUploadReplayUnavailable : SbomUploadFailure :=
  ⟨.internal, js "Completed upload could not be reconstructed.", .internal⟩

/-- `SBOM_UPLOAD_INTERNAL`. -/
def sbomUploadInternal : SbomUploadFailure :=
  ⟨.internal, js "SBOM upload failed.", .internal⟩

/-- `SBOM_UPLOAD_POSSIBLE_ORPHAN`. -/
def sbomUploadPossibleOrphan : SbomUploadFailure :=
  ⟨.internal, js "SBOM upload could not be finalized after object storage succeeded.",
    .possibleOrphan⟩

/-- `mapStorageFailure`. -/
def mapStorageFailure : StorageFailureCategory → SbomUploadFailure
  | .aborted => sbomUploadClientAborted
  | .sizeLimit =>
      ⟨.validation, js "Upload exceeds the configured size limit.", .storageFailed⟩
  | .invalidContent => ⟨.validation, js "Upload content is not accepted.", .storageFailed⟩
  | .timeout | .storageUnavailable | .copyFailed | .bucketMissing | .objectMissing
  | .accessDenied | .internal =>
      ⟨.internal, js "Object storage is unavailable.", .storageFailed⟩

/-- Why a transaction throws: `SbomEvidenceConflictError`, `SbomUploadTransactionAbort` or
another error. -/
inductive TransactionFailure
  | evidenceConflict
  | abort (failure : SbomUploadFailure)
  | other
  deriving DecidableEq

/-- `mapTransactionFailure`. -/
def mapTransactionFailure : TransactionFailure → SbomUploadFailure
  | .abort failure => failure
  | .evidenceConflict => sbomUploadInternal
  | .other => sbomUploadPossibleOrphan

/-! ## Fingerprints (`idempotency.ts`, `body-fingerprint.ts`) -/

/-- The spelling of ids, and the digests in hexadecimal, of bytes and of a text in UTF-8. -/
structure UploadHashes where
  uuidText : Uuid → JsString
  sha256 : Bytes → JsString
  sha256Utf8 : JsString → JsString

/-- `SHA256_HEX_PATTERN`. -/
def isSha256Hex (text : JsString) : Bool :=
  decide (text.length = 64) && text.all isLowerHex

/-- `UploadBodyFingerprint`. -/
structure UploadBodyFingerprint where
  sha256 : JsString
  observedByteLength : Nat
  deriving DecidableEq

namespace UploadHashes

variable (hashes : UploadHashes)

/-- `sbomUploadIdempotencyScope`. -/
def sbomUploadIdempotencyScope (assetId : Uuid) : JsString :=
  js "sbom.upload:" ++ hashes.uuidText assetId

/-- `hashReservationFingerprint`. -/
def hashReservationFingerprint (assetId : Uuid) (contentType : JsString) : JsString :=
  hashes.sha256Utf8 (js "patchpilot-idempotency-fp-v1:reservation:" ++
    lengthPrefixed [hashes.uuidText assetId, contentType])

/-- What `hashFinalFingerprint` hashes. -/
def finalFingerprintText (assetId : Uuid) (contentType : JsString)
    (body : UploadBodyFingerprint) : JsString :=
  js "patchpilot-idempotency-fp-v1:final:" ++
    lengthPrefixed [hashes.uuidText assetId, contentType, body.sha256,
      decimalText body.observedByteLength]

/-- `hashFinalFingerprint`. -/
def hashFinalFingerprint (assetId : Uuid) (contentType : JsString)
    (body : UploadBodyFingerprint) : JsString :=
  hashes.sha256Utf8 (hashes.finalFingerprintText assetId contentType body)

/-- The digest and the length of a body. -/
def ofBody (body : Bytes) : UploadBodyFingerprint := ⟨hashes.sha256 body, body.length⟩

/-- `fingerprintUploadBody`.  The signal may abort the stream. -/
def fingerprintUploadBody (input : UploadSbomInput) (isAborted : Bool) :
    Except StorageFailureCategory UploadBodyFingerprint :=
  if (input.declaredByteLength.any fun declared =>
      declared < 1 || declared > input.maxBytes) = true then .error .sizeLimit
  else if isAborted = true then .error .aborted
  else if (input.body.length : Int) > input.maxBytes then .error .sizeLimit
  else if input.body.length < 1 then .error .invalidContent
  else if (input.declaredByteLength.any (· ≠ (input.body.length : Int))) = true then
    .error .invalidContent
  else .ok (hashes.ofBody input.body)

end UploadHashes

/-! ## Rows -/

/-- A row of `asset`, as far as uploads read it; its id is the key of the table. -/
structure UploadAssetRow where
  organizationId : Uuid
  isArchivedStatus : Bool
  archivedAt : Option Timestamp
  deriving DecidableEq

/-- `idempotency_record_status`. -/
inductive IdempotencyRecordStatus
  | started | completed | conflict
  deriving DecidableEq

/-- The ids of a stored response. -/
structure SbomUploadIdempotencyResponseIds where
  sbomId : Uuid
  ingestionId : Uuid
  deriving DecidableEq

/-- A row of `idempotency_record`. -/
structure IdempotencyRow where
  organizationId : Uuid
  scope : JsString
  keyHash : JsString
  requestFingerprint : JsString
  status : IdempotencyRecordStatus
  responseStatus : Option Nat
  response : Option SbomUploadIdempotencyResponseIds
  expiresAt : Timestamp
  completedAt : Option Timestamp
  deriving DecidableEq

/-- A row of `sbom`, as far as uploads write it. -/
structure UploadedSbomRow extends SbomRecord where
  assetId : Uuid
  declaredContentType : JsString
  uploadedByMembershipId : Uuid
  receivedAt : Timestamp
  deriving DecidableEq

/-- A row of `sbom_ingestion`, as far as uploads write it. -/
structure UploadedIngestionRow extends SbomIngestionRow where
  parserVersion : JsString
  normalizationVersion : JsString
  attemptNumber : Nat
  deriving DecidableEq

/-- An outbox event `sbom.ingestion.requested.v1`. -/
structure IngestionRequestedRow where
  organizationId : Uuid
  aggregateId : Uuid
  assetId : Uuid
  sbomId : Uuid
  parserVersion : JsString
  attemptNumber : Nat
  dedupeKey : JsString
  occurredAt : Timestamp
  deriving DecidableEq

/-- The tables. -/
structure UploadState where
  assets : Uuid → Option UploadAssetRow
  reservations : List IdempotencyRow
  sboms : List UploadedSbomRow
  ingestions : List UploadedIngestionRow
  outbox : List IngestionRequestedRow

/-! ## Statements -/

/-- `HashFreeIdempotencyReservationInput`. -/
structure ReservationInput where
  organizationId : Uuid
  scope : JsString
  keyHash : JsString
  reservationFingerprint : JsString
  expiresAt : Timestamp
  deriving DecidableEq

/-- The row has a key. -/
def IdempotencyRow.HasKey (row : IdempotencyRow) (organizationId : Uuid)
    (scope keyHash : JsString) : Prop :=
  row.organizationId = organizationId ∧ row.scope = scope ∧ row.keyHash = keyHash

instance (row : IdempotencyRow) (organizationId : Uuid) (scope keyHash : JsString) :
    Decidable (row.HasKey organizationId scope keyHash) :=
  inferInstanceAs (Decidable (_ ∧ _))

/-- `findFirst` of a reservation. -/
def UploadState.findReservation (s : UploadState) (organizationId : Uuid)
    (scope keyHash : JsString) : Option IdempotencyRow :=
  s.reservations.find? fun row => decide (row.HasKey organizationId scope keyHash)

/-- The row that `reserveStarted` creates. -/
def ReservationInput.row (input : ReservationInput) : IdempotencyRow :=
  ⟨input.organizationId, input.scope, input.keyHash, input.reservationFingerprint, .started,
    none, none, input.expiresAt, none⟩

/-- The `create` of `reserveStarted`; `none` is a unique violation. -/
def UploadState.createReservation (s : UploadState) (input : ReservationInput) :
    Option UploadState :=
  match s.findReservation input.organizationId input.scope input.keyHash with
  | some _ => none
  | none => some { s with reservations := input.row :: s.reservations }

/-- The `WHERE` of `reclaimExpiredStarted`. -/
def IdempotencyRow.Reclaimable (row : IdempotencyRow) (input : ReservationInput)
    (now : Timestamp) : Prop :=
  row.HasKey input.organizationId input.scope input.keyHash ∧ row.status = .started ∧
    row.expiresAt ≤ now

instance (row : IdempotencyRow) (input : ReservationInput) (now : Timestamp) :
    Decidable (row.Reclaimable input now) :=
  inferInstanceAs (Decidable (_ ∧ _))

/-- `reclaimExpiredStarted`, on a row. -/
def IdempotencyRow.reclaim (row : IdempotencyRow) (input : ReservationInput)
    (now : Timestamp) : IdempotencyRow :=
  if row.Reclaimable input now then
    { row with
      requestFingerprint := input.reservationFingerprint, expiresAt := input.expiresAt,
      status := .started, response := none, responseStatus := none, completedAt := none }
  else row

/-- `FinalizeIdempotencyInput`. -/
structure FinalizeIdempotencyInput where
  reservation : ReservationInput
  finalFingerprint : JsString
  responseStatus : Nat
  response : SbomUploadIdempotencyResponseIds
  deriving DecidableEq

/-- The `WHERE` of `finalizeCompleted`. -/
def IdempotencyRow.Finalizable (row : IdempotencyRow) (reservation : ReservationInput) : Prop :=
  row.HasKey reservation.organizationId reservation.scope reservation.keyHash ∧
    row.status = .started ∧ row.requestFingerprint = reservation.reservationFingerprint

instance (row : IdempotencyRow) (reservation : ReservationInput) :
    Decidable (row.Finalizable reservation) :=
  inferInstanceAs (Decidable (_ ∧ _))

/-- `finalizeCompleted`, on a row. -/
def IdempotencyRow.finalize (row : IdempotencyRow) (input : FinalizeIdempotencyInput)
    (completedAt : Timestamp) : IdempotencyRow :=
  if row.Finalizable input.reservation then
    { row with
      status := .completed, requestFingerprint := input.finalFingerprint,
      response := some input.response, responseStatus := some input.responseStatus,
      completedAt := some completedAt }
  else row

/-- `finalizeCompleted`; `none` when it updates no row. -/
def UploadState.finalizeCompleted (s : UploadState) (input : FinalizeIdempotencyInput)
    (completedAt : Timestamp) : Option UploadState :=
  if (s.reservations.any fun row => decide (row.Finalizable input.reservation)) = true then
    some { s with reservations := s.reservations.map (·.finalize input completedAt) }
  else none

/-- `findByAssetAndHash`. -/
def UploadState.findByAssetAndHash (s : UploadState) (organizationId assetId : Uuid)
    (sha256 : JsString) : Option UploadedSbomRow :=
  s.sboms.find? fun row => decide (row.organizationId = organizationId ∧
    row.assetId = assetId ∧ row.sha256 = sha256)

/-- `sbomMetadata.findByAssetAndId`. -/
def UploadState.findSbom (s : UploadState) (organizationId assetId sbomId : Uuid) :
    Option UploadedSbomRow :=
  s.sboms.find? fun row => decide (row.organizationId = organizationId ∧
    row.assetId = assetId ∧ row.id = sbomId)

/-- `ingestions.findByAssetAndId`. -/
def UploadState.findIngestion (s : UploadState) (organizationId assetId ingestionId : Uuid) :
    Option UploadedIngestionRow :=
  s.ingestions.find? fun row => decide (row.organizationId = organizationId ∧
    row.assetId = assetId ∧ row.id = ingestionId)

/-- `orderBy: [{ createdAt: 'desc' }, { id: 'desc' }]`. -/
def compareCurrent (a b : UploadedIngestionRow) : Ordering :=
  (compare b.createdAt a.createdAt).then (compare b.id a.id)

/-- `findCurrentForSbom`. -/
def UploadState.findCurrentForSbom (s : UploadState) (organizationId sbomId : Uuid) :
    Option UploadedIngestionRow :=
  leastBy compareCurrent (s.ingestions.filter fun row =>
    decide (row.organizationId = organizationId ∧ row.sbomId = sbomId))

/-- `isSession8IngestionState`. -/
def isSession8IngestionState (state : SbomIngestionState) : Bool :=
  decide (state ≠ .duplicate)

/-- `toAccepted`. -/
def toAccepted (sbom : UploadedSbomRow) (ingestion : UploadedIngestionRow) :
    Except SbomUploadFailure SbomUploadAccepted :=
  if isSession8IngestionState ingestion.snapshot.state = false then
    .error sbomUploadReplayUnavailable
  else
    .ok ⟨sbom.id, ingestion.id, sbom.assetId, ingestion.snapshot.state, sbom.sha256,
      sbom.byteLength, sbom.receivedAt⟩

/-! ## Transactions -/

/-- What both transactions write the reservation with. -/
structure EvidenceInput where
  actor : AuthorizedSbomUploadActor
  input : UploadSbomInput
  reservation : ReservationInput
  finalFingerprint : JsString
  deriving DecidableEq

/-- What the database generates within a transaction. -/
structure Generated where
  sbomId : Uuid
  ingestionId : Uuid
  createdAt : Timestamp
  completedAt : Timestamp
  deriving DecidableEq

/-- The end of both transactions: the reservation is completed with the ids, and the
response is built. -/
def UploadState.complete (s : UploadState) (evidence : EvidenceInput) (sbom : UploadedSbomRow)
    (ingestion : UploadedIngestionRow) (completedAt : Timestamp) :
    Except TransactionFailure (SbomUploadAccepted × UploadState) :=
  match s.finalizeCompleted ⟨evidence.reservation, evidence.finalFingerprint, 202,
      ⟨sbom.id, ingestion.id⟩⟩ completedAt with
  | none => .error (.abort sbomUploadPossibleOrphan)
  | some s' =>
      match toAccepted sbom ingestion with
      | .error failure => .error (.abort failure)
      | .ok accepted => .ok (accepted, s')

/-- The row that `insert` creates. -/
def EvidenceInput.sbomRow (evidence : EvidenceInput) (body : UploadBodyFingerprint)
    (receivedAt : Timestamp) (generated : Generated) : UploadedSbomRow where
  id := generated.sbomId
  organizationId := evidence.actor.organizationId
  objectKey := .final evidence.actor.organizationId evidence.input.assetId body.sha256
  sha256 := body.sha256
  byteLength := body.observedByteLength
  assetId := evidence.input.assetId
  declaredContentType := evidence.input.contentType
  uploadedByMembershipId := evidence.actor.membershipId
  receivedAt := receivedAt

/-- The row that `createAccepted` creates. -/
def EvidenceInput.ingestionRow (evidence : EvidenceInput) (snapshot : Session8IngestionSnapshot)
    (generated : Generated) : UploadedIngestionRow where
  id := generated.ingestionId
  organizationId := evidence.actor.organizationId
  sbomId := generated.sbomId
  assetId := evidence.input.assetId
  snapshot := snapshot
  version := 1
  createdAt := generated.createdAt
  parserVersion := evidence.input.parserVersion
  normalizationVersion := evidence.input.normalizationVersion
  attemptNumber := 1

/-- `ingestionRequestedOutbox`. -/
def EvidenceInput.eventRow (hashes : UploadHashes) (evidence : EvidenceInput)
    (sbom : UploadedSbomRow) (ingestion : UploadedIngestionRow) (occurredAt : Timestamp) :
    IngestionRequestedRow where
  organizationId := evidence.actor.organizationId
  aggregateId := ingestion.id
  assetId := evidence.input.assetId
  sbomId := sbom.id
  parserVersion := evidence.input.parserVersion
  attemptNumber := ingestion.attemptNumber
  dedupeKey := hashes.uuidText evidence.actor.organizationId ++ js ":sbom.ingest:" ++
    hashes.uuidText sbom.id ++ js ":" ++ evidence.input.parserVersion
  occurredAt := occurredAt

/-- The constraints of `sbom` on a new row, but for `sbom_org_asset_sha256_key`: the guards
of `insert`, and the reference to the asset. -/
def UploadState.Insertable (s : UploadState) (row : UploadedSbomRow) : Prop :=
  isSha256Hex row.sha256 = true ∧ 0 < row.byteLength ∧
    ∃ asset ∈ s.assets row.assetId, asset.organizationId = row.organizationId

instance (s : UploadState) (row : UploadedSbomRow) : Decidable (s.Insertable row) :=
  inferInstanceAs (Decidable (_ ∧ _))

/-- The transaction of `finalizeNewEvidence`. -/
def UploadState.finalizeNewEvidence (hashes : UploadHashes) (s : UploadState)
    (evidence : EvidenceInput) (body : UploadBodyFingerprint) (receivedAt : Timestamp)
    (generated : Generated) : Except TransactionFailure (SbomUploadAccepted × UploadState) :=
  let sbom := evidence.sbomRow body receivedAt generated
  if ¬s.Insertable sbom then .error .other
  else if (s.findByAssetAndHash sbom.organizationId sbom.assetId sbom.sha256).isSome = true then
    .error .evidenceConflict
  else
    match applySession8IngestionTransition none .createAccepted with
    | .error _ => .error (.abort sbomUploadInternal)
    | .ok snapshot =>
        if isVersionLabel evidence.input.parserVersion = false ∨
            isVersionLabel evidence.input.normalizationVersion = false then .error .other
        else
          let ingestion := evidence.ingestionRow snapshot generated
          { s with
            sboms := sbom :: s.sboms
            ingestions := ingestion :: s.ingestions
            outbox := evidence.eventRow hashes sbom ingestion receivedAt :: s.outbox }.complete
              evidence sbom ingestion generated.completedAt

/-- The transaction of `finalizeDuplicate`. -/
def UploadState.finalizeDuplicate (s : UploadState) (evidence : EvidenceInput)
    (existing : UploadedSbomRow) (completedAt : Timestamp) :
    Except TransactionFailure (SbomUploadAccepted × UploadState) :=
  match s.findCurrentForSbom evidence.actor.organizationId existing.id with
  | none => .error (.abort sbomUploadMissingIngestion)
  | some current =>
      if current.assetId ≠ evidence.input.assetId then .error (.abort sbomUploadInternal)
      else s.complete evidence existing current completedAt

/-! ## Operations -/

/-- What an upload calls. -/
inductive UploadOp
  | clock
  | stop
  | findAsset (organizationId assetId : Uuid)
  | createReservation (input : ReservationInput)
  | findReservation (organizationId : Uuid) (scope keyHash : JsString)
  | reclaimExpiredStarted (input : ReservationInput)
  | fingerprintUploadBody (input : UploadSbomInput)
  | putTemporaryObject (input : UploadSbomInput)
  | promoteTemporaryObject
  | deleteTemporaryObject
  | findByAssetAndHash (organizationId assetId : Uuid) (sha256 : JsString)
  | findSbom (organizationId assetId sbomId : Uuid)
  | findIngestion (organizationId assetId ingestionId : Uuid)
  | finalizeNewEvidence (evidence : EvidenceInput) (body : UploadBodyFingerprint)
      (receivedAt : Timestamp)
  | finalizeDuplicate (evidence : EvidenceInput) (existing : UploadedSbomRow)

/-- What they answer. -/
def UploadOp.Answer : UploadOp → Type
  | .clock => Timestamp
  | .stop => Empty
  | .findAsset _ _ => Option UploadAssetRow
  | .createReservation _ => Bool
  | .findReservation _ _ _ => Option IdempotencyRow
  | .reclaimExpiredStarted _ => Bool
  | .fingerprintUploadBody _ => Except StorageFailureCategory UploadBodyFingerprint
  | .putTemporaryObject _ => Except StorageFailureCategory UploadBodyFingerprint
  | .promoteTemporaryObject => Except StorageFailureCategory Unit
  | .deleteTemporaryObject => Unit
  | .findByAssetAndHash _ _ _ => Option UploadedSbomRow
  | .findSbom _ _ _ => Option UploadedSbomRow
  | .findIngestion _ _ _ => Option UploadedIngestionRow
  | .finalizeNewEvidence _ _ _ => Except TransactionFailure SbomUploadAccepted
  | .finalizeDuplicate _ _ => Except TransactionFailure SbomUploadAccepted

/-- What the clock, the client, the storage and the database decide. -/
inductive UploadChoice
  | proceed
  | time (now : Timestamp)
  | stream (isAborted : Bool)
  | storage (failure : Option StorageFailureCategory)
  /-- A transaction commits, and its commit is acknowledged or not. -/
  | commit (generated : Generated) (acknowledged : Bool)
  /-- A transaction is rolled back. -/
  | rollback

/-- What a transaction leaves and answers. -/
def UploadState.settle (s : UploadState) (acknowledged : Bool) :
    Except TransactionFailure (SbomUploadAccepted × UploadState) →
      Except TransactionFailure SbomUploadAccepted × UploadState
  | .error failure => (.error failure, s)
  | .ok (accepted, s') => (if acknowledged = true then .ok accepted else .error .other, s')

/-- An id that the database generates is not in use. -/
def UploadState.Unused (s : UploadState) (generated : Generated) : Prop :=
  (∀ row ∈ s.sboms, row.id ≠ generated.sbomId) ∧
    ∀ row ∈ s.ingestions, row.id ≠ generated.ingestionId

instance (s : UploadState) (generated : Generated) : Decidable (s.Unused generated) :=
  inferInstanceAs (Decidable (_ ∧ _))

/-- What they do.  A program that has thrown stops. -/
def UploadOp.exec (hashes : UploadHashes) : (op : UploadOp) → UploadChoice → UploadState →
    Option (op.Answer × UploadState)
  | .clock, .time now, s => some (now, s)
  | .findAsset organizationId assetId, .proceed, s =>
      some ((s.assets assetId).filter fun row => decide (row.organizationId = organizationId), s)
  | .createReservation input, .proceed, s =>
      match s.createReservation input with
      | none => some (false, s)
      | some s' => some (true, s')
  | .findReservation organizationId scope keyHash, .proceed, s =>
      some (s.findReservation organizationId scope keyHash, s)
  | .reclaimExpiredStarted input, .time now, s =>
      some (s.reservations.any fun row => decide (row.Reclaimable input now),
        { s with reservations := s.reservations.map (·.reclaim input now) })
  | .fingerprintUploadBody input, .stream isAborted, s =>
      some (hashes.fingerprintUploadBody input isAborted, s)
  | .putTemporaryObject input, .storage failure, s =>
      some (failure.elim (.ok (hashes.ofBody input.body)) .error, s)
  | .promoteTemporaryObject, .storage failure, s => some (failure.elim (.ok ()) .error, s)
  | .deleteTemporaryObject, .storage _, s => some ((), s)
  | .findByAssetAndHash organizationId assetId sha256, .proceed, s =>
      some (s.findByAssetAndHash organizationId assetId sha256, s)
  | .findSbom organizationId assetId sbomId, .proceed, s =>
      some (s.findSbom organizationId assetId sbomId, s)
  | .findIngestion organizationId assetId ingestionId, .proceed, s =>
      some (s.findIngestion organizationId assetId ingestionId, s)
  | .finalizeNewEvidence evidence body receivedAt, .commit generated acknowledged, s =>
      if s.Unused generated then
        some (s.settle acknowledged
          (s.finalizeNewEvidence hashes evidence body receivedAt generated))
      else none
  | .finalizeNewEvidence _ _ _, .rollback, s => some (.error .other, s)
  | .finalizeDuplicate evidence existing, .commit generated acknowledged, s =>
      some (s.settle acknowledged (s.finalizeDuplicate evidence existing generated.completedAt))
  | .finalizeDuplicate _ _, .rollback, s => some (.error .other, s)
  | _, _, _ => none

/-- The operations of uploads. -/
def uploadOps (hashes : UploadHashes) : Operations UploadState where
  Op := UploadOp
  Answer := UploadOp.Answer
  Choice := UploadChoice
  exec := UploadOp.exec hashes

/-! ## The upload -/

/-- What an upload returns. -/
abbrev UploadResult := Except SbomUploadFailure SbomUploadAccepted

/-- The kinds of `ReserveStartedResult`. -/
inductive ReserveStartedResult
  | acquired | completed | conflict | unexpiredStarted | reclaimableExpired
  deriving DecidableEq

/-- What `reserveStarted` makes of a row that is there. -/
def IdempotencyRow.reserved (existing : IdempotencyRow) (reservationFingerprint : JsString)
    (now : Timestamp) : ReserveStartedResult :=
  match existing.status with
  | .completed => .completed
  | .conflict => .conflict
  | .started =>
      if existing.expiresAt > now then
        if existing.requestFingerprint ≠ reservationFingerprint then .conflict
        else .unexpiredStarted
      else .reclaimableExpired

/-- `authorizeSbomUpload`. -/
def authorizeSbomUpload (actor : SbomUploadActor) :
    Except SbomUploadFailure AuthorizedSbomUploadActor :=
  match actor.organizationId, actor.membershipId with
  | some organizationId, some membershipId =>
      if actor.permissions.contains (js "sbom:upload") then .ok ⟨organizationId, membershipId⟩
      else .error ⟨.forbidden, js "Permission denied.", .forbidden⟩
  | _, _ => .error ⟨.forbidden, js "Organization context is required.", .forbidden⟩

/-- `SBOM_APPROVED_CONTENT_TYPES`. -/
def sbomApprovedContentTypes : List JsString :=
  [js "application/json", js "application/vnd.cyclonedx+json"]

namespace Upload

variable (hashes : UploadHashes)

/-- A part of an upload. -/
abbrev Part (α : Type) : Type := Program (uploadOps hashes) α

/-- One operation. -/
def call (op : UploadOp) : Part hashes op.Answer := @Program.perform _ (uploadOps hashes) op

/-- An error that nothing catches. -/
def throws {α : Type} : Part hashes α := call hashes .stop >>= fun answer => nomatch answer

/-- `clock.now`. -/
def now : Part hashes Timestamp := call hashes .clock

/-- `assets.findById`. -/
def findAsset (organizationId assetId : Uuid) : Part hashes (Option UploadAssetRow) :=
  call hashes (.findAsset organizationId assetId)

/-- The `create` of `reserveStarted`: whether there was no unique violation. -/
def createReservation (input : ReservationInput) : Part hashes Bool :=
  call hashes (.createReservation input)

/-- The `findFirst` of `reserveStarted` and of `resolveCompletedReplay`. -/
def findReservation (organizationId : Uuid) (scope keyHash : JsString) :
    Part hashes (Option IdempotencyRow) :=
  call hashes (.findReservation organizationId scope keyHash)

/-- `uploadIdempotency.reclaimExpiredStarted`: whether it updated a row. -/
def reclaimExpiredStarted (input : ReservationInput) : Part hashes Bool :=
  call hashes (.reclaimExpiredStarted input)

/-- `fingerprintUploadBody`. -/
def fingerprintUploadBody (input : UploadSbomInput) :
    Part hashes (Except StorageFailureCategory UploadBodyFingerprint) :=
  call hashes (.fingerprintUploadBody input)

/-- `storage.putTemporaryObject`. -/
def putTemporaryObject (input : UploadSbomInput) :
    Part hashes (Except StorageFailureCategory UploadBodyFingerprint) :=
  call hashes (.putTemporaryObject input)

/-- `storage.promoteTemporaryObject`. -/
def promoteTemporaryObject : Part hashes (Except StorageFailureCategory Unit) :=
  call hashes .promoteTemporaryObject

/-- `bestEffortDeleteTemporary`. -/
def bestEffortDeleteTemporary : Part hashes Unit := call hashes .deleteTemporaryObject

/-- `sbomMetadata.findByAssetAndHash`. -/
def findByAssetAndHash (organizationId assetId : Uuid) (sha256 : JsString) :
    Part hashes (Option UploadedSbomRow) :=
  call hashes (.findByAssetAndHash organizationId assetId sha256)

/-- `sbomMetadata.findByAssetAndId`. -/
def findSbom (organizationId assetId sbomId : Uuid) : Part hashes (Option UploadedSbomRow) :=
  call hashes (.findSbom organizationId assetId sbomId)

/-- `ingestions.findByAssetAndId`. -/
def findIngestion (organizationId assetId ingestionId : Uuid) :
    Part hashes (Option UploadedIngestionRow) :=
  call hashes (.findIngestion organizationId assetId ingestionId)

/-- `reserveStarted`. -/
def reserveStarted (input : ReservationInput) : Part hashes ReserveStartedResult := do
  let created ← createReservation hashes input
  if created = true then pure .acquired
  else
    let existing ← findReservation hashes input.organizationId input.scope input.keyHash
    match existing with
    | none => throws hashes
    | some existing =>
        let now ← now hashes
        pure (existing.reserved input.reservationFingerprint now)

variable (input : UploadSbomInput) (actor : AuthorizedSbomUploadActor)

/-- `reconstructAccepted`. -/
def reconstructAccepted (response : SbomUploadIdempotencyResponseIds) :
    Part hashes UploadResult := do
  let sbom ← findSbom hashes actor.organizationId input.assetId response.sbomId
  match sbom with
  | none => pure (.error sbomUploadReplayUnavailable)
  | some sbom =>
      let ingestion ← findIngestion hashes actor.organizationId input.assetId
        response.ingestionId
      match ingestion with
      | none => pure (.error sbomUploadReplayUnavailable)
      | some ingestion =>
          if ingestion.sbomId ≠ sbom.id then pure (.error sbomUploadReplayUnavailable)
          else pure (toAccepted sbom ingestion)

/-- `resolveCompletedReplay` on the row that it found, and what is answered to it. -/
def resolveCompletedReplay (row : Option IdempotencyRow) (finalFingerprint : JsString) :
    Except SbomUploadFailure SbomUploadIdempotencyResponseIds :=
  match row.filter fun row => decide (row.status = .completed) with
  | none => .error sbomUploadReplayUnavailable
  | some row =>
      if row.requestFingerprint ≠ finalFingerprint then .error sbomUploadIdempotencyConflict
      else
        match row.responseStatus, row.response with
        | some _, some response => .ok response
        | _, _ => .error sbomUploadReplayUnavailable

/-- `replayCompletedUpload`. -/
def replayCompletedUpload : Part hashes UploadResult := do
  let fingerprinted ← fingerprintUploadBody hashes input
  match fingerprinted with
  | .error category => pure (.error (mapStorageFailure category))
  | .ok body =>
      let row ← findReservation hashes actor.organizationId
        (hashes.sbomUploadIdempotencyScope input.assetId) input.keyHash
      match resolveCompletedReplay row
        (hashes.hashFinalFingerprint input.assetId input.contentType body) with
      | .error failure => pure (.error failure)
      | .ok response => reconstructAccepted hashes input actor response

variable (reservation : ReservationInput)

/-- What the transactions of an upload with this body get. -/
def evidence (body : UploadBodyFingerprint) : EvidenceInput where
  actor := actor
  input := input
  reservation := reservation
  finalFingerprint := hashes.hashFinalFingerprint input.assetId input.contentType body

/-- `finalizeDuplicate`. -/
def finalizeDuplicate (body : UploadBodyFingerprint) (existing : UploadedSbomRow) :
    Part hashes (Except TransactionFailure SbomUploadAccepted) := do
  let _ ← now hashes
  call hashes (.finalizeDuplicate (evidence hashes input actor reservation body) existing)

/-- `finalizeNewEvidence`. -/
def finalizeNewEvidence (body : UploadBodyFingerprint) :
    Part hashes (Except TransactionFailure SbomUploadAccepted) := do
  let receivedAt ← now hashes
  call hashes (.finalizeNewEvidence (evidence hashes input actor reservation body) body receivedAt)

/-- The result of a transaction, after the temporary object was deleted. -/
def finish (finalized : Except TransactionFailure SbomUploadAccepted) :
    Part hashes UploadResult := do
  bestEffortDeleteTemporary hashes
  match finalized with
  | .ok accepted => pure (.ok accepted)
  | .error failure => pure (.error (mapTransactionFailure failure))

/-- `storePromoteAndFinalize`, when other evidence with the body was inserted meanwhile. -/
def finalizeRaced (body : UploadBodyFingerprint) : Part hashes UploadResult := do
  let raced ← findByAssetAndHash hashes actor.organizationId input.assetId body.sha256
  match raced with
  | none => do
      bestEffortDeleteTemporary hashes
      pure (.error sbomUploadInternal)
  | some raced =>
      let finalized ← finalizeDuplicate hashes input actor reservation body raced
      finish hashes finalized

/-- The first of the two transactions of `storePromoteAndFinalize`. -/
def finalizeFirst (body : UploadBodyFingerprint) (existing : Option UploadedSbomRow) :
    Part hashes (Except TransactionFailure SbomUploadAccepted) :=
  match existing with
  | some existing => finalizeDuplicate hashes input actor reservation body existing
  | none => finalizeNewEvidence hashes input actor reservation body

/-- `storePromoteAndFinalize`, from a body that was promoted on. -/
def finalizeBody (body : UploadBodyFingerprint) : Part hashes UploadResult := do
  let existing ← findByAssetAndHash hashes actor.organizationId input.assetId body.sha256
  let finalized ← finalizeFirst hashes input actor reservation body existing
  if finalized = .error .evidenceConflict then
    finalizeRaced hashes input actor reservation body
  else finish hashes finalized

/-- `storePromoteAndFinalize`. -/
def storePromoteAndFinalize : Part hashes UploadResult := do
  let put ← putTemporaryObject hashes input
  match put with
  | .error category => do
      bestEffortDeleteTemporary hashes
      pure (.error (mapStorageFailure category))
  | .ok body =>
      let promoted ← promoteTemporaryObject hashes
      match promoted with
      | .error category => do
          bestEffortDeleteTemporary hashes
          pure (.error (mapStorageFailure category))
      | .ok _ => finalizeBody hashes input actor reservation body

/-- `executeUploadSbom`, for an asset that takes uploads. -/
def uploadToAsset : Part hashes UploadResult := do
  let now ← now hashes
  let reservation : ReservationInput :=
    ⟨actor.organizationId, hashes.sbomUploadIdempotencyScope input.assetId, input.keyHash,
      hashes.hashReservationFingerprint input.assetId input.contentType,
      now + input.idempotencyTtlMs⟩
  let reserved ← reserveStarted hashes reservation
  match reserved with
  | .unexpiredStarted => pure (.error sbomUploadInProgress)
  | .conflict => pure (.error sbomUploadIdempotencyConflict)
  | .reclaimableExpired =>
      let reclaimed ← reclaimExpiredStarted hashes reservation
      if reclaimed = true then storePromoteAndFinalize hashes input actor reservation
      else pure (.error sbomUploadInProgress)
  | .completed => replayCompletedUpload hashes input actor
  | .acquired => storePromoteAndFinalize hashes input actor reservation

/-- `executeUploadSbom`, for an actor that may upload. -/
def uploadAs : Part hashes UploadResult :=
  if isSha256Hex input.keyHash = false then throws hashes
  else if sbomApprovedContentTypes.contains input.contentType = false then
    pure (.error ⟨.validation, js "Content type is not an approved CycloneDX JSON type.",
      .storageFailed⟩)
  else do
    let asset ← findAsset hashes actor.organizationId input.assetId
    match asset with
    | none => pure (.error ⟨.notFound, js "Asset not found.", .notFound⟩)
    | some asset =>
        if asset.isArchivedStatus = true ∨ asset.archivedAt ≠ none then
          pure (.error ⟨.conflict, js "Asset is archived.", .archived⟩)
        else uploadToAsset hashes input actor

/-- `executeUploadSbom`. -/
def executeUploadSbom : Part hashes UploadResult :=
  match authorizeSbomUpload input.actor with
  | .error failure => pure (.error failure)
  | .ok actor => uploadAs hashes input actor

end Upload

/-! ## The system -/

/-- What other code does to the rows: an asset is archived or restored, and an ingestion is
processed. -/
inductive UploadEvent
  | archive (assetId : Uuid) (isArchivedStatus : Bool) (archivedAt : Option Timestamp)
  | process (ingestionId : Uuid) (snapshot : Session8IngestionSnapshot)

/-- What it does. -/
def UploadEvent.act : UploadEvent → UploadState → UploadState
  | .archive assetId isArchivedStatus archivedAt, s =>
      { s with assets := fun id =>
          if id = assetId then
            (s.assets id).map fun row => { row with isArchivedStatus, archivedAt }
          else s.assets id }
  | .process ingestionId snapshot, s =>
      { s with ingestions := s.ingestions.map fun row =>
          if row.id = ingestionId then
            { row with snapshot, version := row.version + 1 }
          else row }

/-- Uploads of a family of requests. -/
def uploads {ι : Type} (hashes : UploadHashes) (request : ι → UploadSbomInput) :
    Interleaving UploadState ι UploadResult UploadEvent where
  ops := uploadOps hashes
  program i := Upload.executeUploadSbom hashes (request i)
  environment event s := some (event.act s)

end PatchPilot.Sbom
