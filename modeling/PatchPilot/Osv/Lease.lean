import PatchPilot.Foundation.LengthPrefix
import PatchPilot.Foundation.IsoDate

set_option autoImplicit false

/-!
# Osv: the lease of a synchronization (`runtime-coordination/lease.ts`)

One lease covers the acquisition of the whole catalog.  Its holder shows a proof; a proof
names the run, a revision that every change increases, and a fencing token that every
change of ownership increases.  The functions of this module decide on a projection of the
lease and on a time of the database, and change nothing.
-/

namespace PatchPilot.Osv

open PatchPilot.Foundation

/-! ## Constants -/

/-- `OSV_RUNTIME_LEASE_SCOPE_IDENTIFIER`. -/
def osvRuntimeLeaseScopeIdentifier : JsString :=
  js "osv_runtime_lease_scope_osv_gcs_public_export_v1"

/-- `OSV_RUNTIME_ENABLEMENT_ARCHITECTURE_IDENTIFIER`. -/
def osvRuntimeEnablementArchitectureIdentifier : JsString :=
  js "osv_runtime_enablement_architecture_v1"

/-- `OSV_RUNTIME_RETRY_POLICY_IDENTIFIER`. -/
def osvRuntimeRetryPolicyIdentifier : JsString := js "osv_runtime_retry_policy_v1"

/-- `OSV_RUNTIME_LEASE_TTL_MS`. -/
def osvRuntimeLeaseTtlMs : Int := 900000

/-- `OSV_RUNTIME_POSTGRES_BIGINT_MAX`. -/
def osvRuntimePostgresBigintMax : Nat := 9223372036854775807

/-- The codes of a rejection that the lease and its adapter give. -/
inductive RejectionCode
  | invalidField | invalidUuid | invalidHolderToken | invalidTimestamp | invalidLeaseInteger
  | leaseIntegerOverflow | invalidScope | immutableConflict | stateConflict | ownershipConflict
  | notFound | databaseUnavailable | serializationFailure
  deriving DecidableEq

/-- `OsvRuntimeCoordinationResult`, or an exception. -/
inductive Evaluated (α : Type)
  | ok (value : α)
  | rejected (code : RejectionCode)
  | threw
  deriving DecidableEq

/-! ## Readers -/

/-- `[0-9a-f]`, in any case. -/
def isHex (u : UInt16) : Bool := isLowerHex u || (0x41 ≤ u && u ≤ 0x46)

/-- `[89ab]`, in any case. -/
def isVariantLetter (u : UInt16) : Bool :=
  u == unit '8' || u == unit '9' || u == unit 'a' || u == unit 'b' || u == unit 'A' ||
    u == unit 'B'

/-- The places of an identifier with a class of letters and of the two marked places. -/
def identifierShape (letter version variant : UInt16 → Bool) : TextShape :=
  List.replicate 8 letter ++ exactly '-' :: List.replicate 4 letter ++
    exactly '-' :: version :: List.replicate 3 letter ++
    exactly '-' :: variant :: List.replicate 3 letter ++
    exactly '-' :: List.replicate 12 letter

/-- `UUID_PATTERN`. -/
def isUuid (s : JsString) : Bool :=
  hasShape (identifierShape isHex (fun u => 0x31 ≤ u && u ≤ 0x38) isVariantLetter) s

/-- `OSV_RUNTIME_HOLDER_TOKEN_UUID_V4_PATTERN`. -/
def isHolderToken (s : JsString) : Bool :=
  hasShape (identifierShape isLowerHex (exactly '4')
    (fun u => u == unit '8' || u == unit '9' || u == unit 'a' || u == unit 'b')) s

/-- `toLowerCase` of an ASCII text. -/
def toLowerCase (s : JsString) : JsString := s.map fun u => if isUpper u then u + 0x20 else u

/-- `OSV_RUNTIME_LEASE_INTEGER_PATTERN`. -/
def isLeaseInteger (s : JsString) : Bool :=
  s.all isDigit && decide (1 ≤ s.length) && decide (s.length ≤ 19) &&
    decide (s.head? ≠ some (unit '0'))

/-- `parseLeaseInteger`. -/
def parseLeaseInteger (value : JsString) : Except RejectionCode Nat :=
  if isLeaseInteger value = false then .error .invalidLeaseInteger
  else
    let parsed := digitsValue value
    if parsed < 1 ∨ parsed > osvRuntimePostgresBigintMax then .error .leaseIntegerOverflow
    else .ok parsed

/-- `incrementLeaseInteger`. -/
def incrementLeaseInteger (value : JsString) : Except RejectionCode JsString := do
  let parsed ← parseLeaseInteger value
  let next := parsed + 1
  if next > osvRuntimePostgresBigintMax then .error .leaseIntegerOverflow
  else .ok (decimalText next)

/-- `readUuid`. -/
def readUuid (value : JsString) : Except RejectionCode JsString :=
  if isUuid value then .ok (toLowerCase value) else .error .invalidUuid

/-- `readHolderTokenUuidV4`; a token is in lower case already. -/
def readHolderTokenUuidV4 (value : JsString) : Except RejectionCode JsString :=
  if isHolderToken value then .ok (toLowerCase value) else .error .invalidHolderToken

/-- `readLeaseInteger`. -/
def readLeaseInteger (value : JsString) : Except RejectionCode JsString := do
  let parsed ← parseLeaseInteger value
  .ok (decimalText parsed)

/-- `readUtcTimestamp`. -/
def readUtcTimestamp (value : JsString) : Except RejectionCode JsString :=
  if isUtcTimestamp value then .ok value else .error .invalidTimestamp

/-! ## Proofs and projections -/

/-- `OsvRuntimeLeaseOwnershipProof`.  The token is the entry of the proof in `holderTokens`;
an object that the constructor did not make has none. -/
structure OsvRuntimeLeaseOwnershipProof where
  scope : JsString
  runId : JsString
  holderToken : Option JsString
  leaseRevision : JsString
  fencingToken : JsString
  acquiredAt : JsString
  heartbeatAt : JsString
  expiresAt : JsString
  deriving DecidableEq

/-- `OsvRuntimeLeaseState`. -/
inductive OsvRuntimeLeaseState
  | absent | held | expired | released
  deriving DecidableEq

/-- `OsvRuntimeLeaseProjection`. -/
structure OsvRuntimeLeaseProjection where
  scope : JsString
  state : OsvRuntimeLeaseState
  runId : Option JsString
  leaseRevision : JsString
  fencingToken : JsString
  acquiredAt : Option JsString
  heartbeatAt : Option JsString
  expiresAt : Option JsString
  releasedAt : Option JsString
  deriving DecidableEq

/-- `createOsvRuntimeLeaseOwnershipProofForOwner`, of the scope of the lease. -/
def createOsvRuntimeLeaseOwnershipProofForOwner (runId holderToken leaseRevision fencingToken
    acquiredAt heartbeatAt expiresAt : JsString) :
    Except RejectionCode OsvRuntimeLeaseOwnershipProof := do
  let runId ← readUuid runId
  let holderToken ← readHolderTokenUuidV4 holderToken
  let leaseRevision ← readLeaseInteger leaseRevision
  let fencingToken ← readLeaseInteger fencingToken
  let acquiredAt ← readUtcTimestamp acquiredAt
  let heartbeatAt ← readUtcTimestamp heartbeatAt
  let expiresAt ← readUtcTimestamp expiresAt
  .ok { scope := osvRuntimeLeaseScopeIdentifier, runId, holderToken := some holderToken
        leaseRevision, fencingToken, acquiredAt, heartbeatAt, expiresAt }

/-- A field that may be `null`. -/
def optional {α : Type} (read : JsString → Except RejectionCode α) :
    Option JsString → Except RejectionCode (Option α)
  | none => .ok none
  | some value => (read value).map some

/-- `createOsvRuntimeLeaseProjection`. -/
def createOsvRuntimeLeaseProjection (state : OsvRuntimeLeaseState) (runId : Option JsString)
    (leaseRevision fencingToken : JsString)
    (acquiredAt heartbeatAt expiresAt releasedAt : Option JsString) :
    Except RejectionCode OsvRuntimeLeaseProjection := do
  let leaseRevision ← readLeaseInteger leaseRevision
  let fencingToken ← readLeaseInteger fencingToken
  let runId ← optional readUuid runId
  let acquiredAt ← optional readUtcTimestamp acquiredAt
  let heartbeatAt ← optional readUtcTimestamp heartbeatAt
  let expiresAt ← optional readUtcTimestamp expiresAt
  let releasedAt ← optional readUtcTimestamp releasedAt
  .ok { scope := osvRuntimeLeaseScopeIdentifier, state, runId, leaseRevision, fencingToken
        acquiredAt, heartbeatAt, expiresAt, releasedAt }

/-- `absentOsvRuntimeLeaseProjection`. -/
def absentOsvRuntimeLeaseProjection : OsvRuntimeLeaseProjection where
  scope := osvRuntimeLeaseScopeIdentifier
  state := .absent
  runId := none
  leaseRevision := js "1"
  fencingToken := js "1"
  acquiredAt := none
  heartbeatAt := none
  expiresAt := none
  releasedAt := none

/-- `heldProjection`. -/
def heldProjection (runId leaseRevision fencingToken acquiredAt heartbeatAt expiresAt : JsString) :
    OsvRuntimeLeaseProjection where
  scope := osvRuntimeLeaseScopeIdentifier
  state := .held
  runId := some runId
  leaseRevision
  fencingToken
  acquiredAt := some acquiredAt
  heartbeatAt := some heartbeatAt
  expiresAt := some expiresAt
  releasedAt := none

/-- `databaseNowPermitsStaleTakeover`: the texts are compared. -/
def databaseNowPermitsStaleTakeover (databaseNow expiresAt : JsString) : Bool :=
  (compareCodeUnits databaseNow expiresAt).isGE

/-- `addMilliseconds`; `none` when it throws, on a text that is no date. -/
def addMilliseconds (isoUtc : JsString) (milliseconds : Int) : Option JsString :=
  (parseUtc isoUtc).map fun parsed => withoutZeroFraction (toISOString (parsed + milliseconds))

/-! ## Acquire -/

/-- The outcomes of an acquire that the evaluation gives. -/
inductive OsvRuntimeLeaseAcquireOutcome
  | acquired | alreadyHeldBySameOwner | heldByOther | staleTakeoverAcquired | policyMismatch
  deriving DecidableEq

/-- `OsvRuntimeLeaseAcquireResult`. -/
structure OsvRuntimeLeaseAcquireResult where
  outcome : OsvRuntimeLeaseAcquireOutcome
  projection : OsvRuntimeLeaseProjection
  proof : Option OsvRuntimeLeaseOwnershipProof
  deriving DecidableEq

/-- The input of `evaluateOsvRuntimeLeaseAcquire`, without what is current. -/
structure AcquireInput where
  runId : JsString
  holderToken : JsString
  databaseNow : JsString
  architectureIdentifier : JsString
  retryPolicyIdentifier : JsString
  expectedLeaseRevision : Option JsString
  expectedFencingToken : Option JsString
  deriving DecidableEq

/-- A result with a proof, unless there is none. -/
def withProof {α : Type} (proof : Except RejectionCode OsvRuntimeLeaseOwnershipProof)
    (result : OsvRuntimeLeaseOwnershipProof → α) : Evaluated α :=
  match proof with
  | .ok proof => .ok (result proof)
  | .error code => .rejected code

/-- A lease that is newly held, with its counters. -/
def granted (outcome : OsvRuntimeLeaseAcquireOutcome) (input : AcquireInput)
    (leaseRevision fencingToken : Except RejectionCode JsString) :
    Evaluated OsvRuntimeLeaseAcquireResult :=
  match leaseRevision, fencingToken with
  | .error code, _ => .rejected code
  | .ok _, .error code => .rejected code
  | .ok leaseRevision, .ok fencingToken =>
      match addMilliseconds input.databaseNow osvRuntimeLeaseTtlMs with
      | none => .threw
      | some expiresAt =>
          withProof
            (createOsvRuntimeLeaseOwnershipProofForOwner input.runId input.holderToken
              leaseRevision fencingToken input.databaseNow input.databaseNow expiresAt)
            fun proof =>
              ⟨outcome, heldProjection input.runId leaseRevision fencingToken input.databaseNow
                input.databaseNow expiresAt, some proof⟩

/-- `evaluateOsvRuntimeLeaseAcquire`. -/
def evaluateOsvRuntimeLeaseAcquire (current : OsvRuntimeLeaseProjection)
    (currentHolderToken : Option JsString) (input : AcquireInput) :
    Evaluated OsvRuntimeLeaseAcquireResult :=
  if input.architectureIdentifier ≠ osvRuntimeEnablementArchitectureIdentifier ∨
      input.retryPolicyIdentifier ≠ osvRuntimeRetryPolicyIdentifier then
    .ok ⟨.policyMismatch, current, none⟩
  else if isHolderToken input.holderToken = false then .rejected .invalidHolderToken
  else if isUtcTimestamp input.databaseNow = false then .rejected .invalidTimestamp
  else
    match current.state, current.expiresAt with
    | .held, some expiresAt =>
        if databaseNowPermitsStaleTakeover input.databaseNow expiresAt = false then
          if current.runId = some input.runId ∧ currentHolderToken = some input.holderToken then
            withProof
              (createOsvRuntimeLeaseOwnershipProofForOwner input.runId input.holderToken
                current.leaseRevision current.fencingToken
                (current.acquiredAt.getD input.databaseNow)
                (current.heartbeatAt.getD input.databaseNow) expiresAt)
              fun proof => ⟨.alreadyHeldBySameOwner, current, some proof⟩
          else .ok ⟨.heldByOther, current, none⟩
        else if input.expectedLeaseRevision ≠ none ∧
            input.expectedLeaseRevision ≠ some current.leaseRevision then
          .ok ⟨.heldByOther, current, none⟩
        else if input.expectedFencingToken ≠ none ∧
            input.expectedFencingToken ≠ some current.fencingToken then
          .ok ⟨.heldByOther, current, none⟩
        else
          granted .staleTakeoverAcquired input (incrementLeaseInteger current.leaseRevision)
            (incrementLeaseInteger current.fencingToken)
    | .absent, _ =>
        granted .acquired input (.ok current.leaseRevision) (.ok current.fencingToken)
    | _, _ =>
        granted .acquired input (incrementLeaseInteger current.leaseRevision)
          (incrementLeaseInteger current.fencingToken)

/-! ## Heartbeat -/

/-- The outcomes of a heartbeat that the evaluation gives. -/
inductive OsvRuntimeLeaseHeartbeatOutcome
  | accepted | ownershipLost | expired
  deriving DecidableEq

/-- The result of a heartbeat. -/
structure OsvRuntimeLeaseHeartbeatResult where
  outcome : OsvRuntimeLeaseHeartbeatOutcome
  projection : OsvRuntimeLeaseProjection
  proof : Option OsvRuntimeLeaseOwnershipProof
  deriving DecidableEq

/-- `evaluateOsvRuntimeLeaseHeartbeat`. -/
def evaluateOsvRuntimeLeaseHeartbeat (current : OsvRuntimeLeaseProjection)
    (currentHolderToken : Option JsString) (proof : OsvRuntimeLeaseOwnershipProof)
    (databaseNow : JsString) : Evaluated OsvRuntimeLeaseHeartbeatResult :=
  match proof.holderToken with
  | none => .ok ⟨.ownershipLost, current, none⟩
  | some presented =>
      if currentHolderToken ≠ some presented then .ok ⟨.ownershipLost, current, none⟩
      else if current.runId ≠ some proof.runId ∨ proof.leaseRevision ≠ current.leaseRevision ∨
          proof.fencingToken ≠ current.fencingToken then
        .ok ⟨.ownershipLost, current, none⟩
      else if isUtcTimestamp databaseNow = false then .rejected .invalidTimestamp
      else
        match current.state, current.expiresAt with
        | .held, some expiresAt =>
            if databaseNowPermitsStaleTakeover databaseNow expiresAt then
              .ok ⟨.expired, current, none⟩
            else
              match incrementLeaseInteger current.leaseRevision with
              | .error code => .rejected code
              | .ok nextRevision =>
                  match addMilliseconds databaseNow osvRuntimeLeaseTtlMs with
                  | none => .threw
                  | some expiresAt =>
                      let acquiredAt := current.acquiredAt.getD databaseNow
                      withProof
                        (createOsvRuntimeLeaseOwnershipProofForOwner proof.runId presented
                          nextRevision current.fencingToken acquiredAt databaseNow expiresAt)
                        fun next =>
                          ⟨.accepted, heldProjection proof.runId nextRevision
                            current.fencingToken acquiredAt databaseNow expiresAt, some next⟩
        | _, _ => .ok ⟨.expired, current, none⟩

/-! ## Release -/

/-- The outcomes of a release that the evaluation gives. -/
inductive OsvRuntimeLeaseReleaseOutcome
  | released | alreadyReleased | staleOwner | wrongRevision | wrongFencingToken
  deriving DecidableEq

/-- The result of a release. -/
structure OsvRuntimeLeaseReleaseResult where
  outcome : OsvRuntimeLeaseReleaseOutcome
  projection : OsvRuntimeLeaseProjection
  deriving DecidableEq

/-- `evaluateOsvRuntimeLeaseRelease`; the reason of the release decides nothing. -/
def evaluateOsvRuntimeLeaseRelease (current : OsvRuntimeLeaseProjection)
    (currentHolderToken : Option JsString) (proof : OsvRuntimeLeaseOwnershipProof)
    (databaseNow : JsString) : Evaluated OsvRuntimeLeaseReleaseResult :=
  if proof.holderToken = none ∨ proof.holderToken ≠ currentHolderToken then
    .ok ⟨.staleOwner, current⟩
  else if proof.leaseRevision ≠ current.leaseRevision then .ok ⟨.wrongRevision, current⟩
  else if proof.fencingToken ≠ current.fencingToken then .ok ⟨.wrongFencingToken, current⟩
  else if isUtcTimestamp databaseNow = false then .rejected .invalidTimestamp
  else if current.state = .released then .ok ⟨.alreadyReleased, current⟩
  else
    match incrementLeaseInteger current.leaseRevision,
        incrementLeaseInteger current.fencingToken with
    | .error code, _ => .rejected code
    | .ok _, .error code => .rejected code
    | .ok leaseRevision, .ok fencingToken =>
        .ok ⟨.released, { current with
          scope := osvRuntimeLeaseScopeIdentifier, state := .released, leaseRevision
          fencingToken, releasedAt := some databaseNow }⟩

/-! ## Ownership -/

/-- The reasons of an `OsvRuntimeOwnershipValidation` that the validation gives. -/
inductive OwnershipReason
  | currentOwner | missingProof | wrongHolder | wrongFencingToken | expired | scopeMismatch
  | runMismatch | leaseNotHeld
  deriving DecidableEq

/-- `validateOsvRuntimeLeaseOwnership`; it authorizes with the reason `currentOwner` and
no other. -/
def validateOsvRuntimeLeaseOwnership (current : OsvRuntimeLeaseProjection)
    (proof : Option OsvRuntimeLeaseOwnershipProof) (currentHolderToken : Option JsString)
    (databaseNow expectedRunId : JsString) : OwnershipReason :=
  match proof with
  | none => .missingProof
  | some proof =>
      if proof.scope ≠ current.scope then .scopeMismatch
      else if proof.runId ≠ expectedRunId ∨ current.runId ≠ some expectedRunId then .runMismatch
      else if current.state ≠ .held then .leaseNotHeld
      else if proof.holderToken = none ∨ proof.holderToken ≠ currentHolderToken then .wrongHolder
      else if proof.fencingToken ≠ current.fencingToken then .wrongFencingToken
      else
        match current.expiresAt with
        | none => .expired
        | some expiresAt =>
            if databaseNowPermitsStaleTakeover databaseNow expiresAt then .expired
            else .currentOwner

end PatchPilot.Osv
