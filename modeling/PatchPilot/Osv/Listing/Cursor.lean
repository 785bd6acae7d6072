import PatchPilot.Osv.Listing.Observations

set_option autoImplicit false

/-!
# Osv listing: the cursor of a pass

A pass asks for one page after the other.  Its cursor counts what was accepted, expects one
continuation token, and keeps the digests of the tokens it has seen.  The token and the
digests are secrets beside the cursor; here they travel with it.
-/

namespace PatchPilot.Osv.Listing

open PatchPilot.Foundation

/-! ## Policies -/

/-- `OsvListingPaginationPolicyProfileName`. -/
inductive OsvListingPaginationPolicyProfile
  | disabledCanary
  | productionFailClosed
  deriving DecidableEq

/-- `OsvListingPaginationLimits`. -/
structure OsvListingPaginationLimits where
  maxPagesPerPrefixPerPass : Nat
  maxPagesPerRun : Nat
  maxRawObservationsPerPrefixPerPass : Nat
  maxRawObservationsPerRun : Nat
  maxListingBytesPerPrefixPerPass : Nat
  maxListingBytesPerRun : Nat
  deriving DecidableEq

/-- The limits of a profile. -/
def OsvListingPaginationPolicyProfile.limits :
    OsvListingPaginationPolicyProfile → OsvListingPaginationLimits
  | .disabledCanary =>
      { maxPagesPerPrefixPerPass := 8
        maxPagesPerRun := 16
        maxRawObservationsPerPrefixPerPass := 2000
        maxRawObservationsPerRun := 4000
        maxListingBytesPerPrefixPerPass := 8388608
        maxListingBytesPerRun := 16777216 }
  | .productionFailClosed =>
      { maxPagesPerPrefixPerPass := 500
        maxPagesPerRun := 6000
        maxRawObservationsPerPrefixPerPass := 500000
        maxRawObservationsPerRun := 6000000
        maxListingBytesPerPrefixPerPass := 524288000
        maxListingBytesPerRun := 6291456000 }

/-- The prefixes of a profile. -/
def OsvListingPaginationPolicyProfile.prefixes :
    OsvListingPaginationPolicyProfile → List JsString
  | .disabledCanary => [js "crates.io/"]
  | .productionFailClosed => osvInventoryScopeProviderPrefixes

/-- The pagination policy that a profile is pinned to. -/
def OsvListingPaginationPolicyProfile.paginationPolicy :
    OsvListingPaginationPolicyProfile → JsString
  | .disabledCanary => js "osv_disabled_first_provider_canary_policy_v1"
  | .productionFailClosed => js "osv_listing_pagination_policy_v1"

/-- `OSV_LISTING_MAX_OBSERVATIONS_PER_PAGE`. -/
def osvListingMaxObservationsPerPage : Nat := 1000

/-- `OSV_LISTING_MAX_RESPONSE_BYTES_PER_PAGE`. -/
def osvListingMaxResponseBytesPerPage : Nat := 1048576

/-- `OSV_LISTING_CONTINUATION_TOKEN_MAX_UTF8_BYTES`. -/
def osvListingContinuationTokenMaxUtf8Bytes : Nat := 8192

/-! ## Failures -/

/-- `OsvListingPaginationFailureKind`. -/
inductive OsvListingPaginationFailureKind
  | invalidRequest | policyVersionMismatch | protocolVersionMismatch | inventoryScopeMismatch
  | invalidPrefixPlan | invalidPassIdentity | invalidPageOrdinal | invalidTokenLineage
  | invalidContinuationToken | continuationTokenTooLarge | listingTokenCycle | pageLimitExceeded
  | passObservationLimitExceeded | passByteLimitExceeded | runPageLimitExceeded
  | runObservationLimitExceeded | runByteLimitExceeded | duplicateObservation
  | immutableObservationConflict | providerKeyDigestConflict | passIncomplete
  | inventoryNotConverged | missingRequiredPrefix | versionSetMismatch | candidateScopeMismatch
  | cancelled | internalValidationFailure | listingTransportFailure
  deriving DecidableEq

/-- The name of the kind ends with `_exceeded`. -/
def OsvListingPaginationFailureKind.isExceeded : OsvListingPaginationFailureKind → Bool
  | .pageLimitExceeded | .passObservationLimitExceeded | .passByteLimitExceeded
  | .runPageLimitExceeded | .runObservationLimitExceeded | .runByteLimitExceeded => true
  | _ => false

/-- `OsvTransportFailureKind`. -/
inductive OsvTransportFailureKind
  | timeout | connectionReset | temporaryDnsFailure | http408 | http429 | http500 | http502
  | http503 | http504 | cancelled | redirectRejected | authenticationRequired
  | authorizationRejected | objectNotFound | generationNotFound | invalidContentType
  | invalidContentEncoding | responseTooLarge | malformedResponse | invalidPageToken
  | repeatedPageToken | generationMismatch | declaredSizeMismatch | contentHashMismatch
  | policyViolation | sourceNotRetrievalEligible
  deriving DecidableEq

/-- Whether the catalogue calls a transport failure retryable. -/
def OsvTransportFailureKind.retryable : OsvTransportFailureKind → Bool
  | .timeout | .connectionReset | .temporaryDnsFailure | .http408 | .http429 | .http500
  | .http502 | .http503 | .http504 => true
  | _ => false

/-- `OsvAcquisitionRetryDisposition`, as far as the catalogue of failures uses it. -/
inductive OsvAcquisitionRetryDisposition
  | noRetry
  | futureExplicitRetryPermitted
  | permanentFailure
  | quarantineRequired
  deriving DecidableEq

/-- The disposition of a kind in `osvListingPaginationFailureCatalog`. -/
def OsvListingPaginationFailureKind.retryDisposition :
    OsvListingPaginationFailureKind → OsvAcquisitionRetryDisposition
  | .listingTokenCycle | .duplicateObservation | .immutableObservationConflict
  | .providerKeyDigestConflict => .quarantineRequired
  | .passIncomplete | .inventoryNotConverged | .listingTransportFailure =>
      .futureExplicitRetryPermitted
  | .cancelled => .noRetry
  | _ => .permanentFailure

/-- `mapListingTransportFailureRetryDisposition`. -/
def mapListingTransportFailureRetryDisposition (kind : OsvTransportFailureKind) :
    OsvAcquisitionRetryDisposition :=
  if kind = .cancelled then .noRetry
  else if kind.retryable then .futureExplicitRetryPermitted
  else .permanentFailure

/-- `OsvListingPassOrdinal`. -/
inductive OsvListingPassOrdinal
  | a
  | b
  deriving DecidableEq

/-- `OsvListingCumulativeCounts`. -/
structure OsvListingCumulativeCounts where
  pageCount : Nat
  rawObservationCount : Nat
  responseByteCount : Nat
  deriving DecidableEq

/-- `zeroOsvListingCumulativeCounts`. -/
def zeroOsvListingCumulativeCounts : OsvListingCumulativeCounts := ⟨0, 0, 0⟩

/-- `OsvListingPaginationFailure`. -/
structure OsvListingPaginationFailure where
  kind : OsvListingPaginationFailureKind
  retryDisposition : OsvAcquisitionRetryDisposition
  policyIdentifier : JsString
  providerPrefix : Option JsString
  passOrdinal : Option OsvListingPassOrdinal
  counts : Option OsvListingCumulativeCounts
  transportFailureKind : Option OsvTransportFailureKind
  deriving DecidableEq

/-- `Number.MAX_SAFE_INTEGER`. -/
def maxSafeInteger : Nat := 2 ^ 53 - 1

/-- `isNonNegativeSafeInteger`. -/
def isNonNegativeSafeInteger (value : Nat) : Bool := decide (value ≤ maxSafeInteger)

/-- `countsAreSafeIntegers`. -/
def countsAreSafeIntegers (counts : OsvListingCumulativeCounts) : Bool :=
  isNonNegativeSafeInteger counts.pageCount &&
  isNonNegativeSafeInteger counts.rawObservationCount &&
  isNonNegativeSafeInteger counts.responseByteCount

/-- `createOsvListingPaginationFailure`: a failure of a transport names its kind, and counts
are safe integers. -/
def createOsvListingPaginationFailure (kind : OsvListingPaginationFailureKind)
    (policyIdentifier : JsString) (providerPrefix : Option JsString)
    (passOrdinal : Option OsvListingPassOrdinal) (counts : Option OsvListingCumulativeCounts)
    (transportFailureKind : Option OsvTransportFailureKind) :
    Option OsvListingPaginationFailure :=
  if policyIdentifier = [] ∨ providerPrefix = some [] ∨
      (counts.any fun counts => !countsAreSafeIntegers counts) = true then none
  else
    match kind, transportFailureKind with
    | .listingTransportFailure, none => none
    | .listingTransportFailure, some child =>
        some ⟨kind, mapListingTransportFailureRetryDisposition child, policyIdentifier,
          providerPrefix, passOrdinal, counts, some child⟩
    | _, _ =>
        some ⟨kind, kind.retryDisposition, policyIdentifier, providerPrefix, passOrdinal, counts,
          none⟩

/-- The failure that stands for one that cannot be constructed. -/
def fallbackFailure (policyIdentifier : JsString) : OsvListingPaginationFailure :=
  ⟨.internalValidationFailure, .permanentFailure, policyIdentifier, none, none, none, none⟩

/-! ## Counts -/

/-- `addExact` of two values. -/
def addExact (left right : Nat) : Option Nat :=
  if isNonNegativeSafeInteger left && isNonNegativeSafeInteger right &&
      isNonNegativeSafeInteger (left + right) then some (left + right)
  else none

/-- `addOsvListingPageCounts`. -/
def addOsvListingPageCounts (current : OsvListingCumulativeCounts)
    (observationCount responseByteCount : Nat) : Option OsvListingCumulativeCounts := do
  let pageCount ← addExact current.pageCount 1
  let observations ← addExact current.rawObservationCount observationCount
  let bytes ← addExact current.responseByteCount responseByteCount
  some ⟨pageCount, observations, bytes⟩

/-- `profileLimitsAreSafeIntegers`. -/
def profileLimitsAreSafeIntegers (limits : OsvListingPaginationLimits) : Bool :=
  isNonNegativeSafeInteger limits.maxPagesPerPrefixPerPass &&
  isNonNegativeSafeInteger limits.maxPagesPerRun &&
  isNonNegativeSafeInteger limits.maxRawObservationsPerPrefixPerPass &&
  isNonNegativeSafeInteger limits.maxRawObservationsPerRun &&
  isNonNegativeSafeInteger limits.maxListingBytesPerPrefixPerPass &&
  isNonNegativeSafeInteger limits.maxListingBytesPerRun

/-- `evaluateOsvListingCeilingsBeforeNextPage`. -/
def evaluateOsvListingCeilingsBeforeNextPage (profile : OsvListingPaginationPolicyProfile)
    (passCounts runCounts : OsvListingCumulativeCounts) :
    Except OsvListingPaginationFailureKind Unit :=
  if !countsAreSafeIntegers passCounts || !countsAreSafeIntegers runCounts ||
      !profileLimitsAreSafeIntegers profile.limits then .error .internalValidationFailure
  else if profile.limits.maxPagesPerPrefixPerPass ≤ passCounts.pageCount then
    .error .pageLimitExceeded
  else if profile.limits.maxPagesPerRun ≤ runCounts.pageCount then .error .runPageLimitExceeded
  else .ok ()

/-- `evaluateOsvListingCeilingsAfterAcceptedPage`. -/
def evaluateOsvListingCeilingsAfterAcceptedPage (profile : OsvListingPaginationPolicyProfile)
    (passCounts runCounts : OsvListingCumulativeCounts) :
    Except OsvListingPaginationFailureKind Unit :=
  if !countsAreSafeIntegers passCounts || !countsAreSafeIntegers runCounts ||
      !profileLimitsAreSafeIntegers profile.limits then .error .internalValidationFailure
  else if profile.limits.maxPagesPerPrefixPerPass < passCounts.pageCount then
    .error .pageLimitExceeded
  else if profile.limits.maxRawObservationsPerPrefixPerPass < passCounts.rawObservationCount then
    .error .passObservationLimitExceeded
  else if profile.limits.maxListingBytesPerPrefixPerPass < passCounts.responseByteCount then
    .error .passByteLimitExceeded
  else if profile.limits.maxPagesPerRun < runCounts.pageCount then .error .runPageLimitExceeded
  else if profile.limits.maxRawObservationsPerRun < runCounts.rawObservationCount then
    .error .runObservationLimitExceeded
  else if profile.limits.maxListingBytesPerRun < runCounts.responseByteCount then
    .error .runByteLimitExceeded
  else .ok ()

/-- The counts of a pass are within the ceilings of the profile. -/
structure WithinPass (profile : OsvListingPaginationPolicyProfile)
    (counts : OsvListingCumulativeCounts) : Prop where
  pages : counts.pageCount ≤ profile.limits.maxPagesPerPrefixPerPass
  observations : counts.rawObservationCount ≤ profile.limits.maxRawObservationsPerPrefixPerPass
  bytes : counts.responseByteCount ≤ profile.limits.maxListingBytesPerPrefixPerPass

/-- The counts of a run are within the ceilings of the profile. -/
structure WithinRun (profile : OsvListingPaginationPolicyProfile)
    (counts : OsvListingCumulativeCounts) : Prop where
  pages : counts.pageCount ≤ profile.limits.maxPagesPerRun
  observations : counts.rawObservationCount ≤ profile.limits.maxRawObservationsPerRun
  bytes : counts.responseByteCount ≤ profile.limits.maxListingBytesPerRun

/-- `OsvListingContinuationToken`: an opaque text. -/
structure OsvListingContinuationToken where
  value : JsString
  deriving DecidableEq

/-- `OsvListingPaginationTokenHandle`, with the token that it hides. -/
structure OsvListingPaginationTokenHandle where
  runId : JsString
  providerPrefix : JsString
  passOrdinal : OsvListingPassOrdinal
  passAttemptId : JsString
  utf8ByteLength : Nat
  token : OsvListingContinuationToken
  deriving DecidableEq

/-- `hasDisallowedControl`. -/
def hasDisallowedControl (value : JsString) : Bool :=
  value.any fun code =>
    decide (code ≤ 0x1F) || decide (code = 0x7F) || (decide (0x80 ≤ code) && decide (code ≤ 0x9F))

/-- The codes with which a token is refused. -/
inductive TokenCode
  | invalidField
  | unsafeInteger
  deriving DecidableEq

/-- `admitOsvListingPaginationToken`. -/
def admitOsvListingPaginationToken (token : OsvListingContinuationToken)
    (runId providerPrefix : JsString) (passOrdinal : OsvListingPassOrdinal)
    (passAttemptId : JsString) : Except TokenCode OsvListingPaginationTokenHandle :=
  if token.value = [] then .error .invalidField
  else
    let utf8ByteLength := utf8ByteLength token.value
    if osvListingContinuationTokenMaxUtf8Bytes < utf8ByteLength then .error .unsafeInteger
    else if hasDisallowedControl token.value then .error .invalidField
    else .ok { runId, providerPrefix, passOrdinal, passAttemptId, utf8ByteLength, token }

/-- `OsvListingTokenCycleDetector`. -/
structure OsvListingTokenCycleDetector where
  passAttemptId : JsString
  maxEntries : Nat
  digests : List JsString
  cleared : Bool
  deriving DecidableEq

/-- `createOsvListingTokenCycleDetector`. -/
def createOsvListingTokenCycleDetector (passAttemptId : JsString) (maxEntries : Nat) :
    OsvListingTokenCycleDetector :=
  ⟨passAttemptId, maxEntries, [], false⟩

/-- `clearOsvListingTokenCycleDetector`. -/
def clearOsvListingTokenCycleDetector (detector : OsvListingTokenCycleDetector) :
    OsvListingTokenCycleDetector :=
  { detector with digests := [], cleared := true }

/-- `observeOsvListingTokenDigest`. -/
def observeOsvListingTokenDigest (sha256 : List UInt8 → JsString)
    (detector : OsvListingTokenCycleDetector) (handle : OsvListingPaginationTokenHandle) :
    Except OsvListingPaginationFailureKind OsvListingTokenCycleDetector :=
  if detector.cleared then .error .listingTokenCycle
  else if handle.passAttemptId ≠ detector.passAttemptId then .error .listingTokenCycle
  else
    let digest := sha256 (utf8Encode handle.token.value)
    if digest ∈ detector.digests then .error .listingTokenCycle
    else if detector.maxEntries ≤ detector.digests.length then .error .pageLimitExceeded
    else .ok { detector with digests := digest :: detector.digests }

/-- The codes with which a lineage is refused. -/
inductive LineageCode
  | invalidPageOrdinal
  | invalidTokenLineage
  deriving DecidableEq

/-- `authorizeOsvListingTokenLineage`. -/
def authorizeOsvListingTokenLineage (pageOrdinal : Nat) (previousPageOrdinal : Option Nat)
    (terminalAccepted requestHasToken : Bool)
    (requestHandle expectedHandle : Option OsvListingPaginationTokenHandle)
    (runId providerPrefix : JsString) (passOrdinal : OsvListingPassOrdinal)
    (passAttemptId : JsString) : Except LineageCode Unit :=
  if terminalAccepted then .error .invalidTokenLineage
  else if pageOrdinal < 1 ∨ maxSafeInteger < pageOrdinal then .error .invalidPageOrdinal
  else
    match previousPageOrdinal with
    | none =>
        if pageOrdinal ≠ 1 then .error .invalidPageOrdinal
        else if requestHasToken then .error .invalidTokenLineage
        else .ok ()
    | some previousPageOrdinal =>
        if pageOrdinal = previousPageOrdinal then .error .invalidPageOrdinal
        else if pageOrdinal ≠ previousPageOrdinal + 1 then .error .invalidPageOrdinal
        else
          match requestHasToken, requestHandle, expectedHandle with
          | true, some requestHandle, some expectedHandle =>
              if requestHandle.runId ≠ runId ∨ requestHandle.providerPrefix ≠ providerPrefix ∨
                  requestHandle.passOrdinal ≠ passOrdinal ∨
                  requestHandle.passAttemptId ≠ passAttemptId then .error .invalidTokenLineage
              else if requestHandle.token.value ≠ expectedHandle.token.value then
                .error .invalidTokenLineage
              else .ok ()
          | _, _, _ => .error .invalidTokenLineage

/-! ## Cursors -/

/-- `OsvListingPassState`. -/
inductive OsvListingPassState
  | planned | running | complete | incomplete | failed | cancelled
  deriving DecidableEq

/-- `osvListingPassTransitionAllowed`. -/
def osvListingPassTransitionAllowed : OsvListingPassState → OsvListingPassState → Bool
  | .planned, .running | .planned, .cancelled => true
  | .running, .complete | .running, .incomplete | .running, .failed | .running, .cancelled => true
  | _, _ => false

/-- `osvListingPassIsTerminal`. -/
def osvListingPassIsTerminal : OsvListingPassState → Bool
  | .planned | .running => false
  | _ => true

/-- `OsvListingPassAttemptId`. -/
structure OsvListingPassAttemptId where
  value : JsString
  runId : JsString
  providerPrefix : JsString
  passOrdinal : OsvListingPassOrdinal
  deriving DecidableEq

/-- `OsvListingPassCursor`, with its secrets. -/
structure OsvListingPassCursor where
  run : JsString
  profile : OsvListingPaginationPolicyProfile
  providerPrefix : JsString
  passOrdinal : OsvListingPassOrdinal
  passAttempt : OsvListingPassAttemptId
  state : OsvListingPassState
  nextPageOrdinal : Nat
  lastAcceptedPageOrdinal : Option Nat
  terminalAccepted : Bool
  passCounts : OsvListingCumulativeCounts
  runCounts : OsvListingCumulativeCounts
  observations : List OsvListingCanonicalObservation
  cancellationSettled : Bool
  expectedHandle : Option OsvListingPaginationTokenHandle
  detector : OsvListingTokenCycleDetector
  deriving DecidableEq

/-- `failureOf`. -/
def failureOf (cursor : OsvListingPassCursor) (kind : OsvListingPaginationFailureKind) :
    OsvListingPaginationFailure :=
  (createOsvListingPaginationFailure kind cursor.profile.paginationPolicy
    (some cursor.providerPrefix) (some cursor.passOrdinal) (some cursor.passCounts) none).getD
      (fallbackFailure cursor.profile.paginationPolicy)

/-- `createOsvListingPassCursor`; `none` when the attempt is not one of the pass. -/
def createOsvListingPassCursor (run : JsString) (profile : OsvListingPaginationPolicyProfile)
    (providerPrefix : JsString) (passOrdinal : OsvListingPassOrdinal)
    (passAttempt : OsvListingPassAttemptId) (runCounts : OsvListingCumulativeCounts) :
    Option OsvListingPassCursor :=
  if passAttempt.runId ≠ run ∨ passAttempt.providerPrefix ≠ providerPrefix ∨
      passAttempt.passOrdinal ≠ passOrdinal then none
  else some
    { run, profile, providerPrefix, passOrdinal, passAttempt
      state := .planned
      nextPageOrdinal := 1
      lastAcceptedPageOrdinal := none
      terminalAccepted := false
      passCounts := zeroOsvListingCumulativeCounts
      runCounts
      observations := []
      cancellationSettled := false
      expectedHandle := none
      detector := createOsvListingTokenCycleDetector passAttempt.value
        profile.limits.maxPagesPerPrefixPerPass }

/-- `transitionCursor`: a cursor that runs no more forgets its secrets. -/
def transitionCursor (cursor : OsvListingPassCursor) (state : OsvListingPassState) :
    OsvListingPassCursor :=
  if cursor.state ≠ state ∧ osvListingPassTransitionAllowed cursor.state state = false then cursor
  else
    { cursor with
      state
      cancellationSettled := if state = .cancelled then true else cursor.cancellationSettled
      expectedHandle := if state ≠ .running then none else cursor.expectedHandle
      detector :=
        if state ≠ .running then clearOsvListingTokenCycleDetector cursor.detector
        else cursor.detector }

/-- A request that is authorized. -/
structure AuthorizedPage where
  pageOrdinal : Nat
  providerPrefix : JsString
  continuationToken : Option OsvListingContinuationToken
  cursor : OsvListingPassCursor
  deriving DecidableEq

/-- A cursor that ends, and why. -/
structure EndedCursor where
  cursor : OsvListingPassCursor
  failure : OsvListingPaginationFailure
  deriving DecidableEq

/-- The kind of a lineage that is refused. -/
def LineageCode.kind : LineageCode → OsvListingPaginationFailureKind
  | .invalidPageOrdinal => .invalidPageOrdinal
  | .invalidTokenLineage => .invalidTokenLineage

/-- `authorizeOsvListingNextPageRequest`. -/
def authorizeOsvListingNextPageRequest (cursor : OsvListingPassCursor) :
    Except EndedCursor AuthorizedPage :=
  if cursor.state ≠ .planned ∧ cursor.state ≠ .running then
    .error ⟨cursor, failureOf cursor .passIncomplete⟩
  else if cursor.cancellationSettled then .error ⟨cursor, failureOf cursor .cancelled⟩
  else
    match evaluateOsvListingCeilingsBeforeNextPage cursor.profile cursor.passCounts
        cursor.runCounts with
    | .error kind =>
        let failed := transitionCursor cursor .incomplete
        .error ⟨failed, failureOf failed kind⟩
    | .ok () =>
        match authorizeOsvListingTokenLineage cursor.nextPageOrdinal
            cursor.lastAcceptedPageOrdinal cursor.terminalAccepted cursor.expectedHandle.isSome
            cursor.expectedHandle cursor.expectedHandle cursor.run cursor.providerPrefix
            cursor.passOrdinal cursor.passAttempt.value with
        | .error code =>
            let failed := transitionCursor cursor .failed
            .error ⟨failed, failureOf failed code.kind⟩
        | .ok () =>
            .ok
              { pageOrdinal := cursor.nextPageOrdinal
                providerPrefix := cursor.providerPrefix
                continuationToken := cursor.expectedHandle.map (·.token)
                cursor := if cursor.state = .planned then transitionCursor cursor .running
                  else cursor }

/-- `terminalStateForFailureKind`. -/
def terminalStateForFailureKind (kind : OsvListingPaginationFailureKind) : OsvListingPassState :=
  if kind = .cancelled then .cancelled
  else if kind = .listingTokenCycle ∨ kind.isExceeded = true then .incomplete
  else .failed

/-- `rejectProgress`. -/
def rejectProgress (cursor : OsvListingPassCursor) (kind : OsvListingPaginationFailureKind) :
    EndedCursor :=
  let failed := transitionCursor cursor (terminalStateForFailureKind kind)
  ⟨failed, failureOf failed kind⟩

/-- `cancelOsvListingPassCursor`. -/
def cancelOsvListingPassCursor (cursor : OsvListingPassCursor) : EndedCursor :=
  if cursor.state = .complete then ⟨cursor, failureOf cursor .cancelled⟩
  else
    let cancelled := transitionCursor cursor .cancelled
    ⟨cancelled, failureOf cancelled .cancelled⟩

/-- `terminateOsvListingPassCursor`. -/
def terminateOsvListingPassCursor (cursor : OsvListingPassCursor)
    (kind : OsvListingPaginationFailureKind) : EndedCursor :=
  if osvListingPassIsTerminal cursor.state then ⟨cursor, failureOf cursor kind⟩
  else
    let current := if cursor.state = .planned then transitionCursor cursor .running else cursor
    let failed := transitionCursor current (terminalStateForFailureKind kind)
    ⟨failed, failureOf failed kind⟩

/-! ## Pages -/

/-- `OsvListingPage`: the items are counted when the page is made. -/
structure OsvListingPage where
  providerPrefix : JsString
  items : List OsvListedObjectObservation
  itemCount : Nat
  complete : Bool
  continuationToken : Option OsvListingContinuationToken
  counted : items.length = itemCount
  deriving DecidableEq

/-- The kind with which an item that is not admitted is reported. -/
def admissionKind : ObservationCode → OsvListingPaginationFailureKind
  | .invalidPrefix => .invalidPrefixPlan
  | _ => .internalValidationFailure

/-- The kind with which two observations that are not told apart are reported. -/
def conflictKind : ObservationCode → OsvListingPaginationFailureKind
  | .duplicateObservation => .duplicateObservation
  | .immutableObservationConflict => .immutableObservationConflict
  | .providerKeyDigestConflict => .providerKeyDigestConflict
  | _ => .internalValidationFailure

/-- The kind with which a token that is not admitted is reported. -/
def TokenCode.kind : TokenCode → OsvListingPaginationFailureKind
  | .unsafeInteger => .continuationTokenTooLarge
  | .invalidField => .invalidContinuationToken

section

variable (sha256 : List UInt8 → JsString)

/-- The first of the admitted observations that the new one is not told apart from. -/
def classifyAgainst (observation : OsvListingCanonicalObservation) :
    List OsvListingCanonicalObservation → Except ObservationCode Unit
  | [] => .ok ()
  | prior :: rest =>
      match classifyOsvListingObservationPair prior observation with
      | .error code => .error code
      | .ok () => classifyAgainst observation rest

/-- The loop over the items of a page. -/
def admitItems (expectedPrefix : JsString) (admitted : List OsvListingCanonicalObservation) :
    List OsvListedObjectObservation →
      Except OsvListingPaginationFailureKind (List OsvListingCanonicalObservation)
  | [] => .ok admitted
  | item :: rest =>
      match admitOsvListingCanonicalObservation sha256 item expectedPrefix with
      | .error code => .error (admissionKind code)
      | .ok observation =>
          match classifyAgainst observation admitted with
          | .error code => .error (conflictKind code)
          | .ok () => admitItems expectedPrefix (admitted ++ [observation]) rest

/-- The secrets of the cursor after a page. -/
def nextSecrets (cursor : OsvListingPassCursor) (page : OsvListingPage) :
    Except OsvListingPaginationFailureKind
      (Option OsvListingPaginationTokenHandle × OsvListingTokenCycleDetector) :=
  match page.continuationToken with
  | some token =>
      match admitOsvListingPaginationToken token cursor.run cursor.providerPrefix
          cursor.passOrdinal cursor.passAttempt.value with
      | .error code => .error code.kind
      | .ok handle =>
          match observeOsvListingTokenDigest sha256 cursor.detector handle with
          | .error kind => .error kind
          | .ok detector => .ok (some handle, detector)
  | none => .ok (none, clearOsvListingTokenCycleDetector cursor.detector)

/-- The checks of `acceptOsvListingPage`, and the cursor after the page. -/
def acceptedCursor (cursor : OsvListingPassCursor) (page : OsvListingPage)
    (responseByteCount : Nat) : Except OsvListingPaginationFailureKind OsvListingPassCursor :=
  if cursor.state ≠ .running then .error .invalidRequest
  else if page.providerPrefix ≠ cursor.providerPrefix then .error .invalidPrefixPlan
  else if maxSafeInteger < responseByteCount ∨ responseByteCount < 1 then .error .invalidRequest
  else if osvListingMaxResponseBytesPerPage < responseByteCount then .error .passByteLimitExceeded
  else if osvListingMaxObservationsPerPage < page.itemCount then
    .error .passObservationLimitExceeded
  else do
    let some nextCounts := addOsvListingPageCounts cursor.passCounts page.itemCount
      responseByteCount | .error .internalValidationFailure
    let some nextRun := addOsvListingPageCounts cursor.runCounts page.itemCount
      responseByteCount | .error .internalValidationFailure
    evaluateOsvListingCeilingsAfterAcceptedPage cursor.profile nextCounts nextRun
    let admitted ← admitItems sha256 cursor.providerPrefix cursor.observations page.items
    if page.complete = page.continuationToken.isSome then .error .invalidTokenLineage
    else
      let (expectedHandle, detector) ← nextSecrets sha256 cursor page
      if page.complete = true ∧ nextCounts.pageCount = 0 then .error .passIncomplete
      else
        return { cursor with
          state := if page.complete then .complete else .running
          nextPageOrdinal := cursor.nextPageOrdinal + 1
          lastAcceptedPageOrdinal := some cursor.nextPageOrdinal
          terminalAccepted := page.complete
          passCounts := nextCounts
          runCounts := nextRun
          observations := admitted
          cancellationSettled := false
          expectedHandle
          detector }

/-- `acceptOsvListingPage`. -/
def acceptOsvListingPage (cursor : OsvListingPassCursor) (page : OsvListingPage)
    (responseByteCount : Nat) : Except EndedCursor OsvListingPassCursor :=
  (acceptedCursor sha256 cursor page responseByteCount).mapError (rejectProgress cursor)

end

/-! ## Results -/

/-- `OsvListingPassResult`, with what a complete and an incomplete one have apart. -/
structure OsvListingPassResult where
  state : OsvListingPassState
  passOrdinal : OsvListingPassOrdinal
  providerPrefix : JsString
  runId : JsString
  passAttemptId : JsString
  profile : OsvListingPaginationPolicyProfile
  pageCount : Nat
  rawObservationCount : Nat
  responseByteCount : Nat
  /-- The canonical set of a complete pass, or the failure of an incomplete one. -/
  ending : Except OsvListingPaginationFailure OsvListingCanonicalPassSet
  deriving DecidableEq

/-- The `status` of the result is `complete`. -/
def OsvListingPassResult.isComplete (result : OsvListingPassResult) : Bool := result.ending.isOk

/-- The fields that both kinds of result have. -/
def resultOf (cursor : OsvListingPassCursor) (state : OsvListingPassState)
    (ending : Except OsvListingPaginationFailure OsvListingCanonicalPassSet) :
    OsvListingPassResult where
  state
  passOrdinal := cursor.passOrdinal
  providerPrefix := cursor.providerPrefix
  runId := cursor.run
  passAttemptId := cursor.passAttempt.value
  profile := cursor.profile
  pageCount := cursor.passCounts.pageCount
  rawObservationCount := cursor.passCounts.rawObservationCount
  responseByteCount := cursor.passCounts.responseByteCount
  ending

/-- `finalizeOsvListingPassResult`. -/
def finalizeOsvListingPassResult (sha256 : List UInt8 → JsString) (cursor : OsvListingPassCursor)
    (failure : Option OsvListingPaginationFailure) :
    Except OsvListingPaginationFailureKind OsvListingPassResult :=
  if cursor.state = .complete then
    if cursor.passCounts.pageCount = 0 ∨ cursor.terminalAccepted = false then
      .error .passIncomplete
    else
      match constructOsvListingCanonicalPassSet sha256 cursor.observations
          cursor.profile.limits.maxRawObservationsPerPrefixPerPass with
      | none => .error .internalValidationFailure
      | some canonicalSet => .ok (resultOf cursor .complete (.ok canonicalSet))
  else
    let terminalState : OsvListingPassState :=
      if cursor.state = .cancelled then .cancelled
      else if cursor.state = .incomplete then .incomplete
      else .failed
    let kind := if cursor.state = .cancelled then .cancelled else .passIncomplete
    .ok (resultOf cursor terminalState (.error (failure.getD (failureOf cursor kind))))

/-- `finalizePass`; `none` when it throws. -/
def finalizePass (sha256 : List UInt8 → JsString) (cursor : OsvListingPassCursor)
    (failure : Option OsvListingPaginationFailure) : Option OsvListingPassResult :=
  match finalizeOsvListingPassResult sha256 cursor failure with
  | .ok result => some result
  | .error kind =>
      let terminated := terminateOsvListingPassCursor cursor kind
      (finalizeOsvListingPassResult sha256 terminated.cursor (some terminated.failure)).toOption

end PatchPilot.Osv.Listing
