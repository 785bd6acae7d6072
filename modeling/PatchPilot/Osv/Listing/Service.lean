import PatchPilot.Foundation.Interleaving
import PatchPilot.Osv.Listing.Cursor

set_option autoImplicit false

/-!
# Osv listing: the pagination service

The service lists one prefix after the other, each in two passes, and each pass page by page.
What it asks of its surroundings are operations: whether a signal is aborted, a random
identifier, a call of the listing port, and to wait for that call.
-/

namespace PatchPilot.Osv.Listing

open PatchPilot.Foundation

/-! ## The port -/

/-- `OsvListingRequest`. -/
structure OsvListingRequest where
  providerPrefix : JsString
  continuationToken : Option OsvListingContinuationToken
  signal : Option Nat
  deriving DecidableEq

/-- `createOsvListingRequest`. -/
def createOsvListingRequest (providerPrefix : JsString)
    (continuationToken : Option OsvListingContinuationToken) (signal : Option Nat) :
    Option OsvListingRequest :=
  if providerPrefix ∈ osvInventoryScopeProviderPrefixes then
    some ⟨providerPrefix, continuationToken, signal⟩
  else none

/-- What a promise of the port is fulfilled with, which may be anything. -/
inductive ListPageValue
  /-- A constructed success. -/
  | success (page : OsvListingPage) (responseByteCount : Nat)
  /-- An object with `ok: false`, and the kind of its failure if that was constructed. -/
  | failed (kind : Option OsvTransportFailureKind)
  /-- A value of any other shape. -/
  | malformed
  /-- A value that throws when it is looked at. -/
  | unreadable
  deriving DecidableEq

/-- How a promise of the port is settled. -/
inductive PortSettlement
  | fulfilled (value : ListPageValue)
  | rejected
  deriving DecidableEq

/-- How the wait for a call ends. -/
inductive PageSettlement
  | settled (settlement : PortSettlement)
  | aborted
  deriving DecidableEq

/-- `cancelledTransportOutcome`. -/
def cancelledTransportOutcome : ListPageValue := .failed (some .cancelled)

/-- `overlapTransportOutcome`. -/
def overlapTransportOutcome : ListPageValue := .failed (some .policyViolation)

/-! ## Operations -/

/-- A call of the port: its request, and how its promise is settled, if it is. -/
structure PortCall where
  request : OsvListingRequest
  settlement : Option PortSettlement
  deriving DecidableEq

/-- The state of a service, and what surrounds it. -/
structure ListingState where
  listingInFlight : Bool
  calls : List PortCall
  abortedSignals : List Nat
  deriving DecidableEq

/-- A service that was created. -/
def createdService : ListingState := ⟨false, [], []⟩

/-- The operations of the service. -/
inductive ListingOp
  /-- `signal.aborted`. -/
  | aborted (signal : Nat)
  /-- `crypto.randomUUID()`. -/
  | randomUuid
  /-- The entry of `executeListPage`, and the call of the port if no listing is in flight. -/
  | listPage (request : OsvListingRequest)
  /-- The end of the wait of `executeListPage`, and its `finally` block. -/
  | awaitPage (call : Nat)
  deriving DecidableEq

/-- What an operation answers. -/
def ListingOp.Answer : ListingOp → Type
  | .aborted _ => Bool
  | .randomUuid => JsString
  | .listPage _ => Option Nat
  | .awaitPage _ => PageSettlement

/-- What no program chooses. -/
inductive ListingChoice
  | uuid (value : JsString)
  /-- The port returns a promise that is settled or pending. -/
  | port (settlement : Option PortSettlement)
  /-- The promise of the port wins the race. -/
  | settled
  /-- The signal of the request wins the race. -/
  | abort
  deriving DecidableEq

/-- What an operation answers and leaves. -/
def execListing : (op : ListingOp) → ListingChoice → ListingState →
    Option (op.Answer × ListingState)
  | .aborted signal, _, s => some (decide (signal ∈ s.abortedSignals), s)
  | .randomUuid, .uuid value, s => some (value, s)
  | .listPage request, .port settlement, s =>
      if s.listingInFlight then some (none, s)
      else some (some s.calls.length,
        { s with listingInFlight := true, calls := s.calls ++ [⟨request, settlement⟩] })
  | .awaitPage call, .settled, s => do
      let portCall ← s.calls[call]?
      let settlement ← portCall.settlement
      some (.settled settlement, { s with listingInFlight := false })
  | .awaitPage call, .abort, s => do
      let portCall ← s.calls[call]?
      let signal ← portCall.request.signal
      if signal ∈ s.abortedSignals then
        some (.aborted, { s with listingInFlight := false })
      else none
  | _, _, _ => none

/-- The operations on the state of a service. -/
def listingOperations : Operations ListingState where
  Op := ListingOp
  Answer := ListingOp.Answer
  Choice := ListingChoice
  exec := execListing

/-- A program of the service. -/
abbrev ListingProgram (α : Type) := Program listingOperations α

/-- The program of one operation. -/
def performListing (op : ListingOp) : ListingProgram op.Answer :=
  @Program.perform _ listingOperations op

/-- `cancellationWon`. -/
def cancellationWon : Option Nat → ListingProgram Bool
  | none => return false
  | some signal => performListing (.aborted signal)

/-- `executeListPage`; `none` when it throws. -/
def executeListPage (request : OsvListingRequest) : ListingProgram (Option ListPageValue) := do
  let call : Option Nat ← performListing (.listPage request)
  match call with
  | none => return some overlapTransportOutcome
  | some call =>
      let settlement : PageSettlement ← performListing (.awaitPage call)
      match settlement with
      | .settled (.fulfilled value) => return some value
      | .settled .rejected => return none
      | .aborted => return some cancelledTransportOutcome

/-! ## One pass -/

/-- `OsvListingInventoryPlanRequest`, as far as the service reads it. -/
structure OsvListingInventoryPlanRequest where
  profile : OsvListingPaginationPolicyProfile
  runId : JsString
  signal : Option Nat
  deriving DecidableEq

/-- `failureFromKind`. -/
def failureFromKind (policyIdentifier : JsString) (kind : OsvListingPaginationFailureKind)
    (providerPrefix : Option JsString) (passOrdinal : Option OsvListingPassOrdinal)
    (counts : Option OsvListingCumulativeCounts)
    (transportFailureKind : Option OsvTransportFailureKind) : OsvListingPaginationFailure :=
  (createOsvListingPaginationFailure kind policyIdentifier providerPrefix passOrdinal counts
    transportFailureKind).getD (fallbackFailure policyIdentifier)

/-- A page, and the number of bytes it was received in. -/
structure ReceivedPage where
  page : OsvListingPage
  responseByteCount : Nat
  deriving DecidableEq

/-- What reading an outcome of the port gives. -/
inductive TransportReading
  | page (received : ReceivedPage)
  | failure (failure : OsvListingPaginationFailure)
  | throws
  deriving DecidableEq

/-- `readTransportSuccess`. -/
def readTransportSuccess (outcome : ListPageValue) (request : OsvListingInventoryPlanRequest)
    (providerPrefix : JsString) (passOrdinal : OsvListingPassOrdinal)
    (cursor : OsvListingPassCursor) : TransportReading :=
  let failure kind transportFailureKind :=
    TransportReading.failure (failureFromKind request.profile.paginationPolicy kind
      (some providerPrefix) (some passOrdinal) (some cursor.passCounts) transportFailureKind)
  match outcome with
  | .success page responseByteCount =>
      if responseByteCount < 1 ∨ maxSafeInteger < responseByteCount then
        failure .listingTransportFailure (some .malformedResponse)
      else if osvListingMaxResponseBytesPerPage < responseByteCount then
        failure .passByteLimitExceeded none
      else .page ⟨page, responseByteCount⟩
  | .failed (some .cancelled) => failure .cancelled none
  | .failed kind => failure .listingTransportFailure (some (kind.getD .malformedResponse))
  | .malformed => failure .listingTransportFailure (some .malformedResponse)
  | .unreadable => .throws

/-- `PageLoopOutcome`, and the pages that the pass accepted. -/
structure PageLoopOutcome where
  result : OsvListingPassResult
  cursor : OsvListingPassCursor
  accepted : List ReceivedPage
  deriving DecidableEq

/-- What one iteration of the loop over the pages comes to. -/
inductive PageStep
  | returned (outcome : Option PageLoopOutcome)
  | broke (cursor : OsvListingPassCursor) (accepted : List ReceivedPage)
  | continues (cursor : OsvListingPassCursor) (accepted : List ReceivedPage)
  deriving DecidableEq

/-- The input of `paginatePass`. -/
structure PassInput where
  request : OsvListingInventoryPlanRequest
  providerPrefix : JsString
  passOrdinal : OsvListingPassOrdinal
  passAttempt : OsvListingPassAttemptId
  runCounts : OsvListingCumulativeCounts
  deriving DecidableEq

section

variable (sha256 : List UInt8 → JsString)

/-- An outcome with the result that `finalizePass` gives; `none` when that throws. -/
def finishPass (cursor : OsvListingPassCursor) (failure : Option OsvListingPaginationFailure)
    (accepted : List ReceivedPage) : Option PageLoopOutcome :=
  (finalizePass sha256 cursor failure).map fun result => ⟨result, cursor, accepted⟩

/-- The outcome of a cursor that ends. -/
def finishEnded (ended : EndedCursor) (accepted : List ReceivedPage) : Option PageLoopOutcome :=
  finishPass sha256 ended.cursor (some ended.failure) accepted

/-- What follows a page that was delivered. -/
def afterPage (input : PassInput) (cursor : OsvListingPassCursor) (accepted : List ReceivedPage)
    (received : ReceivedPage) : ListingProgram PageStep :=
  match acceptOsvListingPage sha256 cursor received.page received.responseByteCount with
  | .error ended => return .returned (finishEnded sha256 ended accepted)
  | .ok cursor => do
      let accepted := accepted ++ [received]
      if ← cancellationWon input.request.signal then
        if cursor.state = .complete then return .broke cursor accepted
        else
          return .returned (finishEnded sha256 (cancelOsvListingPassCursor cursor) accepted)
      else if cursor.state = .complete then
        return .returned (finishPass sha256 cursor none accepted)
      else return .continues cursor accepted

/-- What follows an outcome of the port. -/
def afterOutcome (input : PassInput) (cursor : OsvListingPassCursor)
    (accepted : List ReceivedPage) (outcome : ListPageValue) : ListingProgram PageStep := do
  if ← cancellationWon input.request.signal then
    return .returned (finishEnded sha256 (cancelOsvListingPassCursor cursor) accepted)
  else
    match readTransportSuccess outcome input.request input.providerPrefix input.passOrdinal
        cursor with
    | .throws =>
        return .returned (finishEnded sha256
          (terminateOsvListingPassCursor cursor .internalValidationFailure) accepted)
    | .failure failure =>
        let terminated :=
          if failure.kind = .cancelled then cancelOsvListingPassCursor cursor
          else terminateOsvListingPassCursor cursor failure.kind
        let failure :=
          if failure.kind = .listingTransportFailure then failure else terminated.failure
        return .returned (finishEnded sha256 ⟨terminated.cursor, failure⟩ accepted)
    | .page received => afterPage sha256 input cursor accepted received

/-- One iteration of the loop over the pages. -/
def pageStep (input : PassInput) (cursor : OsvListingPassCursor)
    (accepted : List ReceivedPage) : ListingProgram PageStep := do
  if ← cancellationWon input.request.signal then
    return .returned (finishEnded sha256 (cancelOsvListingPassCursor cursor) accepted)
  else
    match authorizeOsvListingNextPageRequest cursor with
    | .error ended => return .returned (finishEnded sha256 ended accepted)
    | .ok authorized =>
        match createOsvListingRequest input.providerPrefix authorized.continuationToken
            input.request.signal with
        | none =>
            return .returned (finishEnded sha256
              (terminateOsvListingPassCursor authorized.cursor .internalValidationFailure) accepted)
        | some listingRequest =>
            let outcome : Option ListPageValue ← executeListPage listingRequest
            match outcome with
            | none =>
                return .returned (finishEnded sha256
                  (terminateOsvListingPassCursor authorized.cursor .internalValidationFailure)
                  accepted)
            | some outcome => afterOutcome sha256 input authorized.cursor accepted outcome

/-- What follows the loop over the pages. -/
def afterLoop (cursor : OsvListingPassCursor) (accepted : List ReceivedPage) :
    Option PageLoopOutcome :=
  if cursor.state = .complete then finishPass sha256 cursor none accepted
  else
    match authorizeOsvListingNextPageRequest cursor with
    | .error ended => finishEnded sha256 ended accepted
    | .ok authorized =>
        finishEnded sha256 (terminateOsvListingPassCursor authorized.cursor .pageLimitExceeded)
          accepted

/-- The loop over the pages, for as many iterations as are left. -/
def pageLoop (input : PassInput) :
    Nat → OsvListingPassCursor → List ReceivedPage → ListingProgram (Option PageLoopOutcome)
  | 0, cursor, accepted => return afterLoop sha256 cursor accepted
  | iterations + 1, cursor, accepted => do
      match ← pageStep sha256 input cursor accepted with
      | .returned outcome => return outcome
      | .broke cursor accepted => return afterLoop sha256 cursor accepted
      | .continues cursor accepted => pageLoop input iterations cursor accepted

/-- `paginatePass`; `none` when it throws. -/
def paginatePass (input : PassInput) : ListingProgram (Option PageLoopOutcome) :=
  match createOsvListingPassCursor input.request.runId input.request.profile
      input.providerPrefix input.passOrdinal input.passAttempt input.runCounts with
  | none => return none
  | some cursor => do
      if ← cancellationWon input.request.signal then
        return finishEnded sha256 (cancelOsvListingPassCursor cursor) []
      else
        pageLoop sha256 input input.request.profile.limits.maxPagesPerPrefixPerPass cursor []

end

/-! ## Convergence -/

/-- `OsvListingConvergenceOutcome`. -/
inductive OsvListingConvergenceOutcome
  | converged | passAIncomplete | passBIncomplete | inventoryNotConverged | tokenCycle
  | ceilingExceeded | immutableConflict | policyMismatch | versionMismatch | cancelled
  | internalValidationFailure
  deriving DecidableEq

/-- `OsvListingConvergencePairId`. -/
structure OsvListingConvergencePairId where
  runId : JsString
  providerPrefix : JsString
  passAAttemptId : JsString
  passBAttemptId : JsString
  deriving DecidableEq

/-- `createOsvListingConvergencePairId`: the passes are different attempts. -/
def createOsvListingConvergencePairId (runId providerPrefix passAAttemptId passBAttemptId :
    JsString) : Option OsvListingConvergencePairId :=
  if passAAttemptId = passBAttemptId then none
  else some ⟨runId, providerPrefix, passAAttemptId, passBAttemptId⟩

/-- `OsvListingConvergenceResult`. -/
structure OsvListingConvergenceResult where
  outcome : OsvListingConvergenceOutcome
  pair : OsvListingConvergencePairId
  runId : JsString
  profile : OsvListingPaginationPolicyProfile
  providerPrefix : JsString
  counts : OsvListingCumulativeCounts
  canonicalSetSha256 : Option JsString
  canonicalObservationCount : Option Nat
  failure : Option OsvListingPaginationFailure
  retryDisposition : OsvAcquisitionRetryDisposition
  deriving DecidableEq

/-- `combinedCounts`. -/
def combinedCounts (passA passB : OsvListingPassResult) : OsvListingCumulativeCounts :=
  match addExact passA.pageCount passB.pageCount,
      addExact passA.rawObservationCount passB.rawObservationCount,
      addExact passA.responseByteCount passB.responseByteCount with
  | some pages, some observations, some bytes => ⟨pages, observations, bytes⟩
  | _, _, _ => zeroOsvListingCumulativeCounts

/-- `incompleteFromPass`. -/
def incompleteFromPass (pair : OsvListingConvergencePairId) (passA passB : OsvListingPassResult)
    (outcome : OsvListingConvergenceOutcome) (failure : OsvListingPaginationFailure) :
    OsvListingConvergenceResult where
  outcome
  pair
  runId := pair.runId
  profile := passA.profile
  providerPrefix := pair.providerPrefix
  counts := combinedCounts passA passB
  canonicalSetSha256 := none
  canonicalObservationCount := none
  failure := some failure
  retryDisposition := failure.retryDisposition

/-- `fail`. -/
def failConvergence (pair : OsvListingConvergencePairId) (passA passB : OsvListingPassResult)
    (outcome : OsvListingConvergenceOutcome) (kind : OsvListingPaginationFailureKind)
    (policyIdentifier : JsString) : OsvListingConvergenceResult :=
  incompleteFromPass pair passA passB outcome
    (failureFromKind policyIdentifier kind (some pair.providerPrefix) none none none)

/-- The outcome for a pass that is incomplete. -/
def outcomeOfIncomplete (kind : OsvListingPaginationFailureKind)
    (otherwise : OsvListingConvergenceOutcome) : OsvListingConvergenceOutcome :=
  if kind = .cancelled then .cancelled
  else if kind = .listingTokenCycle then .tokenCycle
  else if kind.isExceeded then .ceilingExceeded
  else if kind = .immutableObservationConflict ∨ kind = .duplicateObservation ∨
      kind = .providerKeyDigestConflict then .immutableConflict
  else otherwise

/-- The loop that compares the observations of two sets by their places. -/
def exactMatch : List OsvListingCanonicalObservation → List OsvListingCanonicalObservation → Bool
  | [], [] => true
  | left :: lefts, right :: rights =>
      listingObservationsEqual left right && exactMatch lefts rights
  | _, _ => false

/-- The policy that a convergence is reported under. -/
def convergencePolicyIdentifier (passA : OsvListingPassResult) : JsString :=
  match passA.ending with
  | .ok _ => passA.profile.paginationPolicy
  | .error failure => failure.policyIdentifier

/-- `evaluateOsvListingPassConvergence`. -/
def evaluateOsvListingPassConvergence (pair : OsvListingConvergencePairId)
    (passA passB : OsvListingPassResult) : OsvListingConvergenceResult :=
  let fail outcome kind :=
    failConvergence pair passA passB outcome kind (convergencePolicyIdentifier passA)
  if passA.passOrdinal ≠ .a ∨ passB.passOrdinal ≠ .b then
    fail .policyMismatch .invalidPassIdentity
  else if passA.providerPrefix ≠ passB.providerPrefix ∨
      passA.providerPrefix ≠ pair.providerPrefix then
    fail .policyMismatch .invalidPrefixPlan
  else if passA.runId ≠ passB.runId ∨ passA.runId ≠ pair.runId then
    fail .versionMismatch .versionSetMismatch
  else if passA.profile ≠ passB.profile then fail .policyMismatch .policyVersionMismatch
  else if passA.passAttemptId ≠ pair.passAAttemptId ∨
      passB.passAttemptId ≠ pair.passBAttemptId then
    fail .policyMismatch .invalidPassIdentity
  else
    match passA.ending, passB.ending with
    | .error failure, _ =>
        incompleteFromPass pair passA passB (outcomeOfIncomplete failure.kind .passAIncomplete)
          failure
    | .ok _, .error failure =>
        incompleteFromPass pair passA passB (outcomeOfIncomplete failure.kind .passBIncomplete)
          failure
    | .ok left, .ok right =>
        let digestMatch := decide (left.identity.sha256 = right.identity.sha256)
        let countMatch := decide (left.observations.length = right.observations.length)
        let exactMatch := countMatch && exactMatch left.observations right.observations
        if left.identity.algorithm ≠ osvListingCanonicalPassSetAlgorithmIdentifier ∨
            right.identity.algorithm ≠ osvListingCanonicalPassSetAlgorithmIdentifier then
          fail .internalValidationFailure .internalValidationFailure
        else if digestMatch = true ∧ exactMatch = false then
          fail .internalValidationFailure .internalValidationFailure
        else if digestMatch = false ∧ exactMatch = true then
          fail .internalValidationFailure .internalValidationFailure
        else if digestMatch = false ∨ exactMatch = false ∨ countMatch = false then
          fail .inventoryNotConverged .inventoryNotConverged
        else
          { outcome := .converged
            pair
            runId := pair.runId
            profile := passA.profile
            providerPrefix := pair.providerPrefix
            counts := combinedCounts passA passB
            canonicalSetSha256 := some left.identity.sha256
            canonicalObservationCount := some left.observations.length
            failure := none
            retryDisposition := .noRetry }

/-! ## The inventory -/

/-- `OsvListingInventoryCompletenessState`. -/
inductive OsvListingInventoryCompletenessState
  | completeForSelectedCanaryScope
  | completeForProductionInventoryScope
  | incomplete
  | failed
  | cancelled
  deriving DecidableEq

/-- The counts that `evaluateOsvListingInventoryCompleteness` keeps. -/
structure InventoryTally where
  converged : Nat
  incomplete : Nat
  failed : Nat
  cancelled : Nat
  pages : Nat
  raw : Nat
  canonical : Nat
  bytes : Nat
  seen : List JsString
  blockingFailure : Option OsvListingPaginationFailure
  deriving DecidableEq, Inhabited

/-- `OsvListingInventoryResult`. -/
structure OsvListingInventoryResult where
  completeness : OsvListingInventoryCompletenessState
  profile : OsvListingPaginationPolicyProfile
  requiredPrefixCount : Nat
  convergedPrefixCount : Nat
  incompletePrefixCount : Nat
  failedPrefixCount : Nat
  cancelledPrefixCount : Nat
  pageCount : Nat
  rawObservationCount : Nat
  canonicalObservationCount : Nat
  responseByteCount : Nat
  failure : Option OsvListingPaginationFailure
  deriving DecidableEq

/-- The result of a plan whose evaluation stops. -/
def stoppedInventory (profile : OsvListingPaginationPolicyProfile) (tally : InventoryTally)
    (kind : OsvListingPaginationFailureKind) (providerPrefix : JsString) :
    OsvListingInventoryResult where
  completeness := .failed
  profile
  requiredPrefixCount := profile.prefixes.length
  convergedPrefixCount := tally.converged
  incompletePrefixCount := profile.prefixes.length - tally.converged
  failedPrefixCount := tally.failed + 1
  cancelledPrefixCount := tally.cancelled
  pageCount := tally.pages
  rawObservationCount := tally.raw
  canonicalObservationCount := tally.canonical
  responseByteCount := tally.bytes
  failure := some (failureFromKind profile.paginationPolicy kind (some providerPrefix) none none
    none)

/-- The tally after the outcome of a prefix. -/
def InventoryTally.count (tally : InventoryTally) (result : OsvListingConvergenceResult) :
    InventoryTally :=
  match result.outcome with
  | .converged => { tally with converged := tally.converged + 1 }
  | .cancelled =>
      { tally with cancelled := tally.cancelled + 1, blockingFailure := result.failure }
  | .tokenCycle | .immutableConflict | .internalValidationFailure | .policyMismatch
  | .versionMismatch =>
      { tally with failed := tally.failed + 1, blockingFailure := result.failure }
  | _ => { tally with incomplete := tally.incomplete + 1, blockingFailure := result.failure }

/-- The body of the loop over the required prefixes. -/
def tallyPrefix (profile : OsvListingPaginationPolicyProfile) (runId : JsString)
    (prefixResults : List OsvListingConvergenceResult) (tally : InventoryTally)
    (providerPrefix : JsString) : Except OsvListingInventoryResult InventoryTally :=
  let stopped kind := Except.error (stoppedInventory profile tally kind providerPrefix)
  match prefixResults.find? fun result => decide (result.providerPrefix = providerPrefix) with
  | none =>
      stopped (if providerPrefix ∈ tally.seen then .invalidPrefixPlan else .missingRequiredPrefix)
  | some result =>
      if providerPrefix ∈ tally.seen then stopped .invalidPrefixPlan
      else if result.runId ≠ runId ∨ result.pair.runId ≠ runId then stopped .versionSetMismatch
      else if result.profile ≠ profile then stopped .candidateScopeMismatch
      else
        match addExact tally.pages result.counts.pageCount,
            addExact tally.raw result.counts.rawObservationCount,
            addExact tally.bytes result.counts.responseByteCount with
        | some pages, some raw, some bytes =>
            let added := { tally with
              seen := providerPrefix :: tally.seen
              pages
              raw
              bytes }
            if result.outcome = .converged then
              match addExact tally.canonical (result.canonicalObservationCount.getD 0) with
              | none =>
                  .error (stoppedInventory profile added .internalValidationFailure providerPrefix)
              | some canonical => .ok ({ added with canonical }.count result)
            else .ok (added.count result)
        | _, _, _ => stopped .internalValidationFailure

/-- `evaluateOsvListingInventoryCompleteness`. -/
def evaluateOsvListingInventoryCompleteness (profile : OsvListingPaginationPolicyProfile)
    (runId : JsString) (prefixResults : List OsvListingConvergenceResult) :
    OsvListingInventoryResult :=
  if prefixResults.length ≠ profile.prefixes.length then
    { completeness := .failed
      profile
      requiredPrefixCount := profile.prefixes.length
      convergedPrefixCount := 0
      incompletePrefixCount := profile.prefixes.length
      failedPrefixCount := 1
      cancelledPrefixCount := 0
      pageCount := 0
      rawObservationCount := 0
      canonicalObservationCount := 0
      responseByteCount := 0
      failure := some (failureFromKind profile.paginationPolicy .missingRequiredPrefix none none
        none none) }
  else
    match profile.prefixes.foldlM (tallyPrefix profile runId prefixResults) default with
    | .error stopped => stopped
    | .ok tally =>
        let allConverged := decide (tally.converged = profile.prefixes.length) &&
          decide (tally.cancelled = 0) && decide (tally.failed = 0) && decide (tally.incomplete = 0)
        { completeness :=
            if allConverged then
              match profile with
              | .disabledCanary => .completeForSelectedCanaryScope
              | .productionFailClosed => .completeForProductionInventoryScope
            else if tally.cancelled > 0 then .cancelled
            else if tally.failed > 0 then .failed
            else .incomplete
          profile
          requiredPrefixCount := profile.prefixes.length
          convergedPrefixCount := tally.converged
          incompletePrefixCount := tally.incomplete
          failedPrefixCount := tally.failed
          cancelledPrefixCount := tally.cancelled
          pageCount := tally.pages
          rawObservationCount := tally.raw
          canonicalObservationCount := tally.canonical
          responseByteCount := tally.bytes
          failure := if allConverged then none else tally.blockingFailure }

/-! ## A plan -/

/-- `OsvListingPrefixExecution`, and the pages that its passes accepted. -/
structure OsvListingPrefixExecution where
  passA : OsvListingPassResult
  passB : OsvListingPassResult
  convergence : OsvListingConvergenceResult
  runCounts : OsvListingCumulativeCounts
  acceptedA : List ReceivedPage
  acceptedB : List ReceivedPage
  deriving DecidableEq

/-- `OsvListingInventoryPlanExecution`. -/
structure OsvListingInventoryPlanExecution where
  inventory : OsvListingInventoryResult
  prefixResults : List OsvListingConvergenceResult
  prefixExecutions : List OsvListingPrefixExecution
  deriving DecidableEq

/-- `createAttempt`. -/
def createAttempt (request : OsvListingInventoryPlanRequest) (providerPrefix : JsString)
    (passOrdinal : OsvListingPassOrdinal) : ListingProgram OsvListingPassAttemptId := do
  let value : JsString ← performListing .randomUuid
  return ⟨value, request.runId, providerPrefix, passOrdinal⟩

section

variable (sha256 : List UInt8 → JsString)

/-- `abandonPass`. -/
def abandonPass (request : OsvListingInventoryPlanRequest) (providerPrefix : JsString)
    (passOrdinal : OsvListingPassOrdinal) (runCounts : OsvListingCumulativeCounts)
    (kind : OsvListingPaginationFailureKind) : ListingProgram (Option PageLoopOutcome) := do
  let passAttempt ← createAttempt request providerPrefix passOrdinal
  match createOsvListingPassCursor request.runId request.profile providerPrefix passOrdinal
      passAttempt runCounts with
  | none => return none
  | some cursor => return finishEnded sha256 (terminateOsvListingPassCursor cursor kind) []

/-- `finishPrefix`; `none` when it throws. -/
def finishPrefix (request : OsvListingInventoryPlanRequest) (providerPrefix : JsString)
    (passA passB : PageLoopOutcome) (runCounts : OsvListingCumulativeCounts) :
    Option OsvListingPrefixExecution := do
  let pair ← createOsvListingConvergencePairId request.runId providerPrefix
    passA.result.passAttemptId passB.result.passAttemptId
  some
    { passA := passA.result
      passB := passB.result
      convergence := evaluateOsvListingPassConvergence pair passA.result passB.result
      runCounts
      acceptedA := passA.accepted
      acceptedB := passB.accepted }

/-- Both passes of a prefix are abandoned. -/
def abandonPrefix (request : OsvListingInventoryPlanRequest) (providerPrefix : JsString)
    (runCounts : OsvListingCumulativeCounts) (kind : OsvListingPaginationFailureKind) :
    ListingProgram (Option OsvListingPrefixExecution) := do
  let some passA ← abandonPass sha256 request providerPrefix .a runCounts kind | return none
  let some passB ← abandonPass sha256 request providerPrefix .b runCounts kind | return none
  return finishPrefix request providerPrefix passA passB runCounts

/-- Whether the signal is aborted after pass A, which is not asked if that is incomplete. -/
def cancellationAfter (request : OsvListingInventoryPlanRequest) (passA : PageLoopOutcome) :
    ListingProgram Bool :=
  if passA.result.isComplete then cancellationWon request.signal else return false

/-- The failure with which pass B is abandoned after pass A, if it is. -/
def skipKindAfter (passA : PageLoopOutcome) (cancelled : Bool) :
    Option OsvListingPaginationFailureKind :=
  match passA.result.ending with
  | .error failure => some failure.kind
  | .ok _ => if cancelled then some .cancelled else none

/-- The passes of a prefix that is listed. -/
def listPrefix (request : OsvListingInventoryPlanRequest) (providerPrefix : JsString)
    (runCounts : OsvListingCumulativeCounts) :
    ListingProgram (Option OsvListingPrefixExecution) := do
  let passAAttempt ← createAttempt request providerPrefix .a
  let some passA ← paginatePass sha256
    ⟨request, providerPrefix, .a, passAAttempt, runCounts⟩ | return none
  let cancelled ← cancellationAfter request passA
  match skipKindAfter passA cancelled with
  | some kind =>
      let some passB ← abandonPass sha256 request providerPrefix .b passA.cursor.runCounts kind
        | return none
      return finishPrefix request providerPrefix passA passB passA.cursor.runCounts
  | none =>
      let passBAttempt ← createAttempt request providerPrefix .b
      let some passB ← paginatePass sha256
        ⟨request, providerPrefix, .b, passBAttempt, passA.cursor.runCounts⟩ | return none
      return finishPrefix request providerPrefix passA passB passB.cursor.runCounts

/-- `paginatePrefix`; `none` when it throws. -/
def paginatePrefix (request : OsvListingInventoryPlanRequest) (providerPrefix : JsString)
    (runCounts : OsvListingCumulativeCounts) (skipListing : Bool)
    (skipKind : OsvListingPaginationFailureKind) :
    ListingProgram (Option OsvListingPrefixExecution) := do
  if ← cancellationWon request.signal then
    abandonPrefix sha256 request providerPrefix runCounts .cancelled
  else if skipListing then abandonPrefix sha256 request providerPrefix runCounts skipKind
  else listPrefix sha256 request providerPrefix runCounts

/-- The loop over the entries of the plan. -/
def planLoop (request : OsvListingInventoryPlanRequest) (prefixExecutions :
    List OsvListingPrefixExecution) (runCounts : OsvListingCumulativeCounts) (skipListing : Bool)
    (skipKind : OsvListingPaginationFailureKind) :
    List JsString → ListingProgram (Option (List OsvListingPrefixExecution))
  | [] => return some prefixExecutions
  | providerPrefix :: rest => do
      let cancelled ← cancellationWon request.signal
      let skipListing := skipListing || cancelled
      let skipKind := if cancelled then .cancelled else skipKind
      let some executed ← paginatePrefix sha256 request providerPrefix runCounts skipListing
        skipKind | return none
      let prefixExecutions := prefixExecutions ++ [executed]
      if executed.convergence.outcome ≠ .converged then
        planLoop request prefixExecutions executed.runCounts true
          (if executed.convergence.outcome = .cancelled then .cancelled else .passIncomplete) rest
      else planLoop request prefixExecutions executed.runCounts skipListing skipKind rest

/-- `executeInventoryPlan`; `none` when it throws. -/
def executeInventoryPlan (request : OsvListingInventoryPlanRequest) :
    ListingProgram (Option OsvListingInventoryPlanExecution) := do
  let some prefixExecutions ← planLoop sha256 request [] zeroOsvListingCumulativeCounts false
    .passIncomplete request.profile.prefixes | return none
  let prefixResults := prefixExecutions.map (·.convergence)
  return some
    { inventory := evaluateOsvListingInventoryCompleteness request.profile request.runId
        prefixResults
      prefixResults
      prefixExecutions }

/-- `OsvListingPrefixPassRequest`: an inventory request, a prefix and a pass. -/
structure OsvListingPrefixPassRequest where
  request : OsvListingInventoryPlanRequest
  providerPrefix : JsString
  passOrdinal : OsvListingPassOrdinal
  passAttemptId : Option JsString
  deriving DecidableEq

/-- The attempt of a request, which a caller may name. -/
def attemptOf (request : OsvListingPrefixPassRequest) :
    ListingProgram OsvListingPassAttemptId :=
  match request.passAttemptId with
  | some value =>
      return ⟨value, request.request.runId, request.providerPrefix, request.passOrdinal⟩
  | none => createAttempt request.request request.providerPrefix request.passOrdinal

/-- `paginatePrefixPass`; `none` when the request is rejected or the pass throws. -/
def paginatePrefixPass (request : OsvListingPrefixPassRequest) :
    ListingProgram (Option PageLoopOutcome) := do
  if request.providerPrefix ∉ request.request.profile.prefixes then return none
  else
    let passAttempt ← attemptOf request
    paginatePass sha256
      { request := request.request
        providerPrefix := request.providerPrefix
        passOrdinal := request.passOrdinal
        passAttempt
        runCounts := zeroOsvListingCumulativeCounts }

end

/-! ## The service -/

/-- A call of the service. -/
inductive ListingCall
  | executeInventoryPlan (request : OsvListingInventoryPlanRequest)
  | paginatePrefixPass (request : OsvListingPrefixPassRequest)
  deriving DecidableEq

/-- What a call of the service returns. -/
inductive ListingReturn
  | plan (execution : Option OsvListingInventoryPlanExecution)
  | pass (outcome : Option PageLoopOutcome)
  deriving DecidableEq

/-- What happens around the service. -/
inductive ListingEvent
  | abort (signal : Nat)
  | settle (call : Nat) (settlement : PortSettlement)
  deriving DecidableEq

/-- What an event leaves: a promise is settled once. -/
def listingEnvironment : ListingEvent → ListingState → Option ListingState
  | .abort signal, s => some { s with abortedSignals := signal :: s.abortedSignals }
  | .settle call settlement, s => do
      let portCall ← s.calls[call]?
      if portCall.settlement ≠ none then none
      else some { s with
        calls := s.calls.set call { portCall with settlement := some settlement } }

/-- The program of a call of the service. -/
def serveListing (sha256 : List UInt8 → JsString) : ListingCall → ListingProgram ListingReturn
  | .executeInventoryPlan request => do return .plan (← executeInventoryPlan sha256 request)
  | .paginatePrefixPass request => do return .pass (← paginatePrefixPass sha256 request)

/-- Any number of calls of one service, and what happens around them. -/
def listingSystem (sha256 : List UInt8 → JsString) :
    Interleaving ListingState ListingCall ListingReturn ListingEvent where
  ops := listingOperations
  program := serveListing sha256
  environment := listingEnvironment

end PatchPilot.Osv.Listing
