import PatchPilot.Foundation.TextShape
import PatchPilot.Foundation.Transcript
import PatchPilot.Osv.Listing.Service
import Mathlib.Data.List.Infix

set_option autoImplicit false

/-!
# Osv listing: what a pass does

Along every transcript of a pass, whatever the port answers and whenever a signal is aborted,
the requests follow the tokens of the pages that were accepted, and the counts and the
observations are those of these pages.
-/

namespace PatchPilot.Osv.Listing

open PatchPilot.Foundation

/-! ## Transcripts of the service -/

/-- The operations that were performed, with their answers. -/
abbrev ListingTranscript := List (Exchange listingOperations)

/-- The request that the port was called with. -/
def sentRequest : Exchange listingOperations → Option OsvListingRequest
  | ⟨.listPage request, answer⟩ => Option.map (fun _ => request) (answer : Option Nat)
  | _ => none

/-- The requests that the port was called with. -/
def sent (t : ListingTranscript) : List OsvListingRequest := t.filterMap sentRequest

/-- The page that the port delivered. -/
def deliveredPage : Exchange listingOperations → Option ReceivedPage
  | ⟨.awaitPage _, answer⟩ =>
      match (answer : PageSettlement) with
      | .settled (.fulfilled (.success page responseByteCount)) => some ⟨page, responseByteCount⟩
      | _ => none
  | _ => none

/-- The pages that the port delivered. -/
def delivered (t : ListingTranscript) : List ReceivedPage := t.filterMap deliveredPage

/-- The last of the pages has no continuation token. -/
def EndsOnTerminalPage (pages : List ReceivedPage) : Prop :=
  ∃ last, pages.getLast? = some last ∧ last.page.continuationToken = none

/-- The counts of accepted pages, from the counts before them. -/
def countsOf (start : OsvListingCumulativeCounts) (accepted : List ReceivedPage) :
    OsvListingCumulativeCounts where
  pageCount := start.pageCount + accepted.length
  rawObservationCount := start.rawObservationCount + (accepted.map (·.page.itemCount)).sum
  responseByteCount := start.responseByteCount + (accepted.map (·.responseByteCount)).sum

section

variable (sha256 : List UInt8 → JsString)

/-- The canonical observations of accepted pages. -/
def itemsOf (accepted : List ReceivedPage) : List OsvListingCanonicalObservation :=
  accepted.flatMap fun received => received.page.items.map (canonicalObservation sha256)

/-- What a pass comes to. -/
structure PassSummary (input : PassInput) (t : ListingTranscript) (outcome : PageLoopOutcome) :
    Prop where
  /-- The pages that were accepted are the first that the port delivered. -/
  accepted : outcome.accepted <+: delivered t
  passCounts : outcome.cursor.passCounts = countsOf zeroOsvListingCumulativeCounts outcome.accepted
  runCounts : outcome.cursor.runCounts = countsOf input.runCounts outcome.accepted
  withinPass : WithinPass input.request.profile outcome.cursor.passCounts
  withinRun : WithinRun input.request.profile outcome.cursor.runCounts
  /-- The result reports the counts of the cursor, and the pass that it is of. -/
  reported : outcome.result = resultOf outcome.cursor outcome.result.state outcome.result.ending
  pass : outcome.cursor.run = input.request.runId ∧
    outcome.cursor.profile = input.request.profile ∧
      outcome.cursor.providerPrefix = input.providerPrefix ∧
        outcome.cursor.passOrdinal = input.passOrdinal ∧
          outcome.cursor.passAttempt = input.passAttempt
  /-- The pass is complete when every page was accepted and the last has no token. -/
  complete : outcome.result.isComplete = true ↔
    outcome.accepted = delivered t ∧ EndsOnTerminalPage outcome.accepted
  /-- A pass whose last page has no token is complete. -/
  terminal : EndsOnTerminalPage outcome.accepted → outcome.result.isComplete = true
  /-- The observations of a complete pass are the items of its pages, and none is twice. -/
  listed : ∀ canonicalSet, outcome.result.ending = .ok canonicalSet →
    canonicalSet.observations.Perm (itemsOf sha256 outcome.accepted) ∧
      (canonicalSet.observations.map (·.version)).Nodup
  /-- They are the canonical set of the items, which are told apart. -/
  canonical : ∀ canonicalSet, outcome.result.ending = .ok canonicalSet →
    canonicalSet = canonicalSetOf sha256 (itemsOf sha256 outcome.accepted) ∧
      PairwiseDistinct (itemsOf sha256 outcome.accepted)

end

/-! ## Cursors that end -/

/-- A cursor has the pass, the counts and the observations of another. -/
structure SameCounts (cursor cursor' : OsvListingPassCursor) : Prop where
  run : cursor'.run = cursor.run
  profile : cursor'.profile = cursor.profile
  providerPrefix : cursor'.providerPrefix = cursor.providerPrefix
  passOrdinal : cursor'.passOrdinal = cursor.passOrdinal
  passAttempt : cursor'.passAttempt = cursor.passAttempt
  passCounts : cursor'.passCounts = cursor.passCounts
  runCounts : cursor'.runCounts = cursor.runCounts

theorem SameCounts.refl (cursor : OsvListingPassCursor) : SameCounts cursor cursor :=
  ⟨rfl, rfl, rfl, rfl, rfl, rfl, rfl⟩

theorem SameCounts.trans {c c' c'' : OsvListingPassCursor} (h : SameCounts c c')
    (h' : SameCounts c' c'') : SameCounts c c'' :=
  ⟨h'.run.trans h.run, h'.profile.trans h.profile, h'.providerPrefix.trans h.providerPrefix,
    h'.passOrdinal.trans h.passOrdinal, h'.passAttempt.trans h.passAttempt,
    h'.passCounts.trans h.passCounts, h'.runCounts.trans h.runCounts⟩

/-- A cursor that ends without being complete. -/
structure Ends (cursor : OsvListingPassCursor) (ended : EndedCursor) : Prop where
  same : SameCounts cursor ended.cursor
  incomplete : ended.cursor.state ≠ .complete

section

variable {sha256 : List UInt8 → JsString}

/-- The digest of a token. -/
def tokenDigest (sha256 : List UInt8 → JsString) (token : OsvListingContinuationToken) : JsString :=
  sha256 (utf8Encode token.value)

/-- The detector of a pass has seen the tokens of the accepted pages, and each once. -/
structure Observed (sha256 : List UInt8 → JsString) (input : PassInput)
    (accepted : List ReceivedPage) (detector : OsvListingTokenCycleDetector) : Prop where
  digests : detector.digests =
    ((accepted.filterMap (·.page.continuationToken)).map (tokenDigest sha256)).reverse
  once : detector.digests.Nodup

/-- The cursor of a pass between two pages. -/
structure Between (sha256 : List UInt8 → JsString) (input : PassInput)
    (cursor : OsvListingPassCursor) (accepted : List ReceivedPage) : Prop where
  incomplete : cursor.state ≠ .complete
  run : cursor.run = input.request.runId
  profile : cursor.profile = input.request.profile
  providerPrefix : cursor.providerPrefix = input.providerPrefix
  passOrdinal : cursor.passOrdinal = input.passOrdinal
  passAttempt : cursor.passAttempt = input.passAttempt
  passCounts : cursor.passCounts = countsOf zeroOsvListingCumulativeCounts accepted
  runCounts : cursor.runCounts = countsOf input.runCounts accepted
  withinPass : WithinPass input.request.profile cursor.passCounts
  withinRun : WithinRun input.request.profile cursor.runCounts
  observations : cursor.observations = itemsOf sha256 accepted
  distinct : PairwiseDistinct cursor.observations
  expected : cursor.expectedHandle.map (·.token) =
    accepted.getLast?.bind (·.page.continuationToken)
  tokens : ∀ received ∈ accepted, received.page.continuationToken ≠ none
  observed : Observed sha256 input accepted cursor.detector

/-- What was sent and delivered when the next request of a pass is to be sent. -/
structure History (input : PassInput) (t : ListingTranscript) (accepted : List ReceivedPage) :
    Prop where
  sent : (sent t).map (·.continuationToken) =
    (none :: accepted.map (·.page.continuationToken)).dropLast
  delivered : delivered t = accepted
  ofPrefix : ∀ request ∈ Listing.sent t, request.providerPrefix = input.providerPrefix

/-- What was sent and delivered after the next request was sent: a page may be delivered that
is not accepted yet. -/
structure Asked (input : PassInput) (t : ListingTranscript) (accepted : List ReceivedPage) :
    Prop where
  sent : (sent t).map (·.continuationToken) <+: none :: accepted.map (·.page.continuationToken)
  delivered : accepted <+: delivered t
  ofPrefix : ∀ request ∈ Listing.sent t, request.providerPrefix = input.providerPrefix

theorem History.asked {input : PassInput} {t : ListingTranscript} {accepted : List ReceivedPage}
    (h : History input t accepted) : Asked input t accepted := by
  refine ⟨?_, ?_, h.ofPrefix⟩
  · rw [h.sent]
    exact List.dropLast_prefix _
  · rw [h.delivered]

section

variable {input : PassInput} {cursor : OsvListingPassCursor} {accepted : List ReceivedPage}
  {t : ListingTranscript}

end

/-! ## Programs of the service -/

section

variable {α : Type} {during : ListingTranscript → Prop}

end

/-! ## The loop over the pages -/

/-- A cursor between two pages that runs. -/
theorem Between.running {input : PassInput} {cursor : OsvListingPassCursor}
    {accepted : List ReceivedPage} (h : Between sha256 input cursor accepted) :
    Between sha256 input { cursor with state := .running } accepted :=
  { h with incomplete := fun heq => by cases heq }

variable {input : PassInput} {cursor : OsvListingPassCursor} {accepted : List ReceivedPage}
  {t : ListingTranscript}

/-- The attempt is one of the pass, and the run is within its ceilings before the pass. -/
structure PassInput.Valid (input : PassInput) : Prop where
  run : input.passAttempt.runId = input.request.runId
  providerPrefix : input.passAttempt.providerPrefix = input.providerPrefix
  passOrdinal : input.passAttempt.passOrdinal = input.passOrdinal
  within : WithinRun input.request.profile input.runCounts

end

namespace Sampling

/-- The SHA-256 digests of the continuation token, of the two keys and of the list of both
observations, which are told apart by their lengths and by the last byte of a key. -/
def hash (bytes : List UInt8) : JsString :=
  if bytes.length = 4 then
    hexText 64 0xc6c1c9a9c8543f1e4cd980064cf1625eeb61a90703b2464fff039f21682508b3
  else if bytes.length = 9 then
    if bytes.getD 8 0 = (unit '1').toUInt8 then
      hexText 64 0xba3f5d0807398140175ff94918f550a2b7b3a25579835a8a47b697735aa18ca7
    else hexText 64 0xcbc55f7c22c87b73f85d2ddb7f297b9a7c716e354090758600f068c8cb5e242f
  else hexText 64 0xbee6962b2fbdd8140d768e36c5e41cf84c417de0cf37deb56a145d81b7b753d9

theorem isSha256Hex_hash (bytes : List UInt8) : isSha256Hex (hash bytes) = true := by
  unfold isSha256Hex hash
  split_ifs
  all_goals rw [length_hexText, isLowerHex_hexText, decide_eq_true rfl, Bool.true_and]

/-- An observation with a key and a generation. -/
def item (key generation : String) : OsvListedObjectObservation where
  parsedKey := ⟨js "crates.io/", js key, .known .rustsec⟩
  generation := js generation
  declaredSizeBytes := 120
  classification := .eligible (js "rustsec")
  etag := none
  md5Hash := none
  contentType := some osvExpectedJsonContentType

/-- A page of one observation. -/
def page (observation : OsvListedObjectObservation) (continuationToken : Option String) :
    OsvListingPage where
  providerPrefix := js "crates.io/"
  items := [observation]
  itemCount := 1
  complete := continuationToken.isNone
  continuationToken := continuationToken.map fun token => ⟨js token⟩
  counted := rfl

/-- A port that answers with pages, one after the other. -/
def port (pages : List OsvListingPage) (history : ListingTranscript) :
    (op : ListingOp) → op.Answer
  | .aborted _ => false
  | .randomUuid => decimalText history.length
  | .listPage _ => some (sent history).length
  | .awaitPage _ =>
      match pages[(delivered history).length]? with
      | some page => .settled (.fulfilled (.success page 64))
      | none => .settled .rejected

def request : OsvListingInventoryPlanRequest where
  profile := .disabledCanary
  runId := js "run"
  signal := none

end Sampling

end PatchPilot.Osv.Listing
