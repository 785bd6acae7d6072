import PatchPilot.Foundation.JsValue
import PatchPilot.Foundation.LengthPrefix
import PatchPilot.Foundation.SelfDelimiting
import PatchPilot.Matching.Affectedness
import PatchPilot.Matching.Identity

set_option autoImplicit false

/-!
# Matching: reading and fingerprinting an evaluation request (`assess.ts`)

The first half of the in-memory evaluator: the untrusted request is read into a
record of texts, ranges and explicit versions, and the fingerprints of its parts
are formed.  A request that is not a plain record of the expected shape is
rejected.

Reading a property may throw; the source turns every throw into a rejection, so
reading and rejecting share one `Option` here.  The hash function is a parameter,
since nothing in this module depends on which one it is.
-/

namespace PatchPilot.Matching

open PatchPilot.Foundation

/-- `FIRST_ECOSYSTEM_EVALUATION_INPUT_MAX_UTF8_BYTES`. -/
def firstEcosystemEvaluationInputMaxUtf8Bytes : Nat := 32768

/-- `FIRST_ECOSYSTEM_ADVISORY_IDENTITY_MAX_UTF8_BYTES`. -/
def firstEcosystemAdvisoryIdentityMaxUtf8Bytes : Nat := 512

/-- `FIRST_ECOSYSTEM_FINGERPRINT_UTF8_BYTES`. -/
def firstEcosystemFingerprintUtf8Bytes : Nat := 64

/-- `FIRST_ECOSYSTEM_MATCHING_POLICY_ID`. -/
def firstEcosystemMatchingPolicyId : JsString :=
  js "osv_first_ecosystem_matching_architecture_v1"

/-- `FIRST_ECOSYSTEM_EVALUATOR_VERSION`. -/
def firstEcosystemEvaluatorVersion : JsString := js "session_14_batch_2_in_memory"

/-- `FIRST_ECOSYSTEM_REQUEST_SCHEMA_VERSION`. -/
def firstEcosystemRequestSchemaVersion : JsString :=
  js "osv_first_ecosystem_evaluation_request_v1"

/-! ## Texts -/

/-- The wire text of an explanation code. -/
def ExplanationCode.text : ExplanationCode → JsString
  | .affectedWithinIntroducedFixedRange => js "affected_within_introduced_fixed_range"
  | .affectedAtIntroducedBoundary => js "affected_at_introduced_boundary"
  | .affectedWithinLastAffectedRange => js "affected_within_last_affected_range"
  | .affectedExplicitVersionEqual => js "affected_explicit_version_equal"
  | .unaffectedBeforeIntroduced => js "unaffected_before_introduced"
  | .unaffectedAtOrAfterFixedBoundary => js "unaffected_at_or_after_fixed_boundary"
  | .unaffectedAfterLastAffected => js "unaffected_after_last_affected"
  | .unaffectedOutsideAllRanges => js "unaffected_outside_all_ranges"
  | .unknownUnsupportedEcosystem => js "unknown_unsupported_ecosystem"
  | .unknownInvalidPackageIdentity => js "unknown_invalid_package_identity"
  | .unknownInvalidObservedVersion => js "unknown_invalid_observed_version"
  | .unknownUnsupportedVersionSyntax => js "unknown_unsupported_version_syntax"
  | .unknownInvalidRange => js "unknown_invalid_range"
  | .unknownUnsupportedRangeType => js "unknown_unsupported_range_type"
  | .unknownUnsupportedEvent => js "unknown_unsupported_event"
  | .unknownContradictoryEvents => js "unknown_contradictory_events"
  | .unknownIncompleteEvidence => js "unknown_incomplete_evidence"
  | .unknownUntrustedAdvisoryEvidence => js "unknown_untrusted_advisory_evidence"
  | .unknownKevNotAffectednessAuthority => js "unknown_kev_not_affectedness_authority"
  | .unknownCapacityExceeded => js "unknown_capacity_exceeded"
  | .unknownPolicyMismatch => js "unknown_policy_mismatch"
  | .unknownEvaluatorUnavailable => js "unknown_evaluator_unavailable"
  | .unknownComparatorNotImplemented => js "unknown_comparator_not_implemented"
  | .unknownRangeOrderNotVerified => js "unknown_range_order_not_verified"
  | .unknownPrereleaseMembershipNotProven => js "unknown_prerelease_membership_not_proven"
  | .unknownWithdrawnAdvisory => js "unknown_withdrawn_advisory"
  | .unknownInternalFailure => js "unknown_internal_failure"

/-- The wire text of an outcome. -/
def Outcome.text : Outcome → JsString
  | .affected => js "affected"
  | .unaffected => js "unaffected"
  | .unknown => js "unknown"

/-- The wire text of a version class. -/
def VersionClass.text : VersionClass → JsString
  | .validStrictSemver => js "valid_strict_semver"
  | .absent => js "absent"
  | .malformed => js "malformed"
  | .unsupported => js "unsupported"
  | .capacityExceeded => js "capacity_exceeded"

/-- `closedAdvisorySource` maps a supplied text to one of three words. -/
inductive AdvisorySource
  | syntheticFixture | cisaKev | unrecognized
  deriving DecidableEq

def AdvisorySource.text : AdvisorySource → JsString
  | .syntheticFixture => js "synthetic_fixture"
  | .cisaKev => js "cisa_kev"
  | .unrecognized => js "unrecognized"

/-- `closedAdvisorySource`. -/
def closedAdvisorySource (value : JsString) : AdvisorySource :=
  if value = js "synthetic_fixture" then .syntheticFixture
  else if value = js "cisa_kev" then .cisaKev
  else .unrecognized

/-- The recorded origin of the advisory evidence. -/
inductive EvidenceOrigin
  | synthetic | untrustedNotRecorded
  deriving DecidableEq

def EvidenceOrigin.text : EvidenceOrigin → JsString
  | .synthetic => js "synthetic"
  | .untrustedNotRecorded => js "untrusted_not_recorded"

/-- `Array.prototype.join`. -/
def joinWith (separator : JsString) (parts : List JsString) : JsString :=
  (parts.intersperse separator).flatten

/-! ## Reading the request -/

/-- `isPlainRecord`: the own properties of a record the evaluator accepts. -/
def plainRecord : JsValue → Option (List (JsString × JsProperty) × ObjectHeader)
  | .object header properties =>
      if header.isProxy = false ∧ header.prototype = .objectPrototype then
        some (properties, header)
      else none
  | _ => none

/-- `readDataProperty`; `none` is the thrown error. -/
def readDataProperty (properties : List (JsString × JsProperty)) (key : JsString) :
    Option JsValue :=
  dataValue (ownProperty properties key)

/-- What a list reader returns besides rejecting: the items, or the token of an
exceeded capacity. -/
inductive ParsedList (α : Type)
  | ok (items : List α)
  | capacity (token : JsString)

/-- `readPlainArray`.  The outer `none` is `invalid` or a thrown error, the inner
`none` is `capacity`. -/
def readPlainArray (value : JsValue) (maxLength : Nat) : Option (Option (List JsValue)) :=
  match value with
  | .array header slots properties =>
      if header.isProxy = true ∨ header.prototype ≠ .arrayPrototype ∨
          header.symbolKeys ≠ 0 then none
      else if slots.length > maxLength then some none
      else if slots.countP Option.isSome + properties.length + 1 ≠ slots.length + 1 then none
      else (slots.mapM dataValue).map some
  | _ => none

section Hash

variable (sha256 : JsString → JsString)

/-- `exceedsInputBudget`. -/
def exceedsInputBudget (value : JsString) : Bool :=
  value.length > firstEcosystemEvaluationInputMaxUtf8Bytes

/-- `digestBounded`. -/
def digestBounded (value : JsString) : JsString :=
  if exceedsInputBudget value then
    sha256 (js "over:" ++ decimalText value.length ++ js ":" ++ value.take 256)
  else sha256 value

/-- `capacityToken`. -/
def capacityToken (label value : JsString) : JsString :=
  label ++ js ":" ++ decimalText value.length ++ js ":" ++ digestBounded sha256 value

/-- The events of one range as `parseRanges` reads them. -/
def parseEvents : List JsValue → Option (ParsedList EventDraft)
  | [] => some (.ok [])
  | event :: rest => do
      let (properties, header) ← plainRecord event
      if header.symbolKeys ≠ 0 then none
      match properties with
      | [(eventKey, property)] =>
          if exceedsInputBudget eventKey then
            return .capacity (capacityToken sha256 (js "event-name") eventKey)
          let eventValue ← (← dataValue (some property)).string?
          if eventValue.length > npmRawVersionMaxUtf8Bytes then
            return .capacity (capacityToken sha256 (js "event-value") eventValue)
          match ← parseEvents rest with
          | .capacity token => return .capacity token
          | .ok events => return .ok ([(eventKey, eventValue)] :: events)
      | _ => none

/-- One entry of `affectedRanges`. -/
def parseRange (entry : JsValue) : Option (ParsedList EventDraft × JsString) := do
  let (properties, header) ← plainRecord entry
  let keys := properties.map Prod.fst
  if keys.length ≠ 2 ∨ !keys.contains (js "type") ∨ !keys.contains (js "events") ∨
      header.symbolKeys ≠ 0 then none
  let typeValue ← readDataProperty properties (js "type")
  let eventList ← readDataProperty properties (js "events")
  let type ← typeValue.string?
  if exceedsInputBudget type then
    return (.capacity (capacityToken sha256 (js "range-type") type), type)
  match ← readPlainArray eventList firstEcosystemMaxEventsPerRange with
  | none => return (.capacity (js "events-over-count"), type)
  | some items => return (← parseEvents sha256 items, type)

/-- The loop of `parseRanges`, with the running total of events. -/
def parseRangeEntries : List JsValue → Nat → Option (ParsedList AdvisoryRangeDraft)
  | [], _ => some (.ok [])
  | entry :: rest, totalEvents => do
      match ← parseRange sha256 entry with
      | (.capacity token, _) => return .capacity token
      | (.ok events, type) =>
          if totalEvents + events.length > firstEcosystemMaxTotalEvents then
            return .capacity (js "events-over-total")
          match ← parseRangeEntries rest (totalEvents + events.length) with
          | .capacity token => return .capacity token
          | .ok ranges => return .ok (⟨type, events⟩ :: ranges)

/-- `parseRanges`. -/
def parseRanges (value : JsValue) : Option (ParsedList AdvisoryRangeDraft) := do
  match ← readPlainArray value firstEcosystemMaxAffectedRanges with
  | none => return .capacity (js "affected-ranges-over-count")
  | some items => parseRangeEntries sha256 items 0

/-- The loop of `parseExplicitVersions`. -/
def parseExplicitEntries : List JsValue → Option (ParsedList JsString)
  | [] => some (.ok [])
  | entry :: rest => do
      let text ← entry.string?
      if text.length > npmRawVersionMaxUtf8Bytes then
        return .capacity (capacityToken sha256 (js "explicit-version") text)
      match ← parseExplicitEntries rest with
      | .capacity token => return .capacity token
      | .ok versions => return .ok (text :: versions)

/-- `parseExplicitVersions`. -/
def parseExplicitVersions (value : JsValue) : Option (ParsedList JsString) := do
  match ← readPlainArray value firstEcosystemMaxExplicitVersions with
  | none => return .capacity (js "explicit-versions-over-count")
  | some items => parseExplicitEntries sha256 items

/-- The text fields of a request that passed the structural checks. -/
structure RequestTexts where
  evaluatorPolicyId : JsString
  evaluatorVersion : JsString
  ecosystem : JsString
  ns : Option JsString
  name : JsString
  observedIdentity : JsString
  rawObservedVersion : JsString
  advisoryIdentity : JsString
  advisorySourceClassification : JsString
  advisoryEvidenceFingerprint : JsString
  advisoryEvidenceOrigin : JsString
  advisoryRevisionDisposition : JsString
  rangeType : JsString
  evaluationCorrelationId : JsString
  sbomSourceClassification : JsString
  componentIdentityProvenance : JsString
  observedVersionProvenance : JsString
  rangeEvidenceProvenance : JsString

/-- A request that passed the structural checks: its texts and its two lists. -/
structure EvaluationRequest extends RequestTexts where
  affectedRanges : ParsedList AdvisoryRangeDraft
  explicitAffectedVersions : ParsedList JsString

/-- `REQUEST_KEYS`. -/
def requestKeys : List JsString :=
  [js "requestSchemaVersion", js "evaluatorPolicyId", js "evaluatorVersion",
   js "ecosystem", js "namespace", js "name", js "observedIdentity",
   js "rawObservedVersion", js "advisoryIdentity", js "advisorySourceClassification",
   js "advisoryEvidenceFingerprint", js "advisoryEvidenceOrigin",
   js "advisoryRevisionDisposition", js "rangeType", js "affectedRanges",
   js "explicitAffectedVersions", js "evaluationCorrelationId",
   js "sbomSourceClassification", js "componentIdentityProvenance",
   js "observedVersionProvenance", js "rangeEvidenceProvenance"]

/-- The groups of `UUID_V4` between the hyphens. -/
def isUuidV4 (value : JsString) : Bool :=
  match value.splitOn (unit '-') with
  | [a, b, c, d, e] =>
      [a, b, c, d, e].all (·.all isLowerHex) &&
      [a, b, c, d, e].map List.length == [8, 4, 4, 4, 12] &&
      c.head? == some (unit '4') &&
      d.head?.any (fun u => u == unit '8' || u == unit '9' || u == unit 'a' || u == unit 'b')
  | _ => false

/-- `SHA256_HEX`. -/
def isSha256Hex (value : JsString) : Bool := value.length == 64 && value.all isLowerHex

/-- `readString` followed by the check that it is not `null`. -/
def requireString (properties : List (JsString × JsProperty)) (key : JsString) :
    Option JsString :=
  (readDataProperty properties key).bind JsValue.string?

/-- The namespace is `null` or a string. -/
def requireNamespace (properties : List (JsString × JsProperty)) :
    Option (Option JsString) := do
  match ← readDataProperty properties (js "namespace") with
  | .null => return none
  | .string value => return some value
  | _ => none

/-- The reads of the text fields.  `text` reads a property that must be a
string. -/
def readTexts (text : JsString → Option JsString) (ns : Option (Option JsString)) :
    Option RequestTexts := do
  let requestSchemaVersion ← text (js "requestSchemaVersion")
  if requestSchemaVersion ≠ firstEcosystemRequestSchemaVersion then none
  let evaluationCorrelationId ← text (js "evaluationCorrelationId")
  if !isUuidV4 evaluationCorrelationId then none
  return {
    evaluatorPolicyId := ← text (js "evaluatorPolicyId")
    evaluatorVersion := ← text (js "evaluatorVersion")
    ecosystem := ← text (js "ecosystem")
    ns := ← ns
    name := ← text (js "name")
    observedIdentity := ← text (js "observedIdentity")
    rawObservedVersion := ← text (js "rawObservedVersion")
    advisoryIdentity := ← text (js "advisoryIdentity")
    advisorySourceClassification := ← text (js "advisorySourceClassification")
    advisoryEvidenceFingerprint := ← text (js "advisoryEvidenceFingerprint")
    advisoryEvidenceOrigin := ← text (js "advisoryEvidenceOrigin")
    advisoryRevisionDisposition := ← text (js "advisoryRevisionDisposition")
    rangeType := ← text (js "rangeType")
    evaluationCorrelationId := evaluationCorrelationId
    sbomSourceClassification := ← text (js "sbomSourceClassification")
    componentIdentityProvenance := ← text (js "componentIdentityProvenance")
    observedVersionProvenance := ← text (js "observedVersionProvenance")
    rangeEvidenceProvenance := ← text (js "rangeEvidenceProvenance") }

/-- The reads and structural checks at the start of
`assessUntrustedEvaluationRequest`.  `none` is a rejection. -/
def readEvaluationRequest (input : JsValue) : Option EvaluationRequest := do
  let (properties, header) ← plainRecord input
  let keys := properties.map Prod.fst
  if keys.length ≠ requestKeys.length ∨ keys.any (!requestKeys.contains ·) ∨
      header.symbolKeys ≠ 0 then none
  let texts ← readTexts (requireString properties) (requireNamespace properties)
  let ranges ← (readDataProperty properties (js "affectedRanges")).bind (parseRanges sha256)
  let explicitVersions ←
    (readDataProperty properties (js "explicitAffectedVersions")).bind
      (parseExplicitVersions sha256)
  return ⟨texts, ranges, explicitVersions⟩

/-! ## Fingerprints -/

/-- `canonicalField`. -/
def canonicalField (name value : JsString) : JsString :=
  decimalText name.length ++ js ":" ++ name ++ decimalText value.length ++ js ":" ++ value

/-- `canonicalToken`. -/
def canonicalToken (value : JsString) : JsString :=
  decimalText value.length ++ js ":" ++ value

/-- The canonical text of one event: the tokens of its first key and its value. -/
def eventCanonical (event : EventDraft) : JsString :=
  match event.head? with
  | none => canonicalToken [] ++ canonicalToken []
  | some (key, value) => canonicalToken key ++ canonicalToken value

/-- The canonical text of one range. -/
def oneRangeCanonical (range : AdvisoryRangeDraft) : JsString :=
  canonicalToken range.type ++ canonicalToken (range.events.flatMap eventCanonical)

/-- `rangeCanonical`. -/
def rangeCanonical (ranges : List AdvisoryRangeDraft) (explicitVersions : List JsString) :
    JsString :=
  canonicalToken (sortBy compareCodeUnits (ranges.map oneRangeCanonical)).flatten ++
    canonicalToken (sortBy compareCodeUnits (explicitVersions.map canonicalToken)).flatten

/-- The version of a request with its digest, as an assessment retains it. -/
structure VersionBinding where
  rawObservedVersion : Option JsString
  rawObservedVersionSha256 : JsString
  versionFingerprint : JsString
  overInput : Bool

/-- `versionBinding`.  The version is retained exactly when
`rawObservedVersion` is present. -/
def versionBinding (raw : JsString) : VersionBinding :=
  let digest := digestBounded sha256 raw
  if exceedsInputBudget raw ∨ utf8ByteLength raw > npmRawVersionMaxUtf8Bytes then
    ⟨none, digest, js "sha256:" ++ digest, exceedsInputBudget raw⟩
  else ⟨some raw, digest, raw, false⟩

/-- The identity of an advisory, or nothing and the digest of an identity that is too long. -/
structure AdvisoryBinding where
  advisoryIdentity : JsString
  advisoryFingerprint : JsString
  overInput : Bool

/-- `advisoryBinding`. -/
def advisoryBinding (identity : JsString) : AdvisoryBinding :=
  if exceedsInputBudget identity then
    ⟨[], js "sha256:" ++ digestBounded sha256 identity, true⟩
  else if utf8ByteLength identity > firstEcosystemAdvisoryIdentityMaxUtf8Bytes then
    ⟨[], js "sha256:" ++ sha256 identity, false⟩
  else ⟨identity, identity, false⟩

end Hash

/-! ## The text of a range -/

theorem canonicalToken_eq (value : JsString) :
    canonicalToken value = lengthPrefixedField value := by
  unfold canonicalToken lengthPrefixedField
  rw [List.append_assoc]
  rfl

/-- Tokens say where they end. -/
theorem canonicalToken_selfDelimiting :
    SelfDelimiting (fun _ : JsString => True) canonicalToken where
  nonempty {value} _ := by
    unfold canonicalToken
    intro h
    exact absurd (List.append_eq_nil_iff.mp (List.append_eq_nil_iff.mp h).1).2 (by decide)
  split {a b rest rest'} _ _ h := by
    rw [canonicalToken_eq, canonicalToken_eq] at h
    exact lengthPrefixedField_append_inj h

/-- The event has one property. -/
def SingleKey (event : EventDraft) : Prop := ∃ key value, event = [(key, value)]

/-- Every event of the range has one property. -/
def AdvisoryRangeDraft.SingleKeyEvents (range : AdvisoryRangeDraft) : Prop :=
  ∀ event ∈ range.events, SingleKey event

/-- The property of an event. -/
def eventEntry (event : EventDraft) : JsString × JsString := (event.head?).getD ([], [])

theorem eventCanonical_eq (event : EventDraft) :
    eventCanonical event =
      canonicalToken (eventEntry event).1 ++ canonicalToken (eventEntry event).2 := by
  cases event with
  | nil => rfl
  | cons entry rest => rfl

theorem eventEntry_injective {event event' : EventDraft} (h : SingleKey event)
    (h' : SingleKey event') (heq : eventEntry event = eventEntry event') : event = event' := by
  obtain ⟨key, value, rfl⟩ := h
  obtain ⟨key', value', rfl⟩ := h'
  exact congrArg (fun entry => [entry]) heq

/-- Events are two tokens. -/
theorem eventCanonical_selfDelimiting : SelfDelimiting SingleKey eventCanonical := by
  rw [show eventCanonical = _ from funext eventCanonical_eq]
  exact (canonicalToken_selfDelimiting.pair canonicalToken_selfDelimiting).comap
    (f := eventEntry) (fun _ _ => ⟨trivial, trivial⟩) (fun _ _ => eventEntry_injective)

/-- Ranges are two tokens, of which the second is the text of their events. -/
theorem oneRangeCanonical_selfDelimiting :
    SelfDelimiting AdvisoryRangeDraft.SingleKeyEvents oneRangeCanonical := by
  refine (canonicalToken_selfDelimiting.pair canonicalToken_selfDelimiting).comap
    (f := fun range : AdvisoryRangeDraft => (range.type, range.events.flatMap eventCanonical))
    (fun _ _ => ⟨trivial, trivial⟩) fun range range' h h' heq => ?_
  obtain ⟨htype, hevents⟩ := Prod.mk.inj heq
  have hsame := eventCanonical_selfDelimiting.flatMap_inj h h' hevents
  cases range
  cases range'
  exact congrArg₂ AdvisoryRangeDraft.mk htype hsame

/-- Two pairs of lists have the same canonical text exactly when they differ only in the
order of their ranges and of their explicit versions. -/
theorem rangeCanonical_eq_iff {ranges ranges' : List AdvisoryRangeDraft}
    (hranges : ∀ range ∈ ranges, range.SingleKeyEvents)
    (hranges' : ∀ range ∈ ranges', range.SingleKeyEvents)
    (explicitVersions explicitVersions' : List JsString) :
    rangeCanonical ranges explicitVersions = rangeCanonical ranges' explicitVersions' ↔
      ranges.Perm ranges' ∧ explicitVersions.Perm explicitVersions' := by
  have hsorted := oneRangeCanonical_selfDelimiting.sorted_flatten_eq_iff compareCodeUnits
    hranges hranges'
  have hsorted' := canonicalToken_selfDelimiting.sorted_flatten_eq_iff compareCodeUnits
    (fun _ _ => trivial : ∀ text ∈ explicitVersions, True)
    (fun _ _ => trivial : ∀ text ∈ explicitVersions', True)
  rw [← hsorted, ← hsorted']
  have hpair := canonicalToken_selfDelimiting.pair canonicalToken_selfDelimiting
  constructor
  · intro heq
    exact Prod.mk.inj (hpair.injective (a := (_, _)) (b := (_, _)) ⟨trivial, trivial⟩
      ⟨trivial, trivial⟩ heq)
  · rintro ⟨hfirst, hsecond⟩
    unfold rangeCanonical
    rw [hfirst, hsecond]

/-- A version that looks like a token, beside the text that the token would hold. -/
theorem rangeCanonical_eq_iff_sample :
    rangeCanonical [⟨js "SEMVER", [[(js "introduced", js "1:0")]]⟩] [js "1", js "2"] =
        rangeCanonical [⟨js "SEMVER", [[(js "introduced", js "1")]]⟩] [js "2", js "1"] ↔
      [(⟨js "SEMVER", [[(js "introduced", js "1:0")]]⟩ : AdvisoryRangeDraft)].Perm
          [⟨js "SEMVER", [[(js "introduced", js "1")]]⟩] ∧
        [js "1", js "2"].Perm [js "2", js "1"] := by
  have hsingle : ∀ value, ∀ range ∈
      [(⟨js "SEMVER", [[(js "introduced", value)]]⟩ : AdvisoryRangeDraft)],
        range.SingleKeyEvents := by
    intro value range hrange event hevent
    rw [List.mem_singleton.mp hrange, List.mem_singleton] at hevent
    exact ⟨_, _, hevent⟩
  exact rangeCanonical_eq_iff (hsingle (js "1:0")) (hsingle (js "1")) [js "1", js "2"]
    [js "2", js "1"]

end PatchPilot.Matching
