import PatchPilot.Foundation.Fallible
import PatchPilot.Foundation.TextShape
import PatchPilot.Matching.Request
import PatchPilot.Matching.Reviewed

set_option autoImplicit false

/-!
# Matching: maintainer-reviewed documents (`document.ts`, `plain.ts`, `license.ts`)

A maintainer submits one advisory as an untrusted document.  The parser admits it
when every field is a plain data property of its expected form, when the package is
one npm identity, and when the affected ranges are a structure whose timelines do not
contradict themselves.  The timelines are read here a second time, apart from the
compilation that the evaluator makes of them, with state variables of their own.

An accessor among the elements of an array would run foreign code; it is read as
`undefined`.  What a document is measured and read with (`JSON.stringify`, the scan
for duplicate keys and the secure JSON reader) is a parameter.
-/

namespace PatchPilot.Matching

open PatchPilot.Foundation

/-! ## Plain values (`plain.ts`) -/

/-- `hasProhibitedControls`. -/
def hasProhibitedControls (value : JsString) : Bool :=
  value.any fun u => u ≤ 0x1F || u == 0x7F

/-- The property is an accessor. -/
def isAccessor : JsProperty → Bool
  | .data _ _ => false
  | .accessor _ => true

/-- `ownDataProperties`: the keys of a record without symbols and accessors. -/
def ownDataProperties (header : ObjectHeader) (properties : List (JsString × JsProperty)) :
    Option (List JsString) :=
  if header.symbolKeys ≠ 0 then none
  else if properties.any (fun property => isAccessor property.2) then none
  else some (properties.map Prod.fst)

/-- `readOwnData`. -/
def readOwnData (properties : List (JsString × JsProperty)) (key : JsString) : JsValue :=
  (dataValue (ownProperty properties key)).getD .undefined

/-- The elements of an array, as a loop over it sees them. -/
def arrayItems : JsValue → Option (List JsValue)
  | .array _ slots _ => some (slots.map fun slot => (dataValue slot).getD .undefined)
  | _ => none

/-! ## Verdicts -/

/-- The classifications with which `document.ts` rejects. -/
inductive SubmissionState
  | ineligibleSynthetic | ineligibleSchema | ineligibleIdentity | ineligiblePackage
  | ineligibleRange | ineligibleVulnerabilityBinding | ineligibleLicense
  deriving DecidableEq

/-- `rejected`. -/
structure SubmissionRejection where
  submissionState : SubmissionState
  rejectionReason : JsString
  deriving DecidableEq

/-- A check that rejects. -/
def refuseWhen {ε : Type} (condition : Bool) (rejection : ε) : Except ε Unit :=
  if condition then .error rejection else .ok ()

/-- A reading that rejects when it finds nothing. -/
def orRefuse {ε α : Type} (found : Option α) (rejection : ε) : Except ε α :=
  match found with
  | none => .error rejection
  | some value => .ok value

/-! ## Timelines -/

namespace MaintainerDocument

/-- `toBound`, with `none` for `bad`. -/
def toBound (value : JsString) : Option VersionBound :=
  if value = sentinelText then some .sentinel
  else (strictSemverCore (classifyObservedNpmVersion value)).map .version

/-- `compareBounds`, with `none` for `bad`. -/
def compareBounds : VersionBound → VersionBound → Option Ordering
  | .sentinel, .sentinel => some .eq
  | .sentinel, .version _ => some .lt
  | .version _, .sentinel => some .gt
  | .version left, .version right =>
      match compareStrictSemverCores left right with
      | .lessThan => some .lt
      | .equal => some .eq
      | .greaterThan => some .gt
      | .unknown => none

/-- `limitContradicts`. -/
def limitContradicts (limit previous : VersionBound) (previousName : Option EventKind) :
    Bool :=
  match compareBounds limit previous with
  | none => true
  | some .eq => previousName == some .introduced || previousName == some .lastAffected
  | some .lt => previousName != some .fixed && previousName != some .lastAffected
  | some .gt => false

/-- The variables of the loop of `timelineContradicts`.  `previousName` is `none` for the
empty text before the first event. -/
structure TimelineState where
  opened : Option VersionBound
  previous : Option VersionBound
  previousName : Option EventKind
  floor : Option VersionBound
  intervals : Nat
  deriving DecidableEq

/-- The variables before the first event. -/
def TimelineState.initial : TimelineState := ⟨none, none, none, none, 0⟩

/-- The two checks of an event against the one before it. -/
def contradictsPrevious (s : TimelineState) (name : Option EventKind) (bound : VersionBound) :
    Bool :=
  match s.previous with
  | none => false
  | some previous =>
      if name = some .limit then limitContradicts bound previous s.previousName
      else
        match compareBounds bound previous with
        | none => true
        | some compared => compared == .lt

/-- The branch of an event that closes an interval. -/
def closeAt (s : TimelineState) (name : EventKind) (bound : VersionBound) :
    Option TimelineState :=
  match s.opened with
  | none => none
  | some opened =>
      match compareBounds bound opened with
      | none => none
      | some .lt => none
      | some .eq =>
          if name = .fixed then none
          else some { s with opened := none, intervals := s.intervals + 1 }
      | some .gt => some { s with opened := none, intervals := s.intervals + 1 }

/-- The branch that belongs to the event's name. -/
def placeAt (s : TimelineState) (name : Option EventKind) (bound : VersionBound) :
    Option TimelineState :=
  match name with
  | some .introduced =>
      if s.opened.isSome then none
      else some { s with opened := some bound, floor := s.floor.or (some bound) }
  | some .fixed => closeAt s .fixed bound
  | some .lastAffected => closeAt s .lastAffected bound
  | some .limit =>
      match s.opened.or s.floor with
      | none => some s
      | some baseline =>
          match compareBounds bound baseline with
          | some .gt => some s
          | _ => none
  | none => none

/-- The loop body of `timelineContradicts` after the bound has been read; `none` when it
returns. -/
def timelineStep (s : TimelineState) (name : Option EventKind) (bound : VersionBound) :
    Option TimelineState :=
  if contradictsPrevious s name bound then none
  else (placeAt s name bound).map fun s =>
    { s with previous := some bound, previousName := name }

/-- The loop of `timelineContradicts`. -/
def timelineEvents : List (JsString × JsString) → TimelineState → Option TimelineState
  | [], s => some s
  | (name, value) :: rest, s =>
      match toBound value with
      | none => none
      | some bound =>
          match timelineStep s (eventKindOf name) bound with
          | none => none
          | some s => timelineEvents rest s

/-- `timelineContradicts`. -/
def timelineContradicts (events : List (JsString × JsString)) : Bool :=
  match timelineEvents events .initial with
  | none => true
  | some s => s.intervals == 0 && s.opened.isNone

/-! ## Ranges -/

/-- The words of `AffectedRangeStructureClassification`. -/
def structureText : RangeStructureClassification → JsString
  | .wellFormed => js "well_formed"
  | .empty => js "empty"
  | .malformed => js "malformed"
  | .unsupportedRangeType => js "unsupported_range_type"
  | .unsupportedEvent => js "unsupported_event"
  | .contradictory => js "contradictory"
  | .capacityExceeded => js "capacity_exceeded"

/-- `EVENT_NAMES`. -/
def eventNames : List JsString := npmAcceptedEvents.map eventKindName

/-- One event of `parseRanges`. -/
def parseEvent (event : JsValue) : Except JsString (JsString × JsString) := do
  let (properties, header) ←
    orRefuse (plainRecord event) (js "range event must be a plain object")
  match ownDataProperties header properties with
  | some [name] => do
      refuseWhen (!eventNames.contains name) (js "unsupported range event")
      let value ← orRefuse (readOwnData properties name).string?
        (js "range event value is malformed")
      refuseWhen (hasProhibitedControls value) (js "range event value is malformed")
      return (name, value)
  | _ => .error (js "range event must contain one event name")

/-- One range of `parseRanges`. -/
def parseRange (range : JsValue) : Except JsString AdvisoryRangeDraft := do
  let (properties, header) ←
    orRefuse (plainRecord range) (js "each affected range must be a plain object")
  let keys ← orRefuse (ownDataProperties header properties)
    (js "affected range rejected non-data properties")
  refuseWhen (keys.any fun key => key != js "type" && key != js "events")
    (js "affected range contains an unknown field")
  refuseWhen ((readOwnData properties (js "type")).string? != some (js "SEMVER"))
    (js "only Session 14 SEMVER ranges are eligible")
  let events ← orRefuse (arrayItems (readOwnData properties (js "events")))
    (js "affected range events are missing")
  refuseWhen events.isEmpty (js "affected range events are missing")
  let named ← events.mapM parseEvent
  refuseWhen (timelineContradicts named) (js "contradictory range timeline")
  return { type := js "SEMVER", events := named.map fun event => [event] }

/-- `parseRanges`.  The ranges of a document and the drafts of the structure check have
one form. -/
def parseRanges (value : JsValue) : Except JsString (List AdvisoryRangeDraft) := do
  let items ← orRefuse (arrayItems value)
    (js "affectedRanges must contain at least one SEMVER range")
  refuseWhen items.isEmpty (js "affectedRanges must contain at least one SEMVER range")
  refuseWhen (items.length > firstEcosystemMaxAffectedRanges)
    (js "affectedRanges exceed the Session 14 range ceiling")
  let ranges ← items.mapM parseRange
  let structureClass : RangeStructureClassification :=
    (classifyAffectedRangeStructure classifyEachTime (js "SEMVER") ranges [] :
      Id RangeStructureClassification)
  refuseWhen (structureClass != .wellFormed)
    (js "range structure is " ++ structureText structureClass)
  return ranges

end MaintainerDocument

/-! ## The license decision (`license.ts`) -/

/-- `MAINTAINER_REVIEWED_SOURCE_LICENSE_POLICY_ID`. -/
def maintainerReviewedSourceLicensePolicyId : JsString :=
  js "maintainer_reviewed_source_license_policy_v1"

/-- `MAINTAINER_REVIEWED_SOURCE_LICENSE_POLICY_VERSION`. -/
def maintainerReviewedSourceLicensePolicyVersion : Nat := 1

/-- `MAINTAINER_REVIEWED_ACCEPTED_SPDX`. -/
def maintainerReviewedAcceptedSpdx : JsString := js "CC-BY-4.0"

/-- `MaintainerSourceLicenseDecision`. -/
structure SourceLicenseDecision where
  policyId : JsString
  policyVersion : Nat
  spdxLicenseId : JsString
  productUse : JsString
  modification : JsString
  redistribution : JsString
  notice : JsString
  contentProvenance : JsString
  decision : JsString
  deriving DecidableEq

/-- `LICENSE_KEYS`. -/
def licenseKeys : List JsString :=
  [js "policyId", js "policyVersion", js "spdxLicenseId", js "productUse",
   js "modification", js "redistribution", js "notice", js "contentProvenance",
   js "decision"]

/-- `licenseDecisionAccepted`. -/
def licenseDecisionAccepted (decision : SourceLicenseDecision) : Bool :=
  decision.policyId == maintainerReviewedSourceLicensePolicyId &&
    decision.policyVersion == maintainerReviewedSourceLicensePolicyVersion &&
    decision.spdxLicenseId == maintainerReviewedAcceptedSpdx &&
    decision.productUse == js "permitted_for_internal_matching" &&
    decision.modification == js "permitted" &&
    decision.redistribution == js "permitted" &&
    decision.notice == js "required" &&
    decision.contentProvenance == js "maintainer_original" &&
    decision.decision == js "accepted"

/-- A field that is one of the given words. -/
def wordAmong (properties : List (JsString × JsProperty)) (key : JsString)
    (words : List JsString) : Option JsString :=
  (readOwnData properties key).string?.filter fun word => words.contains word

/-- The number is the given one. -/
def isNumber (value : JsValue) (n : Nat) : Bool :=
  match value with
  | .number number => number == .finite n
  | _ => false

/-- The field checks of `parseLicense`. -/
def readLicense (properties : List (JsString × JsProperty)) : Option SourceLicenseDecision := do
  let policyId ← wordAmong properties (js "policyId") [maintainerReviewedSourceLicensePolicyId]
  if !isNumber (readOwnData properties (js "policyVersion"))
      maintainerReviewedSourceLicensePolicyVersion then none
  let spdxLicenseId ← (readOwnData properties (js "spdxLicenseId")).string?
  if hasProhibitedControls spdxLicenseId then none
  let productUse ← wordAmong properties (js "productUse")
    [js "permitted_for_internal_matching", js "prohibited"]
  let modification ← wordAmong properties (js "modification")
    [js "permitted", js "restricted"]
  let redistribution ← wordAmong properties (js "redistribution")
    [js "permitted", js "restricted"]
  let notice ← wordAmong properties (js "notice") [js "required", js "absent"]
  let contentProvenance ← wordAmong properties (js "contentProvenance")
    [js "maintainer_original", js "copied_provider_material", js "unprovenanced"]
  let decision ← wordAmong properties (js "decision") [js "accepted", js "rejected"]
  return ⟨policyId, maintainerReviewedSourceLicensePolicyVersion, spdxLicenseId, productUse,
    modification, redistribution, notice, contentProvenance, decision⟩

/-- `parseLicense`. -/
def parseLicense (value : JsValue) : Except JsString SourceLicenseDecision := do
  let (properties, header) ← orRefuse (plainRecord value)
    (js "sourceLicenseDecision must be a plain object")
  let keys ← orRefuse (ownDataProperties header properties)
    (js "sourceLicenseDecision rejected non-data properties")
  refuseWhen (keys.length != licenseKeys.length || keys.any fun key => !licenseKeys.contains key)
    (js "sourceLicenseDecision fields must match the closed license decision")
  let parsed ← orRefuse (readLicense properties) (js "sourceLicenseDecision is malformed")
  refuseWhen (!licenseDecisionAccepted parsed)
    (js "source license decision is not accepted for product use")
  return parsed

/-! ## The document -/

/-- `MaintainerReviewedAdvisoryDocument`. -/
structure MaintainerReviewedAdvisoryDocument where
  schemaVersion : JsString
  sourceClassification : JsString
  origin : JsString
  advisoryFamilyId : JsString
  revisionNumber : Nat
  vulnerabilityId : JsString
  vulnerabilityBinding : JsString
  aliases : List JsString
  packageEcosystem : JsString
  packageName : JsString
  packageIdentityKey : JsString
  packageUrl : Option JsString
  affectedRanges : List AdvisoryRangeDraft
  withdrawal : JsString
  supersedesRevisionId : Option JsString
  sourceLicenseDecision : SourceLicenseDecision
  authorIdentity : JsString
  submissionCorrelationId : JsString
  deriving DecidableEq

/-- `INPUT_KEYS`. -/
def inputKeys : List JsString :=
  [js "schemaVersion", js "advisoryFamilyId", js "revisionNumber", js "vulnerabilityId",
   js "aliases", js "packageEcosystem", js "packageName", js "packageUrl",
   js "affectedRanges", js "withdrawal", js "supersedesRevisionId",
   js "sourceLicenseDecision", js "authorIdentity", js "submissionCorrelationId"]

/-- `ORIGIN_KEYS`. -/
def originKeys : List JsString :=
  [js "origin", js "source", js "sourceClassification", js "session14SyntheticOrigin",
   js "syntheticOrigin", js "advisorySourceClassification", js "providerGeneration",
   js "retrievalEvidenceId", js "providerObjectKey", js "osvId"]

/-- `KEV_KEYS`. -/
def kevKeys : List JsString :=
  [js "kev", js "kevMembership", js "knownExploited", js "inKev"]

/-- `ORIGIN_TOKENS`, with the entries of `OSV_SOURCE_IDENTIFIERS`. -/
def originTokens : List JsString :=
  [js "synthetic_fixture", js "synthetic_record", js "provider_derived", js "unrecognized",
   js "ossf_malicious_packages", js "github_advisory_database", js "pypa_advisory_database",
   js "go_vulnerability_database", js "rustsec_advisory_database",
   js "global_security_database", js "erlang_ecosystem_foundation_cna",
   js "osv_ambiguous_origin", js "echo_advisory_database"]

/-- `classifyKey`, for a key that is no input key.  The sets `AUTHORITY_BOOLEAN_KEYS` and
`FINDING_KEYS` get the same classification as an unknown key. -/
def classifyKey (key : JsString) : SubmissionState :=
  if originKeys.contains key then .ineligibleSynthetic
  else if kevKeys.contains key then .ineligibleVulnerabilityBinding
  else .ineligibleSchema

/-- The two loops over the keys. -/
def checkKeys (keys : List JsString) : Except SubmissionRejection Unit := do
  match keys.find? (fun key => !inputKeys.contains key) with
  | some key => .error ⟨classifyKey key, js "prohibited or unknown field: " ++ key⟩
  | none =>
      match inputKeys.find? (fun key => !keys.contains key) with
      | some key => .error ⟨.ineligibleSchema, js "missing field: " ++ key⟩
      | none => .ok ()

mutual

/-- `walkStrings`. -/
def walkValue (found : JsString → Bool) : JsValue → Bool
  | .string text => found text
  | .array _ slots _ => walkSlots found slots
  | .object header properties =>
      !header.isProxy && header.prototype == .objectPrototype && walkProperties found properties
  | _ => false

/-- The elements of an array. -/
def walkSlots (found : JsString → Bool) : List (Option JsProperty) → Bool
  | [] => false
  | slot :: rest => walkSlot found slot || walkSlots found rest

/-- One element. -/
def walkSlot (found : JsString → Bool) : Option JsProperty → Bool
  | none => false
  | some property => walkProperty found property

/-- The own properties of a record. -/
def walkProperties (found : JsString → Bool) : List (JsString × JsProperty) → Bool
  | [] => false
  | property :: rest => walkEntry found property || walkProperties found rest

/-- One own property. -/
def walkEntry (found : JsString → Bool) : JsString × JsProperty → Bool
  | (_, property) => walkProperty found property

/-- The value of a property. -/
def walkProperty (found : JsString → Bool) : JsProperty → Bool
  | .data _ value => walkValue found value
  | .accessor _ => false

end

/-- `DOCUMENT_MAX_UTF8_BYTES`. -/
def documentMaxUtf8Bytes : Nat := 65536

/-- `MAX_REVISION_NUMBER`. -/
def maxRevisionNumber : Nat := 1000000

/-- `MAINTAINER_REVIEWED_ADVISORY_SCHEMA_VERSION`. -/
def maintainerReviewedAdvisorySchemaVersion : JsString :=
  js "maintainer_reviewed_advisory_document_v1"

/-- `MAINTAINER_REVIEWED_SOURCE` and `MAINTAINER_REVIEWED_ORIGIN`. -/
def maintainerReviewedOrigin : JsString := js "maintainer_reviewed_advisory"

/-- `ADVISORY_FAMILY_ID_PATTERN`, `/^[A-Z0-9][A-Z0-9._+-]{0,511}$/`. -/
def isAdvisoryFamilyId : JsString → Bool
  | [] => false
  | first :: rest =>
      (isUpper first || isDigit first) && rest.length ≤ 511 &&
        rest.all fun u => isUpper u || isDigit u || u == unit '.' || u == unit '_' ||
          u == unit '+' || u == unit '-'

/-- `IDENTITY_PATTERN`, `/^[A-Za-z0-9][A-Za-z0-9._@-]{0,127}$/`. -/
def isIdentityText : JsString → Bool
  | [] => false
  | first :: rest =>
      (isUpper first || isLower first || isDigit first) && rest.length ≤ 127 &&
        rest.all fun u => isUpper u || isLower u || isDigit u || u == unit '.' ||
          u == unit '_' || u == unit '@' || u == unit '-'

/-- `CANONICAL_CVE_PATTERN`, `/^CVE-[0-9]{4}-[0-9]{4,19}$/`. -/
def isCanonicalCve (value : JsString) : Bool :=
  match value.splitOn (unit '-') with
  | [cve, year, number] =>
      cve == js "CVE" && year.length == 4 && year.all isDigit &&
        4 ≤ number.length && number.length ≤ 19 && number.all isDigit
  | _ => false

/-- The integer from 1 to the bound that a value is. -/
def boundedPositive (value : JsValue) (maximum : Nat) : Option Nat :=
  match value with
  | .number (.finite q) =>
      if q.den = 1 ∧ 1 ≤ q.num ∧ q.num ≤ maximum then some q.num.toNat else none
  | _ => none

/-- The aliases: none, or one canonical CVE. -/
def parseAliases (value : JsValue) : Except SubmissionRejection (List JsString) := do
  let aliases ← orRefuse (arrayItems value) ⟨.ineligibleSchema, js "aliases must be an array"⟩
  refuseWhen (aliases.length > 1)
    ⟨.ineligibleVulnerabilityBinding, js "multiple CVE aliases fail closed"⟩
  aliases.mapM fun value =>
    orRefuse (value.string?.filter fun text =>
        !hasProhibitedControls text && isCanonicalCve text && utf8ByteLength text ≤ 28)
      (⟨.ineligibleVulnerabilityBinding, js "alias is not one canonical CVE"⟩ :
        SubmissionRejection)

/-- The parts of `packageName`: a scope before the first slash, when it begins with `@` and
is not empty. -/
def packageParts (packageName : JsString) : NpmIdentityParts :=
  match cutAtFirst (unit '/') packageName with
  | (scope, some rest) =>
      if packageName.head? = some (unit '@') ∧ 1 < scope.length then
        ⟨selectedFirstEcosystem, some scope, rest, packageName⟩
      else ⟨selectedFirstEcosystem, none, packageName, packageName⟩
  | (_, none) => ⟨selectedFirstEcosystem, none, packageName, packageName⟩

/-- The package fields. -/
def parsePackage (properties : List (JsString × JsProperty)) :
    Except SubmissionRejection (NpmIdentity × Option JsString) := do
  refuseWhen ((readOwnData properties (js "packageEcosystem")).string? !=
      some selectedFirstEcosystem)
    ⟨.ineligiblePackage, js "package ecosystem must be npm"⟩
  let packageName ← orRefuse ((readOwnData properties (js "packageName")).string?.filter
      fun text => !hasProhibitedControls text)
    (⟨.ineligiblePackage, js "packageName is malformed"⟩ : SubmissionRejection)
  let parts := packageParts packageName
  refuseWhen (parts.observedName.contains (unit '/'))
    ⟨.ineligiblePackage, js "packageName is malformed"⟩
  match classifyNpmPackageIdentityFromParts parts with
  | .valid identity =>
      match readOwnData properties (js "packageUrl") with
      | .null => return (identity, none)
      | value => do
          let packageUrl ← orRefuse (value.string?.filter fun text =>
              !hasProhibitedControls text)
            (⟨.ineligiblePackage, js "packageUrl is malformed"⟩ : SubmissionRejection)
          match (classifyNpmPackageIdentityFromPurl packageUrl).1 with
          | .valid purl =>
              if purl.canonicalName = identity.canonicalName then
                return (identity, some packageUrl)
              else .error ⟨.ineligiblePackage,
                js "packageUrl does not agree with package identity"⟩
          | _ => .error ⟨.ineligiblePackage,
              js "packageUrl does not agree with package identity"⟩
  | _ => .error ⟨.ineligiblePackage, js "package identity is not a committed npm identity"⟩

/-- The superseded revision: `null` or a digest. -/
def parseSupersedes (value : JsValue) : Except SubmissionRejection (Option JsString) :=
  match value with
  | .null => .ok none
  | value =>
      match value.string?.filter isSha256Hex with
      | some digest => .ok (some digest)
      | none => .error ⟨.ineligibleSchema,
          js "supersedesRevisionId must be a revision digest or null"⟩

/-- How a document is measured and how its text is read.  `stringify` is `JSON.stringify`,
which throws (the outer `none`) or has no text (the inner `none`); `jsonHasDuplicateKeys`
answers `none` for `invalid`; `parseUntrustedJson` is the secure JSON reader. -/
structure DocumentReading where
  stringify : JsValue → Option (Option JsString)
  jsonHasDuplicateKeys : JsString → Option Bool
  parseUntrustedJson : JsString → Option JsValue

variable (reading : DocumentReading)

/-- The measure of a document. -/
def checkMeasure (input : JsValue) : Except SubmissionRejection Unit := do
  let measured ← orRefuse (reading.stringify input)
    ⟨.ineligibleSchema, js "document could not be measured"⟩
  refuseWhen (measured.all fun text => utf8ByteLength text > documentMaxUtf8Bytes)
    ⟨.ineligibleSchema, js "document exceeds the byte ceiling"⟩

/-- `parseMaintainerReviewedAdvisoryDocument` for a value that is no text. -/
def parseDocumentValue (input : JsValue) :
    Except SubmissionRejection MaintainerReviewedAdvisoryDocument := do
  let (properties, header) ← orRefuse (plainRecord input)
    ⟨.ineligibleSchema, js "advisory document must be a plain object"⟩
  let keys ← orRefuse (ownDataProperties header properties)
    ⟨.ineligibleSchema, js "advisory document rejected non-data properties"⟩
  checkKeys keys
  checkMeasure reading input
  refuseWhen (walkValue originTokens.contains input)
    ⟨.ineligibleSynthetic, js "synthetic, provider, or unrecognized origin token"⟩
  refuseWhen ((readOwnData properties (js "schemaVersion")).string? !=
      some maintainerReviewedAdvisorySchemaVersion)
    ⟨.ineligibleSchema, js "schemaVersion is not the maintainer-reviewed document schema"⟩
  let advisoryFamilyId ← orRefuse
    ((readOwnData properties (js "advisoryFamilyId")).string?.filter fun text =>
      !hasProhibitedControls text && isAdvisoryFamilyId text && utf8ByteLength text ≤ 512)
    ⟨.ineligibleIdentity, js "advisoryFamilyId is malformed"⟩
  let revisionNumber ← orRefuse
    (boundedPositive (readOwnData properties (js "revisionNumber")) maxRevisionNumber)
    ⟨.ineligibleSchema, js "revisionNumber is not a bounded positive integer"⟩
  let vulnerabilityId ← orRefuse
    ((readOwnData properties (js "vulnerabilityId")).string?.filter isUuidV4)
    ⟨.ineligibleVulnerabilityBinding, js "vulnerabilityId must be a lowercase UUID v4"⟩
  let aliases ← parseAliases (readOwnData properties (js "aliases"))
  let (identity, packageUrl) ← parsePackage properties
  let affectedRanges ← (MaintainerDocument.parseRanges
    (readOwnData properties (js "affectedRanges"))).mapError
      (fun reason => ⟨.ineligibleRange, reason⟩)
  let withdrawal ← orRefuse
    (wordAmong properties (js "withdrawal") [js "not_withdrawn", js "withdrawn"])
    ⟨.ineligibleSchema, js "withdrawal must be explicit"⟩
  let supersedesRevisionId ← parseSupersedes
    (readOwnData properties (js "supersedesRevisionId"))
  let sourceLicenseDecision ← (parseLicense
    (readOwnData properties (js "sourceLicenseDecision"))).mapError
      (fun reason => ⟨.ineligibleLicense, reason⟩)
  let authorIdentity ← orRefuse
    ((readOwnData properties (js "authorIdentity")).string?.filter fun text =>
      0 < text.length && !hasProhibitedControls text && utf8ByteLength text ≤ 256 &&
        isIdentityText text)
    ⟨.ineligibleIdentity, js "authorIdentity is not an exact identity"⟩
  let submissionCorrelationId ← orRefuse
    ((readOwnData properties (js "submissionCorrelationId")).string?.filter isUuidV4)
    ⟨.ineligibleSchema, js "submissionCorrelationId must be a lowercase UUID v4"⟩
  return {
    schemaVersion := maintainerReviewedAdvisorySchemaVersion
    sourceClassification := maintainerReviewedOrigin
    origin := maintainerReviewedOrigin
    advisoryFamilyId, revisionNumber, vulnerabilityId
    vulnerabilityBinding :=
      if aliases.length = 1 then js "exact_id_with_one_cve_alias"
      else js "exact_id_without_cve_alias"
    aliases
    packageEcosystem := selectedFirstEcosystem
    packageName := identity.canonicalName
    packageIdentityKey := identity.identityKey
    packageUrl, affectedRanges, withdrawal, supersedesRevisionId, sourceLicenseDecision
    authorIdentity, submissionCorrelationId }

/-- `parseMaintainerReviewedAdvisoryDocument`.  A text is read as JSON, and what it says is
parsed again; every such reading makes the text shorter, so that as many readings as the
text is long are enough. -/
def parseMaintainerReviewedAdvisoryDocument : Nat → JsValue →
    Except SubmissionRejection MaintainerReviewedAdvisoryDocument
  | readings, .string text =>
      match readings with
      | 0 => .error ⟨.ineligibleSchema, js "document JSON was rejected"⟩
      | readings + 1 =>
          if utf8ByteLength text > documentMaxUtf8Bytes then
            .error ⟨.ineligibleSchema, js "document exceeds the byte ceiling"⟩
          else
            match reading.jsonHasDuplicateKeys text with
            | none => .error ⟨.ineligibleSchema, js "document JSON is invalid"⟩
            | some true =>
                .error ⟨.ineligibleSchema, js "duplicate JSON keys are rejected"⟩
            | some false =>
                match reading.parseUntrustedJson text with
                | none => .error ⟨.ineligibleSchema, js "document JSON was rejected"⟩
                | some value => parseMaintainerReviewedAdvisoryDocument readings value
  | _, value => parseDocumentValue reading value

/-- The events of `maintainerRangesToCanonical`: the first entry of an object, when it has
an event's name. -/
def canonicalEvents (event : EventDraft) : List CanonicalRangeEvent :=
  match event.head? with
  | none => []
  | some (name, value) => if (eventKindOf name).isSome then [⟨name, value⟩] else []

/-- `maintainerRangesToCanonical`. -/
def maintainerRangesToCanonical (ranges : List AdvisoryRangeDraft) : List CanonicalRange :=
  ranges.map fun range =>
    { type := js "SEMVER", events := range.events.flatMap canonicalEvents }

end PatchPilot.Matching
