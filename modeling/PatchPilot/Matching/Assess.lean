import PatchPilot.Matching.Request
import Mathlib.Data.List.Dedup

set_option autoImplicit false

/-!
# Matching: the in-memory evaluator (`assess.ts`)

The second half of the evaluator: a request that has been read is screened, its
package identity is checked, its version and ranges are classified and decided,
and the result is published as evidence.  Every exit goes through `evidence`,
which removes repeated codes, puts them in catalog order and forms the replay
fingerprint.
-/

namespace PatchPilot.Matching

open PatchPilot.Foundation

/-! ## Evidence -/

/-- The arguments of `evidence` that do not vary between the late exits. -/
structure EvidenceBase where
  evaluationId : JsString
  ecosystem : JsString
  nameFingerprint : JsString
  namespaceFingerprint : JsString
  observedIdentityFingerprint : JsString
  sbomProvenanceFingerprint : JsString
  componentProvenanceFingerprint : JsString
  observedVersionProvenanceFingerprint : JsString
  rangeProvenanceFingerprint : JsString
  advisoryOriginFingerprint : JsString
  packageIdentityKey : Option JsString
  version : VersionBinding
  parsedVersionClassification : Option VersionClass
  advisory : AdvisoryBinding
  advisorySourceClassification : AdvisorySource
  advisoryEvidenceFingerprint : JsString
  advisoryEvidenceOrigin : EvidenceOrigin
  rangeCanonical : JsString
  rangeFingerprintMaterial : JsString

/-- `MatchEvaluationEvidence`, without the fields that are the same constant in
every record. -/
structure MatchEvaluationEvidence where
  evaluationId : JsString
  ecosystem : JsString
  packageIdentityKey : Option JsString
  rawObservedVersion : Option JsString
  rawObservedVersionSha256 : JsString
  parsedVersionClassification : Option VersionClass
  advisoryIdentity : JsString
  advisorySourceClassification : AdvisorySource
  advisoryEvidenceFingerprint : JsString
  advisoryEvidenceOrigin : EvidenceOrigin
  rangeFingerprint : JsString
  outcome : Outcome
  explanationCodes : List ExplanationCode
  replayFingerprint : JsString
  lifecyclePath : List LifecycleNode

/-- `orderExplanationCodes`: each code once, in catalog order. -/
def orderExplanationCodes (codes : List ExplanationCode) : List ExplanationCode :=
  sortBy compareExplanationCodes codes.dedup

/-- `codesAgree`. -/
def codesAgree (outcome : Outcome) (codes : List ExplanationCode) : Bool :=
  codes.length > 0 && codes.all (explanationOutcome · == outcome)

/-- The text of the field `parsedVersionClassification`. -/
def parsedVersionText : Option VersionClass → JsString
  | none => js "not_classified"
  | some versionClass => versionClass.text

/-- `replayMaterial`. -/
def replayMaterial (input : EvidenceBase) (outcome : Outcome)
    (codes : List ExplanationCode) : JsString :=
  joinWith (js "|")
    [canonicalField (js "policy") firstEcosystemMatchingPolicyId,
     canonicalField (js "evaluator") firstEcosystemEvaluatorVersion,
     canonicalField (js "ecosystem") input.ecosystem,
     canonicalField (js "name") input.nameFingerprint,
     canonicalField (js "namespace") input.namespaceFingerprint,
     canonicalField (js "observedIdentity") input.observedIdentityFingerprint,
     canonicalField (js "sbomProvenance") input.sbomProvenanceFingerprint,
     canonicalField (js "componentProvenance") input.componentProvenanceFingerprint,
     canonicalField (js "versionProvenance") input.observedVersionProvenanceFingerprint,
     canonicalField (js "rangeProvenance") input.rangeProvenanceFingerprint,
     canonicalField (js "requestOrigin") input.advisoryOriginFingerprint,
     canonicalField (js "identity") (input.packageIdentityKey.getD []),
     canonicalField (js "version") input.version.versionFingerprint,
     canonicalField (js "versionClass") (parsedVersionText input.parsedVersionClassification),
     canonicalField (js "advisory") input.advisory.advisoryFingerprint,
     canonicalField (js "source") input.advisorySourceClassification.text,
     canonicalField (js "origin") input.advisoryEvidenceOrigin.text,
     canonicalField (js "advisoryFingerprint") input.advisoryEvidenceFingerprint,
     canonicalField (js "ranges") input.rangeFingerprintMaterial,
     canonicalField (js "outcome") outcome.text,
     canonicalField (js "explanations") (joinWith (js ",") (codes.map ExplanationCode.text))]

section Hash

variable (sha256 : JsString → JsString)

/-- `evidence`.  The exits that leave the outcome out pass `unknown`, its
default. -/
def evidence (input : EvidenceBase) (suppliedOutcome : Outcome)
    (explanationCodes : List ExplanationCode) (lifecyclePath : List LifecycleNode) :
    MatchEvaluationEvidence :=
  let deduped := orderExplanationCodes explanationCodes
  let bounded : Bool := deduped.length > firstEcosystemMaxExplanationCodes
  let requestedOutcome := if bounded then .unknown else suppliedOutcome
  let ordered :=
    if bounded then orderExplanationCodes [.unknownCapacityExceeded] else deduped
  let blocked := !admitEvaluationOutcome requestedOutcome ||
    !codesAgree requestedOutcome ordered
  let outcome := if blocked then .unknown else requestedOutcome
  let publishedCodes := if blocked then [.unknownInternalFailure] else ordered
  let publishedPath :=
    if blocked then [.received, .unknown, .evidenceConstructed] else lifecyclePath
  let material := replayMaterial input outcome publishedCodes
  { evaluationId := input.evaluationId
    ecosystem := input.ecosystem
    packageIdentityKey := input.packageIdentityKey
    rawObservedVersion := input.version.rawObservedVersion
    rawObservedVersionSha256 := input.version.rawObservedVersionSha256
    parsedVersionClassification := input.parsedVersionClassification
    advisoryIdentity := input.advisory.advisoryIdentity
    advisorySourceClassification := input.advisorySourceClassification
    advisoryEvidenceFingerprint := input.advisoryEvidenceFingerprint
    advisoryEvidenceOrigin := input.advisoryEvidenceOrigin
    rangeFingerprint := sha256 input.rangeCanonical
    outcome := outcome
    explanationCodes := publishedCodes
    replayFingerprint :=
      if blocked then sha256 (js "internal|" ++ material) else sha256 material
    lifecyclePath := publishedPath }

/-! ## Budget and binding -/

/-- The token of the first list that exceeded its capacity. -/
def structuralToken (r : EvaluationRequest) : Option JsString :=
  match r.affectedRanges, r.explicitAffectedVersions with
  | .capacity token, _ => some token
  | .ok _, .capacity token => some token
  | .ok _, .ok _ => none

/-- The items of a list, none when its capacity was exceeded. -/
def ParsedList.items {α : Type} : ParsedList α → List α
  | .ok items => items
  | .capacity _ => []

/-- `canonicalRanges`. -/
def canonicalRanges (r : EvaluationRequest) : JsString :=
  (structuralToken r).getD
    (rangeCanonical r.affectedRanges.items r.explicitAffectedVersions.items)

/-- `budgetFields`. -/
def budgetFields (r : EvaluationRequest) : List JsString :=
  [firstEcosystemRequestSchemaVersion, r.evaluatorPolicyId, r.evaluatorVersion,
   r.ecosystem, r.ns.getD [], r.name, r.observedIdentity, r.rawObservedVersion,
   r.advisoryIdentity, r.advisorySourceClassification, r.advisoryEvidenceFingerprint,
   r.advisoryEvidenceOrigin, r.advisoryRevisionDisposition, r.rangeType,
   r.evaluationCorrelationId, r.sbomSourceClassification, r.componentIdentityProvenance,
   r.observedVersionProvenance, r.rangeEvidenceProvenance, canonicalRanges r]

/-- The loop over the budget fields, with the characters counted so far. -/
def charactersExceedBudget : List JsString → Nat → Bool
  | [], _ => false
  | field :: rest, characters =>
      exceedsInputBudget field ||
      (characters + field.length > firstEcosystemEvaluationInputMaxUtf8Bytes ||
        charactersExceedBudget rest (characters + field.length))

/-- `overBudget`. -/
def overBudget (r : EvaluationRequest) : Bool :=
  (versionBinding sha256 r.rawObservedVersion).overInput ||
  (advisoryBinding sha256 r.advisoryIdentity).overInput ||
  charactersExceedBudget (budgetFields r) ((budgetFields r).length - 1) ||
  utf8ByteLength (joinWith (js "|") (budgetFields r)) >
    firstEcosystemEvaluationInputMaxUtf8Bytes

/-- The four provenance fields are all `synthetic`. -/
def syntheticProvenance (r : EvaluationRequest) : Bool :=
  r.sbomSourceClassification == js "synthetic" &&
  r.componentIdentityProvenance == js "synthetic" &&
  r.observedVersionProvenance == js "synthetic" &&
  r.rangeEvidenceProvenance == js "synthetic"

/-- `base`. -/
def evidenceBase (r : EvaluationRequest) : EvidenceBase :=
  let advisorySource := closedAdvisorySource r.advisorySourceClassification
  { evaluationId := r.evaluationCorrelationId
    ecosystem := r.ecosystem
    nameFingerprint := digestBounded sha256 r.name
    namespaceFingerprint := digestBounded sha256 (r.ns.getD [])
    observedIdentityFingerprint := digestBounded sha256 r.observedIdentity
    sbomProvenanceFingerprint := digestBounded sha256 r.sbomSourceClassification
    componentProvenanceFingerprint := digestBounded sha256 r.componentIdentityProvenance
    observedVersionProvenanceFingerprint :=
      digestBounded sha256 r.observedVersionProvenance
    rangeProvenanceFingerprint := digestBounded sha256 r.rangeEvidenceProvenance
    advisoryOriginFingerprint := digestBounded sha256 r.advisoryEvidenceOrigin
    packageIdentityKey := none
    version := versionBinding sha256 r.rawObservedVersion
    parsedVersionClassification := none
    advisory := advisoryBinding sha256 r.advisoryIdentity
    advisorySourceClassification := advisorySource
    advisoryEvidenceFingerprint :=
      if isSha256Hex r.advisoryEvidenceFingerprint then r.advisoryEvidenceFingerprint
      else digestBounded sha256 r.advisoryEvidenceFingerprint
    advisoryEvidenceOrigin :=
      if r.advisoryEvidenceOrigin == js "synthetic" && advisorySource == .syntheticFixture &&
          syntheticProvenance r then .synthetic
      else .untrustedNotRecorded
    rangeCanonical := canonicalRanges r
    rangeFingerprintMaterial :=
      if overBudget sha256 r then js "sha256:" ++ digestBounded sha256 (canonicalRanges r)
      else canonicalRanges r }

/-! ## The exits -/

/-- What the checks before the identity check say about a request. -/
inductive Screening
  | rejected
  | unknown (code : ExplanationCode)
  | passed
  deriving DecidableEq

/-- The checks before the identity check, in the order of the source. -/
def screenRequest (r : EvaluationRequest) : Screening :=
  let advisorySource := closedAdvisorySource r.advisorySourceClassification
  if overBudget sha256 r then .unknown .unknownCapacityExceeded
  else if !syntheticProvenance r then .unknown .unknownIncompleteEvidence
  else if advisorySource = .cisaKev then .unknown .unknownKevNotAffectednessAuthority
  else if r.advisoryEvidenceOrigin ≠ js "synthetic" ∨ advisorySource ≠ .syntheticFixture ∨
      !isSha256Hex r.advisoryEvidenceFingerprint ∨
      utf8ByteLength r.advisoryEvidenceFingerprint ≠ firstEcosystemFingerprintUtf8Bytes then
    .unknown .unknownUntrustedAdvisoryEvidence
  else if utf8ByteLength r.advisoryIdentity > firstEcosystemAdvisoryIdentityMaxUtf8Bytes then
    .unknown .unknownCapacityExceeded
  else if r.advisoryRevisionDisposition = js "withdrawn" then
    .unknown .unknownWithdrawnAdvisory
  else if r.advisoryRevisionDisposition ≠ js "active_synthetic" then .rejected
  else if r.evaluatorPolicyId ≠ firstEcosystemMatchingPolicyId then
    .unknown .unknownPolicyMismatch
  else if r.evaluatorVersion ≠ firstEcosystemEvaluatorVersion then
    .unknown .unknownEvaluatorUnavailable
  else if r.ecosystem ≠ selectedFirstEcosystem then .unknown .unknownUnsupportedEcosystem
  else .passed

/-- What the identity check says about a request. -/
inductive IdentityCheck
  | unknown (code : ExplanationCode)
  | unknownWithKey (code : ExplanationCode) (identityKey : JsString)
  | passed (identityKey : JsString)
  deriving DecidableEq

/-- The identity check: the identity must be valid, agree with the parts of the
request, and a version in the package URL must be the observed one. -/
def checkIdentity (r : EvaluationRequest) : IdentityCheck :=
  let (identity, purlVersion) :=
    if (js "pkg:").isPrefixOf r.observedIdentity then
      classifyNpmPackageIdentityFromPurl r.observedIdentity
    else
      (classifyNpmPackageIdentityFromParts
        ⟨r.ecosystem, r.ns, r.name, r.observedIdentity⟩, none)
  match identity with
  | .valid identity =>
      if identity.ns ≠ r.ns ∨ identity.name ≠ r.name ∨ identity.ecosystem ≠ r.ecosystem then
        .unknown .unknownInvalidPackageIdentity
      else if purlVersion.any (· ≠ r.rawObservedVersion) then
        .unknownWithKey .unknownIncompleteEvidence identity.identityKey
      else .passed identity.identityKey
  | .capacityExceeded _ _ => .unknown .unknownCapacityExceeded
  | _ => .unknown .unknownInvalidPackageIdentity

/-- The outcome, codes and path of a request whose identity is valid and whose
lists were read: the version and range classifications and the decision. -/
structure Assessment where
  parsedVersionClassification : VersionClass
  outcome : Outcome
  codes : List ExplanationCode
  lifecyclePath : List LifecycleNode

/-- The lifecycle path before the outcome. -/
def pathBeforeOutcome (versionClass : VersionClass)
    (rangeClass : RangeStructureClassification) : List LifecycleNode :=
  [.received, .identityValidated] ++
  if versionClass = .validStrictSemver then
    [.versionValidated, .advisoryEvidenceValidated] ++
    if rangeClass = .wellFormed then [.rangeValidated, .evaluationReady] else []
  else []

section Remember

variable {m : Type → Type} [Monad m] (remember : JsString → m ObservedVersionClassification)

/-- The classification and decision of `assessUntrustedEvaluationRequest`.  The
`catch` around the decision belongs to the comparator fault that only tests can
set. -/
def assessRanges (rawObservedVersion rangeType : JsString)
    (ranges : List AdvisoryRangeDraft) (explicitVersions : List JsString) :
    m Assessment := do
  let version ← remember rawObservedVersion
  let rangeClass ← classifyAffectedRangeStructure remember rangeType ranges explicitVersions
  let codes := versionCodes version ++ (rangeStructureCode rangeClass).toList
  let path := pathBeforeOutcome version.classification rangeClass
  if codes.length = 0 ∧ version.classification = .validStrictSemver then do
    let decision ← decideNpmAffectedness remember version ranges explicitVersions
    pure ⟨version.classification, decision.outcome, codes ++ decision.codes,
      path ++ [decision.outcome.node, .evidenceConstructed]⟩
  else
    pure ⟨version.classification, .unknown, codes, path ++ [.unknown, .evidenceConstructed]⟩

end Remember

/-- `assessUntrustedEvaluationRequest` after the request has been read. -/
def assessRequest (r : EvaluationRequest) : Option MatchEvaluationEvidence :=
  let base := evidenceBase sha256 r
  match screenRequest sha256 r with
  | .rejected => none
  | .unknown code =>
      some (evidence sha256 base .unknown [code] [.received, .unknown, .evidenceConstructed])
  | .passed =>
      match checkIdentity r with
      | .unknown code =>
          some (evidence sha256 base .unknown [code]
            [.received, .unknown, .evidenceConstructed])
      | .unknownWithKey code identityKey =>
          some (evidence sha256 { base with packageIdentityKey := some identityKey } .unknown
            [code] [.received, .identityValidated, .unknown, .evidenceConstructed])
      | .passed identityKey =>
          if (structuralToken r).isSome then
            some (evidence sha256 { base with packageIdentityKey := some identityKey }
              .unknown [.unknownCapacityExceeded]
              [.received, .identityValidated, .unknown, .evidenceConstructed])
          else
            let assessment := (assessRanges rememberObservedNpmVersion r.rawObservedVersion
              r.rangeType r.affectedRanges.items r.explicitAffectedVersions.items
              Memo.empty).1
            some (evidence sha256
              { base with
                packageIdentityKey := some identityKey
                parsedVersionClassification := some assessment.parsedVersionClassification }
              assessment.outcome assessment.codes assessment.lifecyclePath)

/-- `assessFirstEcosystemEvaluation`, with `none` for a rejected request. -/
def assessFirstEcosystemEvaluation (input : JsValue) : Option MatchEvaluationEvidence :=
  (readEvaluationRequest sha256 input).bind (assessRequest sha256)

end Hash

end PatchPilot.Matching
