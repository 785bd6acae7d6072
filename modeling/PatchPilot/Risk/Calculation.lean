import PatchPilot.Policy.DefinitionDocument
import PatchPilot.Policy.Evaluate
import PatchPilot.Policy.FactDocument
import PatchPilot.Risk.FactAssembly

set_option autoImplicit false

/-!
# Risk: the calculation use case (`risk/calculation.ts`)

Under the lock of its finding, a calculation reads the records around the finding,
evaluates their facts under the published policy and hands one command to the
persistence: the documents to store, the fingerprint of the inputs, and the reason
for which the finding is calculated again.

The hash function and the canonical text of a value are ports of the use case.
-/

namespace PatchPilot.Risk

open PatchPilot.Foundation
open PatchPilot.Policy

/-! ## Stored documents -/

/-- `PRIORITY_CALCULATION_ENGINE_VERSION`. -/
def priorityCalculationEngineVersion : JsString := js "@patchpilot/policy-engine@1"

/-- `PersistedRiskCalculationReason`. -/
inductive RiskCalculationReason
  | initial | rescan | intelRefresh | policyChange | assetChange
  deriving DecidableEq, Inhabited

/-- `RiskCalculationFactorsV2Json`, without its schema version. -/
structure RiskCalculationFactors where
  factors : List PriorityFactorRow
  rules : List PriorityRuleRow
  escalationReasons : List EscalationReason
  evidenceSummary : EvidenceSummary
  weightedScoreCenti : Nat
  upliftCenti : Nat
  sources : RiskCalculationFactorSources
  deriving DecidableEq, Inhabited

/-- `RiskCalculationResultV1Json`, without its schema version. -/
structure RiskCalculationResult where
  priority : Nat
  priorityBand : PriorityBand
  dueDateRecommendationDays : Nat
  escalationRecommendation : Bool
  deriving DecidableEq, Inhabited

/-- `StoredRiskCalculation`. -/
structure StoredRiskCalculation where
  id : JsString
  organizationId : JsString
  findingId : JsString
  riskPolicyId : JsString
  policyVersion : Nat
  policyDefinitionSha256 : JsString
  calculatedAt : JsDate
  factors : RiskCalculationFactors
  result : RiskCalculationResult
  calculationReason : RiskCalculationReason
  inputFingerprint : JsString
  deriving DecidableEq, Inhabited

/-- `PersistFindingRiskCalculationCommand`. -/
structure PersistFindingRiskCalculationCommand where
  organizationId : JsString
  actorUserId : JsString
  membershipId : JsString
  findingId : JsString
  riskPolicyId : JsString
  policyDefinitionSha256 : JsString
  inputFingerprint : JsString
  calculationReason : RiskCalculationReason
  factors : RiskCalculationFactors
  result : RiskCalculationResult
  correlationId : JsString
  calculatedAt : JsDate
  deriving DecidableEq

/-- `factorsDocument`. -/
def factorsDocument (evaluation : PriorityEvaluation) (sources : RiskCalculationFactorSources) :
    RiskCalculationFactors where
  factors := evaluation.factors
  rules := evaluation.rules
  escalationReasons := evaluation.escalation.reasons
  evidenceSummary := evaluation.evidenceSummary
  weightedScoreCenti := evaluation.weightedScoreCenti
  upliftCenti := evaluation.upliftCenti
  sources := sources

/-- `resultDocument`. -/
def resultDocument (evaluation : PriorityEvaluation) : RiskCalculationResult where
  priority := evaluation.priority
  priorityBand := evaluation.priorityBand
  dueDateRecommendationDays := evaluation.dueDateRecommendationDays
  escalationRecommendation := evaluation.escalation.recommended

/-! ## The KEV source -/

/-- The catalog of a membership, unless it is unavailable. -/
def ActiveKevMembership.catalog? : ActiveKevMembership → Option ActiveKevCatalog
  | .unavailable => none
  | .absent catalog => some catalog
  | .listedInActiveKev catalog => some catalog

/-- `observedFreshness`. -/
def observedFreshness : KevObservedToken → ActiveKevCatalogFreshness
  | .listedCatalogCurrent => .current
  | .notListedCatalogCurrent => .current
  | .listedCatalogStale => .stale
  | .listedCatalogDisabledWithHistory => .disabledWithHistory

/-- `unknownFreshness`. -/
def unknownFreshness : KevUnknownToken → ActiveKevCatalogFreshness
  | .absentCatalogStale => .stale
  | .absentCatalogDisabledWithHistory => .disabledWithHistory

/-- `agreedFreshness`.  An unavailable fact has none. -/
def agreedFreshness (fact : KevListedFact) (catalogs : List ActiveKevCatalog) :
    Option ActiveKevCatalogFreshness :=
  let present := catalogs.map (·.freshness)
  match fact with
  | .observed value =>
      let expected := observedFreshness value
      if present ≠ [] ∧ present.all (· = expected) then some expected else none
  | .unknown value =>
      let expected := unknownFreshness value
      if present.all (fun freshness => freshness = .current || freshness = expected) then
        if present.contains expected then some expected else none
      else none
  | .unavailable _ => none

/-- `UTC_INSTANT_PATTERN` on `toISOString`: the year has four digits. -/
def isFourDigitYear (instant : Int) : Bool :=
  decide (-62167219200000 ≤ instant) && decide (instant ≤ 253402300799999)

/-- `kevCatalogSource`; `none` is `catalog_disagreement`. -/
def kevCatalogSource (fact : KevListedFact) (memberships : List ActiveKevMembership) :
    Option RiskCalculationKevSource :=
  match fact with
  | .unavailable reason => some (.unavailable reason)
  | _ => do
      let catalogs ← memberships.mapM ActiveKevMembership.catalog?
      let first ← catalogs.head?
      let releasedAt ← first.catalogReleasedAt
      if catalogs.all fun catalog => catalog.catalogVersion = first.catalogVersion ∧
          catalog.catalogReleasedAt = some releasedAt then do
        let freshness ← agreedFreshness fact catalogs
        if isFourDigitYear releasedAt then
          some (.catalog first.catalogVersion releasedAt freshness none none)
        else none
      else none

/-! ## The reason -/

/-- `toLowerCase`, on the hexadecimal text of a hash. -/
def lowerHex (hash : JsString) : JsString :=
  hash.map fun u => if isUpper u then u + 0x20 else u

/-- `factorById`: the only row of the factor. -/
def factorById (factors : List PriorityFactorRow) (factorId : FactorId) :
    Option PriorityFactorRow :=
  match factors.filter (·.factorId = factorId) with
  | [row] => some row
  | _ => none

/-- `kevUnavailableReason`. -/
def kevUnavailableReason : FactorExplanationCode → Option KevUnavailableReason
  | .kevUnavailableNoCanonicalCve => some .noCanonicalCve
  | .kevUnavailableNoActiveGeneration => some .noActiveGeneration
  | _ => none

/-- `kevFactDiffers`. -/
def kevFactDiffers (row : PriorityFactorRow) (fact : KevListedFact) : Option Bool :=
  if row.inputState ≠ fact.state then some true
  else
    match fact with
    | .unavailable reason => do
        let stored ← kevUnavailableReason row.explanationCode
        some (decide (stored ≠ reason))
    | .observed value => some (decide (row.observedValue ≠ some (tokenValue value)))
    | .unknown value => some (decide (row.observedValue ≠ some (tokenValue value)))

/-- `ASSET_CONTEXT_FACTORS`. -/
inductive AssetContextFactorId
  | environmentSensitivity | internetExposure | businessCriticality
  | assetDataClassification
  deriving DecidableEq

def assetContextFactors : List AssetContextFactorId :=
  [.environmentSensitivity, .internetExposure, .businessCriticality, .assetDataClassification]

def AssetContextFactorId.factorId : AssetContextFactorId → FactorId
  | .environmentSensitivity => .environmentSensitivity
  | .internetExposure => .internetExposure
  | .businessCriticality => .businessCriticality
  | .assetDataClassification => .assetDataClassification

/-- `AssetContextFact`: a fact whose tokens are words. -/
abbrev AssetContextFact := Fact JsString JsString Unit

/-- A fact of the asset with its tokens as words. -/
def factWords {ω υ : Type} (observed : ω → JsString) (unknown : υ → JsString) :
    Fact ω υ Unit → AssetContextFact
  | .observed value => .observed (observed value)
  | .unknown value => .unknown (unknown value)
  | .unavailable _ => .unavailable ()

/-- `assetContextFact`. -/
def assetContextFact (facts : PriorityFactInput) : AssetContextFactorId → AssetContextFact
  | .environmentSensitivity => factWords text Empty.elim facts.environmentSensitivity
  | .internetExposure => factWords text text facts.internetExposure
  | .businessCriticality => factWords text text facts.businessCriticality
  | .assetDataClassification => factWords text text facts.assetDataClassification

/-- `contextFactDiffers`. -/
def contextFactDiffers (row : PriorityFactorRow) (fact : AssetContextFact) : Bool :=
  if row.inputState ≠ fact.state then true
  else
    match fact with
    | .observed value => decide (row.observedValue ≠ some (.text value))
    | .unknown value =>
        decide (row.observedValue ≠ none) && decide (row.observedValue ≠ some (.text value))
    | .unavailable _ => decide (row.observedValue ≠ none)

/-- The loop over `ASSET_CONTEXT_FACTORS`. -/
def contextReason (factors : List PriorityFactorRow) (facts : PriorityFactInput) :
    List AssetContextFactorId → Option RiskCalculationReason
  | [] => some .rescan
  | context :: rest =>
      match factorById factors context.factorId with
      | none => none
      | some row =>
          if contextFactDiffers row (assetContextFact facts context) then some .assetChange
          else contextReason factors facts rest

/-- `reasonAgainstCurrent`. -/
def reasonAgainstCurrent (current : StoredRiskCalculation) (policyDefinitionSha256 : JsString)
    (facts : PriorityFactInput) : Option RiskCalculationReason :=
  if lowerHex current.policyDefinitionSha256 ≠ lowerHex policyDefinitionSha256 then
    some .policyChange
  else
    match factorById current.factors.factors .kevListed with
    | none => none
    | some row =>
        match kevFactDiffers row facts.kevListed with
        | none => none
        | some true => some .intelRefresh
        | some false => contextReason current.factors.factors facts assetContextFactors

/-! ## The policy -/

/-- A lookup in the persistence. -/
inductive Lookup (α : Type)
  | found (value : α)
  | notFound
  | unavailable
  deriving DecidableEq

/-- `AdmittedPriorityPolicyPair`. -/
structure AdmittedPriorityPolicyPair where
  engineVersion : JsString
  policyDefinitionSha256 : JsString
  validationEntryId : JsString
  deriving DecidableEq

/-- The hash of the built-in definition in `ADMITTED_BUILTIN_PRIORITY_POLICY_PAIR`. -/
def admittedBuiltinSha256 : JsString :=
  js "7c1815d456ff6dcf9e19c218bcd5eaba73c265abc911027c3f50df41bb8504f7"

/-- `ADMITTED_PRIORITY_POLICY_PAIRS`. -/
def admittedPriorityPolicyPairs : List AdmittedPriorityPolicyPair :=
  [⟨priorityCalculationEngineVersion, admittedBuiltinSha256, js "V-0001"⟩]

/-- `isAdmittedPriorityPolicyPair`. -/
def isAdmittedPriorityPolicyPair (pairs : List AdmittedPriorityPolicyPair)
    (engineVersion policyDefinitionSha256 : JsString) : Bool :=
  if engineVersion.length = 0 ∨
      ¬ (policyDefinitionSha256.length = 64 ∧ policyDefinitionSha256.all isLowerHex) then false
  else
    pairs.any fun pair =>
      decide (pair.engineVersion = engineVersion ∧
        pair.policyDefinitionSha256 = policyDefinitionSha256 ∧
        0 < pair.validationEntryId.length)

/-- `StoredPriorityPolicyView`. -/
structure StoredPriorityPolicyView where
  id : JsString
  policyKey : JsString
  version : Nat
  definition : JsValue

/-- `BUILTIN_PRIORITY_POLICY_KEY`. -/
def builtinPriorityPolicyKey : JsString := js "patchpilot.builtin.v0"

/-- `BUILTIN_PRIORITY_POLICY_VERSION`. -/
def builtinPriorityPolicyVersion : Nat := 2

/-- `CalculateFindingRiskDependencies`, with the hash function.  The engine is the
policy engine; `canonicalJson` is the text of a value, when it has one. -/
structure CalculateFindingRiskDependencies where
  canonicalJson : JsValue → Option JsString
  sha256Hex : JsString → JsString
  builtinDefinition : JsValue
  admittedPairs : List AdmittedPriorityPolicyPair
  createCorrelationId : Option JsString

/-- The reasons of `builtin_unavailable`. -/
inductive BuiltinUnavailableReason
  | absent | unreadable | version | mismatch | invalid
  deriving DecidableEq

/-- The reasons of `priority_policy_unavailable`. -/
inductive PriorityPolicyUnavailableReason
  | unvalidated | overridePresent
  deriving DecidableEq

/-- The failures of `CalculateFindingRiskResult` that a decision can stop with.  The
reason of `override_rejected` is `unreadable`, the code of `kev_source_rejected` is
`catalog_disagreement`. -/
inductive CalculateFindingRiskFailure
  | notFound
  | unavailable
  | ineligible (reason : FindingRiskIneligibleReason)
  | canonicalCveRejected (code : FindingRiskCanonicalCveFailureCode)
  | kevMembershipError (code : FindingRiskKevMembershipErrorCode)
  | kevMappingRejected (code : FindingRiskKevMappingFailureCode)
  | kevSourceRejected
  | builtinUnavailable (reason : BuiltinUnavailableReason)
  | overrideRejected
  | priorityPolicyUnavailable (reason : PriorityPolicyUnavailableReason)
  | factsRejected (code : FindingRiskFactAssemblyFailureCode)
  | factInputRejected
  | canonicalJsonRejected
  | engineRejected
  | internalFailure
  deriving DecidableEq

/-- `validatePolicyDefinition`, with its brand. -/
def validated (input : JsValue) : Option ValidatedPriorityPolicyDefinition :=
  match h : validatePolicyDefinition input with
  | .ok definition => some ⟨definition, input, h⟩
  | .error _ => none

/-- `parseFactInput`, with its brand. -/
def parsed (input : JsValue) : Option ParsedPriorityFactInput :=
  match h : parseFactInput input with
  | .ok facts => some ⟨facts, input, h⟩
  | .error _ => none

/-- `SelectedPolicy`. -/
structure SelectedPolicy where
  definition : ValidatedPriorityPolicyDefinition
  riskPolicyId : JsString

/-- A value or the failure to stop with. -/
def orStop {α : Type} (failure : CalculateFindingRiskFailure) :
    Option α → Except CalculateFindingRiskFailure α
  | some value => .ok value
  | none => .error failure

/-- `validateBuiltinPolicy`. -/
def validateBuiltinPolicy (dependencies : CalculateFindingRiskDependencies)
    (builtin : Lookup StoredPriorityPolicyView) :
    Except CalculateFindingRiskFailure SelectedPolicy :=
  match builtin with
  | .notFound => .error (.builtinUnavailable .absent)
  | .unavailable => .error (.builtinUnavailable .unreadable)
  | .found policy =>
      if policy.version ≠ builtinPriorityPolicyVersion ∨
          policy.policyKey ≠ builtinPriorityPolicyKey then
        .error (.builtinUnavailable .version)
      else do
        let stored ← orStop .canonicalJsonRejected (dependencies.canonicalJson policy.definition)
        let injected ← orStop .canonicalJsonRejected
          (dependencies.canonicalJson dependencies.builtinDefinition)
        if stored ≠ injected then .error (.builtinUnavailable .mismatch)
        else do
          let definition ← orStop (.builtinUnavailable .invalid)
            (validated dependencies.builtinDefinition)
          pure ⟨definition, policy.id⟩

/-- The hash of a definition. -/
def definitionSha256 (dependencies : CalculateFindingRiskDependencies)
    (definition : PriorityPolicyDefinition) : Option JsString :=
  (dependencies.canonicalJson (definitionDocument definition)).map dependencies.sha256Hex

/-- `selectPolicy`. -/
def selectPolicy (dependencies : CalculateFindingRiskDependencies)
    (builtin override : Lookup StoredPriorityPolicyView) :
    Except CalculateFindingRiskFailure SelectedPolicy := do
  let policy ← validateBuiltinPolicy dependencies builtin
  match override with
  | .unavailable => .error .overrideRejected
  | .found _ => .error (.priorityPolicyUnavailable .overridePresent)
  | .notFound => do
      let hash ← orStop .canonicalJsonRejected
        (definitionSha256 dependencies policy.definition.val)
      if isAdmittedPriorityPolicyPair dependencies.admittedPairs
          priorityCalculationEngineVersion hash then pure policy
      else .error (.priorityPolicyUnavailable .unvalidated)

/-! ## The decision -/

/-- The result of `fingerprintCalculation`. -/
structure CalculationFingerprint where
  policyDefinitionSha256 : JsString
  inputFingerprint : JsString
  deriving DecidableEq

/-- `fingerprintCalculation`. -/
def fingerprintCalculation (dependencies : CalculateFindingRiskDependencies)
    (definition : PriorityPolicyDefinition) (facts : PriorityFactInput) :
    Option CalculationFingerprint := do
  let policyDefinitionSha256 ← definitionSha256 dependencies definition
  let material ← dependencies.canonicalJson (.record [
    (js "engineVersion", .string priorityCalculationEngineVersion),
    (js "policyDefinitionSha256", .string policyDefinitionSha256),
    (js "facts", facts.document)])
  pure ⟨policyDefinitionSha256, dependencies.sha256Hex material⟩

/-- `resolveReason`. -/
def resolveReason (current : Lookup StoredRiskCalculation) (policyDefinitionSha256 : JsString)
    (facts : PriorityFactInput) : Except CalculateFindingRiskFailure RiskCalculationReason :=
  match current with
  | .unavailable => .error .unavailable
  | .notFound => .ok .initial
  | .found calculation =>
      orStop .unavailable (reasonAgainstCurrent calculation policyDefinitionSha256 facts)

/-- `evaluationAccepted`. -/
def evaluationAccepted (evaluation : PriorityEvaluation) : Bool :=
  decide (evaluation.factors.map (·.factorId) = factorIds ∧
    evaluation.rules.map (·.ruleId) = [.kevMinimumBand, .kevEscalation])

/-- `AuthorizedFinding`. -/
structure AuthorizedFinding where
  organizationId : JsString
  userId : JsString
  membershipId : JsString
  findingId : JsString
  deriving DecidableEq

/-- `LockedPriorityCalculationContext`. -/
structure LockedPriorityCalculationContext where
  asOf : Option JsDate
  graph : Lookup FindingRiskSourceSnapshot
  builtin : Lookup StoredPriorityPolicyView
  override : Lookup StoredPriorityPolicyView
  current : Lookup StoredRiskCalculation
  queryActiveKevMembership : JsString →
    Except FindingRiskKevMembershipErrorCode ActiveKevMembership

/-- `readLockedSnapshot`. -/
def readLockedSnapshot (authorized : AuthorizedFinding)
    (context : LockedPriorityCalculationContext) :
    Except CalculateFindingRiskFailure (JsDate × FindingRiskSourceSnapshot) :=
  match context.graph, context.asOf with
  | .notFound, _ => .error .notFound
  | .unavailable, _ => .error .unavailable
  | .found _, none => .error .unavailable
  | .found snapshot, some asOf =>
      if snapshot.finding.id ≠ authorized.findingId ∨
          snapshot.finding.organizationId ≠ authorized.organizationId then .error .notFound
      else
        match assessFindingRiskEligibility snapshot with
        | some reason => .error (.ineligible reason)
        | none => .ok (asOf, snapshot)

/-- `decideLockedCalculation`: the command to persist, or the failure to stop with. -/
def decideLockedCalculation (dependencies : CalculateFindingRiskDependencies)
    (authorized : AuthorizedFinding) (context : LockedPriorityCalculationContext) :
    Except CalculateFindingRiskFailure PersistFindingRiskCalculationCommand := do
  let (asOf, snapshot) ← readLockedSnapshot authorized context
  let canonicalCves ← (selectFindingRiskCanonicalCves snapshot).mapError .canonicalCveRejected
  let memberships ← (canonicalCves.mapM context.queryActiveKevMembership).mapError
    .kevMembershipError
  let kevFact ← (mapActiveKevToListedFact canonicalCves.length memberships).mapError
    .kevMappingRejected
  let kevSource ← orStop .kevSourceRejected (kevCatalogSource kevFact memberships)
  let selected ← selectPolicy dependencies context.builtin context.override
  let facts ← (assemblePriorityFacts snapshot kevFact asOf).mapError .factsRejected
  let sources := assembleRiskCalculationFactorSources snapshot kevSource
  let parsedFacts ← orStop .factInputRejected (parsed facts.document)
  let fingerprint ← orStop .canonicalJsonRejected
    (fingerprintCalculation dependencies selected.definition.val parsedFacts.val)
  let reason ← resolveReason context.current fingerprint.policyDefinitionSha256 facts
  let evaluation ← (evaluatePriority selected.definition parsedFacts).mapError
    fun _ => .engineRejected
  if evaluationAccepted evaluation = false then .error .engineRejected
  else do
    let correlationId ← orStop .internalFailure dependencies.createCorrelationId
    pure {
      organizationId := authorized.organizationId
      actorUserId := authorized.userId
      membershipId := authorized.membershipId
      findingId := authorized.findingId
      riskPolicyId := selected.riskPolicyId
      policyDefinitionSha256 := fingerprint.policyDefinitionSha256
      inputFingerprint := fingerprint.inputFingerprint
      calculationReason := reason
      factors := factorsDocument evaluation sources
      result := resultDocument evaluation
      correlationId
      calculatedAt := asOf }

end PatchPilot.Risk
