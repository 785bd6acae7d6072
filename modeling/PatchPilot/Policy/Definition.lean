import PatchPilot.Foundation.Collector
import PatchPilot.Policy.Catalog

set_option autoImplicit false

/-!
# Policy: validating a definition (`plain-data.ts`, `definition.ts`)

A policy definition arrives as an untrusted value.  Every section is read into a
typed record and every violation becomes an issue with the path of the field;
the definition is accepted when no issue was found.

The source keeps the issues in an `IssueCollector`, which is the `Collect` monad
here.  A section that compares `issues.count` before and after is `guarded`.
-/

namespace PatchPilot.Policy

open PatchPilot.Foundation

/-! ## Plain data -/

/-- The entries of a plain record, in key order. -/
abbrev PlainRecord := List (JsString × JsValue)

namespace PlainRecord

/-- `record.keys()`. -/
def keys (record : PlainRecord) : List JsString := record.map Prod.fst

/-- `record.has(key)`. -/
def has (record : PlainRecord) (key : JsString) : Bool := record.keys.contains key

/-- `record.get(key)`. -/
def get (record : PlainRecord) (key : JsString) : JsValue :=
  ((record.find? fun entry => entry.1 = key).map Prod.snd).getD .undefined

end PlainRecord

/-- An own, enumerable data property as an entry. -/
def plainEntry : JsString × JsProperty → Option (JsString × JsValue)
  | (key, .data true value) => some (key, value)
  | _ => none

/-- `readPlainRecord`. -/
def readPlainRecord : JsValue → Option PlainRecord
  | .object header properties =>
      if header.prototype ≠ .objectPrototype ∧ header.prototype ≠ .nullPrototype then none
      else if header.symbolKeys > 0 then none
      else properties.mapM plainEntry
  | _ => none

/-- The result of `readPlainArray`. -/
inductive PlainArray
  | elements (values : List JsValue)
  | notArray
  | tooLong

/-- `/^(0|[1-9][0-9]*)$/`. -/
def isIndexKey : JsString → Bool
  | [] => false
  | first :: rest =>
      (first == unit '0' && rest.isEmpty) ||
        (isDigit first && first != unit '0' && rest.all isDigit)

/-- `readPlainArray`. -/
def readPlainArray (value : JsValue) (maxLength : Nat) : PlainArray :=
  match value with
  | .array header slots properties =>
      if header.prototype ≠ .arrayPrototype then .notArray
      else if slots.length > maxLength then .tooLong
      else
        match slots.mapM dataValue with
        | none => .notArray
        | some values =>
            if header.symbolKeys > 0 ∨ ¬ properties.all (fun p => isIndexKey p.1) then .notArray
            else .elements values
  | _ => .notArray

/-! ## The definition -/

/-- `FactorCatalogEntry`. -/
structure FactorCatalogEntry where
  factorId : FactorId
  description : JsString
  deriving DecidableEq

/-- `PolicyWeights`. -/
abbrev PolicyWeights := FactorId → Nat

/-- `AgeBucket`. -/
structure AgeBucket where
  minDays : Nat
  percent : Nat
  deriving DecidableEq

/-- `PolicyNormalization`: a percent for each token of each factor, and the age
buckets. -/
structure PolicyNormalization where
  sourceSeverity : SeverityRating → Nat
  kevListed : KevObservedToken → Nat
  environmentSensitivity : EnvironmentSensitivityToken → Nat
  internetExposure : InternetExposureToken → Nat
  businessCriticality : BusinessCriticalityToken → Nat
  assetDataClassification : AssetDataClassificationToken → Nat
  directDependency : DirectDependencyToken → Nat
  fixAvailable : FixAvailableToken → Nat
  findingAgeDays : List AgeBucket

/-- `PolicyBand`. -/
structure PolicyBand where
  band : PriorityBand
  minPriority : Nat
  dueDateRecommendationDays : Nat
  deriving DecidableEq

/-- `PriorityPolicyDefinition`.  The fields that can only have one value are left
out. -/
structure PriorityPolicyDefinition where
  policyKey : JsString
  factorCatalog : List FactorCatalogEntry
  weights : PolicyWeights
  normalization : PolicyNormalization
  bands : List PolicyBand
  kevMinimumBand : PriorityBand

/-- `PolicyDefinitionIssueCode`, without `definition_not_validated`, which
validation does not use. -/
inductive PolicyDefinitionIssueCode
  | notPlainObject | missingKey | unexpectedKey | invalidType | unsupportedSchemaVersion
  | engineContractMismatch | invalidPolicyKey | invalidDescription | unknownFactor
  | missingFactor | duplicateFactor | catalogOrderMismatch | countOutOfRange
  | nonFiniteNumber | notInteger | outOfRange | weightSumNot100 | withdrawnWeightNotZero
  | unknownToken | missingToken | percentOrderViolation | favorableExtremeNotZero
  | ageBucketStartNotZero | ageBucketOrderViolation | bandOrderMismatch
  | bandThresholdOrderViolation | lowestBandMinimumNotZero | dueDaysOrderViolation
  | invalidRule
  deriving DecidableEq

/-- `PolicyDefinitionIssue`. -/
structure PolicyDefinitionIssue where
  path : JsString
  code : PolicyDefinitionIssueCode
  deriving DecidableEq

/-- `PolicyDefinitionError`. -/
structure PolicyDefinitionError where
  issues : List PolicyDefinitionIssue
  deriving DecidableEq

/-- A computation with the `IssueCollector`. -/
abbrev Check := Collect PolicyDefinitionIssue

/-- Add an issue under a condition. -/
def addWhen (p : Prop) [Decidable p] (path : JsString) (code : PolicyDefinitionIssueCode) :
    Check Unit :=
  if p then .add ⟨path, code⟩ else pure ()

/-- Add an issue and give no value. -/
def reject {α : Type} (path : JsString) (code : PolicyDefinitionIssueCode) :
    Check (Option α) := do
  .add ⟨path, code⟩
  pure none

/-- `${path}.${key}`. -/
def fieldPath (path key : JsString) : JsString := path ++ js "." ++ key

/-- `${path}[${index}]`. -/
def indexPath (path : JsString) (index : Nat) : JsString :=
  path ++ js "[" ++ decimalText index ++ js "]"

/-! ## Readers -/

/-- `readRecordWithKeys`. -/
def readRecordWithKeys (value : JsValue) (keys : List JsString) (path : JsString)
    (unexpectedCode : PolicyDefinitionIssueCode) : Check (Option PlainRecord) :=
  match readPlainRecord value with
  | none => reject path .notPlainObject
  | some record => do
      record.keys.forM fun key => addWhen (key ∉ keys) path unexpectedCode
      keys.forM fun key => addWhen (record.has key = false) (fieldPath path key) .missingKey
      pure (if keys.all record.has then some record else none)

/-- `readInteger`, for bounds that are not negative. -/
def readInteger (value : JsValue) (min max : Nat) (path : JsString) : Check (Option Nat) :=
  match value with
  | .number (.finite value) =>
      if value.den ≠ 1 then reject path .notInteger
      else if value.num < min ∨ value.num > max then reject path .outOfRange
      else pure (some value.num.toNat)
  | .number _ => reject path .nonFiniteNumber
  | _ => reject path .invalidType

/-- `isNonIncreasing`. -/
def isNonIncreasing (values : List Nat) : Bool :=
  decide (values.IsChain fun previous value => value ≤ previous)

/-- `isNonDecreasing`. -/
def isNonDecreasing (values : List Nat) : Bool :=
  decide (values.IsChain fun previous value => previous ≤ value)

/-- `isStrictlyIncreasing`. -/
def isStrictlyIncreasing (values : List Nat) : Bool :=
  decide (values.IsChain fun previous value => previous < value)

/-- `isStrictlyDecreasing`. -/
def isStrictlyDecreasing (values : List Nat) : Bool :=
  decide (values.IsChain fun previous value => value < previous)

/-! ## Sections -/

/-- `[a-z0-9]`. -/
def isKeyUnit (u : UInt16) : Bool := isLower u || isDigit u

/-- `[._-]`. -/
def isKeySeparator (u : UInt16) : Bool := u == unit '.' || u == unit '_' || u == unit '-'

/-- What may follow a unit of the policy key: a key unit, or a separator and a key
unit. -/
def policyKeyContinues : JsString → Bool
  | [] => true
  | [u] => isKeyUnit u
  | u :: v :: rest =>
      if isKeyUnit u then policyKeyContinues (v :: rest)
      else isKeySeparator u && isKeyUnit v && policyKeyContinues rest

/-- `POLICY_KEY_PATTERN`. -/
def matchesPolicyKey : JsString → Bool
  | [] => false
  | u :: rest => isKeyUnit u && policyKeyContinues rest

/-- `validatePolicyKey`. -/
def validatePolicyKey (value : JsValue) : Check (Option JsString) :=
  match value.string? with
  | none => reject (js "policyKey") .invalidPolicyKey
  | some value =>
      if value.length > policyKeyMaxLength ∨ matchesPolicyKey value = false then
        reject (js "policyKey") .invalidPolicyKey
      else pure (some value)

/-- `hasControlCharacter`. -/
def hasControlCharacter (value : JsString) : Bool :=
  value.any fun u => u ≤ 0x1F || (0x7F ≤ u && u ≤ 0x9F)

/-- `validateDescription`. -/
def validateDescription (value : JsValue) (path : JsString) : Check (Option JsString) :=
  match value.string? with
  | none => reject path .invalidDescription
  | some value =>
      if (trim value).length = 0 ∨ value.length > factorDescriptionMaxLength ∨
          hasControlCharacter value then
        reject path .invalidDescription
      else pure (some value)

/-- The variables of the loop of `validateFactorCatalog`. -/
structure CatalogScan where
  catalog : List FactorCatalogEntry
  seen : List FactorId

/-- The loop body of `validateFactorCatalog`. -/
def scanCatalogEntry (scan : CatalogScan) (entry : JsValue × Nat) : Check CatalogScan := do
  let path := indexPath (js "factorCatalog") entry.2
  match ← readRecordWithKeys entry.1 [js "factorId", js "description"] path .unexpectedKey with
  | none => pure scan
  | some record => do
      let description ← validateDescription (record.get (js "description"))
        (fieldPath path (js "description"))
      match oneOf FactorId (record.get (js "factorId")) with
      | none => do
          .add ⟨js "factorCatalog", .unknownFactor⟩
          pure scan
      | some factorId =>
          if factorId ∈ scan.seen then do
            .add ⟨js "factorCatalog", .duplicateFactor⟩
            pure scan
          else
            pure ⟨scan.catalog ++ (description.map (FactorCatalogEntry.mk factorId)).toList,
              factorId :: scan.seen⟩

/-- `validateFactorCatalog`. -/
def validateFactorCatalog (value : JsValue) : Check (Option (List FactorCatalogEntry)) :=
  match readPlainArray value (factorIds.length * 4) with
  | .notArray => reject (js "factorCatalog") .invalidType
  | .tooLong => reject (js "factorCatalog") .countOutOfRange
  | .elements entries => do
      let scan ← Collect.guarded do
        let scan ← entries.zipIdx.foldlM scanCatalogEntry ⟨[], []⟩
        factorIds.forM fun factorId =>
          addWhen (factorId ∉ scan.seen) (fieldPath (js "factorCatalog") (text factorId))
            .missingFactor
        pure scan
      match scan with
      | none => pure none
      | some scan =>
          if scan.catalog.zipIdx.any fun entry =>
              some entry.1.factorId != factorIds[entry.2]? then
            reject (js "factorCatalog") .catalogOrderMismatch
          else pure (some scan.catalog)

/-- `validateWeights`. -/
def validateWeights (value : JsValue) : Check (Option PolicyWeights) := do
  match ← readRecordWithKeys value (factorIds.map text) (js "weights") .unknownFactor with
  | none => pure none
  | some record => do
      let read ← Collect.guarded <| factorIds.mapM fun factorId =>
        readInteger (record.get (text factorId)) 0 weightSum
          (fieldPath (js "weights") (text factorId))
      match read with
      | none => pure none
      | some read => Collect.guarded do
          let weights : PolicyWeights := fun factorId => (read[rank factorId]?.join).getD 0
          addWhen (weights informationalFactorId ≠ 0)
            (fieldPath (js "weights") (text informationalFactorId)) .withdrawnWeightNotZero
          addWhen ((factorIds.map weights).sum ≠ weightSum) (js "weights") .weightSumNot100
          pure weights

/-- The path of a factor's normalization. -/
def normalizationPath (factorId : FactorId) : JsString :=
  fieldPath (js "normalization") (text factorId)

/-- `validateTokenPercents`, for the factor whose observed tokens are `α`. -/
def validateTokenPercents (α : Type) [CatalogToken α] [DecidableEq α] (factorId : FactorId)
    (value : JsValue) : Check (Option (α → Nat)) :=
  let path := normalizationPath factorId
  match readPlainRecord value with
  | none => reject path .notPlainObject
  | some record => do
      let read ← Collect.guarded do
        record.keys.forM fun key =>
          addWhen (key ∉ (tokens : List α).map text) path .unknownToken
        (tokens : List α).mapM fun token =>
          if record.has (text token) then
            readInteger (record.get (text token)) 0 percentMax (fieldPath path (text token))
          else reject (fieldPath path (text token)) .missingToken
      match read with
      | none => pure none
      | some read => Collect.guarded do
          let ordered := read.reduceOption
          addWhen (isNonIncreasing ordered = false) path .percentOrderViolation
          addWhen (ordered.getLast? ≠ some 0) path .favorableExtremeNotZero
          pure fun token => (read[rank token]?.join).getD 0

/-- The loop body of `validateAgeBuckets`. -/
def readAgeBucket (path : JsString) (entry : JsValue × Nat) : Check (Option AgeBucket) := do
  let entryPath := indexPath path entry.2
  match ← readRecordWithKeys entry.1 [js "minDays", js "percent"] entryPath .unexpectedKey with
  | none => pure none
  | some record => do
      let minDays ← readInteger (record.get (js "minDays")) 0 findingAgeDaysMax
        (fieldPath entryPath (js "minDays"))
      let percent ← readInteger (record.get (js "percent")) 0 percentMax
        (fieldPath entryPath (js "percent"))
      pure (minDays.bind fun minDays => percent.map (AgeBucket.mk minDays))

/-- `validateAgeBuckets`. -/
def validateAgeBuckets (value : JsValue) : Check (Option (List AgeBucket)) :=
  let path := normalizationPath .findingAgeDays
  match readPlainArray value findingAgeBucketsMax with
  | .notArray => reject path .invalidType
  | .tooLong => reject path .countOutOfRange
  | .elements entries =>
      if entries.length = 0 then reject path .countOutOfRange
      else do
        let read ← Collect.guarded <| entries.zipIdx.mapM (readAgeBucket path)
        match read with
        | none => pure none
        | some read => Collect.guarded do
            let buckets := read.reduceOption
            addWhen (buckets.head?.map (·.minDays) ≠ some 0) path .ageBucketStartNotZero
            addWhen (buckets.head?.map (·.percent) ≠ some 0) path .favorableExtremeNotZero
            addWhen (isStrictlyIncreasing (buckets.map (·.minDays)) = false) path
              .ageBucketOrderViolation
            addWhen (isNonDecreasing (buckets.map (·.percent)) = false) path
              .percentOrderViolation
            pure buckets

/-- `NORMALIZATION_KEYS`. -/
def normalizationKeys : List JsString :=
  [FactorId.sourceSeverity, .kevListed, .environmentSensitivity, .internetExposure,
    .businessCriticality, .assetDataClassification, .directDependency, .fixAvailable,
    .findingAgeDays].map text

/-- `validateNormalization`. -/
def validateNormalization (value : JsValue) : Check (Option PolicyNormalization) := do
  match ← readRecordWithKeys value normalizationKeys (js "normalization") .unexpectedKey with
  | none => pure none
  | some record => do
      let section_ (factorId : FactorId) : JsValue := record.get (text factorId)
      let normalization ← Collect.guarded do
        let sourceSeverity ← validateTokenPercents SeverityRating .sourceSeverity
          (section_ .sourceSeverity)
        let kevListed ← validateTokenPercents KevObservedToken .kevListed (section_ .kevListed)
        let environmentSensitivity ← validateTokenPercents EnvironmentSensitivityToken
          .environmentSensitivity (section_ .environmentSensitivity)
        let internetExposure ← validateTokenPercents InternetExposureToken .internetExposure
          (section_ .internetExposure)
        let businessCriticality ← validateTokenPercents BusinessCriticalityToken
          .businessCriticality (section_ .businessCriticality)
        let assetDataClassification ← validateTokenPercents AssetDataClassificationToken
          .assetDataClassification (section_ .assetDataClassification)
        let directDependency ← validateTokenPercents DirectDependencyToken .directDependency
          (section_ .directDependency)
        let fixAvailable ← validateTokenPercents FixAvailableToken .fixAvailable
          (section_ .fixAvailable)
        let findingAgeDays ← validateAgeBuckets (section_ .findingAgeDays)
        pure do
          some (PolicyNormalization.mk (← sourceSeverity) (← kevListed)
            (← environmentSensitivity) (← internetExposure) (← businessCriticality)
            (← assetDataClassification) (← directDependency) (← fixAvailable)
            (← findingAgeDays))
      pure normalization.join

/-- The loop body of `validateBands`. -/
def readBand (entry : JsValue × Nat) : Check (Option PolicyBand) := do
  let path := indexPath (js "bands") entry.2
  match ← readRecordWithKeys entry.1
      [js "band", js "minPriority", js "dueDateRecommendationDays"] path .unexpectedKey with
  | none => pure none
  | some record => do
      let band := oneOf PriorityBand (record.get (js "band"))
      addWhen (band ≠ tokens[entry.2]?) (fieldPath path (js "band")) .bandOrderMismatch
      let minPriority ← readInteger (record.get (js "minPriority")) 0 priorityMax
        (fieldPath path (js "minPriority"))
      let dueDays ← readInteger (record.get (js "dueDateRecommendationDays"))
        dueDateRecommendationDaysMin dueDateRecommendationDaysMax
        (fieldPath path (js "dueDateRecommendationDays"))
      pure do
        some (PolicyBand.mk (← band) (← minPriority) (← dueDays))

/-- `validateBands`. -/
def validateBands (value : JsValue) : Check (Option (List PolicyBand)) :=
  match readPlainArray value (tokens : List PriorityBand).length with
  | .notArray => reject (js "bands") .invalidType
  | .tooLong => reject (js "bands") .countOutOfRange
  | .elements entries =>
      if entries.length ≠ (tokens : List PriorityBand).length then
        reject (js "bands") .countOutOfRange
      else do
        let read ← Collect.guarded <| entries.zipIdx.mapM readBand
        match read with
        | none => pure none
        | some read => Collect.guarded do
            let bands := read.reduceOption
            addWhen (isStrictlyDecreasing (bands.map (·.minPriority)) = false) (js "bands")
              .bandThresholdOrderViolation
            addWhen (bands.getLast?.map (·.minPriority) ≠ some 0) (js "bands")
              .lowestBandMinimumNotZero
            addWhen (isNonDecreasing (bands.map (·.dueDateRecommendationDays)) = false)
              (js "bands") .dueDaysOrderViolation
            pure bands

/-- `validateRules`: the band of the accepted rules. -/
def validateRules (value : JsValue) : Check (Option PriorityBand) := do
  match ← readRecordWithKeys value [js "kevMinimumBand", js "kevEscalation"] (js "rules")
      .unexpectedKey with
  | none => pure none
  | some record => do
      let kevMinimumBand := oneOf PriorityBand (record.get (js "kevMinimumBand"))
      let escalates := (record.get (js "kevEscalation")).string? = some kevEscalationRule
      addWhen (kevMinimumBand = none) (js "rules.kevMinimumBand") .invalidRule
      addWhen (¬ escalates) (js "rules.kevEscalation") .invalidRule
      pure (if escalates then kevMinimumBand else none)

/-! ## The whole definition -/

/-- `TOP_LEVEL_KEYS`. -/
def topLevelKeys : List JsString :=
  [js "schemaVersion", js "policyKey", js "engineContract", js "factorCatalog",
    js "weights", js "normalization", js "bands", js "rules"]

/-- A section of the definition, when it is there. -/
def validateWhenPresent {α : Type} (record : PlainRecord) (key : JsString)
    (validate : JsValue → Check (Option α)) : Check (Option α) :=
  if record.has key then validate (record.get key) else pure none

/-- The value is the number `n`. -/
def isNumber (value : JsValue) (n : Nat) : Bool :=
  match value with
  | .number value => value == .finite n
  | _ => false

/-- `validatePolicyDefinition` after the schema version has been accepted. -/
def checkPolicyDefinition (record : PlainRecord) :
    Check (Option PriorityPolicyDefinition) := do
  record.keys.forM fun key => addWhen (key ∉ topLevelKeys) (js "$") .unexpectedKey
  topLevelKeys.forM fun key => addWhen (record.has key = false) key .missingKey
  addWhen (record.has (js "engineContract") ∧
      (record.get (js "engineContract")).string? ≠ some priorityEngineContract)
    (js "engineContract") .engineContractMismatch
  let policyKey ← validateWhenPresent record (js "policyKey") validatePolicyKey
  let factorCatalog ← validateWhenPresent record (js "factorCatalog") validateFactorCatalog
  let weights ← validateWhenPresent record (js "weights") validateWeights
  let normalization ← validateWhenPresent record (js "normalization") validateNormalization
  let bands ← validateWhenPresent record (js "bands") validateBands
  let rules ← validateWhenPresent record (js "rules") validateRules
  pure do
    some (PriorityPolicyDefinition.mk (← policyKey) (← factorCatalog) (← weights)
      (← normalization) (← bands) (← rules))

/-- `validatePolicyDefinition`. -/
def validatePolicyDefinition (input : JsValue) :
    Except PolicyDefinitionError PriorityPolicyDefinition :=
  match readPlainRecord input with
  | none => .error ⟨[⟨js "$", .notPlainObject⟩]⟩
  | some record =>
      if isNumber (record.get (js "schemaVersion")) priorityPolicySchemaVersion = false then
        .error ⟨[⟨js "schemaVersion", .unsupportedSchemaVersion⟩]⟩
      else
        match (checkPolicyDefinition record).run [] with
        | (some definition, []) => .ok definition
        | (_, issues) => .error ⟨issues⟩

/-- `ValidatedPriorityPolicyDefinition`: a definition that validation produced. -/
def ValidatedPriorityPolicyDefinition : Type :=
  { definition : PriorityPolicyDefinition //
    ∃ input, validatePolicyDefinition input = .ok definition }

/-! ## The built-in definition -/

/-- A whole number as a value. -/
def wholeNumber (n : Nat) : JsValue := .number (.finite n)

/-- A record of whole numbers. -/
def numberRecord (entries : List (String × Nat)) : JsValue :=
  .record (entries.map fun entry => (js entry.1, wholeNumber entry.2))

/-- An entry of `factorCatalog`. -/
def catalogEntry (factorId description : String) : JsValue :=
  .record [(js "factorId", .string (js factorId)),
    (js "description", .string (js description))]

/-- An entry of `bands`. -/
def bandEntry (band : String) (minPriority dueDateRecommendationDays : Nat) : JsValue :=
  .record [(js "band", .string (js band)), (js "minPriority", wholeNumber minPriority),
    (js "dueDateRecommendationDays", wholeNumber dueDateRecommendationDays)]

/-- An entry of `normalization.finding_age_days`. -/
def bucketEntry (minDays percent : Nat) : JsValue :=
  .record [(js "minDays", wholeNumber minDays), (js "percent", wholeNumber percent)]

/-- The argument of `validatePolicyDefinition` in
`loadBuiltinPriorityPolicyDefinition`. -/
def builtinPolicyDocument : JsValue :=
  .record [
    (js "schemaVersion", wholeNumber priorityPolicySchemaVersion),
    (js "policyKey", .string (js "patchpilot.builtin.v0")),
    (js "engineContract", .string priorityEngineContract),
    (js "factorCatalog", .list [
      catalogEntry "source_severity" "Highest source severity rating",
      catalogEntry "kev_listed" "CISA KEV catalog membership",
      catalogEntry "environment_sensitivity" "Environment sensitivity class",
      catalogEntry "internet_exposure" "Asset internet exposure",
      catalogEntry "business_criticality" "Asset business criticality",
      catalogEntry "asset_data_classification" "Asset data classification",
      catalogEntry "direct_dependency" "Direct or transitive dependency",
      catalogEntry "fix_available" "Fixed version availability",
      catalogEntry "finding_age_days" "Days since first observation",
      catalogEntry "advisory_withdrawn" "Advisory withdrawal flag"]),
    (js "weights", numberRecord [
      ("source_severity", 40), ("kev_listed", 20), ("environment_sensitivity", 10),
      ("internet_exposure", 10), ("business_criticality", 8),
      ("asset_data_classification", 5), ("direct_dependency", 3), ("fix_available", 2),
      ("finding_age_days", 2), ("advisory_withdrawn", 0)]),
    (js "normalization", .record [
      (js "source_severity", numberRecord [
        ("critical", 100), ("high", 75), ("medium", 50), ("low", 25), ("none", 0)]),
      (js "kev_listed", numberRecord [
        ("listed_catalog_current", 100), ("listed_catalog_stale", 100),
        ("listed_catalog_disabled_with_history", 100), ("not_listed_catalog_current", 0)]),
      (js "environment_sensitivity", numberRecord [("production", 100), ("non_production", 0)]),
      (js "internet_exposure", numberRecord [("internet_facing", 100), ("internal", 0)]),
      (js "business_criticality", numberRecord [
        ("critical", 100), ("high", 50), ("medium", 25), ("low", 0)]),
      (js "asset_data_classification", numberRecord [
        ("restricted", 100), ("confidential", 60), ("internal", 20), ("public", 0)]),
      (js "direct_dependency", numberRecord [("direct", 100), ("transitive", 0)]),
      (js "fix_available", numberRecord [("available", 100), ("not_available", 0)]),
      (js "finding_age_days", .list [bucketEntry 0 0, bucketEntry 30 50, bucketEntry 90 100])]),
    (js "bands", .list [
      bandEntry "P1" 80 7, bandEntry "P2" 60 30, bandEntry "P3" 40 90, bandEntry "P4" 0 180]),
    (js "rules", .record [
      (js "kevMinimumBand", .string (js "P2")),
      (js "kevEscalation", .string (js "listed_and_production_or_internet_facing"))])]

theorem builtinPolicyDocument_accepted :
    (validatePolicyDefinition builtinPolicyDocument).isOk = true := by
  decide +kernel

/-- `BUILTIN_PRIORITY_POLICY_DEFINITION`.  The branch in which the source throws is
excluded. -/
def builtinPriorityPolicyDefinition : ValidatedPriorityPolicyDefinition :=
  match h : validatePolicyDefinition builtinPolicyDocument with
  | .ok definition => ⟨definition, builtinPolicyDocument, h⟩
  | .error _ => absurd builtinPolicyDocument_accepted (by rw [h]; exact Bool.false_ne_true)

end PatchPilot.Policy
