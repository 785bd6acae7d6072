import PatchPilot.Foundation.Comparator
import PatchPilot.Foundation.IsoDate
import PatchPilot.Foundation.Jsonb
import PatchPilot.Foundation.Utf8
import PatchPilot.Risk.Calculation

set_option autoImplicit false

/-!
# Risk: the rows of the remediation queue (`remediation-queue-persistence.ts`)

The queue lists the findings of an organization in three sections.  One statement joins
a finding with its asset, its component, its vulnerability, its latest calculation and
the head of its reviews, projects the columns of the order out of the stored documents,
and decides the section; it also says which rows are malformed.

Time stamps are read by their text, in UTC with milliseconds.
-/

namespace PatchPilot.Risk

open PatchPilot.Foundation
open PatchPilot.Policy

/-! ## Texts -/

/-- `DECIMAL_TEXT`: `/^(?:0|[1-9][0-9]{0,8})(?:\.[0-9]{1,6})?$/`. -/
def isDecimalText (s : JsString) : Bool :=
  let whole := s.takeWhile isDigit
  (decide (whole = js "0") ||
    (decide (1 ≤ whole.length) && decide (whole.length ≤ 9) &&
      decide (whole.head? ≠ some (unit '0')))) &&
  match s.dropWhile isDigit with
  | [] => true
  | point :: fraction =>
      point == unit '.' && decide (1 ≤ fraction.length) && decide (fraction.length ≤ 6) &&
        fraction.all isDigit

/-- `text::numeric`, of a decimal text. -/
def decimalValue (s : JsString) : Rat :=
  let fraction := (s.dropWhile isDigit).drop 1
  digitsValue (s.takeWhile isDigit ++ fraction) / 10 ^ fraction.length

/-- `Number(text)`, of a decimal text. -/
def numberOfText (s : JsString) : JsNumber := binary64 (decimalValue s)

/-- The places of a text of a `uuid` column. -/
def uuidColumnShape : TextShape :=
  List.replicate 8 isLowerHex ++ exactly '-' :: List.replicate 4 isLowerHex ++
    exactly '-' :: List.replicate 4 isLowerHex ++ exactly '-' :: List.replicate 4 isLowerHex ++
    exactly '-' :: List.replicate 12 isLowerHex

/-- The text of a `uuid` column. -/
structure UuidColumn where
  text : JsString
  shape : hasShape uuidColumnShape text = true
  deriving DecidableEq

/-- `[1-8]`. -/
def isUuidVersion (u : UInt16) : Bool := 0x31 ≤ u && u ≤ 0x38

/-- `[89ab]`. -/
def isUuidVariant (u : UInt16) : Bool :=
  u == unit '8' || u == unit '9' || u == unit 'a' || u == unit 'b'

/-- The places of `UUID_TEXT`, which is `UUID_LOWER` as well. -/
def uuidLowerShape : TextShape :=
  List.replicate 8 isLowerHex ++ exactly '-' :: List.replicate 4 isLowerHex ++
    exactly '-' :: isUuidVersion :: List.replicate 3 isLowerHex ++
    exactly '-' :: isUuidVariant :: List.replicate 3 isLowerHex ++
    exactly '-' :: List.replicate 12 isLowerHex

/-- `UUID_TEXT`. -/
def isUuidLower (s : JsString) : Bool := hasShape uuidLowerShape s

/-- `SHA256_HEX`. -/
def isSha256Text (s : JsString) : Bool := hasShape (List.replicate 64 isLowerHex) s

/-- `char_length`: a surrogate pair is one character. -/
def charLength : JsString → Nat
  | [] => 0
  | [_] => 1
  | u :: v :: rest =>
      if isHighSurrogate u && isLowSurrogate v then 1 + charLength rest
      else 1 + charLength (v :: rest)

/-- `char_length(text) BETWEEN 1 AND max`. -/
def hasCharLength (max : Nat) (s : JsString) : Bool :=
  decide (1 ≤ charLength s) && decide (charLength s ≤ max)

/-- `btrim`. -/
def btrim (s : JsString) : JsString :=
  ((s.dropWhile (· == 0x20)).reverse.dropWhile (· == 0x20)).reverse

/-! ## What a finding is joined with -/

/-- The latest row of `risk_calculation` of a finding, with the key of its policy. -/
structure LatestCalculation where
  id : UuidColumn
  riskPolicyId : UuidColumn
  policyKey : JsString
  policyVersion : Int
  policyDefinitionSha256 : JsString
  calculationEngineVersion : JsString
  calculatedAtText : JsString
  factors : Jsonb
  result : Jsonb

/-- The version of a `component_occurrence` that a finding was created from. -/
structure OccurrenceVersion where
  version : Option JsString
  versionKnown : Bool
  deriving DecidableEq

/-- The head of the reviews of a calculation. -/
structure ReviewHeadRow where
  reviewId : JsString
  decision : JsString
  correctedBand : Option JsString
  expiresText : Option JsString
  headCount : Nat
  deriving DecidableEq

/-- A row of `finding` with what it is joined with.  A left join finds nothing as
`none`. -/
structure JoinedFinding where
  findingId : UuidColumn
  assetId : UuidColumn
  firstObservedText : JsString
  lastObservedText : Option JsString
  assetName : Option JsString
  assetUpdatedText : Option JsString
  componentName : Option JsString
  occurrenceVersions : List OccurrenceVersion
  osvId : Option JsString
  calculation : Option LatestCalculation
  otherCalculationReviewed : Bool
  review : Option ReviewHeadRow

/-! ## The projection of the rank -/

/-- `priority_text`. -/
def priorityText (result : Jsonb) : Option JsString :=
  if (result.field (js "priority")).map Jsonb.kind = some .number then
    (result.fieldText (js "priority")).filter isDecimalText
  else none

/-- `priority_band`. -/
def priorityBandText (result : Jsonb) : Option JsString :=
  (result.fieldText (js "priorityBand")).filter fun text =>
    text ∈ [js "P1", js "P2", js "P3", js "P4"]

/-- `escalation_recommended`. -/
def escalationRecommended (result : Jsonb) : Option Bool :=
  if (result.field (js "escalationRecommendation")).map Jsonb.kind = some .boolean then
    (result.fieldText (js "escalationRecommendation")).map fun text => text = js "true"
  else none

/-- The first element of the stored factors with the id. -/
def factorElement (factors : Jsonb) (factorId : JsString) : Option Jsonb :=
  (factors.elements (js "factors")).find? fun element =>
    element.fieldText (js "factorId") = some factorId

/-- The tokens of a listed vulnerability. -/
def listedTokens : List JsString :=
  [js "listed_catalog_current", js "listed_catalog_stale",
    js "listed_catalog_disabled_with_history"]

/-- `kev_listed`. -/
def kevListed (factors : Jsonb) : Bool :=
  match factorElement factors (js "kev_listed") with
  | none => false
  | some element =>
      decide (element.fieldText (js "inputState") = some (js "observed")) &&
        ((element.fieldText (js "observedValue")).any fun value => value ∈ listedTokens)

/-- `severity_text`. -/
def severityText (factors : Jsonb) : Option JsString :=
  match factorElement factors (js "source_severity") with
  | none => some (js "0")
  | some element => (element.fieldText (js "normalizedPercent")).filter isDecimalText

/-- `kev_source_ok`. -/
def kevSourceOk (factors : Jsonb) : Bool :=
  let state := factors.textAtPath [js "sources", js "kev", js "state"]
  let generationId := [js "sources", js "kev", js "generationId"]
  if state = some (js "unavailable") then true
  else
    decide (state = some (js "catalog")) &&
      (decide ((factors.atPath generationId).map Jsonb.kind = some .null) ||
        (factors.textAtPath generationId).any isUuidLower)

/-- `stored_kev_generation_id`. -/
def storedGenerationId (factors : Jsonb) : Option JsString :=
  if factors.textAtPath [js "sources", js "kev", js "state"] = some (js "catalog") then
    (factors.textAtPath [js "sources", js "kev", js "generationId"]).filter isUuidLower
  else none

/-! ## Classification -/

/-- `RemediationQueueSection`. -/
inductive RemediationQueueSection
  | ranked | incomparable | notCalculated
  deriving DecidableEq

/-- `QueueClassificationScope`, without the organization. -/
structure QueueClassificationScope where
  referencePolicyDefinitionSha256 : JsString
  referenceEngineVersion : JsString
  deriving DecidableEq

/-- A row of `classified`: a `QueueSqlRow` with the columns that only the statement
reads. -/
structure QueueSqlRow where
  findingId : JsString
  assetId : JsString
  assetName : Option JsString
  componentName : Option JsString
  componentVersion : Option JsString
  vulnerabilityPublicId : Option JsString
  firstObservedText : JsString
  lastObservedText : Option JsString
  assetUpdatedText : Option JsString
  calculationId : Option JsString
  riskPolicyId : Option JsString
  policyKey : Option JsString
  policyVersion : Option Int
  policyDefinitionSha256 : Option JsString
  engineVersion : Option JsString
  calculatedAtText : Option JsString
  priorityText : Option JsString
  priorityBand : Option JsString
  escalationRecommended : Option Bool
  kevListed : Option Bool
  severityText : Option JsString
  kevSourceOk : Bool
  storedKevGenerationId : Option JsString
  priorReviewExists : Bool
  review : Option ReviewHeadRow
  section_ : RemediationQueueSection
  deriving DecidableEq

/-- The columns of `base` and the section. -/
def classifiedFinding (scope : QueueClassificationScope) (finding : JoinedFinding) :
    QueueSqlRow :=
  let calculation := finding.calculation
  let policyDefinitionSha256 := (calculation.map fun c =>
    btrim c.policyDefinitionSha256).filter isSha256Text
  let engineVersion := (calculation.map fun c =>
    btrim c.calculationEngineVersion).filter (hasCharLength 64)
  { findingId := finding.findingId.text
    assetId := finding.assetId.text
    assetName := finding.assetName.filter (hasCharLength 200)
    componentName := finding.componentName.filter (hasCharLength 512)
    componentVersion := leastBy compareBytes
      (finding.occurrenceVersions.filterMap fun occurrence =>
        if occurrence.versionKnown then occurrence.version.filter (hasCharLength 256) else none)
    vulnerabilityPublicId := finding.osvId.filter (hasCharLength 128)
    firstObservedText := finding.firstObservedText
    lastObservedText := finding.lastObservedText
    assetUpdatedText := finding.assetUpdatedText
    calculationId := calculation.map (·.id.text)
    riskPolicyId := calculation.map (·.riskPolicyId.text)
    policyKey := calculation.map (·.policyKey)
    policyVersion := calculation.map (·.policyVersion)
    policyDefinitionSha256
    engineVersion
    calculatedAtText := calculation.map (·.calculatedAtText)
    priorityText := calculation.bind fun c => priorityText c.result
    priorityBand := calculation.bind fun c => priorityBandText c.result
    escalationRecommended := calculation.bind fun c => escalationRecommended c.result
    kevListed := calculation.map fun c => kevListed c.factors
    severityText := calculation.bind fun c => severityText c.factors
    kevSourceOk := (calculation.map fun c => kevSourceOk c.factors).getD true
    storedKevGenerationId := calculation.bind fun c => storedGenerationId c.factors
    priorReviewExists := calculation.isSome && finding.otherCalculationReviewed
    review := calculation.bind fun _ => finding.review
    section_ :=
      match calculation with
      | none => .notCalculated
      | some c =>
          if c.policyKey = builtinPriorityPolicyKey ∧
              policyDefinitionSha256 = some scope.referencePolicyDefinitionSha256 ∧
              engineVersion = some scope.referenceEngineVersion then .ranked
          else .incomparable }

namespace QueueSqlRow

variable (row : QueueSqlRow)

/-- `malformed`. -/
def malformed : Bool :=
  row.assetName.isNone || row.componentName.isNone || row.componentVersion.isNone ||
  row.vulnerabilityPublicId.isNone ||
  (row.calculationId.isSome &&
    (row.priorityText.isNone || row.priorityBand.isNone || row.escalationRecommended.isNone ||
      row.kevListed.isNone || row.severityText.isNone || row.policyDefinitionSha256.isNone ||
      row.engineVersion.isNone || row.calculatedAtText.isNone || row.riskPolicyId.isNone ||
      row.policyKey.isNone || row.policyVersion.isNone || row.lastObservedText.isNone ||
      row.assetUpdatedText.isNone || !row.kevSourceOk))

/-- `priority_numeric`. -/
def priorityNumeric : Option Rat := row.priorityText.map decimalValue

/-- `severity_numeric`. -/
def severityNumeric : Option Rat := row.severityText.map decimalValue

/-- `escalation_rank`. -/
def escalationRank : Option Nat := row.escalationRecommended.map fun value => if value then 0 else 1

/-- `kev_rank`. -/
def kevRank : Option Nat := row.kevListed.map fun value => if value then 0 else 1

end QueueSqlRow

/-! ## The order of a section -/

/-- `finding_id COLLATE "C" ASC`. -/
def findingIdOrder : QueueSqlRow → QueueSqlRow → Ordering := comapCmp compareBytes (·.findingId)

/-- `first_observed_text COLLATE "C" ASC`. -/
def firstObservedOrder : QueueSqlRow → QueueSqlRow → Ordering :=
  comapCmp compareBytes (·.firstObservedText)

/-- `RANKED_ORDER`. -/
def rankedOrder : QueueSqlRow → QueueSqlRow → Ordering :=
  compareLex (comapCmp (nullsLast (descending compare)) (·.priorityNumeric)) <|
  compareLex (comapCmp (nullsLast compare) (·.escalationRank)) <|
  compareLex (comapCmp (nullsLast compare) (·.kevRank)) <|
  compareLex (comapCmp (nullsLast (descending compare)) (·.severityNumeric)) <|
  compareLex firstObservedOrder findingIdOrder

/-- `INCOMPARABLE_ORDER`. -/
def incomparableOrder : QueueSqlRow → QueueSqlRow → Ordering :=
  compareLex (comapCmp (nullsLast compareBytes) (·.calculatedAtText)) findingIdOrder

/-- `NOT_CALCULATED_ORDER`. -/
def notCalculatedOrder : QueueSqlRow → QueueSqlRow → Ordering :=
  compareLex firstObservedOrder findingIdOrder

/-- The order of a section. -/
def sectionOrder : RemediationQueueSection → QueueSqlRow → QueueSqlRow → Ordering
  | .ranked => rankedOrder
  | .incomparable => incomparableOrder
  | .notCalculated => notCalculatedOrder

instance : Std.TransCmp findingIdOrder := inferInstanceAs (Std.TransCmp (comapCmp _ _))

instance : Std.TransCmp firstObservedOrder := inferInstanceAs (Std.TransCmp (comapCmp _ _))

instance : Std.TransCmp rankedOrder := inferInstanceAs (Std.TransCmp (compareLex _ _))

instance (s : RemediationQueueSection) : Std.TransCmp (sectionOrder s) := by
  cases s with
  | ranked => exact inferInstanceAs (Std.TransCmp rankedOrder)
  | incomparable => exact inferInstanceAs (Std.TransCmp (compareLex _ _))
  | notCalculated => exact inferInstanceAs (Std.TransCmp (compareLex _ _))

end PatchPilot.Risk
