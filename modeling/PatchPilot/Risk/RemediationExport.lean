import PatchPilot.Foundation.Csv
import PatchPilot.Foundation.Stringify
import PatchPilot.Policy.CanonicalText
import PatchPilot.Risk.RemediationQueue

set_option autoImplicit false

/-!
# Risk: the export of the remediation queue (`remediation-queue-http.ts`)

One document is exported as JSON or as CSV.  The text of a field may hold commas, quotation
marks and line breaks, and may start as a formula does.  A reader of the CSV bytes finds the
record of every row, and in every cell the text of the field that the JSON export has.  The
texts of numbers are a parameter.
-/

namespace PatchPilot.Risk.RemediationExport

open PatchPilot.Foundation
open PatchPilot.Policy
open PatchPilot.Risk.RemediationQueue

/-! ## Documents -/

/-- `RemediationQueueExportFormat`. -/
inductive RemediationQueueExportFormat
  | json | csv
  deriving DecidableEq

/-- `RemediationQueueIncomparableRow`. -/
structure RemediationQueueIncomparableRow extends RemediationQueueRankedRow where
  comparisonMessage : JsString
  deriving DecidableEq

/-- The `sections` of a document. -/
structure RemediationQueueExportSections where
  ranked : List RemediationQueueRankedRow
  incomparable : List RemediationQueueIncomparableRow
  notCalculated : List RemediationQueueNotCalculatedRow
  deriving DecidableEq

/-- `RemediationQueueExportDocument`. -/
structure RemediationQueueExportDocument where
  format : RemediationQueueExportFormat
  asOf : JsString
  reference : RemediationQueueReference
  counts : RemediationQueueCounts
  rowCount : Nat
  cap : Nat
  sections : RemediationQueueExportSections
  deriving DecidableEq

/-- `REMEDIATION_QUEUE_EXPORT_CAP`. -/
def remediationQueueExportCap : Nat := 150

/-- `REMEDIATION_QUEUE_EXPORT_CSV_HEADER`, before its cells are joined. -/
def exportCsvHeader : List JsString :=
  [js "section", js "findingId", js "assetId", js "assetName", js "componentName",
    js "componentVersion", js "vulnerabilityPublicId", js "humanReviewStatus",
    js "humanReviewPriorReviewExists", js "humanReviewId", js "humanReviewCorrectedBand",
    js "humanReviewExpiresAt", js "priorityBand", js "priority", js "riskPolicyId",
    js "policyKey", js "policyVersion", js "policyDefinitionSha256", js "calculatedAt",
    js "inputsChangedStatus", js "inputsChangedSignals", js "comparisonMessage"]

/-! ## Fields -/

/-- `marker.status`. -/
def reviewStatus : FindingPriorityReviewMarker → JsString
  | .none => js "none"
  | .noneForCurrentCalculation => js "none_for_current_calculation"
  | .accepted .. => js "accepted"
  | .withdrawn .. => js "withdrawn"
  | .corrected .. => js "corrected"
  | .expired .. => js "expired"

/-- `marker.priorReviewExists`. -/
def reviewPrior : FindingPriorityReviewMarker → Bool
  | .none => false
  | .noneForCurrentCalculation => true
  | .accepted prior .. => prior
  | .withdrawn prior .. => prior
  | .corrected prior .. => prior
  | .expired prior .. => prior

/-- `marker.reviewId`, where it is in the marker. -/
def reviewId : FindingPriorityReviewMarker → Option JsString
  | .accepted _ id => some id
  | .withdrawn _ id => some id
  | .corrected _ id .. => some id
  | .expired _ id .. => some id
  | _ => none

/-- `marker.correctedBand`, where it is in the marker. -/
def reviewBand : FindingPriorityReviewMarker → Option PriorityBand
  | .corrected _ _ band _ => some band
  | .expired _ _ band _ => some band
  | _ => none

/-- `marker.expiresAt`, where it is in the marker. -/
def reviewExpires : FindingPriorityReviewMarker → Option JsString
  | .corrected _ _ _ expiresAt => some expiresAt
  | .expired _ _ _ expiresAt => some expiresAt
  | _ => none

/-- `inputsChanged.status`. -/
def changeStatus : PriorityInputChangeStatus → JsString
  | .noneDetected => js "none_detected"
  | .detected => js "detected"

/-- A signal of `inputsChanged.signals`. -/
def changeSignal : PriorityInputChangeSignal → JsString
  | .policySuperseded => js "policy_superseded"
  | .engineVersionChanged => js "engine_version_changed"
  | .kevGenerationChanged => js "kev_generation_changed"
  | .observedAfterCalculation => js "observed_after_calculation"
  | .assetUpdatedAfterCalculation => js "asset_updated_after_calculation"

/-! ## The response schema -/

/-- `z.string().min(1).max(limit)`. -/
def lengthWithin (limit : Nat) (value : JsString) : Bool :=
  decide (1 ≤ value.length) && decide (value.length ≤ limit)

/-- `priorityReviewMarkerSchema`. -/
def markerPasses (marker : FindingPriorityReviewMarker) : Bool :=
  (reviewId marker).all isUuidLower && (reviewExpires marker).all isIsoText

/-- `identitySchema`. -/
def identityPasses (row : RemediationQueueNotCalculatedRow) : Bool :=
  isUuidLower row.findingId && isUuidLower row.assetId && lengthWithin 200 row.assetName &&
  lengthWithin 512 row.componentName && lengthWithin 256 row.componentVersion &&
  lengthWithin 128 row.vulnerabilityPublicId && markerPasses row.humanReview

/-- The place of a signal in `PRIORITY_INPUT_CHANGE_SIGNALS`. -/
def signalIndex : PriorityInputChangeSignal → Nat
  | .policySuperseded => 0
  | .engineVersionChanged => 1
  | .kevGenerationChanged => 2
  | .observedAfterCalculation => 3
  | .assetUpdatedAfterCalculation => 4

/-- `inputsChangedSchema`. -/
def inputsPass (report : PriorityInputChangeReport) : Bool :=
  decide ((report.signals.map signalIndex).IsChain (· < ·)) &&
  decide (report.status = .detected ↔ report.signals ≠ [])

/-- `policySchema`.  An integer is a safe one. -/
def policyPasses (policy : RowPolicy) : Bool :=
  isUuidLower policy.riskPolicyId && lengthWithin 128 policy.policyKey &&
  decide (0 < policy.policyVersion) && decide (policy.policyVersion < 2 ^ 53) &&
  isSha256Text policy.policyDefinitionSha256

/-- `Number.isFinite`. -/
def isFiniteNumber : JsNumber → Bool
  | .finite _ => true
  | _ => false

/-- `rankedRowSchema`. -/
def rankedPasses (row : RemediationQueueRankedRow) : Bool :=
  identityPasses row.toRemediationQueueNotCalculatedRow && isFiniteNumber row.priority &&
  policyPasses row.policy && isIsoText row.calculatedAt && inputsPass row.inputsChanged

/-- `incomparableRowSchema`. -/
def incomparablePasses (row : RemediationQueueIncomparableRow) : Bool :=
  rankedPasses row.toRemediationQueueRankedRow &&
  decide (row.comparisonMessage = remediationQueueComparisonMessage)

/-- `referenceSchema`. -/
def referencePasses (reference : RemediationQueueReference) : Bool :=
  decide (reference.policyKey = builtinPriorityPolicyKey) &&
  decide (reference.policyVersion = builtinPriorityPolicyVersion) &&
  isSha256Text reference.policyDefinitionSha256 &&
  decide (reference.engineVersion = priorityCalculationEngineVersion)

/-- `remediationQueueExportResponseSchema.safeParse(...).success` of a document. -/
def passesResponseSchema (document : RemediationQueueExportDocument) : Bool :=
  isIsoText document.asOf && referencePasses document.reference &&
  decide (document.rowCount ≤ remediationQueueExportCap) &&
  decide (document.cap = remediationQueueExportCap) &&
  document.sections.ranked.all rankedPasses &&
  document.sections.incomparable.all incomparablePasses &&
  document.sections.notCalculated.all identityPasses &&
  decide (document.rowCount ≤ document.cap) &&
  decide (document.counts.ranked + document.counts.incomparable + document.counts.notCalculated =
    document.rowCount) &&
  decide (document.sections.ranked.length = document.counts.ranked) &&
  decide (document.sections.incomparable.length = document.counts.incomparable) &&
  decide (document.sections.notCalculated.length = document.counts.notCalculated)

/-! ## The JSON export -/

/-- The members of the object of a marker. -/
def markerMembers (marker : FindingPriorityReviewMarker) : List (JsString × Option JsonValue) :=
  [(js "status", some (.string (reviewStatus marker))),
    (js "priorReviewExists", some (.boolean (reviewPrior marker))),
    (js "reviewId", (reviewId marker).map .string),
    (js "correctedBand", (reviewBand marker).map fun band => .string (text band)),
    (js "expiresAt", (reviewExpires marker).map .string)]

/-- The object of a marker. -/
def markerJson (marker : FindingPriorityReviewMarker) : JsonValue :=
  .object (JsonRecord.present (markerMembers marker))

/-- The object `policy` of a row. -/
def policyJson (policy : RowPolicy) : JsonValue :=
  .object [(js "riskPolicyId", .string policy.riskPolicyId),
    (js "policyKey", .string policy.policyKey),
    (js "policyVersion", .number (.finite policy.policyVersion)),
    (js "policyDefinitionSha256", .string policy.policyDefinitionSha256)]

/-- The object `inputsChanged` of a row. -/
def inputsJson (report : PriorityInputChangeReport) : JsonValue :=
  .object [(js "status", .string (changeStatus report.status)),
    (js "signals", .array (report.signals.map fun signal => .string (changeSignal signal)))]

/-- `identity`. -/
def identityEntries (row : RemediationQueueNotCalculatedRow) : JsonRecord :=
  [(js "findingId", .string row.findingId), (js "assetId", .string row.assetId),
    (js "assetName", .string row.assetName), (js "componentName", .string row.componentName),
    (js "componentVersion", .string row.componentVersion),
    (js "vulnerabilityPublicId", .string row.vulnerabilityPublicId),
    (js "humanReview", markerJson row.humanReview)]

/-- `calculated`, without the identity. -/
def calculatedEntries (row : RemediationQueueRankedRow) : JsonRecord :=
  [(js "priorityBand", .string (text row.priorityBand)), (js "priority", .number row.priority),
    (js "policy", policyJson row.policy), (js "calculatedAt", .string row.calculatedAt),
    (js "inputsChanged", inputsJson row.inputsChanged)]

/-- `toRow`. -/
def toRow (section_ : RemediationQueueSection) : RemediationQueueRow → JsonValue
  | .notCalculated row => .object (identityEntries row)
  | .ranked row =>
      if section_ = .notCalculated then .object (identityEntries row.1)
      else .object (identityEntries row.1 ++ calculatedEntries row)
  | .incomparable row comparisonMessage =>
      if section_ = .notCalculated then .object (identityEntries row.1)
      else if section_ = .incomparable then
        .object (identityEntries row.1 ++ calculatedEntries row ++
          [(js "comparisonMessage", .string comparisonMessage)])
      else .object (identityEntries row.1 ++ calculatedEntries row)

/-- A count. -/
def countJson (count : Nat) : JsonValue := .number (.finite count)

/-- The `body` of `serializeExportJson`. -/
def exportBody (document : RemediationQueueExportDocument) : JsonValue :=
  .object [(js "schemaVersion", .string (js "remediation_queue_export_v1")),
    (js "format", .string (js "json")),
    (js "asOf", .string document.asOf),
    (js "reference", .object [(js "policyKey", .string document.reference.policyKey),
      (js "policyVersion", countJson document.reference.policyVersion),
      (js "policyDefinitionSha256", .string document.reference.policyDefinitionSha256),
      (js "engineVersion", .string document.reference.engineVersion)]),
    (js "counts", .object [(js "ranked", countJson document.counts.ranked),
      (js "incomparable", countJson document.counts.incomparable),
      (js "not_calculated", countJson document.counts.notCalculated)]),
    (js "rowCount", countJson document.rowCount),
    (js "cap", countJson document.cap),
    (js "sections", .object [
      (js "ranked", .array (document.sections.ranked.map fun row =>
        toRow .ranked (.ranked row))),
      (js "incomparable", .array (document.sections.incomparable.map fun row =>
        toRow .incomparable (.incomparable row.1 row.comparisonMessage))),
      (js "not_calculated", .array (document.sections.notCalculated.map fun row =>
        toRow .notCalculated (.notCalculated row)))])]

/-- `serializeExportJson`; `none` is an exception. -/
def serializeExportJson (numberText : Rat → JsString)
    (document : RemediationQueueExportDocument) : Option JsString :=
  if document.format ≠ .json ∨ passesResponseSchema document = false then none
  else some (writeJson (jsonTexts numberText) (exportBody document))

/-! ## The CSV export -/

/-- `/^[=+\-@\t\r]/`. -/
def startsFormula (value : JsString) : Bool :=
  value.head?.any fun u =>
    u = unit '=' || u = unit '+' || u = unit '-' || u = unit '@' || u = 0x09 || u = carriageReturn

/-- `'`. -/
def apostrophe : UInt16 := 0x27

/-- `neutralized`. -/
def neutralized (value : JsString) : JsString :=
  if startsFormula value then apostrophe :: value else value

/-- `csvText`. -/
def csvText (value : JsString) : JsString :=
  if value.length = 0 then [] else csvCell (neutralized value)

/-- `csvNumber`; `none` is an exception. -/
def csvNumber (numberText : Rat → JsString) : JsNumber → Option JsString
  | .finite value => some (csvCell (numberText value))
  | _ => none

/-- `reviewCells`. -/
def reviewCells (marker : FindingPriorityReviewMarker) : List JsString :=
  [csvText (reviewStatus marker),
    csvText (if reviewPrior marker then js "true" else js "false"),
    csvText ((reviewId marker).getD []),
    csvText (((reviewBand marker).map text).getD []),
    csvText ((reviewExpires marker).getD [])]

/-- `calculatedCells` of a row that has a priority. -/
def calculatedCells (numberText : Rat → JsString) (row : RemediationQueueRankedRow) :
    Option (List JsString) := do
  let priority ← csvNumber numberText row.priority
  let policyVersion ← csvNumber numberText (.finite row.policy.policyVersion)
  some [csvText (text row.priorityBand), priority, csvText row.policy.riskPolicyId,
    csvText row.policy.policyKey, policyVersion, csvText row.policy.policyDefinitionSha256,
    csvText row.calculatedAt, csvText (changeStatus row.inputsChanged.status),
    csvText ([unit ','].intercalate (row.inputsChanged.signals.map changeSignal))]

/-- What every row shows of its finding. -/
def rowIdentity : RemediationQueueRow → RemediationQueueNotCalculatedRow
  | .ranked row => row.1
  | .incomparable row _ => row.1
  | .notCalculated row => row

/-- `csvLine`; `none` is an exception. -/
def csvLine (numberText : Rat → JsString) (section_ : RemediationQueueSection)
    (row : RemediationQueueRow) : Option JsString := do
  let identity := rowIdentity row
  let calculated ← match row with
    | .ranked row => calculatedCells numberText row
    | .incomparable row _ => calculatedCells numberText row
    | .notCalculated _ => some (List.replicate 9 [])
  let comparison := match row with
    | .incomparable _ comparisonMessage => comparisonMessage
    | _ => []
  some ([unit ','].intercalate ([csvText (sectionText section_), csvText identity.findingId,
    csvText identity.assetId, csvText identity.assetName, csvText identity.componentName,
    csvText identity.componentVersion, csvText identity.vulnerabilityPublicId] ++
    reviewCells identity.humanReview ++ calculated ++ [csvText comparison]))

/-- The rows of a document with their sections, in the order of the sections. -/
def exportRows (sections : RemediationQueueExportSections) :
    List (RemediationQueueSection × RemediationQueueRow) :=
  sections.ranked.map (fun row => (.ranked, .ranked row)) ++
  sections.incomparable.map
      (fun row => (.incomparable, .incomparable row.1 row.comparisonMessage)) ++
  sections.notCalculated.map (fun row => (.notCalculated, .notCalculated row))

/-- `serializeExportCsv`; `none` is an exception. -/
def serializeExportCsv (numberText : Rat → JsString)
    (document : RemediationQueueExportDocument) : Option JsString :=
  if passesResponseSchema document = false then none
  else do
    let lines ← (exportRows document.sections).mapM fun row => csvLine numberText row.1 row.2
    some ([lineFeed].intercalate ([unit ','].intercalate exportCsvHeader :: lines) ++ [lineFeed])

/-- `encodeUtf8`: text that starts with a byte order mark is refused. -/
def encodeUtf8 (value : JsString) : Option (List UInt8) :=
  let encoded := utf8Encode value
  if encoded.length ≥ 3 ∧ encoded[0]? = some 0xEF ∧ encoded[1]? = some 0xBB ∧
      encoded[2]? = some 0xBF then none
  else some encoded

/-- `serializeRemediationQueueExport`; `none` is an exception. -/
def serializeRemediationQueueExport (numberText : Rat → JsString)
    (document : RemediationQueueExportDocument) : Option (List UInt8) :=
  match document.format with
  | .json => (serializeExportJson numberText document).bind encodeUtf8
  | .csv => (serializeExportCsv numberText document).bind encodeUtf8

/-! ## Columns -/

/-- A member of an object, along a path of names. -/
def memberAt : List JsString → JsonValue → Option JsonValue
  | [], value => some value
  | name :: path, value => (value.record?.bind (·.get name)).bind (memberAt path)

/-- The members of a row that the columns after `section` show. -/
def exportPaths : List (List JsString) :=
  [[js "findingId"], [js "assetId"], [js "assetName"], [js "componentName"],
    [js "componentVersion"], [js "vulnerabilityPublicId"], [js "humanReview", js "status"],
    [js "humanReview", js "priorReviewExists"], [js "humanReview", js "reviewId"],
    [js "humanReview", js "correctedBand"], [js "humanReview", js "expiresAt"],
    [js "priorityBand"], [js "priority"], [js "policy", js "riskPolicyId"],
    [js "policy", js "policyKey"], [js "policy", js "policyVersion"],
    [js "policy", js "policyDefinitionSha256"], [js "calculatedAt"],
    [js "inputsChanged", js "status"], [js "inputsChanged", js "signals"],
    [js "comparisonMessage"]]

/-- The text of a field; an absent one has none. -/
def fieldText (numberText : Rat → JsString) : Option JsonValue → JsString
  | some (.string value) => value
  | some (.number (.finite value)) => numberText value
  | some (.boolean value) => if value then js "true" else js "false"
  | some (.array items) => [unit ','].intercalate (items.filterMap JsonValue.string?)
  | _ => []

/-- The cell of a field: its text, with an apostrophe in front of what starts as a formula.
The text of a number is left as it is. -/
def fieldCell (numberText : Rat → JsString) (field : Option JsonValue) : JsString :=
  match field with
  | some (.number _) => fieldText numberText field
  | _ => neutralized (fieldText numberText field)

/-- The record of a row, from its section and its members in the JSON export. -/
def exportRecord (numberText : Rat → JsString) (row : JsString × JsonValue) : List JsString :=
  neutralized row.1 :: exportPaths.map fun path => fieldCell numberText (memberAt path row.2)

/-- The rows of a JSON export with the names of their sections, in the order of the sections. -/
def exportedRows (body : JsonValue) : List (JsString × JsonValue) :=
  [js "ranked", js "incomparable", js "not_calculated"].flatMap fun name =>
    (((memberAt [js "sections", name] body).bind JsonValue.array?).getD []).map fun row =>
      (name, row)

/-! ## What a column shows -/

/-- The fields of a row that was calculated. -/
def calculatedRow : RemediationQueueRow → Option RemediationQueueRankedRow
  | .ranked row => some row
  | .incomparable row _ => some row
  | .notCalculated _ => none

/-- `comparisonMessage`, where it is in the row. -/
def comparisonOf : RemediationQueueRow → Option JsString
  | .incomparable _ comparisonMessage => some comparisonMessage
  | _ => none

/-- The members of the object of a row. -/
def rowMembers (row : RemediationQueueRow) : List (JsString × Option JsonValue) :=
  [(js "findingId", some (.string (rowIdentity row).findingId)),
    (js "assetId", some (.string (rowIdentity row).assetId)),
    (js "assetName", some (.string (rowIdentity row).assetName)),
    (js "componentName", some (.string (rowIdentity row).componentName)),
    (js "componentVersion", some (.string (rowIdentity row).componentVersion)),
    (js "vulnerabilityPublicId", some (.string (rowIdentity row).vulnerabilityPublicId)),
    (js "humanReview", some (markerJson (rowIdentity row).humanReview)),
    (js "priorityBand", (calculatedRow row).map fun row => .string (text row.priorityBand)),
    (js "priority", (calculatedRow row).map fun row => .number row.priority),
    (js "policy", (calculatedRow row).map fun row => policyJson row.policy),
    (js "calculatedAt", (calculatedRow row).map fun row => .string row.calculatedAt),
    (js "inputsChanged", (calculatedRow row).map fun row => inputsJson row.inputsChanged),
    (js "comparisonMessage", (comparisonOf row).map .string)]

/-- The fields of a row, column by column. -/
def rowFields (row : RemediationQueueRow) : List (Option JsonValue) :=
  [some (.string (rowIdentity row).findingId), some (.string (rowIdentity row).assetId),
    some (.string (rowIdentity row).assetName), some (.string (rowIdentity row).componentName),
    some (.string (rowIdentity row).componentVersion),
    some (.string (rowIdentity row).vulnerabilityPublicId),
    some (.string (reviewStatus (rowIdentity row).humanReview)),
    some (.boolean (reviewPrior (rowIdentity row).humanReview)),
    (reviewId (rowIdentity row).humanReview).map .string,
    (reviewBand (rowIdentity row).humanReview).map fun band => .string (text band),
    (reviewExpires (rowIdentity row).humanReview).map .string,
    (calculatedRow row).map fun row => .string (text row.priorityBand),
    (calculatedRow row).map fun row => .number row.priority,
    (calculatedRow row).map fun row => .string row.policy.riskPolicyId,
    (calculatedRow row).map fun row => .string row.policy.policyKey,
    (calculatedRow row).map fun row => .number (.finite row.policy.policyVersion),
    (calculatedRow row).map fun row => .string row.policy.policyDefinitionSha256,
    (calculatedRow row).map fun row => .string row.calculatedAt,
    (calculatedRow row).map fun row => .string (changeStatus row.inputsChanged.status),
    (calculatedRow row).map fun row =>
      .array (row.inputsChanged.signals.map fun signal => .string (changeSignal signal)),
    (comparisonOf row).map .string]

theorem toRow_eq {sections : RemediationQueueExportSections}
    {row : RemediationQueueSection × RemediationQueueRow} (h : row ∈ exportRows sections) :
    toRow row.1 row.2 = .object (JsonRecord.present (rowMembers row.2)) := by
  unfold exportRows at h
  rw [List.mem_append, List.mem_append, List.mem_map, List.mem_map, List.mem_map] at h
  rcases h with (⟨ranked, -, rfl⟩ | ⟨incomparable, -, rfl⟩) | ⟨identity, -, rfl⟩
  · rfl
  · rfl
  · rfl

theorem markerNames_nodup (marker : FindingPriorityReviewMarker) :
    ((markerMembers marker).map Prod.fst).Nodup :=
  show [js "status", js "priorReviewExists", js "reviewId", js "correctedBand",
    js "expiresAt"].Nodup by simp [js_inj]

theorem rowNames_nodup (row : RemediationQueueRow) : ((rowMembers row).map Prod.fst).Nodup :=
  show [js "findingId", js "assetId", js "assetName", js "componentName",
    js "componentVersion", js "vulnerabilityPublicId", js "humanReview", js "priorityBand",
    js "priority", js "policy", js "calculatedAt", js "inputsChanged",
    js "comparisonMessage"].Nodup by simp [js_inj]

theorem memberAt_cons {name : JsString} {path : List JsString} {record : JsonRecord}
    {value : Option JsonValue} (h : record.get name = value) :
    memberAt (name :: path) (.object record) = value.bind (memberAt path) := by
  rw [memberAt, JsonValue.record?, Option.bind_some, h]

/-- The columns of `policy`. -/
theorem memberAt_policyJson (policy : RowPolicy) :
    memberAt [js "riskPolicyId"] (policyJson policy) = some (.string policy.riskPolicyId) ∧
      memberAt [js "policyKey"] (policyJson policy) = some (.string policy.policyKey) ∧
      memberAt [js "policyVersion"] (policyJson policy) =
        some (.number (.finite policy.policyVersion)) ∧
      memberAt [js "policyDefinitionSha256"] (policyJson policy) =
        some (.string policy.policyDefinitionSha256) :=
  ⟨rfl, rfl, rfl, rfl⟩

/-- The columns of `inputsChanged`. -/
theorem memberAt_inputsJson (report : PriorityInputChangeReport) :
    memberAt [js "status"] (inputsJson report) = some (.string (changeStatus report.status)) ∧
      memberAt [js "signals"] (inputsJson report) =
        some (.array (report.signals.map fun signal => .string (changeSignal signal))) :=
  ⟨rfl, rfl⟩

/-- The columns of `humanReview`. -/
theorem memberAt_markerJson (marker : FindingPriorityReviewMarker) :
    memberAt [js "status"] (markerJson marker) = some (.string (reviewStatus marker)) ∧
      memberAt [js "priorReviewExists"] (markerJson marker) =
        some (.boolean (reviewPrior marker)) ∧
      memberAt [js "reviewId"] (markerJson marker) = (reviewId marker).map .string ∧
      memberAt [js "correctedBand"] (markerJson marker) =
        ((reviewBand marker).map fun band => .string (text band)) ∧
      memberAt [js "expiresAt"] (markerJson marker) = (reviewExpires marker).map .string := by
  have hmembers := JsonRecord.get_present (markerNames_nodup marker)
  simp only [markerMembers, List.forall_mem_cons] at hmembers
  obtain ⟨hstatus, hprior, hid, hband, hexpires, -⟩ := hmembers
  refine ⟨memberAt_cons hstatus, memberAt_cons hprior, ?_, ?_, ?_⟩
  · exact (memberAt_cons hid).trans (Option.bind_fun_some _)
  · exact (memberAt_cons hband).trans (Option.bind_fun_some _)
  · exact (memberAt_cons hexpires).trans (Option.bind_fun_some _)

/-- The columns read the fields of a row. -/
theorem memberAt_exportPaths (row : RemediationQueueRow) :
    exportPaths.map (memberAt · (.object (JsonRecord.present (rowMembers row)))) =
      rowFields row := by
  have hmembers := JsonRecord.get_present (rowNames_nodup row)
  generalize JsonRecord.present (rowMembers row) = record at hmembers ⊢
  simp only [rowMembers, List.forall_mem_cons] at hmembers
  obtain ⟨hfinding, hasset, hassetName, hcomponent, hversion, hvulnerability, hreview, hband,
    hpriority, hpolicy, hcalculated, hinputs, hcomparison, -⟩ := hmembers
  obtain ⟨hstatus, hprior, hid, hcorrected, hexpires⟩ :=
    memberAt_markerJson (rowIdentity row).humanReview
  simp only [exportPaths, rowFields, List.map_cons, List.map_nil, memberAt_cons hfinding,
    memberAt_cons hasset, memberAt_cons hassetName, memberAt_cons hcomponent,
    memberAt_cons hversion, memberAt_cons hvulnerability, memberAt_cons hreview,
    memberAt_cons hband, memberAt_cons hpriority, memberAt_cons hpolicy,
    memberAt_cons hcalculated, memberAt_cons hinputs, memberAt_cons hcomparison,
    Option.bind_some, hstatus, hprior, hid, hcorrected, hexpires]
  cases calculatedRow row with
  | none => cases comparisonOf row <;> rfl
  | some calculated =>
      obtain ⟨hpolicyId, hkey, hpolicyVersion, hhash⟩ := memberAt_policyJson calculated.policy
      obtain ⟨hchange, hsignals⟩ := memberAt_inputsJson calculated.inputsChanged
      simp only [Option.map_some, Option.bind_some, hpolicyId, hkey, hpolicyVersion, hhash,
        hchange, hsignals]
      cases comparisonOf row <;> rfl

theorem exportRecord_eq (numberText : Rat → JsString) {sections : RemediationQueueExportSections}
    {row : RemediationQueueSection × RemediationQueueRow} (h : row ∈ exportRows sections) :
    exportRecord numberText (sectionText row.1, toRow row.1 row.2) =
      neutralized (sectionText row.1) :: (rowFields row.2).map (fieldCell numberText) := by
  rw [exportRecord, toRow_eq h, ← memberAt_exportPaths, List.map_map]
  rfl

/-! ## The lines of the CSV export -/

theorem csvText_eq (value : JsString) : csvText value = csvCell (neutralized value) := by
  unfold csvText
  cases value with
  | nil => rfl
  | cons u rest => exact if_neg (Nat.succ_ne_zero rest.length)

theorem filterMap_signals (signals : List PriorityInputChangeSignal) :
    (signals.map fun signal => JsonValue.string (changeSignal signal)).filterMap
      JsonValue.string? = signals.map changeSignal := by
  rw [List.filterMap_map]
  exact congrFun List.filterMap_eq_map signals

/-- The cells of a marker. -/
theorem reviewCells_eq (numberText : Rat → JsString) (marker : FindingPriorityReviewMarker) :
    reviewCells marker = [some (.string (reviewStatus marker)),
      some (.boolean (reviewPrior marker)), (reviewId marker).map .string,
      (reviewBand marker).map fun band => .string (text band),
      (reviewExpires marker).map .string].map (csvCell ∘ fieldCell numberText) := by
  simp only [reviewCells, csvText_eq]
  cases marker <;> rfl

/-- The cells of the fields that a row has when it was calculated. -/
theorem calculatedCells_eq (numberText : Rat → JsString) {row : RemediationQueueRankedRow}
    {priority : Rat} (h : row.priority = .finite priority) :
    calculatedCells numberText row = some ([some (.string (text row.priorityBand)),
      some (.number row.priority), some (.string row.policy.riskPolicyId),
      some (.string row.policy.policyKey), some (.number (.finite row.policy.policyVersion)),
      some (.string row.policy.policyDefinitionSha256), some (.string row.calculatedAt),
      some (.string (changeStatus row.inputsChanged.status)),
      some (.array (row.inputsChanged.signals.map fun signal =>
        .string (changeSignal signal)))].map (csvCell ∘ fieldCell numberText)) := by
  have hsignals := filterMap_signals row.inputsChanged.signals
  simp only [calculatedCells, h, csvText_eq, csvNumber, List.map_cons, List.map_nil,
    Function.comp_apply, fieldCell, fieldText, hsignals]
  rfl

/-- The number of a row that was calculated is finite. -/
def FinitePriority (row : RemediationQueueRow) : Prop :=
  ∀ calculated ∈ calculatedRow row, ∃ priority, calculated.priority = .finite priority

/-- A line holds the cells of the columns. -/
theorem csvLine_eq (numberText : Rat → JsString) {sections : RemediationQueueExportSections}
    {row : RemediationQueueSection × RemediationQueueRow} (hmem : row ∈ exportRows sections)
    (h : FinitePriority row.2) :
    csvLine numberText row.1 row.2 = some ([unit ','].intercalate
      ((exportRecord numberText (sectionText row.1, toRow row.1 row.2)).map csvCell)) := by
  obtain ⟨queueSection, row⟩ := row
  have hreview := reviewCells_eq numberText (rowIdentity row).humanReview
  rw [exportRecord_eq numberText hmem, List.map_cons, List.map_map]
  cases row with
  | ranked row =>
      obtain ⟨priority, hpriority⟩ := h row rfl
      simp only [csvLine, calculatedCells_eq numberText hpriority, hreview, csvText_eq]
      rfl
  | incomparable row comparisonMessage =>
      obtain ⟨priority, hpriority⟩ := h row rfl
      simp only [csvLine, calculatedCells_eq numberText hpriority, hreview, csvText_eq]
      rfl
  | notCalculated row =>
      simp only [csvLine, hreview, csvText_eq]
      rfl

/-! ## What holds of every field -/

/-- The texts in a document are well-formed. -/
inductive WellFormedStrings : JsonValue → Prop
  | null : WellFormedStrings .null
  | boolean (value : Bool) : WellFormedStrings (.boolean value)
  | number (value : JsNumber) : WellFormedStrings (.number value)
  | string {value : JsString} (wellFormed : isWellFormed value = true) :
      WellFormedStrings (.string value)
  | array {items : List JsonValue} (each : ∀ item ∈ items, WellFormedStrings item) :
      WellFormedStrings (.array items)
  | object {entries : JsonRecord} (each : ∀ entry ∈ entries, WellFormedStrings entry.2) :
      WellFormedStrings (.object entries)

/-- A value that is written as well-formed text. -/
structure Printable (value : JsonValue) : Prop where
  writable : JsonWritable value
  texts : WellFormedStrings value

theorem Printable.member {entries : JsonRecord} (h : Printable (.object entries)) :
    ∀ entry ∈ entries, Printable entry.2 := by
  obtain ⟨hwritable, htexts⟩ := h
  intro entry hentry
  cases hwritable with
  | object names writable =>
      cases htexts with
      | object texts => exact ⟨writable entry hentry, texts entry hentry⟩

theorem Printable.item {items : List JsonValue} (h : Printable (.array items)) :
    ∀ item ∈ items, Printable item := by
  obtain ⟨hwritable, htexts⟩ := h
  intro item hitem
  cases hwritable with
  | array writable =>
      cases htexts with
      | array texts => exact ⟨writable item hitem, texts item hitem⟩

theorem Printable.memberAt : ∀ {path : List JsString} {value field : JsonValue},
    Printable value → memberAt path value = some field → Printable field := by
  intro path
  induction path with
  | nil =>
      intro value field h hfield
      cases hfield
      exact h
  | cons name path ih =>
      intro value field h hfield
      obtain ⟨member, hmember, hpath⟩ := Option.bind_eq_some_iff.mp hfield
      obtain ⟨record, hrecord, hmember⟩ := Option.bind_eq_some_iff.mp hmember
      obtain ⟨entry, hentry, rfl⟩ := Option.map_eq_some_iff.mp hmember
      cases value with
      | object entries =>
          cases hrecord
          exact ih (h.member entry (List.mem_of_find?_eq_some hentry)) hpath
      | null => cases hrecord
      | boolean value => cases hrecord
      | number value => cases hrecord
      | string value => cases hrecord
      | array items => cases hrecord

theorem Printable.exportedRows {body : JsonValue} (h : Printable body) :
    ∀ row ∈ exportedRows body, Printable row.2 := by
  intro row hrow
  obtain ⟨name, -, hrow⟩ := List.mem_flatMap.mp hrow
  obtain ⟨value, hvalue, rfl⟩ := List.mem_map.mp hrow
  cases hfield : RemediationExport.memberAt [js "sections", name] body with
  | none =>
      rw [hfield] at hvalue
      exact absurd hvalue List.not_mem_nil
  | some field =>
      rw [hfield] at hvalue
      cases field with
      | array items => exact (h.memberAt hfield).item value hvalue
      | null => exact absurd hvalue List.not_mem_nil
      | boolean value => exact absurd hvalue List.not_mem_nil
      | number value => exact absurd hvalue List.not_mem_nil
      | string value => exact absurd hvalue List.not_mem_nil
      | object entries => exact absurd hvalue List.not_mem_nil

theorem isWellFormed_neutralized {value : JsString} (h : isWellFormed value = true) :
    isWellFormed (neutralized value) = true := by
  unfold neutralized
  split
  · exact isWellFormed_cons (by decide) h
  · exact h

/-- The cell of a printable field is well-formed. -/
theorem isWellFormed_fieldCell {numberText : Rat → JsString}
    (hnumbers : NumbersReadBack numberText) {field : Option JsonValue}
    (h : ∀ value ∈ field, Printable value) : isWellFormed (fieldCell numberText field) = true := by
  cases field with
  | none => rfl
  | some value =>
      have hvalue := h value rfl
      cases value with
      | null => rfl
      | boolean value =>
          cases value with
          | true => exact isWellFormed_js _
          | false => exact isWellFormed_js _
      | number value =>
          cases hvalue.writable with
          | number double =>
              exact isWellFormed_of_isAscii (isAscii_numberText (hnumbers _ double))
      | string value =>
          cases hvalue.texts with
          | string wellFormed => exact isWellFormed_neutralized wellFormed
      | array items =>
          refine isWellFormed_neutralized (isWellFormed_intercalate (by decide) ?_)
          intro part hpart
          obtain ⟨item, hitem, hpart⟩ := List.mem_filterMap.mp hpart
          have htexts := (hvalue.item item hitem).texts
          cases htexts with
          | string wellFormed =>
              cases hpart
              exact wellFormed
          | null => cases hpart
          | boolean value => cases hpart
          | number value => cases hpart
          | array each => cases hpart
          | object each => cases hpart
      | object entries => rfl

/-- A cell that is no number does not start as a formula. -/
theorem startsFormula_neutralized (value : JsString) :
    startsFormula (neutralized value) = false := by
  unfold neutralized
  by_cases h : startsFormula value = true
  · rw [if_pos h]
    show startsFormula [apostrophe] = false
    decide
  · rw [if_neg h]
    exact eq_false_of_ne_true h

/-! ## Documents that pass the schema -/

/-- What the schema says of the numbers of a document. -/
theorem passes_numbers {document : RemediationQueueExportDocument}
    (h : passesResponseSchema document = true) :
    document.reference.policyVersion < 2 ^ 53 ∧ document.counts.ranked < 2 ^ 53 ∧
      document.counts.incomparable < 2 ^ 53 ∧ document.counts.notCalculated < 2 ^ 53 ∧
      document.rowCount < 2 ^ 53 ∧ document.cap < 2 ^ 53 := by
  have hcap : remediationQueueExportCap = 150 := rfl
  have hbuiltin : builtinPriorityPolicyVersion < 2 ^ 53 := by decide
  simp only [passesResponseSchema, referencePasses, Bool.and_eq_true, decide_eq_true_eq] at h
  obtain ⟨⟨⟨⟨⟨⟨⟨⟨⟨⟨⟨-, ⟨⟨⟨-, hversion⟩, -⟩, -⟩⟩, hrows⟩, hlimit⟩, -⟩, -⟩, -⟩, -⟩, hcounts⟩,
    -⟩, -⟩, -⟩ := h
  omega

/-- What the schema says of the rows that were calculated. -/
theorem passes_rows {document : RemediationQueueExportDocument}
    (h : passesResponseSchema document = true)
    {row : RemediationQueueSection × RemediationQueueRow}
    (hrow : row ∈ exportRows document.sections) :
    ∀ calculated ∈ calculatedRow row.2, rankedPasses calculated = true := by
  simp only [passesResponseSchema, Bool.and_eq_true, List.all_eq_true] at h
  obtain ⟨⟨⟨⟨⟨⟨⟨⟨-, hranked⟩, hincomparable⟩, -⟩, -⟩, -⟩, -⟩, -⟩, -⟩ := h
  unfold exportRows at hrow
  rw [List.mem_append, List.mem_append, List.mem_map, List.mem_map, List.mem_map] at hrow
  intro calculated hcalculated
  rcases hrow with (⟨ranked, hmem, rfl⟩ | ⟨incomparable, hmem, rfl⟩) | ⟨identity, -, rfl⟩
  · cases hcalculated
    exact hranked _ hmem
  · cases hcalculated
    exact ((Bool.and_eq_true _ _).mp (hincomparable _ hmem)).1
  · cases hcalculated

theorem finite_of_rankedPasses {row : RemediationQueueRankedRow} (h : rankedPasses row = true) :
    ∃ priority, row.priority = .finite priority := by
  simp only [rankedPasses, Bool.and_eq_true] at h
  obtain ⟨⟨⟨⟨-, hfinite⟩, -⟩, -⟩, -⟩ := h
  cases hpriority : row.priority with
  | finite priority => exact ⟨priority, rfl⟩
  | nan =>
      rw [hpriority] at hfinite
      cases hfinite
  | infinity negative =>
      rw [hpriority] at hfinite
      cases hfinite

theorem policy_of_rankedPasses {row : RemediationQueueRankedRow} (h : rankedPasses row = true) :
    policyPasses row.policy = true := by
  simp only [rankedPasses, Bool.and_eq_true] at h
  exact h.1.1.2

/-- What makes a document one of ECMAScript: a priority is a double.  Its texts are well-formed. -/
structure WellTyped (document : RemediationQueueExportDocument) : Prop where
  priority : ∀ row ∈ exportRows document.sections, ∀ calculated ∈ calculatedRow row.2,
    ∀ value, calculated.priority = .finite value → IsDouble value
  texts : WellFormedStrings (exportBody document)

theorem jsonWritable_policyJson {policy : RowPolicy} (h : policyPasses policy = true) :
    JsonWritable (policyJson policy) := by
  simp only [policyPasses, Bool.and_eq_true, decide_eq_true_eq] at h
  obtain ⟨⟨⟨-, hpositive⟩, hsafe⟩, -⟩ := h
  obtain ⟨version, hversion⟩ := Int.eq_ofNat_of_zero_le hpositive.le
  have hdouble : IsDouble policy.policyVersion := by
    rw [hversion, Int.cast_natCast]
    exact isDouble_natCast (by omega)
  refine .object (show [js "riskPolicyId", js "policyKey", js "policyVersion",
    js "policyDefinitionSha256"].Nodup by simp [js_inj]) ?_
  simp only [List.forall_mem_cons, List.not_mem_nil, false_implies, implies_true, and_true]
  exact ⟨.string _, .string _, .number hdouble, .string _⟩

theorem jsonWritable_inputsJson (report : PriorityInputChangeReport) :
    JsonWritable (inputsJson report) := by
  refine .object (show [js "status", js "signals"].Nodup by simp [js_inj]) ?_
  simp only [List.forall_mem_cons, List.not_mem_nil, false_implies, implies_true, and_true]
  refine ⟨.string _, .array fun item hitem => ?_⟩
  obtain ⟨signal, -, rfl⟩ := List.mem_map.mp hitem
  exact .string _

theorem jsonWritable_optional {α : Type} {toJson : α → JsonValue}
    (h : ∀ a, JsonWritable (toJson a)) (value : Option α) :
    ∀ json ∈ value.map toJson, JsonWritable json := by
  intro json hjson
  obtain ⟨a, -, rfl⟩ := Option.map_eq_some_iff.mp hjson
  exact h a

theorem jsonWritable_markerJson (marker : FindingPriorityReviewMarker) :
    JsonWritable (markerJson marker) := by
  refine jsonWritable_present (markerNames_nodup marker) ?_
  simp only [markerMembers, List.forall_mem_cons, List.not_mem_nil, false_implies, implies_true,
    and_true]
  refine ⟨?_, ?_, jsonWritable_optional .string _, jsonWritable_optional (fun _ => .string _) _,
    jsonWritable_optional .string _⟩
  · rintro _ ⟨⟩
    exact .string _
  · rintro _ ⟨⟩
    exact .boolean _

/-- The object of a row that passes is written. -/
theorem jsonWritable_row {row : RemediationQueueRow}
    (hpasses : ∀ calculated ∈ calculatedRow row, rankedPasses calculated = true)
    (hdouble : ∀ calculated ∈ calculatedRow row, ∀ value,
      calculated.priority = .finite value → IsDouble value) :
    JsonWritable (.object (JsonRecord.present (rowMembers row))) := by
  have hcalculated : ∀ {toJson : RemediationQueueRankedRow → JsonValue},
      (∀ calculated ∈ calculatedRow row, JsonWritable (toJson calculated)) →
        ∀ json ∈ (calculatedRow row).map toJson, JsonWritable json := by
    intro toJson h json hjson
    obtain ⟨calculated, hmem, rfl⟩ := Option.map_eq_some_iff.mp hjson
    exact h calculated hmem
  have hsome : ∀ {value : JsonValue}, JsonWritable value →
      ∀ json ∈ some value, JsonWritable json := by
    rintro value h _ ⟨⟩
    exact h
  refine jsonWritable_present (rowNames_nodup row) ?_
  simp only [rowMembers, List.forall_mem_cons, List.not_mem_nil, false_implies, implies_true,
    and_true]
  refine ⟨hsome (.string _), hsome (.string _), hsome (.string _), hsome (.string _),
    hsome (.string _), hsome (.string _), hsome (jsonWritable_markerJson _),
    hcalculated fun _ _ => .string _, hcalculated fun calculated hmem => ?_,
    hcalculated fun calculated hmem => ?_, hcalculated fun _ _ => .string _,
    hcalculated fun _ _ => jsonWritable_inputsJson _, jsonWritable_optional .string _⟩
  · obtain ⟨priority, hpriority⟩ := finite_of_rankedPasses (hpasses calculated hmem)
    rw [hpriority]
    exact .number (hdouble calculated hmem priority hpriority)
  · exact jsonWritable_policyJson (policy_of_rankedPasses (hpasses calculated hmem))

theorem jsonWritable_countJson {count : Nat} (h : count < 2 ^ 53) :
    JsonWritable (countJson count) := .number (isDouble_natCast h)

/-- The rows of the JSON export of a document. -/
theorem exportedRows_exportBody (document : RemediationQueueExportDocument) :
    exportedRows (exportBody document) = (exportRows document.sections).map fun row =>
      (sectionText row.1, toRow row.1 row.2) := by
  have hranked : memberAt [js "sections", js "ranked"] (exportBody document) =
      some (.array (document.sections.ranked.map fun row => toRow .ranked (.ranked row))) := rfl
  have hincomparable : memberAt [js "sections", js "incomparable"] (exportBody document) =
      some (.array (document.sections.incomparable.map fun row =>
        toRow .incomparable (.incomparable row.1 row.comparisonMessage))) := rfl
  have hnot : memberAt [js "sections", js "not_calculated"] (exportBody document) =
      some (.array (document.sections.notCalculated.map fun row =>
        toRow .notCalculated (.notCalculated row))) := rfl
  simp only [exportedRows, exportRows, List.flatMap_cons, List.flatMap_nil, List.append_nil,
    hranked, hincomparable, hnot, Option.bind_some, JsonValue.array?, Option.getD_some,
    List.map_map, List.map_append, List.append_assoc]
  rfl

/-- The JSON export of a document that passes is written. -/
theorem jsonWritable_exportBody {document : RemediationQueueExportDocument}
    (hpasses : passesResponseSchema document = true) (htyped : WellTyped document) :
    JsonWritable (exportBody document) := by
  obtain ⟨hversion, hranked, hincomparable, hnot, hrows, hcap⟩ := passes_numbers hpasses
  have hrow : ∀ row ∈ exportRows document.sections, JsonWritable (toRow row.1 row.2) := by
    intro row hrow
    rw [toRow_eq hrow]
    exact jsonWritable_row (passes_rows hpasses hrow) (htyped.priority row hrow)
  simp only [exportRows, List.forall_mem_append, List.forall_mem_map] at hrow
  obtain ⟨⟨hrankedRows, hincomparableRows⟩, hnotRows⟩ := hrow
  refine .object (show [js "schemaVersion", js "format", js "asOf", js "reference", js "counts",
    js "rowCount", js "cap", js "sections"].Nodup by simp [js_inj]) ?_
  simp only [List.forall_mem_cons, List.not_mem_nil, false_implies, implies_true, and_true]
  refine ⟨.string _, .string _, .string _, ?_, ?_, jsonWritable_countJson hrows,
    jsonWritable_countJson hcap, ?_⟩
  · refine .object (show [js "policyKey", js "policyVersion", js "policyDefinitionSha256",
      js "engineVersion"].Nodup by simp [js_inj]) ?_
    simp only [List.forall_mem_cons, List.not_mem_nil, false_implies, implies_true, and_true]
    exact ⟨.string _, jsonWritable_countJson hversion, .string _, .string _⟩
  · refine .object
      (show [js "ranked", js "incomparable", js "not_calculated"].Nodup by simp [js_inj]) ?_
    simp only [List.forall_mem_cons, List.not_mem_nil, false_implies, implies_true, and_true]
    exact ⟨jsonWritable_countJson hranked, jsonWritable_countJson hincomparable,
      jsonWritable_countJson hnot⟩
  · refine .object
      (show [js "ranked", js "incomparable", js "not_calculated"].Nodup by simp [js_inj]) ?_
    simp only [List.forall_mem_cons, List.not_mem_nil, false_implies, implies_true, and_true]
    exact ⟨.array (List.forall_mem_map.mpr hrankedRows),
      .array (List.forall_mem_map.mpr hincomparableRows), .array (List.forall_mem_map.mpr hnotRows)⟩

/-! ## Bytes -/

/-- Text that starts with an ASCII character has no byte order mark. -/
theorem encodeUtf8_ascii {u : UInt16} (h : u ≤ 0x7F) (rest : JsString) :
    encodeUtf8 (u :: rest) = some (utf8Encode (u :: rest)) := by
  have hbyte : u.toUInt8 ≠ 0xEF := by
    intro heq
    have hnat : u.toNat % 256 = 0xEF := congrArg UInt8.toNat heq
    have hle : u.toNat ≤ 0x7F := UInt16.le_iff_toNat_le.mp h
    omega
  unfold encodeUtf8
  rw [utf8Encode_cons_ascii h]
  refine if_neg fun hmark => hbyte ?_
  exact Option.some.inj hmark.2.1

/-- The JSON bytes are read as the body of the export. -/
theorem json_readBack {numberText : Rat → JsString} (hnumbers : NumbersReadBack numberText)
    {document : RemediationQueueExportDocument} (hpasses : passesResponseSchema document = true)
    (htyped : WellTyped document) :
    ∃ bytes, serializeRemediationQueueExport numberText { document with format := .json } =
        some bytes ∧
      parseJson (utf8Decode bytes) = some (exportBody document) := by
  have hbody := parseJson_bytes hnumbers (jsonWritable_exportBody hpasses htyped)
  refine ⟨_, ?_, hbody⟩
  have hserialize : serializeExportJson numberText { document with format := .json } =
      some (writeJson (jsonTexts numberText) (exportBody document)) := by
    refine if_neg ?_
    rintro (hformat | hrefused)
    · exact hformat rfl
    · exact Bool.false_ne_true (hrefused.symm.trans hpasses)
  rw [serializeRemediationQueueExport, hserialize, Option.bind_some, exportBody, writeJson,
    List.cons_append]
  exact encodeUtf8_ascii (by decide) _

theorem exportCsvHeader_cells : exportCsvHeader.map csvCell = exportCsvHeader := by
  decide +kernel

theorem isWellFormed_exportCsvHeader : ∀ cell ∈ exportCsvHeader, isWellFormed cell = true := by
  simp only [exportCsvHeader, List.forall_mem_cons, isWellFormed_js, List.not_mem_nil,
    false_implies, implies_true, and_self]

theorem isWellFormed_sectionText (queueSection : RemediationQueueSection) :
    isWellFormed (sectionText queueSection) = true := by
  cases queueSection <;> exact isWellFormed_js _

/-- The CSV bytes are read as the header and one record for each row of the JSON export. -/
theorem csv_readBack {numberText : Rat → JsString} (hnumbers : NumbersReadBack numberText)
    {document : RemediationQueueExportDocument} (hpasses : passesResponseSchema document = true)
    (htyped : WellTyped document) :
    ∃ bytes, serializeRemediationQueueExport numberText { document with format := .csv } =
        some bytes ∧
      readCsv (utf8Decode bytes) = some (exportCsvHeader ::
        (exportedRows (exportBody document)).map (exportRecord numberText)) := by
  have hprintable : Printable (exportBody document) :=
    ⟨jsonWritable_exportBody hpasses htyped, htyped.texts⟩
  have hlines : (exportRows document.sections).mapM (fun row => csvLine numberText row.1 row.2) =
      some (((exportedRows (exportBody document)).map (exportRecord numberText)).map
        fun record => [unit ','].intercalate (record.map csvCell)) := by
    rw [exportedRows_exportBody, List.map_map, List.map_map]
    refine mapM_eq_some.mpr (List.forall₂_map_right_iff.mpr (List.forall₂_same.mpr ?_))
    intro row hrow
    exact csvLine_eq numberText hrow fun calculated hcalculated =>
      finite_of_rankedPasses (passes_rows hpasses hrow calculated hcalculated)
  have hcells : ∀ record ∈ (exportedRows (exportBody document)).map (exportRecord numberText),
      ∀ cell ∈ record, isWellFormed cell = true := by
    rintro record hrecord
    obtain ⟨row, hrow, rfl⟩ := List.mem_map.mp hrecord
    have hname : isWellFormed row.1 = true := by
      rw [exportedRows_exportBody] at hrow
      obtain ⟨source, -, rfl⟩ := List.mem_map.mp hrow
      exact isWellFormed_sectionText source.1
    refine List.forall_mem_cons.mpr ⟨isWellFormed_neutralized hname, fun cell hcell => ?_⟩
    obtain ⟨path, -, rfl⟩ := List.mem_map.mp hcell
    exact isWellFormed_fieldCell hnumbers fun value hvalue =>
      (hprintable.exportedRows row hrow).memberAt hvalue
  have hnonempty : ∀ record ∈ (exportedRows (exportBody document)).map (exportRecord numberText),
      record ≠ [] := by
    rintro record hrecord
    obtain ⟨row, -, rfl⟩ := List.mem_map.mp hrecord
    exact List.cons_ne_nil _ _
  generalize (exportedRows (exportBody document)).map (exportRecord numberText) = records
    at hlines hcells hnonempty ⊢
  have htext : serializeExportCsv numberText { document with format := .csv } =
      some ((exportCsvHeader :: records).flatMap csvRecord) := by
    have hserialize : serializeExportCsv numberText { document with format := .csv } =
        ((exportRows document.sections).mapM fun row => csvLine numberText row.1 row.2).bind
          fun lines => some ([lineFeed].intercalate
            ([unit ','].intercalate exportCsvHeader :: lines) ++ [lineFeed]) :=
      if_neg fun hrefused => Bool.false_ne_true (hrefused.symm.trans hpasses)
    rw [hserialize, hlines, Option.bind_some, intercalate_lineFeed (List.cons_ne_nil _ _),
      List.flatMap_cons, List.flatMap_map, List.flatMap_cons, csvRecord, exportCsvHeader_cells]
    rfl
  have hheader : ∃ tail, (exportCsvHeader :: records).flatMap csvRecord = unit 's' :: tail :=
    ⟨_, rfl⟩
  have hwellFormed : isWellFormed ((exportCsvHeader :: records).flatMap csvRecord) = true :=
    isWellFormed_csvRecords (List.forall_mem_cons.mpr ⟨isWellFormed_exportCsvHeader, hcells⟩)
  have hread := readCsv_records (List.forall_mem_cons.mpr
    ⟨(List.cons_ne_nil _ _ : exportCsvHeader ≠ []), hnonempty⟩)
  refine ⟨utf8Encode ((exportCsvHeader :: records).flatMap csvRecord), ?_, ?_⟩
  · obtain ⟨tail, htail⟩ := hheader
    rw [serializeRemediationQueueExport, htext, Option.bind_some, htail]
    exact encodeUtf8_ascii (by decide) tail
  · rw [utf8Decode_encode_wellFormed _ hwellFormed]
    exact hread

/-! ## The two exports -/

/-- The columns of numbers. -/
def numberPaths : List (List JsString) := [[js "priority"], [js "policy", js "policyVersion"]]

theorem startsFormula_optional {α : Type} (numberText : Rat → JsString) (toText : α → JsString)
    (value : Option α) :
    startsFormula (fieldCell numberText (value.map fun a => .string (toText a))) = false := by
  cases value with
  | none => rfl
  | some a => exact startsFormula_neutralized (toText a)

/-- In the columns of texts no cell starts as a formula. -/
theorem startsFormula_rowFields (numberText : Rat → JsString) (row : RemediationQueueRow) :
    ∀ column ∈ exportPaths.zip (rowFields row), column.1 ∉ numberPaths →
      startsFormula (fieldCell numberText column.2) = false := by
  have htext : ∀ value, startsFormula (fieldCell numberText (some (.string value))) = false :=
    startsFormula_neutralized
  have hoptional := fun toText => startsFormula_optional numberText toText (calculatedRow row)
  have hsignals : startsFormula (fieldCell numberText ((calculatedRow row).map fun row =>
      .array (row.inputsChanged.signals.map fun signal => .string (changeSignal signal)))) =
        false := by
    cases calculatedRow row with
    | none => rfl
    | some calculated => exact startsFormula_neutralized _
  simp only [exportPaths, rowFields, List.zip_cons_cons, List.zip_nil_left, List.forall_mem_cons,
    List.not_mem_nil, false_implies, implies_true, and_true]
  exact ⟨fun _ => htext _, fun _ => htext _, fun _ => htext _, fun _ => htext _,
    fun _ => htext _, fun _ => htext _, fun _ => htext _, fun _ => startsFormula_neutralized _,
    fun _ => startsFormula_optional numberText id _, fun _ => startsFormula_optional _ _ _,
    fun _ => startsFormula_optional numberText id _, fun _ => hoptional _,
    fun h => absurd List.mem_cons_self h, fun _ => hoptional _, fun _ => hoptional _,
    fun h => absurd (List.mem_cons_of_mem _ List.mem_cons_self) h, fun _ => hoptional _,
    fun _ => hoptional _, fun _ => hoptional _, fun _ => hsignals,
    fun _ => startsFormula_optional numberText id _⟩

/-- The columns and the fields of a row. -/
theorem mem_zip_rowFields {sections : RemediationQueueExportSections}
    {row : RemediationQueueSection × RemediationQueueRow} (h : row ∈ exportRows sections)
    {path : List JsString} (hpath : path ∈ exportPaths) :
    (path, memberAt path (toRow row.1 row.2)) ∈ exportPaths.zip (rowFields row.2) := by
  have hzip := @List.zip_map' _ _ _ id
    (memberAt · (.object (JsonRecord.present (rowMembers row.2)))) exportPaths
  rw [List.map_id] at hzip
  rw [toRow_eq h, ← memberAt_exportPaths, hzip]
  exact List.mem_map_of_mem hpath

/-- Both exports of a document are written.  The reader of the JSON bytes finds the body, and the
reader of the CSV bytes finds the header and, section after section, one record for each row of
the body: 22 cells that show its fields.  No cell of a text starts as a formula. -/
theorem serializeRemediationQueueExport_fields {numberText : Rat → JsString}
    (hnumbers : NumbersReadBack numberText) {document : RemediationQueueExportDocument}
    (hpasses : passesResponseSchema document = true) (htyped : WellTyped document) :
    ∃ json csv,
      serializeRemediationQueueExport numberText { document with format := .json } = some json ∧
      serializeRemediationQueueExport numberText { document with format := .csv } = some csv ∧
      parseJson (utf8Decode json) = some (exportBody document) ∧
      exportedRows (exportBody document) = (exportRows document.sections).map (fun row =>
        (sectionText row.1, toRow row.1 row.2)) ∧
      readCsv (utf8Decode csv) = some (exportCsvHeader ::
        (exportedRows (exportBody document)).map (exportRecord numberText)) ∧
      exportCsvHeader.length = 22 ∧
      ∀ row ∈ exportedRows (exportBody document), (exportRecord numberText row).length = 22 ∧
        ∀ path ∈ exportPaths, path ∉ numberPaths →
          startsFormula (fieldCell numberText (memberAt path row.2)) = false := by
  obtain ⟨json, hjson, hbody⟩ := json_readBack hnumbers hpasses htyped
  obtain ⟨csv, hcsv, hrecords⟩ := csv_readBack hnumbers hpasses htyped
  have hrows := exportedRows_exportBody document
  refine ⟨json, csv, hjson, hcsv, hbody, hrows, hrecords, rfl, fun row hrow => ⟨rfl, ?_⟩⟩
  rw [hrows] at hrow
  obtain ⟨source, hsource, rfl⟩ := List.mem_map.mp hrow
  intro path hpath htext
  exact startsFormula_rowFields numberText source.2 _ (mem_zip_rowFields hsource hpath) htext

/-- A row with a negative priority and a name that starts as a formula. -/
def negativeRow : RemediationQueueRankedRow where
  findingId := js "12121212-1212-4121-8121-121212121212"
  assetId := js "12121212-1212-4121-8121-121212121212"
  assetName := js "=1"
  componentName := js "a"
  componentVersion := js "1"
  vulnerabilityPublicId := js "V"
  humanReview := .none
  priorityBand := .p4
  priority := .finite (-1)
  policy := ⟨js "34343434-3434-4434-8434-343434343434", js "k", 1, List.replicate 64 (unit 'a')⟩
  calculatedAt := js "2026-11-04T18:00:00.000Z"
  inputsChanged := ⟨.noneDetected, []⟩

/-- The document of that row. -/
def negativeDocument : RemediationQueueExportDocument where
  format := .csv
  asOf := js "2026-11-04T18:00:00.000Z"
  reference := ⟨builtinPriorityPolicyKey, builtinPriorityPolicyVersion,
    List.replicate 64 (unit 'a'), priorityCalculationEngineVersion⟩
  counts := ⟨1, 0, 0⟩
  rowCount := 1
  cap := remediationQueueExportCap
  sections := ⟨[negativeRow], [], []⟩

theorem negativeDocument_passes : passesResponseSchema negativeDocument = true := by
  decide +kernel

theorem wellFormedStrings_js (s : String) : WellFormedStrings (.string (js s)) :=
  .string (isWellFormed_js s)

theorem negativeRow_wellFormed : WellFormedStrings (toRow .ranked (.ranked negativeRow)) := by
  show WellFormedStrings (.object (identityEntries negativeRow.1 ++ calculatedEntries negativeRow))
  refine .object ?_
  simp only [identityEntries, calculatedEntries, List.cons_append, List.nil_append,
    List.forall_mem_cons, List.not_mem_nil, false_implies, implies_true, and_true]
  refine ⟨wellFormedStrings_js _, wellFormedStrings_js _, wellFormedStrings_js _,
    wellFormedStrings_js _, wellFormedStrings_js _, wellFormedStrings_js _, .object ?_,
    wellFormedStrings_js _, .number _, .object ?_, wellFormedStrings_js _, .object ?_⟩
  · refine List.forall_mem_cons.mpr ⟨wellFormedStrings_js _, ?_⟩
    exact List.forall_mem_cons.mpr ⟨.boolean false, fun _ h => absurd h List.not_mem_nil⟩
  · simp only [List.forall_mem_cons, List.not_mem_nil, false_implies, implies_true, and_true]
    exact ⟨wellFormedStrings_js _, wellFormedStrings_js _, .number _, .string (by decide)⟩
  · simp only [List.forall_mem_cons, List.not_mem_nil, false_implies, implies_true, and_true]
    exact ⟨wellFormedStrings_js _, .array fun _ h => absurd h List.not_mem_nil⟩

theorem negativeDocument_wellTyped : WellTyped negativeDocument where
  priority row hrow calculated hcalculated value hvalue := by
    cases List.mem_singleton.mp (show row ∈ [(.ranked, .ranked negativeRow)] from hrow)
    cases hcalculated
    cases hvalue
    decide +kernel
  texts := by
    refine .object ?_
    simp only [List.forall_mem_cons, List.not_mem_nil, false_implies, implies_true, and_true]
    refine ⟨wellFormedStrings_js _, wellFormedStrings_js _, wellFormedStrings_js _, .object ?_,
      .object ?_, .number _, .number _, .object ?_⟩
    · simp only [List.forall_mem_cons, List.not_mem_nil, false_implies, implies_true, and_true]
      exact ⟨wellFormedStrings_js _, .number _, .string (by decide), wellFormedStrings_js _⟩
    · simp only [List.forall_mem_cons, List.not_mem_nil, false_implies, implies_true, and_true]
      exact ⟨.number _, .number _, .number _⟩
    · simp only [List.forall_mem_cons, List.not_mem_nil, false_implies, implies_true, and_true]
      exact ⟨.array (List.forall_mem_singleton.mpr negativeRow_wellFormed),
        .array fun _ h => absurd h List.not_mem_nil, .array fun _ h => absurd h List.not_mem_nil⟩

/-- The text of a negative number starts as a formula, and its cell holds it as it is. -/
theorem serializeRemediationQueueExport_negative_priority :
    passesResponseSchema negativeDocument = true ∧ WellTyped negativeDocument ∧
      ∃ csv record,
        serializeRemediationQueueExport exactText { negativeDocument with format := .csv } =
          some csv ∧
        readCsv (utf8Decode csv) = some [exportCsvHeader, record] ∧
        memberAt [js "priority"] (toRow .ranked (.ranked negativeRow)) =
          some (.number (.finite (-1))) ∧
        startsFormula (exactText (-1)) = true ∧ record[13]? = some (exactText (-1)) ∧
        record[13]? ≠ some (apostrophe :: exactText (-1)) := by
  obtain ⟨csv, hcsv, hread⟩ :=
    csv_readBack numbersReadBack_exactText negativeDocument_passes negativeDocument_wellTyped
  have hcell : (exportRecord exactText (js "ranked", toRow .ranked (.ranked negativeRow)))[13]? =
      some (exactText (-1)) := rfl
  have hdifferent : exactText (-1) ≠ apostrophe :: exactText (-1) :=
    (List.cons_ne_self apostrophe (exactText (-1))).symm
  refine ⟨negativeDocument_passes, negativeDocument_wellTyped, csv, _, hcsv, hread, rfl,
    by decide +kernel, hcell, fun heq => hdifferent ?_⟩
  exact Option.some.inj (hcell.symm.trans heq)

/-- Both exports of the document of a row whose name starts as a formula. -/
theorem serializeRemediationQueueExport_fields_sample :
    ∃ json csv,
      serializeRemediationQueueExport exactText { negativeDocument with format := .json } =
        some json ∧
      serializeRemediationQueueExport exactText { negativeDocument with format := .csv } =
        some csv ∧
      parseJson (utf8Decode json) = some (exportBody negativeDocument) ∧
      ∃ record, readCsv (utf8Decode csv) = some [exportCsvHeader, record] ∧
        record[3]? = some (apostrophe :: js "=1") := by
  obtain ⟨json, csv, hjson, hcsv, hbody, -, hread, -⟩ :=
    serializeRemediationQueueExport_fields numbersReadBack_exactText negativeDocument_passes
      negativeDocument_wellTyped
  exact ⟨json, csv, hjson, hcsv, hbody, _, hread, rfl⟩

end PatchPilot.Risk.RemediationExport
