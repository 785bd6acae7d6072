import PatchPilot.Risk.RemediationRows

set_option autoImplicit false

/-!
# Risk: reading a page of the remediation queue (`remediation-queue-persistence.ts`)

One repeatable-read transaction counts the rows of every section and selects one page of
one section: the rows after the cursor in the order of the section, one more than the
limit so that it is known whether any are left.  A malformed row anywhere in the
organization fails the page.

The counts are cast to `int` by the statement; that an organization has fewer findings
than that is taken for granted.
-/

namespace PatchPilot.Risk

open PatchPilot.Foundation
open PatchPilot.Policy

/-! ## The marker of a human review -/

/-- `PriorityReviewDecision`. -/
inductive PriorityReviewDecision
  | accepted | corrected | withdrawn
  deriving DecidableEq

/-- The head of a `PriorityReviewProjectionInput`. -/
structure PriorityReviewHead where
  reviewId : JsString
  decision : PriorityReviewDecision
  correctedBand : Option PriorityBand
  expiresAt : Option JsDate
  deriving DecidableEq

/-- `FindingPriorityReviewMarker`. -/
inductive FindingPriorityReviewMarker
  | none
  | noneForCurrentCalculation
  | accepted (priorReviewExists : Bool) (reviewId : JsString)
  | withdrawn (priorReviewExists : Bool) (reviewId : JsString)
  | corrected (priorReviewExists : Bool) (reviewId : JsString) (correctedBand : PriorityBand)
      (expiresAt : JsString)
  | expired (priorReviewExists : Bool) (reviewId : JsString) (correctedBand : PriorityBand)
      (expiresAt : JsString)
  deriving DecidableEq

/-- `isoInstant`. -/
def isoInstant (value : JsDate) : Option JsString :=
  (value.map textOfDate).filter isIsoText

/-- `projectPriorityReviewMarker`. -/
def projectPriorityReviewMarker (asOf : JsDate) (priorReviewExists : Bool)
    (head : Option PriorityReviewHead) : Option FindingPriorityReviewMarker := do
  let asOf ← asOf
  match head with
  | none => some (if priorReviewExists then .noneForCurrentCalculation else .none)
  | some head =>
      if isUuidLower head.reviewId = false then none
      else
        match head.decision with
        | .accepted =>
            if head.correctedBand ≠ none ∨ head.expiresAt ≠ none then none
            else some (.accepted priorReviewExists head.reviewId)
        | .withdrawn =>
            if head.correctedBand ≠ none ∨ head.expiresAt ≠ none then none
            else some (.withdrawn priorReviewExists head.reviewId)
        | .corrected => do
            let correctedBand ← head.correctedBand
            let expires ← head.expiresAt
            let expiresAt ← isoInstant expires
            let instant ← expires
            some (if instant ≤ asOf then
              .expired priorReviewExists head.reviewId correctedBand expiresAt
            else .corrected priorReviewExists head.reviewId correctedBand expiresAt)

/-- The decision of a text. -/
def reviewDecision (text : JsString) : Option PriorityReviewDecision :=
  if text = js "accepted" then some .accepted
  else if text = js "corrected" then some .corrected
  else if text = js "withdrawn" then some .withdrawn
  else none

/-- The band of a text. -/
def bandOfText (text : JsString) : Option PriorityBand := oneOf PriorityBand (.string text)

/-- `projectQueueReview`. -/
def projectQueueReview (row : QueueSqlRow) (asOf : JsString) :
    Option FindingPriorityReviewMarker := do
  if isIsoText asOf = false then none
  else
    match row.review with
    | none => projectPriorityReviewMarker (dateOfText asOf) row.priorReviewExists none
    | some review =>
        if review.headCount ≠ 1 ∨ isUuidLower review.reviewId = false then none
        else do
          let decision ← reviewDecision review.decision
          let correctedBand ←
            match review.correctedBand with
            | none => some none
            | some text => (bandOfText text).map some
          let expiresAt ←
            match review.expiresText with
            | none => some none
            | some text => if isIsoText text then some (some (dateOfText text)) else none
          projectPriorityReviewMarker (dateOfText asOf) row.priorReviewExists
            (some ⟨review.reviewId, decision, correctedBand, expiresAt⟩)

/-! ## Rows of the port -/

/-- `RemediationQueueCalculationFields`. -/
structure RemediationQueueCalculationFields where
  riskPolicyId : JsString
  policyKey : JsString
  policyVersion : Int
  policyDefinitionSha256 : JsString
  calculatedAt : JsString
  calculationEngineVersion : JsString
  priorityText : JsString
  priority : JsNumber
  priorityBand : PriorityBand
  escalationRecommended : Bool
  kevListed : Bool
  severityText : JsString
  severityPercent : JsNumber
  storedKevGenerationId : Option JsString
  lastObservedAt : JsString
  assetUpdatedAt : JsString
  deriving DecidableEq

/-- `RemediationQueueIdentity`. -/
structure RemediationQueueIdentity where
  findingId : JsString
  assetId : JsString
  assetName : JsString
  componentName : JsString
  componentVersion : JsString
  vulnerabilityPublicId : JsString
  firstObservedAt : JsString
  deriving DecidableEq

/-- `RemediationQueueRawRow`. -/
structure RemediationQueueRawRow extends RemediationQueueIdentity where
  section_ : RemediationQueueSection
  calculation : Option RemediationQueueCalculationFields
  humanReview : FindingPriorityReviewMarker
  deriving DecidableEq

/-- `Number.isFinite`. -/
def isFinite : JsNumber → Bool
  | .finite _ => true
  | _ => false

/-- `isText`: the text, unless it is `null` or empty. -/
def nonEmptyText (value : Option JsString) : Option JsString := value.filter fun s => !s.isEmpty

/-- A text of a time stamp, unless it is `null`. -/
def observedAtText (value : Option JsString) : Option JsString := value.filter isIsoText

/-- `mapCalculation`. -/
def mapCalculation (row : QueueSqlRow) : Option RemediationQueueCalculationFields := do
  let riskPolicyId ← nonEmptyText row.riskPolicyId
  let policyKey ← nonEmptyText row.policyKey
  let policyDefinitionSha256 ← nonEmptyText row.policyDefinitionSha256
  let calculationEngineVersion ← nonEmptyText row.engineVersion
  let calculatedAt ← observedAtText row.calculatedAtText
  let priorityText ← nonEmptyText row.priorityText
  let severityText ← nonEmptyText row.severityText
  let lastObservedAt ← observedAtText row.lastObservedText
  let assetUpdatedAt ← observedAtText row.assetUpdatedText
  let priorityBand ← row.priorityBand.bind bandOfText
  let escalationRecommended ← row.escalationRecommended
  let kevListed ← row.kevListed
  let policyVersion ← row.policyVersion
  let priority := numberOfText priorityText
  let severityPercent := numberOfText severityText
  if policyVersion < 1 ∨ isFinite priority = false ∨ isFinite severityPercent = false ∨
      row.storedKevGenerationId.all isUuidLower = false then none
  else
    some { riskPolicyId, policyKey, policyVersion, policyDefinitionSha256, calculatedAt
           calculationEngineVersion, priorityText, priority, priorityBand
           escalationRecommended, kevListed, severityText, severityPercent
           storedKevGenerationId := row.storedKevGenerationId, lastObservedAt
           assetUpdatedAt }

/-- The identity of a row. -/
def mapIdentity (row : QueueSqlRow) : Option RemediationQueueIdentity := do
  let assetName ← nonEmptyText row.assetName
  let componentName ← nonEmptyText row.componentName
  let componentVersion ← nonEmptyText row.componentVersion
  let vulnerabilityPublicId ← nonEmptyText row.vulnerabilityPublicId
  if isIsoText row.firstObservedText = false then none
  else
    some { findingId := row.findingId, assetId := row.assetId, assetName, componentName
           componentVersion, vulnerabilityPublicId, firstObservedAt := row.firstObservedText }

/-- `mapQueueRow`. -/
def mapQueueRow (row : QueueSqlRow) (queueSection : RemediationQueueSection) (asOf : JsString) :
    Option RemediationQueueRawRow :=
  if row.section_ ≠ queueSection then none
  else do
    let identity ← mapIdentity row
    let humanReview ← projectQueueReview row asOf
    if queueSection = .notCalculated then
      if row.calculationId ≠ none ∨ humanReview ≠ .none then none
      else
        some { toRemediationQueueIdentity := identity, section_ := queueSection
               calculation := none, humanReview }
    else do
      let calculation ← mapCalculation row
      some { toRemediationQueueIdentity := identity, section_ := queueSection
             calculation := some calculation, humanReview }

/-! ## Cursors -/

/-- What every `RemediationQueueCursor` names. -/
structure CursorReference where
  policyDefinitionSha256 : JsString
  engineVersion : JsString
  deriving DecidableEq

/-- The key of a ranked row. -/
structure RankedKey where
  priorityText : JsString
  escalationRecommended : Bool
  kevListed : Bool
  severityText : JsString
  firstObservedAt : JsString
  findingId : JsString
  deriving DecidableEq

/-- `RemediationQueueCursor`. -/
inductive RemediationQueueCursor
  | ranked (reference : CursorReference) (key : RankedKey)
  | incomparable (reference : CursorReference) (calculatedAt findingId : JsString)
  | notCalculated (reference : CursorReference) (firstObservedAt findingId : JsString)
  deriving DecidableEq

/-- The reference of a cursor. -/
def RemediationQueueCursor.reference : RemediationQueueCursor → CursorReference
  | .ranked reference _ => reference
  | .incomparable reference _ _ => reference
  | .notCalculated reference _ _ => reference

/-- The section of a cursor. -/
def RemediationQueueCursor.queueSection : RemediationQueueCursor → RemediationQueueSection
  | .ranked .. => .ranked
  | .incomparable .. => .incomparable
  | .notCalculated .. => .notCalculated

/-- A condition on a column; the comparison with `NULL` does not hold. -/
def holds {α : Type} (column : Option α) (condition : α → Bool) : Bool :=
  column.any condition

/-- A boolean of a key as the rank that the statement compares. -/
def rankOf (value : Bool) : Nat := if value then 0 else 1

/-- `finding_id COLLATE "C" > findingId`. -/
def afterFinding (findingId : JsString) (row : QueueSqlRow) : Bool :=
  decide (compareBytes row.findingId findingId = .gt)

/-- `first_observed_text` and `finding_id` after the key. -/
def afterObservation (firstObservedAt findingId : JsString) (row : QueueSqlRow) : Bool :=
  decide (compareBytes row.firstObservedText firstObservedAt = .gt) ||
    (decide (compareBytes row.firstObservedText firstObservedAt = .eq) &&
      afterFinding findingId row)

/-- The predicate of a ranked cursor. -/
def afterRank (key : RankedKey) (row : QueueSqlRow) : Bool :=
  holds row.priorityNumeric (fun p => decide (p < decimalValue key.priorityText)) ||
  (holds row.priorityNumeric (fun p => decide (p = decimalValue key.priorityText)) &&
    (holds row.escalationRank (fun e => decide (e > rankOf key.escalationRecommended)) ||
    (holds row.escalationRank (fun e => decide (e = rankOf key.escalationRecommended)) &&
      (holds row.kevRank (fun k => decide (k > rankOf key.kevListed)) ||
      (holds row.kevRank (fun k => decide (k = rankOf key.kevListed)) &&
        (holds row.severityNumeric (fun s => decide (s < decimalValue key.severityText)) ||
        (holds row.severityNumeric (fun s => decide (s = decimalValue key.severityText)) &&
          afterObservation key.firstObservedAt key.findingId row)))))))

/-- `cursorPredicate`; `none` when the cursor is of another section. -/
def cursorPredicate (queueSection : RemediationQueueSection)
    (cursor : Option RemediationQueueCursor) : Option (QueueSqlRow → Bool) :=
  match cursor with
  | none => some fun _ => true
  | some cursor =>
      if cursor.queueSection ≠ queueSection then none
      else
        match cursor with
        | .ranked _ key => some (afterRank key)
        | .incomparable _ calculatedAt findingId =>
            some fun row =>
              holds row.calculatedAtText
                (fun text => decide (compareBytes text calculatedAt = .gt)) ||
              (holds row.calculatedAtText
                  (fun text => decide (compareBytes text calculatedAt = .eq)) &&
                afterFinding findingId row)
        | .notCalculated _ firstObservedAt findingId =>
            some (afterObservation firstObservedAt findingId)

/-! ## The transaction -/

/-- `RemediationQueueReadQuery`. -/
structure RemediationQueueReadQuery where
  organizationId : JsString
  section_ : RemediationQueueSection
  scope : QueueClassificationScope
  limit : Nat
  cursor : Option RemediationQueueCursor
  deriving DecidableEq

/-- `RemediationQueueCounts`. -/
structure RemediationQueueCounts where
  ranked : Nat
  incomparable : Nat
  notCalculated : Nat
  deriving DecidableEq

/-- The page of a `RemediationQueueReadResult`. -/
structure RemediationQueueReadPage where
  asOf : JsString
  publishedPolicyId : JsString
  publishedPolicyKey : JsString
  publishedPolicyVersion : Nat
  publishedDefinition : JsValue
  activeKevGenerationId : Option JsString
  counts : RemediationQueueCounts
  findingCount : Nat
  rows : List RemediationQueueRawRow
  hasMore : Bool

/-- `RemediationQueueReadResult`. -/
inductive RemediationQueueReadResult
  | page (page : RemediationQueueReadPage)
  | policyAbsent
  | malformed
  | unavailable

/-- What a read sees of the database: the published builtin policies, the findings of the
organization and the pointer of the KEV source. -/
structure QueueDatabase where
  publishedPolicies : List StoredPriorityPolicyView
  findings : List JoinedFinding
  activeKevGenerationId : Option JsString

/-- `isQueueQuery`. -/
def isQueueQuery (input : RemediationQueueReadQuery) : Bool :=
  isUuidLower input.organizationId &&
    isSha256Text input.scope.referencePolicyDefinitionSha256 &&
    decide (0 < input.scope.referenceEngineVersion.length) &&
    decide (input.scope.referenceEngineVersion.length ≤ 64) &&
    decide (1 ≤ input.limit) && decide (input.limit ≤ 50)

/-- `isJsonObject`. -/
def isJsonObject : JsValue → Bool
  | .object _ _ => true
  | _ => false

/-- `isPublishedPolicy`. -/
def isPublishedPolicy (policy : StoredPriorityPolicyView) : Bool :=
  isUuidLower policy.id && decide (policy.policyKey = builtinPriorityPolicyKey) &&
    decide (policy.version = builtinPriorityPolicyVersion) && isJsonObject policy.definition

/-- The rows of `classified`. -/
def classifiedFindings (database : QueueDatabase) (scope : QueueClassificationScope) :
    List QueueSqlRow :=
  database.findings.map (classifiedFinding scope)

/-- The number of rows of a section that are not malformed. -/
def sectionCount (rows : List QueueSqlRow) (queueSection : RemediationQueueSection) : Nat :=
  (rows.filter fun row => !row.malformed && decide (row.section_ = queueSection)).length

/-- `classifiedSectionSql`: the rows of a section in its order. -/
def classifiedSection (rows : List QueueSqlRow) (queueSection : RemediationQueueSection)
    (predicate : QueueSqlRow → Bool) : List QueueSqlRow :=
  sortBy (sectionOrder queueSection)
    (rows.filter fun row => !row.malformed && decide (row.section_ = queueSection) && predicate row)

/-- `readInTransaction`, at a time that the database clock shows. -/
def readInTransaction (database : QueueDatabase) (asOf : JsString)
    (input : RemediationQueueReadQuery) : RemediationQueueReadResult :=
  match database.publishedPolicies with
  | [] => .policyAbsent
  | policy :: others =>
      if others ≠ [] ∨ isPublishedPolicy policy = false then .unavailable
      else
        let rows := classifiedFindings database input.scope
        let counts : RemediationQueueCounts := ⟨sectionCount rows .ranked,
          sectionCount rows .incomparable, sectionCount rows .notCalculated⟩
        if isIsoText asOf = false ∨ database.activeKevGenerationId.all isUuidLower = false ∨
            0 < (rows.filter QueueSqlRow.malformed).length ∨
            counts.ranked + counts.incomparable + counts.notCalculated ≠ rows.length then
          .malformed
        else
          match cursorPredicate input.section_ input.cursor with
          | none => .unavailable
          | some predicate =>
              let pageRows :=
                (classifiedSection rows input.section_ predicate).take (input.limit + 1)
              let hasMore := decide (pageRows.length > input.limit)
              let kept := if hasMore then pageRows.take input.limit else pageRows
              match kept.mapM fun row => mapQueueRow row input.section_ asOf with
              | none => .malformed
              | some mapped =>
                  .page {
                    asOf
                    publishedPolicyId := policy.id
                    publishedPolicyKey := builtinPriorityPolicyKey
                    publishedPolicyVersion := builtinPriorityPolicyVersion
                    publishedDefinition := policy.definition
                    activeKevGenerationId := database.activeKevGenerationId
                    counts
                    findingCount := rows.length
                    rows := mapped
                    hasMore }

/-- `readRemediationQueuePage`. -/
def readRemediationQueuePage (database : QueueDatabase) (asOf : JsString)
    (input : RemediationQueueReadQuery) : RemediationQueueReadResult :=
  if isQueueQuery input = false then .unavailable else readInTransaction database asOf input

end PatchPilot.Risk
