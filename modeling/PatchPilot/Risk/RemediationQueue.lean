import PatchPilot.Risk.PriorityRead
import PatchPilot.Risk.RemediationCursor

set_option autoImplicit false

/-!
# Risk: the remediation queue use case (`risk/remediation-queue.ts`)

A read admits the published policy, reads the cursor of the command against it, asks the
port for the rows and checks every row again before it shows it.  The cursor of the next
page is the key of the last row, with the reference under which the page was read.
-/

namespace PatchPilot.Risk.RemediationQueue

open PatchPilot.Foundation
open PatchPilot.Policy

/-! ## Pages -/

/-- `REMEDIATION_QUEUE_COMPARISON_MESSAGE`. -/
def remediationQueueComparisonMessage : JsString := js "recalculation required for comparison"

/-- What a row of every section shows of its finding. -/
structure RemediationQueueNotCalculatedRow where
  findingId : JsString
  assetId : JsString
  assetName : JsString
  componentName : JsString
  componentVersion : JsString
  vulnerabilityPublicId : JsString
  humanReview : FindingPriorityReviewMarker
  deriving DecidableEq

/-- The field `policy` of a row. -/
structure RowPolicy where
  riskPolicyId : JsString
  policyKey : JsString
  policyVersion : Int
  policyDefinitionSha256 : JsString
  deriving DecidableEq

/-- `RemediationQueueRankedRow`. -/
structure RemediationQueueRankedRow extends RemediationQueueNotCalculatedRow where
  priorityBand : PriorityBand
  priority : JsNumber
  policy : RowPolicy
  calculatedAt : JsString
  inputsChanged : PriorityInputChangeReport
  deriving DecidableEq

/-- A row of a `RemediationQueuePage`. -/
inductive RemediationQueueRow
  | ranked (row : RemediationQueueRankedRow)
  | incomparable (row : RemediationQueueRankedRow) (comparisonMessage : JsString)
  | notCalculated (row : RemediationQueueNotCalculatedRow)
  deriving DecidableEq

/-- `RemediationQueueReference`. -/
structure RemediationQueueReference where
  policyKey : JsString
  policyVersion : Nat
  policyDefinitionSha256 : JsString
  engineVersion : JsString
  deriving DecidableEq

/-- `RemediationQueuePage`. -/
structure RemediationQueuePage where
  asOf : JsString
  reference : RemediationQueueReference
  counts : RemediationQueueCounts
  section_ : RemediationQueueSection
  limit : Nat
  nextCursor : Option JsString
  rows : List RemediationQueueRow
  deriving DecidableEq

/-- `ReadRemediationQueueDependencies`, without the port. -/
structure ReadRemediationQueueDependencies where
  admittedPairs : List AdmittedPriorityPolicyPair
  referenceEngineVersion : JsString
  hashPolicyDefinition : JsValue → Option JsString

/-- `RemediationQueuePersistencePort`: the two answers that a read asks for. -/
structure RemediationQueuePersistencePort where
  findPublishedBuiltinPriorityPolicy : Lookup StoredPriorityPolicyView
  readRemediationQueue : RemediationQueueReadQuery → RemediationQueueReadResult

/-- `ReadRemediationQueueResult`, of an authorized command. -/
inductive ReadRemediationQueueResult
  | page (page : RemediationQueuePage)
  | priorityPolicyUnavailable
  | staleCursor
  | invalidCommand
  | unavailable
  | internalFailure

/-- An authorized command. -/
structure RemediationQueueCommand where
  organizationId : JsString
  section_ : RemediationQueueSection
  limit : Nat
  cursor : Option JsString
  deriving DecidableEq

/-! ## Checks -/

/-- `admit`: the hash of a definition that is admitted under the reference engine. -/
def admitDefinition (dependencies : ReadRemediationQueueDependencies) (definition : JsValue) :
    Option JsString := do
  let hash ← dependencies.hashPolicyDefinition definition
  if isAdmittedPriorityPolicyPair dependencies.admittedPairs
      dependencies.referenceEngineVersion hash then some hash
  else none

/-- The result of `readCursor`. -/
inductive CursorRead
  | cursor (cursor : Option RemediationQueueCursor)
  | invalid
  | stale

/-- `readCursor`. -/
def readCursor (value : Option JsString) (queueSection : RemediationQueueSection)
    (hash : JsString) (dependencies : ReadRemediationQueueDependencies) : CursorRead :=
  match value with
  | none => .cursor none
  | some value =>
      match decodeRemediationQueueCursor value with
      | none => .invalid
      | some cursor =>
          if cursor.queueSection ≠ queueSection ∨
              cursor.reference.policyDefinitionSha256 ≠ hash ∨
              cursor.reference.engineVersion ≠ dependencies.referenceEngineVersion then .stale
          else .cursor (some cursor)

/-- A length between one and a maximum. -/
def hasLength (max : Nat) (s : JsString) : Bool := decide (0 < s.length) && decide (s.length ≤ max)

/-- `identityOk`. -/
def identityOk (row : RemediationQueueRawRow) : Bool :=
  isUuidLower row.findingId && isUuidLower row.assetId && isIsoText row.firstObservedAt &&
    hasLength 200 row.assetName && hasLength 512 row.componentName &&
    hasLength 256 row.componentVersion && hasLength 128 row.vulnerabilityPublicId

/-- The calculation is one of the reference. -/
def comparable (calculation : RemediationQueueCalculationFields) (hash : JsString)
    (dependencies : ReadRemediationQueueDependencies) : Bool :=
  decide (calculation.policyKey = builtinPriorityPolicyKey) &&
    decide (calculation.policyDefinitionSha256 = hash) &&
    decide (calculation.calculationEngineVersion = dependencies.referenceEngineVersion)

/-- `calculationMatches`. -/
def calculationMatches (calculation : RemediationQueueCalculationFields)
    (queueSection : RemediationQueueSection) (hash : JsString)
    (dependencies : ReadRemediationQueueDependencies) : Bool :=
  if queueSection = .ranked ∧ comparable calculation hash dependencies = false then false
  else if queueSection = .incomparable ∧ comparable calculation hash dependencies = true then
    false
  else
    isUuidLower calculation.riskPolicyId && isSha256Text calculation.policyDefinitionSha256 &&
      isIsoText calculation.calculatedAt && isIsoText calculation.lastObservedAt &&
      isIsoText calculation.assetUpdatedAt &&
      isDecimalText calculation.priorityText &&
      (numberOfText calculation.priorityText).strictEquals calculation.priority &&
      isDecimalText calculation.severityText &&
      (numberOfText calculation.severityText).strictEquals calculation.severityPercent &&
      decide (0 < calculation.policyVersion) &&
      hasLength 64 calculation.calculationEngineVersion && hasLength 128 calculation.policyKey

/-- `countsPartition`. -/
def countsPartition (counts : RemediationQueueCounts) (findingCount : Nat) : Bool :=
  decide (counts.ranked + counts.incomparable + counts.notCalculated = findingCount)

/-! ## Rows -/

/-- The comparison of the inputs of a calculation with what is live. -/
def inputComparison (calculation : RemediationQueueCalculationFields) (hash : JsString)
    (dependencies : ReadRemediationQueueDependencies) (activeKevGenerationId : Option JsString) :
    PriorityInputChangeComparison where
  storedPolicyDefinitionSha256 := calculation.policyDefinitionSha256
  publishedPolicyDefinitionSha256 := hash
  storedEngineVersion := calculation.calculationEngineVersion
  referenceEngineVersion := dependencies.referenceEngineVersion
  storedKevGenerationId := calculation.storedKevGenerationId
  activeKevGenerationId
  lastObservedAt := dateOfText calculation.lastObservedAt
  assetUpdatedAt := dateOfText calculation.assetUpdatedAt
  calculatedAt := dateOfText calculation.calculatedAt

/-- What a row shows of its finding. -/
def shownFinding (row : RemediationQueueRawRow) : RemediationQueueNotCalculatedRow where
  findingId := row.findingId
  assetId := row.assetId
  assetName := row.assetName
  componentName := row.componentName
  componentVersion := row.componentVersion
  vulnerabilityPublicId := row.vulnerabilityPublicId
  humanReview := row.humanReview

/-- A row of `mapRows`. -/
def mapRow (queueSection : RemediationQueueSection) (hash : JsString)
    (dependencies : ReadRemediationQueueDependencies) (activeKevGenerationId : Option JsString)
    (row : RemediationQueueRawRow) : Option RemediationQueueRow :=
  if row.section_ ≠ queueSection ∨ identityOk row = false then none
  else if queueSection = .notCalculated then
    -- only the marker `none` has the status `none` and no prior review
    if row.calculation ≠ none ∨ row.humanReview ≠ .none then none
    else some (.notCalculated (shownFinding row))
  else do
    let calculation ← row.calculation
    if calculationMatches calculation queueSection hash dependencies = false then none
    else do
      let inputsChanged ← classifyPriorityInputChanges
        (inputComparison calculation hash dependencies activeKevGenerationId)
      let calculated : RemediationQueueRankedRow :=
        { toRemediationQueueNotCalculatedRow := shownFinding row
          priorityBand := calculation.priorityBand
          priority := calculation.priority
          policy := ⟨calculation.riskPolicyId, calculation.policyKey, calculation.policyVersion,
            calculation.policyDefinitionSha256⟩
          calculatedAt := calculation.calculatedAt
          inputsChanged }
      some (if queueSection = .incomparable then
          .incomparable calculated remediationQueueComparisonMessage
        else .ranked calculated)

/-- `cursorFor`. -/
def cursorFor (queueSection : RemediationQueueSection) (hash : JsString)
    (dependencies : ReadRemediationQueueDependencies) (row : RemediationQueueRawRow) :
    Option RemediationQueueCursor :=
  let reference : CursorReference := ⟨hash, dependencies.referenceEngineVersion⟩
  match queueSection, row.calculation with
  | .notCalculated, _ => some (.notCalculated reference row.firstObservedAt row.findingId)
  | .incomparable, some calculation =>
      some (.incomparable reference calculation.calculatedAt row.findingId)
  | .ranked, some calculation =>
      some (.ranked reference ⟨calculation.priorityText, calculation.escalationRecommended,
        calculation.kevListed, calculation.severityText, row.firstObservedAt, row.findingId⟩)
  | _, none => none

/-- `executeRead`, of an authorized command. -/
def executeRead (dependencies : ReadRemediationQueueDependencies)
    (persistence : RemediationQueuePersistencePort) (command : RemediationQueueCommand) :
    ReadRemediationQueueResult :=
  if dependencies.referenceEngineVersion.length = 0 then .internalFailure
  else
    match persistence.findPublishedBuiltinPriorityPolicy with
    | .unavailable => .unavailable
    | .notFound => .priorityPolicyUnavailable
    | .found policy =>
        match admitDefinition dependencies policy.definition with
        | none => .priorityPolicyUnavailable
        | some hash =>
            if policy.policyKey ≠ builtinPriorityPolicyKey ∨
                policy.version ≠ builtinPriorityPolicyVersion then .priorityPolicyUnavailable
            else
              match readCursor command.cursor command.section_ hash dependencies with
              | .invalid => .invalidCommand
              | .stale => .staleCursor
              | .cursor cursor =>
                  match persistence.readRemediationQueue {
                      organizationId := command.organizationId
                      section_ := command.section_
                      scope := ⟨hash, dependencies.referenceEngineVersion⟩
                      limit := command.limit
                      cursor } with
                  | .policyAbsent => .priorityPolicyUnavailable
                  | .malformed => .unavailable
                  | .unavailable => .unavailable
                  | .page read =>
                      if admitDefinition dependencies read.publishedDefinition ≠ some hash ∨
                          read.publishedPolicyKey ≠ builtinPriorityPolicyKey ∨
                          read.publishedPolicyVersion ≠ builtinPriorityPolicyVersion ∨
                          isIsoText read.asOf = false ∨
                          countsPartition read.counts read.findingCount = false then .unavailable
                      else
                        match read.rows.mapM (mapRow command.section_ hash dependencies
                            read.activeKevGenerationId) with
                        | none => .unavailable
                        | some rows =>
                            if rows.length > command.limit ∨
                                (read.hasMore ∧ rows.length ≠ command.limit) then .unavailable
                            else
                              let page nextCursor : RemediationQueuePage :=
                                { asOf := read.asOf
                                  reference := ⟨builtinPriorityPolicyKey,
                                    builtinPriorityPolicyVersion, hash,
                                    dependencies.referenceEngineVersion⟩
                                  counts := read.counts
                                  section_ := command.section_
                                  limit := command.limit
                                  nextCursor
                                  rows }
                              if read.hasMore then
                                match read.rows.getLast?.bind
                                    (cursorFor command.section_ hash dependencies) with
                                | none => .unavailable
                                | some cursor =>
                                    .page (page (some (encodeRemediationQueueCursor cursor)))
                              else .page (page none)

end PatchPilot.Risk.RemediationQueue
