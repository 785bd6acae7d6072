import PatchPilot.Policy.CanonicalJson
import PatchPilot.Risk.Currency

set_option autoImplicit false

/-!
# Risk: reading the priority of a finding (`risk/priority-read.ts`)

A read returns the current calculation of a finding and reports which of its inputs
changed since.  It compares what the calculation stored with what is live: the policy,
the engine, the active generation of the KEV catalog, and two time stamps.

A calculation reads the catalog through memberships that do not name their generation,
so what it stores of the generation is always `null`.
-/

namespace PatchPilot.Risk

open PatchPilot.Foundation
open PatchPilot.Policy

/-! ## Input changes -/

/-- `PriorityInputChangeSignal`. -/
inductive PriorityInputChangeSignal
  | policySuperseded | engineVersionChanged | kevGenerationChanged
  | observedAfterCalculation | assetUpdatedAfterCalculation
  deriving DecidableEq

/-- The status of a `PriorityInputChangeReport`. -/
inductive PriorityInputChangeStatus
  | noneDetected | detected
  deriving DecidableEq

/-- `PriorityInputChangeReport`. -/
structure PriorityInputChangeReport where
  status : PriorityInputChangeStatus
  signals : List PriorityInputChangeSignal
  deriving DecidableEq

/-- `PriorityInputChangeComparison`. -/
structure PriorityInputChangeComparison where
  storedPolicyDefinitionSha256 : JsString
  publishedPolicyDefinitionSha256 : JsString
  storedEngineVersion : JsString
  referenceEngineVersion : JsString
  storedKevGenerationId : Option JsString
  activeKevGenerationId : Option JsString
  lastObservedAt : JsDate
  assetUpdatedAt : JsDate
  calculatedAt : JsDate
  deriving DecidableEq

/-- A signal that is pushed under a condition. -/
def pushWhen (condition : Prop) [Decidable condition] (signal : PriorityInputChangeSignal) :
    List PriorityInputChangeSignal :=
  if condition then [signal] else []

/-- The signals of a comparison, in the order in which they are pushed. -/
def pushedSignals (input : PriorityInputChangeComparison)
    (lastObservedAt assetUpdatedAt calculatedAt : Int) : List PriorityInputChangeSignal :=
  pushWhen (input.storedPolicyDefinitionSha256 ≠ input.publishedPolicyDefinitionSha256)
      .policySuperseded ++
    pushWhen (input.storedEngineVersion ≠ input.referenceEngineVersion)
      .engineVersionChanged ++
    pushWhen (input.storedKevGenerationId ≠ input.activeKevGenerationId)
      .kevGenerationChanged ++
    pushWhen (lastObservedAt > calculatedAt) .observedAfterCalculation ++
    pushWhen (assetUpdatedAt > calculatedAt) .assetUpdatedAfterCalculation

/-- `classifyPriorityInputChanges`. -/
def classifyPriorityInputChanges (input : PriorityInputChangeComparison) :
    Option PriorityInputChangeReport :=
  match input.lastObservedAt, input.assetUpdatedAt, input.calculatedAt with
  | some lastObservedAt, some assetUpdatedAt, some calculatedAt =>
      let signals := pushedSignals input lastObservedAt assetUpdatedAt calculatedAt
      if signals.length = 0 then some ⟨.noneDetected, signals⟩
      else some ⟨.detected, signals⟩
  | _, _, _ => none

/-- `storedKevGenerationId`. -/
def storedKevGenerationId (factors : RiskCalculationFactors) : Option JsString :=
  match factors.sources.kev with
  | .unavailable _ => none
  | .catalog _ _ _ generationId _ => generationId

/-! ## The read port -/

/-- `FindingPriorityCalculationRecord`. -/
structure FindingPriorityCalculationRecord where
  id : JsString
  riskPolicyId : JsString
  policyKey : JsString
  policyVersion : Nat
  policyDefinitionSha256 : JsString
  calculatedAt : JsDate
  calculationEngineVersion : JsString
  calculationReason : RiskCalculationReason
  factors : RiskCalculationFactors
  result : RiskCalculationResult
  lastObservedAt : JsDate
  assetUpdatedAt : JsDate
  activeKevGenerationId : Option JsString
  deriving DecidableEq

section

variable {ρ : Type}

/-- `FindingPriorityRead`.  The review of a calculation is handed on as it is. -/
inductive FindingPriorityRead (ρ : Type)
  | findingAbsent
  | notCalculated (findingId : JsString) (publishedBuiltin : Option StoredPriorityPolicyView)
  | calculated (findingId : JsString) (publishedBuiltin : Option StoredPriorityPolicyView)
      (calculation : FindingPriorityCalculationRecord) (review : ρ)
  | unavailable

/-- What `queryFindingPriorityState` selects beside the calculations of a finding.  The
policy key and version are those of the policy that the calculation names. -/
structure FindingPrioritySelection (ρ : Type) where
  lastObservedAt : Int
  assetUpdatedAt : Int
  policyKey : JsString
  policyRowVersion : Nat
  publishedBuiltin : Option StoredPriorityPolicyView
  activeKevGenerationId : Option JsString
  review : ρ

/-- `PRINTABLE_TEXT`. -/
def isPrintableText (s : JsString) : Bool :=
  !s.isEmpty && s.all fun u => 0x20 ≤ u && u ≤ 0x7E

/-- `readStoredEngineVersion`. -/
def readStoredEngineVersion (value : JsString) : Option JsString :=
  let trimmed := trim value
  if trimmed.length = 0 ∨ trimmed.length > 64 ∨ ¬ isPrintableText trimmed then none
  else some trimmed

/-- `readPriorityCalculation`. -/
def readPriorityCalculation (row : CalculationRow) (selection : FindingPrioritySelection ρ) :
    Option FindingPriorityCalculationRecord := do
  let engineVersion ← readStoredEngineVersion row.calculationEngineVersion
  if row.policyVersion ≠ selection.policyRowVersion ∨ ¬ isPrintableText selection.policyKey ∨
      selection.policyKey.length > 128 then none
  else some {
    id := row.id
    riskPolicyId := row.riskPolicyId
    policyKey := selection.policyKey
    policyVersion := row.policyVersion
    policyDefinitionSha256 := row.policyDefinitionSha256
    calculatedAt := some row.calculatedAt
    calculationEngineVersion := engineVersion
    calculationReason := row.calculationReason
    factors := row.factors
    result := row.result
    lastObservedAt := some selection.lastObservedAt
    assetUpdatedAt := some selection.assetUpdatedAt
    activeKevGenerationId := selection.activeKevGenerationId }

/-- `readFindingPriorityState`.  Without a selection the finding is not in the
organization. -/
def readFindingPriorityState (table : CalculationTable)
    (selection : Option (FindingPrioritySelection ρ)) (organizationId findingId : JsString) :
    FindingPriorityRead ρ :=
  match selection with
  | none => .findingAbsent
  | some selection =>
      match queryCurrentRiskCalculation table organizationId findingId with
      | none => .notCalculated findingId selection.publishedBuiltin
      | some row =>
          match readPriorityCalculation row selection with
          | none => .unavailable
          | some calculation =>
              .calculated findingId selection.publishedBuiltin calculation selection.review

/-! ## The use case -/

/-- `ReadControlledFindingPriorityDependencies`, without the read port. -/
structure ReadControlledFindingPriorityDependencies where
  admittedPairs : List AdmittedPriorityPolicyPair
  referenceEngineVersion : JsString
  hashPolicyDefinition : JsValue → Option JsString

/-- The comparability of a view. -/
inductive PriorityComparability
  | reference | incomparable
  deriving DecidableEq

/-- `FindingPriorityCalculatedView`. -/
structure FindingPriorityCalculatedView (ρ : Type) where
  findingId : JsString
  calculation : FindingPriorityCalculationRecord
  comparability : PriorityComparability
  inputsChanged : PriorityInputChangeReport
  review : ρ

/-- `ReadControlledFindingPriorityResult`, of an authorized read. -/
inductive ReadControlledFindingPriorityResult (ρ : Type)
  | notFound
  | notCalculated (findingId : JsString)
  | calculated (view : FindingPriorityCalculatedView ρ)
  | priorityPolicyUnavailable
  | unavailable
  | internalFailure

/-- `admitPublishedBuiltin`. -/
def admitPublishedBuiltin (dependencies : ReadControlledFindingPriorityDependencies)
    (published : Option StoredPriorityPolicyView) : Option JsString := do
  let policy ← published
  let hash ← dependencies.hashPolicyDefinition policy.definition
  if isAdmittedPriorityPolicyPair dependencies.admittedPairs
      dependencies.referenceEngineVersion hash then some hash
  else none

/-- The comparison that `executeRead` makes. -/
def priorityInputComparison (dependencies : ReadControlledFindingPriorityDependencies)
    (reference : JsString) (calculation : FindingPriorityCalculationRecord) :
    PriorityInputChangeComparison where
  storedPolicyDefinitionSha256 := calculation.policyDefinitionSha256
  publishedPolicyDefinitionSha256 := reference
  storedEngineVersion := calculation.calculationEngineVersion
  referenceEngineVersion := dependencies.referenceEngineVersion
  storedKevGenerationId := storedKevGenerationId calculation.factors
  activeKevGenerationId := calculation.activeKevGenerationId
  lastObservedAt := calculation.lastObservedAt
  assetUpdatedAt := calculation.assetUpdatedAt
  calculatedAt := calculation.calculatedAt

/-- The end of `executeRead`. -/
def viewCalculation (dependencies : ReadControlledFindingPriorityDependencies)
    (reference findingId : JsString) (calculation : FindingPriorityCalculationRecord)
    (review : ρ) : ReadControlledFindingPriorityResult ρ :=
  match classifyPriorityInputChanges
      (priorityInputComparison dependencies reference calculation) with
  | none => .unavailable
  | some inputsChanged =>
      let comparable := calculation.policyDefinitionSha256 = reference ∧
        calculation.calculationEngineVersion = dependencies.referenceEngineVersion
      .calculated {
        findingId
        calculation
        comparability := if comparable then .reference else .incomparable
        inputsChanged
        review }

/-- `executeRead`, from the read of the port on. -/
def executeRead (dependencies : ReadControlledFindingPriorityDependencies)
    (authorizedFindingId : JsString) (current : FindingPriorityRead ρ) :
    ReadControlledFindingPriorityResult ρ :=
  if dependencies.referenceEngineVersion.length = 0 then .internalFailure
  else
    match current with
    | .findingAbsent => .notFound
    | .unavailable => .unavailable
    | .notCalculated findingId published =>
        if findingId ≠ authorizedFindingId then .notFound
        else
          match admitPublishedBuiltin dependencies published with
          | none => .priorityPolicyUnavailable
          | some _ => .notCalculated findingId
    | .calculated findingId published calculation review =>
        if findingId ≠ authorizedFindingId then .notFound
        else
          match admitPublishedBuiltin dependencies published with
          | none => .priorityPolicyUnavailable
          | some reference => viewCalculation dependencies reference findingId calculation review

end

end PatchPilot.Risk
