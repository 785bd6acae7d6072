import PatchPilot.Policy.Facts

set_option autoImplicit false

/-!
# Policy: evaluating the priority (`evaluate.ts`)

Each factor is read into a percent, weighted and added up; a listed vulnerability
lifts the score to the threshold of the policy's floor band; the score is rounded
to a priority and the priority falls into a band.  All arithmetic is in hundredths.

The evaluator asserts the ranges of its own results at run time and answers with a
violation instead of a priority when one fails.  The model keeps that assertion as
a check that can fail.
-/

namespace PatchPilot.Policy

open PatchPilot.Foundation

/-! ## Readings -/

/-- The column `observedValue`, when it is not `null`. -/
inductive ObservedValue
  | text (value : JsString)
  | days (value : Nat)
  deriving DecidableEq

/-- `FactorReading`. -/
structure FactorReading where
  inputState : FactorInputState
  observedValue : Option ObservedValue
  normalizedPercent : Nat
  explanationCode : FactorExplanationCode
  deriving DecidableEq

/-- The reading of a fact: `observed` or `notObserved`, with the code of its
payload. -/
def Fact.reading {ω υ ρ : Type} (fact : Fact ω υ ρ) (value : ω → ObservedValue)
    (percent : ω → Nat) (observedCode : ω → FactorExplanationCode)
    (unknownCode : υ → FactorExplanationCode)
    (unavailableCode : ρ → FactorExplanationCode) : FactorReading :=
  match fact with
  | .observed v => ⟨.observed, some (value v), percent v, observedCode v⟩
  | .unknown v => ⟨.unknown, none, 0, unknownCode v⟩
  | .unavailable r => ⟨.unavailable, none, 0, unavailableCode r⟩

/-- A token as an observed value. -/
def tokenValue {α : Type} [CatalogToken α] (token : α) : ObservedValue := .text (text token)

/-- `highestSeverity`. -/
def highestSeverity (values : List SeverityRating) : SeverityRating :=
  let highest := values.foldl (fun highest value => min highest (rank value))
    ((tokens : List SeverityRating).length - 1)
  (tokens[highest]?).getD .none

/-- `agePercent`. -/
def agePercent (buckets : List AgeBucket) (days : Nat) : Nat :=
  buckets.foldl
    (fun percent bucket => if days ≥ bucket.minDays then bucket.percent else percent) 0

/-- `ageCode`. -/
def ageCode (days : Nat) : FactorExplanationCode :=
  if days < 30 then .ageUnder30Days
  else if days < 90 then .age30To89Days
  else .age90DaysOrMore

/-- `severity_${rating}`. -/
def severityCode : SeverityRating → FactorExplanationCode
  | .critical => .severityCritical
  | .high => .severityHigh
  | .medium => .severityMedium
  | .low => .severityLow
  | .none => .severityNone

/-- `kev_${fact.value}`, observed. -/
def kevObservedCode : KevObservedToken → FactorExplanationCode
  | .listedCatalogCurrent => .kevListedCatalogCurrent
  | .listedCatalogStale => .kevListedCatalogStale
  | .listedCatalogDisabledWithHistory => .kevListedCatalogDisabledWithHistory
  | .notListedCatalogCurrent => .kevNotListedCatalogCurrent

/-- `kev_${fact.value}`, unknown. -/
def kevUnknownCode : KevUnknownToken → FactorExplanationCode
  | .absentCatalogStale => .kevAbsentCatalogStale
  | .absentCatalogDisabledWithHistory => .kevAbsentCatalogDisabledWithHistory

/-- `kev_unavailable_${fact.reason}`. -/
def kevUnavailableCode : KevUnavailableReason → FactorExplanationCode
  | .noCanonicalCve => .kevUnavailableNoCanonicalCve
  | .noActiveGeneration => .kevUnavailableNoActiveGeneration

/-- `environment_${fact.value}`. -/
def environmentCode : EnvironmentSensitivityToken → FactorExplanationCode
  | .production => .environmentProduction
  | .nonProduction => .environmentNonProduction

/-- `exposure_${fact.value}`. -/
def exposureCode : InternetExposureToken → FactorExplanationCode
  | .internetFacing => .exposureInternetFacing
  | .internal => .exposureInternal

/-- `criticality_${fact.value}`. -/
def criticalityCode : BusinessCriticalityToken → FactorExplanationCode
  | .critical => .criticalityCritical
  | .high => .criticalityHigh
  | .medium => .criticalityMedium
  | .low => .criticalityLow

/-- `data_${fact.value}`. -/
def dataCode : AssetDataClassificationToken → FactorExplanationCode
  | .restricted => .dataRestricted
  | .confidential => .dataConfidential
  | .internal => .dataInternal
  | .publicData => .dataPublic

/-- `dependency_${fact.value}`. -/
def dependencyCode : DirectDependencyToken → FactorExplanationCode
  | .direct => .dependencyDirect
  | .transitive => .dependencyTransitive

/-- `fix_${fact.value}`. -/
def fixCode : FixAvailableToken → FactorExplanationCode
  | .available => .fixAvailable
  | .notAvailable => .fixNotAvailable

/-- The code of an observed withdrawal status. -/
def withdrawnCode : AdvisoryWithdrawnToken → FactorExplanationCode
  | .withdrawn => .advisoryWithdrawnReviewRequired
  | .notWithdrawn => .advisoryNotWithdrawn

/-- `readFactor`. -/
def readFactor (definition : PriorityPolicyDefinition) (facts : PriorityFactInput) :
    FactorId → FactorReading
  | .sourceSeverity =>
      facts.sourceSeverity.reading (fun values => tokenValue (highestSeverity values))
        (fun values => definition.normalization.sourceSeverity (highestSeverity values))
        (fun values => severityCode (highestSeverity values))
        (fun _ => .severityUnrated) (fun _ => .severityUnavailable)
  | .kevListed =>
      facts.kevListed.reading tokenValue definition.normalization.kevListed kevObservedCode
        kevUnknownCode kevUnavailableCode
  | .environmentSensitivity =>
      facts.environmentSensitivity.reading tokenValue
        definition.normalization.environmentSensitivity environmentCode Empty.elim
        (fun _ => .environmentUnavailable)
  | .internetExposure =>
      facts.internetExposure.reading tokenValue definition.normalization.internetExposure
        exposureCode (fun _ => .exposureUnknown) (fun _ => .exposureUnavailable)
  | .businessCriticality =>
      facts.businessCriticality.reading tokenValue
        definition.normalization.businessCriticality criticalityCode
        (fun _ => .criticalityUnspecified) (fun _ => .criticalityUnavailable)
  | .assetDataClassification =>
      facts.assetDataClassification.reading tokenValue
        definition.normalization.assetDataClassification dataCode
        (fun _ => .dataUnspecified) (fun _ => .dataUnavailable)
  | .directDependency =>
      facts.directDependency.reading tokenValue definition.normalization.directDependency
        dependencyCode Empty.elim (fun _ => .dependencyUnavailable)
  | .fixAvailable =>
      facts.fixAvailable.reading tokenValue definition.normalization.fixAvailable fixCode
        (fun _ => .fixUndetermined) (fun _ => .fixUnavailable)
  | .findingAgeDays =>
      facts.findingAgeDays.reading .days
        (agePercent definition.normalization.findingAgeDays) ageCode Empty.elim
        (fun _ => .ageUnavailable)
  | .advisoryWithdrawn =>
      facts.advisoryWithdrawn.reading tokenValue (fun _ => 0) withdrawnCode Empty.elim
        (fun _ => .advisoryWithdrawalUnavailable)

/-! ## The outcome -/

/-- `WeightedReading`. -/
structure WeightedReading extends FactorReading where
  factorId : FactorId
  weight : Nat
  contributionCenti : Nat
  deriving DecidableEq

/-- `Outcome`. -/
structure PriorityOutcome where
  readings : List WeightedReading
  contributions : List Nat
  weightedScoreCenti : Nat
  upliftCenti : Nat
  priority : Nat
  band : Option PolicyBand
  kevListed : Bool
  reasons : List EscalationReason
  deriving DecidableEq

/-- The reading of a factor with its weight. -/
def weightedReading (definition : PriorityPolicyDefinition) (facts : PriorityFactInput)
    (factorId : FactorId) : WeightedReading :=
  let reading := readFactor definition facts factorId
  let weight := definition.weights factorId
  { reading with factorId, weight, contributionCenti := weight * reading.normalizedPercent }

/-- The vulnerability is observed as listed. -/
def isListed (facts : PriorityFactInput) : Bool :=
  match facts.kevListed with
  | .observed value => isKevListedToken value
  | _ => false

/-- The threshold of the policy's floor band, in hundredths. -/
def floorCenti (definition : PriorityPolicyDefinition) : Nat :=
  let floorBand := definition.bands.find? fun band => band.band = definition.kevMinimumBand
  (floorBand.map (·.minPriority)).getD 0 * 100

/-- The first band whose threshold the priority reaches. -/
def bandOf (bands : List PolicyBand) (priority : Nat) : Option PolicyBand :=
  bands.find? fun candidate => priority ≥ candidate.minPriority

/-- The reasons for escalating a listed vulnerability. -/
def escalationReasons (facts : PriorityFactInput) : List EscalationReason :=
  if isListed facts then
    (if facts.environmentSensitivity = .observed .production then [.kevProduction] else []) ++
    (if facts.internetExposure = .observed .internetFacing then [.kevInternetFacing] else [])
  else []

/-- `computeOutcome`. -/
def computeOutcome (definition : PriorityPolicyDefinition) (facts : PriorityFactInput) :
    PriorityOutcome :=
  let readings := factorIds.map (weightedReading definition facts)
  let contributions := readings.map (·.contributionCenti)
  let weightedScoreCenti := contributions.sum
  let upliftCenti :=
    if isListed facts then floorCenti definition - weightedScoreCenti else 0
  let priority := (weightedScoreCenti + upliftCenti + 50) / 100
  { readings, contributions, weightedScoreCenti, upliftCenti, priority
    band := bandOf definition.bands priority
    kevListed := isListed facts
    reasons := escalationReasons facts }

/-- `EngineInvariantCode`. -/
inductive EngineInvariantCode
  | contributionOutOfRange | weightedScoreOutOfRange | upliftOutOfRange
  | priorityOutOfRange | bandUnresolved
  deriving DecidableEq

/-- `Number.MAX_SAFE_INTEGER`. -/
def maxSafeInteger : Nat := 2 ^ 53 - 1

/-- `inRange`, for a value that is not negative. -/
def inRange (value max : Nat) : Bool := decide (value ≤ maxSafeInteger) && decide (value ≤ max)

/-- `checkPriorityInvariants`. -/
def checkPriorityInvariants (outcome : PriorityOutcome) : Option EngineInvariantCode :=
  let maxCenti := weightSum * percentMax
  if outcome.contributions.all (inRange · maxCenti) = false then some .contributionOutOfRange
  else if inRange outcome.weightedScoreCenti maxCenti = false then
    some .weightedScoreOutOfRange
  else if inRange outcome.upliftCenti (maxCenti - outcome.weightedScoreCenti) = false then
    some .upliftOutOfRange
  else if inRange outcome.priority priorityMax = false then some .priorityOutOfRange
  else if outcome.band = none then some .bandUnresolved
  else none

/-! ## Status of a factor -/

/-- `UNAVAILABLE_FACTS`. -/
def unavailableFacts : PriorityFactInput where
  sourceSeverity := .unavailable ()
  kevListed := .unavailable .noActiveGeneration
  environmentSensitivity := .unavailable ()
  internetExposure := .unavailable ()
  businessCriticality := .unavailable ()
  assetDataClassification := .unavailable ()
  directDependency := .unavailable ()
  fixAvailable := .unavailable ()
  findingAgeDays := .unavailable ()
  advisoryWithdrawn := .unavailable ()

/-- `withFactorUnavailable`. -/
def withFactorUnavailable (facts : PriorityFactInput) : FactorId → PriorityFactInput
  | .sourceSeverity => { facts with sourceSeverity := unavailableFacts.sourceSeverity }
  | .kevListed => { facts with kevListed := unavailableFacts.kevListed }
  | .environmentSensitivity =>
      { facts with environmentSensitivity := unavailableFacts.environmentSensitivity }
  | .internetExposure => { facts with internetExposure := unavailableFacts.internetExposure }
  | .businessCriticality =>
      { facts with businessCriticality := unavailableFacts.businessCriticality }
  | .assetDataClassification =>
      { facts with assetDataClassification := unavailableFacts.assetDataClassification }
  | .directDependency => { facts with directDependency := unavailableFacts.directDependency }
  | .fixAvailable => { facts with fixAvailable := unavailableFacts.fixAvailable }
  | .findingAgeDays => { facts with findingAgeDays := unavailableFacts.findingAgeDays }
  | .advisoryWithdrawn => { facts with advisoryWithdrawn := unavailableFacts.advisoryWithdrawn }

/-- `factorStatus`. -/
def factorStatus (definition : PriorityPolicyDefinition) (facts : PriorityFactInput)
    (outcome : PriorityOutcome) (reading : WeightedReading) : FactorStatus :=
  let counterfactual :=
    computeOutcome definition (withFactorUnavailable facts reading.factorId)
  let bandChanged := counterfactual.band.map (·.band) ≠ outcome.band.map (·.band)
  let escalationChanged :=
    decide (counterfactual.reasons.length > 0) ≠ decide (outcome.reasons.length > 0)
  if reading.inputState ≠ .unavailable ∧ (bandChanged ∨ escalationChanged) then .decisive
  else if reading.weight = 0 then .informational
  else if reading.contributionCenti > 0 then .contributing
  else .nonContributing

/-! ## The evaluation -/

/-- `PriorityFactorRow`. -/
structure PriorityFactorRow where
  factorId : FactorId
  ordinal : Nat
  inputState : FactorInputState
  observedValue : Option ObservedValue
  normalizedPercent : Nat
  weight : Nat
  contributionCenti : Nat
  status : FactorStatus
  explanationCode : FactorExplanationCode
  deriving DecidableEq

/-- `PriorityRuleRow`. -/
structure PriorityRuleRow where
  ruleId : RuleId
  triggered : Bool
  upliftCenti : Nat
  explanationCode : RuleExplanationCode
  deriving DecidableEq

/-- The field `escalation`. -/
structure Escalation where
  recommended : Bool
  reasons : List EscalationReason
  deriving DecidableEq

/-- The field `evidenceSummary`. -/
structure EvidenceSummary where
  observed : Nat
  unknown : Nat
  unavailable : Nat
  deriving DecidableEq, Inhabited

/-- `PriorityEvaluation`.  The engine version is a constant and left out. -/
structure PriorityEvaluation where
  policyKey : JsString
  weightedScoreCenti : Nat
  upliftCenti : Nat
  priority : Nat
  priorityBand : PriorityBand
  dueDateRecommendationDays : Nat
  escalation : Escalation
  factors : List PriorityFactorRow
  rules : List PriorityRuleRow
  evidenceSummary : EvidenceSummary
  deriving DecidableEq

/-- `minimumBandRule`. -/
def minimumBandRule (outcome : PriorityOutcome) : PriorityRuleRow :=
  if outcome.kevListed = false then
    ⟨.kevMinimumBand, false, 0, .kevMinimumBandNotTriggered⟩
  else
    ⟨.kevMinimumBand, true, outcome.upliftCenti,
      if outcome.upliftCenti > 0 then .kevMinimumBandRaised else .kevMinimumBandAlreadyMet⟩

/-- `escalationRule`. -/
def escalationRule (outcome : PriorityOutcome) : PriorityRuleRow :=
  let recommended := decide (outcome.reasons.length > 0)
  ⟨.kevEscalation, recommended, 0,
    if outcome.kevListed then
      if recommended then .kevEscalationRecommended else .kevEscalationContextNotObserved
    else .kevEscalationNotTriggered⟩

/-- The row of a reading. -/
def factorRow (definition : PriorityPolicyDefinition) (facts : PriorityFactInput)
    (outcome : PriorityOutcome) (reading : WeightedReading) : PriorityFactorRow where
  factorId := reading.factorId
  ordinal := factorOrdinal reading.factorId
  inputState := reading.inputState
  observedValue := reading.observedValue
  normalizedPercent := reading.normalizedPercent
  weight := reading.weight
  contributionCenti := reading.contributionCenti
  status := factorStatus definition facts outcome reading
  explanationCode := reading.explanationCode

/-- `countState`. -/
def countState (factors : List PriorityFactorRow) (state : FactorInputState) : Nat :=
  (factors.filter fun row => row.inputState = state).length

/-- The evaluation with a resolved band. -/
def evaluationOf (definition : PriorityPolicyDefinition) (facts : PriorityFactInput)
    (outcome : PriorityOutcome) (band : PolicyBand) : PriorityEvaluation :=
  let factors := outcome.readings.map (factorRow definition facts outcome)
  { policyKey := definition.policyKey
    weightedScoreCenti := outcome.weightedScoreCenti
    upliftCenti := outcome.upliftCenti
    priority := outcome.priority
    priorityBand := band.band
    dueDateRecommendationDays := band.dueDateRecommendationDays
    escalation := ⟨decide (outcome.reasons.length > 0), outcome.reasons⟩
    factors
    rules := [minimumBandRule outcome, escalationRule outcome]
    evidenceSummary := ⟨countState factors .observed, countState factors .unknown,
      countState factors .unavailable⟩ }

/-- `evaluatePriority`.  Its arguments can only be produced by validation and by
parsing; the error is an `engine_invariant_violation`. -/
def evaluatePriority (definition : ValidatedPriorityPolicyDefinition)
    (facts : ParsedPriorityFactInput) : Except EngineInvariantCode PriorityEvaluation :=
  let outcome := computeOutcome definition.val facts.val
  match checkPriorityInvariants outcome, outcome.band with
  | some code, _ => .error code
  | none, none => .error .bandUnresolved
  | none, some band => .ok (evaluationOf definition.val facts.val outcome band)

end PatchPilot.Policy
