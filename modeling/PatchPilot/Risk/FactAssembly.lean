import PatchPilot.Policy.Facts

set_option autoImplicit false

/-!
# Risk: assembling the facts (`risk/fact-assembly.ts`)

From the stored records around a finding: whether it is eligible, which CVEs name
it, what the KEV catalog says of them, and the ten facts.  Severity and fix
availability are never observed.
-/

namespace PatchPilot.Risk

open PatchPilot.Foundation
open PatchPilot.Policy

/-- `Date.getTime()`: milliseconds, or `none` for an invalid date. -/
abbrev JsDate := Option Int

/-! ## The stored records -/

/-- `FindingState`. -/
inductive FindingState
  | open | verificationPending | riskAccepted | mitigated | falsePositive | resolved
  | inconclusive
  deriving DecidableEq, Inhabited

/-- `EnvironmentSensitivityClass`. -/
abbrev EnvironmentSensitivityClass := EnvironmentSensitivityToken

/-- `InternetExposure`. -/
inductive InternetExposure
  | internetFacing | internal | unknown
  deriving DecidableEq

/-- `BusinessCriticality`. -/
inductive BusinessCriticality
  | critical | high | medium | low | unspecified
  deriving DecidableEq

/-- `AssetDataClassification`. -/
inductive AssetDataClassification
  | restricted | confidential | internal | publicData | unspecified
  deriving DecidableEq

/-- `FindingRiskBindingClassification`. -/
inductive FindingRiskBindingClassification
  | oneCveAliasEvidence | providerNativeWithoutCve
  deriving DecidableEq

/-- `FindingRiskSourceFinding`. -/
structure FindingRiskSourceFinding where
  id : JsString
  organizationId : JsString
  state : FindingState
  version : Nat
  firstObservedAt : JsDate
  currentRiskCalculationId : Option JsString
  dueAt : Option JsDate
  deriving DecidableEq, Inhabited

/-- `FindingRiskSourceAsset`. -/
structure FindingRiskSourceAsset where
  sensitivityClass : Option EnvironmentSensitivityClass
  internetExposure : InternetExposure
  businessCriticality : BusinessCriticality
  dataClassification : AssetDataClassification
  deriving DecidableEq

/-- `FindingRiskCreationEvidence`. -/
structure FindingRiskCreationEvidence where
  evidenceId : JsString
  advisoryRevisionId : JsString
  componentOccurrenceId : JsString
  isDirect : Option Bool
  withdrawalClassification : AdvisoryWithdrawnToken
  bindingClassification : FindingRiskBindingClassification
  canonicalCves : List JsString
  deriving DecidableEq

/-- `FindingRiskSourceSnapshot`. -/
structure FindingRiskSourceSnapshot where
  finding : FindingRiskSourceFinding
  asset : Option FindingRiskSourceAsset
  creationEvidence : List FindingRiskCreationEvidence
  hasControlledCreationObservation : Bool
  deriving DecidableEq, Inhabited

/-- `ActiveKevCatalogFreshness`. -/
inductive ActiveKevCatalogFreshness
  | current | stale | disabledWithHistory
  deriving DecidableEq

/-- The catalog a membership was read from. -/
structure ActiveKevCatalog where
  catalogVersion : JsString
  catalogReleasedAt : JsDate
  freshness : ActiveKevCatalogFreshness
  deriving DecidableEq

/-- `ActiveKevMembership`. -/
inductive ActiveKevMembership
  | unavailable
  | absent (catalog : ActiveKevCatalog)
  | listedInActiveKev (catalog : ActiveKevCatalog)
  deriving DecidableEq

/-! ## Eligibility -/

/-- `FindingRiskIneligibleReason`. -/
inductive FindingRiskIneligibleReason
  | stateNotOpen | versionNotOne | currentRiskCalculationPresent | dueAtPresent
  | controlledCreationObservationAbsent | creationEvidenceAbsent
  deriving DecidableEq

/-- `assessFindingRiskEligibility`: the reason against, if any. -/
def assessFindingRiskEligibility (snapshot : FindingRiskSourceSnapshot) :
    Option FindingRiskIneligibleReason :=
  if snapshot.finding.state ≠ .open then some .stateNotOpen
  else if snapshot.finding.version ≠ 1 then some .versionNotOne
  else if snapshot.finding.currentRiskCalculationId ≠ none then
    some .currentRiskCalculationPresent
  else if snapshot.finding.dueAt ≠ none then some .dueAtPresent
  else if snapshot.hasControlledCreationObservation = false then
    some .controlledCreationObservationAbsent
  else if snapshot.creationEvidence = [] then some .creationEvidenceAbsent
  else none

/-! ## The CVEs and the catalog -/

/-- `FindingRiskCanonicalCveFailureCode`. -/
inductive FindingRiskCanonicalCveFailureCode
  | canonicalCveCardinality
  deriving DecidableEq

/-- The loop body of `selectFindingRiskCanonicalCves`. -/
def selectCanonicalCve (canonicalCves : List JsString) (row : FindingRiskCreationEvidence) :
    Except FindingRiskCanonicalCveFailureCode (List JsString) :=
  match row.bindingClassification with
  | .providerNativeWithoutCve => .ok canonicalCves
  | .oneCveAliasEvidence =>
      match row.canonicalCves with
      | [cve] => .ok (if cve ∈ canonicalCves then canonicalCves else canonicalCves ++ [cve])
      | _ => .error .canonicalCveCardinality

/-- `selectFindingRiskCanonicalCves`. -/
def selectFindingRiskCanonicalCves (snapshot : FindingRiskSourceSnapshot) :
    Except FindingRiskCanonicalCveFailureCode (List JsString) :=
  snapshot.creationEvidence.foldlM selectCanonicalCve []

/-- `FindingRiskKevMappingFailureCode`. -/
inductive FindingRiskKevMappingFailureCode
  | membershipCountMismatch | listedFreshnessDisagreement | unknownTokenDisagreement
  | membershipStatusDisagreement
  deriving DecidableEq

/-- `FindingRiskKevMembershipErrorCode`. -/
inductive FindingRiskKevMembershipErrorCode
  | sourceMissing | inconsistentActiveGeneration | malformedPersistedEntry
  deriving DecidableEq

/-- The catalog of a listed membership. -/
def ActiveKevMembership.listed? : ActiveKevMembership → Option ActiveKevCatalog
  | .listedInActiveKev catalog => some catalog
  | _ => none

/-- The catalog of an absent membership. -/
def ActiveKevMembership.absent? : ActiveKevMembership → Option ActiveKevCatalog
  | .absent catalog => some catalog
  | _ => none

/-- `listedCatalogToken`. -/
def listedCatalogToken : ActiveKevCatalogFreshness → KevObservedToken
  | .current => .listedCatalogCurrent
  | .stale => .listedCatalogStale
  | .disabledWithHistory => .listedCatalogDisabledWithHistory

/-- `listedFact`. -/
def listedFact (listed : List ActiveKevCatalog) :
    Except FindingRiskKevMappingFailureCode KevListedFact :=
  match listed with
  | [] => .error .membershipStatusDisagreement
  | first :: _ =>
      if listed.all (·.freshness = first.freshness) then
        .ok (.observed (listedCatalogToken first.freshness))
      else .error .listedFreshnessDisagreement

/-- The loop body of `absentFact`. -/
def agreeUnknown (unknown : Option KevUnknownToken) (membership : ActiveKevCatalog) :
    Except FindingRiskKevMappingFailureCode (Option KevUnknownToken) :=
  let token : Option KevUnknownToken :=
    match membership.freshness with
    | .current => none
    | .stale => some .absentCatalogStale
    | .disabledWithHistory => some .absentCatalogDisabledWithHistory
  if token = none then .ok unknown
  else if unknown = none ∨ unknown = token then .ok token
  else .error .unknownTokenDisagreement

/-- `absentFact`. -/
def absentFact (absent : List ActiveKevCatalog) :
    Except FindingRiskKevMappingFailureCode KevListedFact := do
  match ← absent.foldlM agreeUnknown none with
  | none => pure (.observed .notListedCatalogCurrent)
  | some token => pure (.unknown token)

/-- `mapActiveKevToListedFact`. -/
def mapActiveKevToListedFact (canonicalCveCount : Nat) (memberships : List ActiveKevMembership) :
    Except FindingRiskKevMappingFailureCode KevListedFact :=
  if memberships.length ≠ canonicalCveCount then .error .membershipCountMismatch
  else if canonicalCveCount = 0 then .ok (.unavailable .noCanonicalCve)
  else
    let listed := memberships.filterMap ActiveKevMembership.listed?
    let absent := memberships.filterMap ActiveKevMembership.absent?
    let unavailableCount := memberships.countP (· = .unavailable)
    if unavailableCount = memberships.length then .ok (.unavailable .noActiveGeneration)
    else if unavailableCount > 0 then .error .membershipStatusDisagreement
    else if listed.length > 0 then listedFact listed
    else if absent.length ≠ memberships.length then .error .membershipStatusDisagreement
    else absentFact absent

/-! ## The facts -/

/-- `FindingRiskFactAssemblyFailureCode`. -/
inductive FindingRiskFactAssemblyFailureCode
  | findingAgeOutOfRange | advisoryWithdrawalDisagreement
  deriving DecidableEq

/-- `MILLISECONDS_PER_DAY`. -/
def millisecondsPerDay : Int := 86400000

/-- `findingAgeDays`. -/
def findingAgeDays (firstObservedAt asOf : JsDate) :
    Except FindingRiskFactAssemblyFailureCode Nat :=
  match firstObservedAt, asOf with
  | some origin, some clock =>
      let ageDays := (clock - origin) / millisecondsPerDay
      if ageDays < 0 ∨ ageDays > findingAgeDaysMax then .error .findingAgeOutOfRange
      else .ok ageDays.toNat
  | _, _ => .error .findingAgeOutOfRange

/-- `advisoryWithdrawnFact`. -/
def advisoryWithdrawnFact (evidence : List FindingRiskCreationEvidence) :
    Except FindingRiskFactAssemblyFailureCode AdvisoryWithdrawnFact :=
  match evidence with
  | [] => .ok (.unavailable ())
  | first :: _ =>
      if evidence.all (·.withdrawalClassification = first.withdrawalClassification) then
        .ok (.observed first.withdrawalClassification)
      else .error .advisoryWithdrawalDisagreement

/-- `environmentFact`. -/
def environmentFact (asset : Option FindingRiskSourceAsset) : EnvironmentSensitivityFact :=
  match asset.bind (·.sensitivityClass) with
  | none => .unavailable ()
  | some sensitivityClass => .observed sensitivityClass

/-- `internetExposureFact`. -/
def internetExposureFact : Option FindingRiskSourceAsset → InternetExposureFact
  | none => .unavailable ()
  | some asset =>
      match asset.internetExposure with
      | .unknown => .unknown .unknown
      | .internetFacing => .observed .internetFacing
      | .internal => .observed .internal

/-- `businessCriticalityFact`. -/
def businessCriticalityFact : Option FindingRiskSourceAsset → BusinessCriticalityFact
  | none => .unavailable ()
  | some asset =>
      match asset.businessCriticality with
      | .unspecified => .unknown .unspecified
      | .critical => .observed .critical
      | .high => .observed .high
      | .medium => .observed .medium
      | .low => .observed .low

/-- `dataClassificationFact`. -/
def dataClassificationFact : Option FindingRiskSourceAsset → AssetDataClassificationFact
  | none => .unavailable ()
  | some asset =>
      match asset.dataClassification with
      | .unspecified => .unknown .unspecified
      | .restricted => .observed .restricted
      | .confidential => .observed .confidential
      | .internal => .observed .internal
      | .publicData => .observed .publicData

/-- `directDependencyFact`. -/
def directDependencyFact (evidence : List FindingRiskCreationEvidence) : DirectDependencyFact :=
  match evidence.head?.bind (·.isDirect) with
  | none => .unavailable ()
  | some isDirect =>
      if evidence.all (·.isDirect = some isDirect) then
        .observed (if isDirect then .direct else .transitive)
      else .unavailable ()

/-- `assemblePriorityFacts`. -/
def assemblePriorityFacts (snapshot : FindingRiskSourceSnapshot) (kevFact : KevListedFact)
    (asOf : JsDate) : Except FindingRiskFactAssemblyFailureCode PriorityFactInput := do
  let ageDays ← findingAgeDays snapshot.finding.firstObservedAt asOf
  let withdrawn ← advisoryWithdrawnFact snapshot.creationEvidence
  pure {
    sourceSeverity := .unavailable ()
    kevListed := kevFact
    environmentSensitivity := environmentFact snapshot.asset
    internetExposure := internetExposureFact snapshot.asset
    businessCriticality := businessCriticalityFact snapshot.asset
    assetDataClassification := dataClassificationFact snapshot.asset
    directDependency := directDependencyFact snapshot.creationEvidence
    fixAvailable := .unavailable ()
    findingAgeDays := .observed ageDays
    advisoryWithdrawn := withdrawn }

theorem findingAgeDays_le {firstObservedAt asOf : JsDate} {days : Nat}
    (h : findingAgeDays firstObservedAt asOf = .ok days) : days ≤ findingAgeDaysMax := by
  unfold findingAgeDays at h
  split at h
  · dsimp only at h
    split at h
    · cases h
    · cases h
      omega
  · cases h

/-- The assembled facts are within the bounds of the engine. -/
theorem assemblePriorityFacts_bounded {snapshot : FindingRiskSourceSnapshot}
    {kevFact : KevListedFact} {asOf : JsDate} {facts : PriorityFactInput}
    (h : assemblePriorityFacts snapshot kevFact asOf = .ok facts) : BoundedFacts facts := by
  unfold assemblePriorityFacts at h
  obtain ⟨ageDays, hage, h⟩ := bind_eq_ok.mp h
  obtain ⟨withdrawn, -, h⟩ := bind_eq_ok.mp h
  cases h
  refine ⟨?_, ?_⟩
  · rintro values ⟨⟩
  · rintro days ⟨⟩
    exact findingAgeDays_le hage

/-! ## The sources -/

/-- `RiskCalculationKevSourceV2`.  A release time is a four-digit UTC time stamp and
kept as the instant it denotes. -/
inductive RiskCalculationKevSource
  | unavailable (reason : KevUnavailableReason)
  | catalog (catalogVersion : JsString) (catalogReleasedAt : Int)
      (freshness : ActiveKevCatalogFreshness) (generationId snapshotSha256 : Option JsString)
  deriving DecidableEq, Inhabited

/-- `RiskCalculationFactorSourcesV2`.  The list `intelligenceSourceRecordIds` is always
empty and left out. -/
structure RiskCalculationFactorSources where
  evidenceIds : List JsString
  advisoryRevisionIds : List JsString
  componentOccurrenceIds : List JsString
  kev : RiskCalculationKevSource
  deriving DecidableEq, Inhabited

/-- `uniqueIds`. -/
def uniqueIds (values : List JsString) : List JsString :=
  values.foldl (fun unique value => if value ∈ unique then unique else unique ++ [value]) []

/-- `assembleRiskCalculationFactorSources`. -/
def assembleRiskCalculationFactorSources (snapshot : FindingRiskSourceSnapshot)
    (kev : RiskCalculationKevSource) : RiskCalculationFactorSources where
  evidenceIds := uniqueIds (snapshot.creationEvidence.map (·.evidenceId))
  advisoryRevisionIds := uniqueIds (snapshot.creationEvidence.map (·.advisoryRevisionId))
  componentOccurrenceIds :=
    uniqueIds (snapshot.creationEvidence.map (·.componentOccurrenceId))
  kev := kev

end PatchPilot.Risk
