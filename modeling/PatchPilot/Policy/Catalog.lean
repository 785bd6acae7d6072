import Mathlib.Data.List.Nodup
import PatchPilot.Foundation.JsValue

set_option autoImplicit false

/-!
# Policy: the closed catalog (`policy-engine/catalog.ts`)

Factors, tokens, bands, rules and explanation codes are engine code.  Each family
of words is an enumeration with the order in which the catalog lists it and the
text by which documents name it; `CatalogToken` is that pair with the two facts
every reader relies on, that the list is complete and that no text is used twice.
-/

namespace PatchPilot.Policy

open PatchPilot.Foundation

/-! ## Words with a catalog order and a text -/

/-- A closed family of words. -/
class CatalogToken (α : Type) where
  tokens : List α
  text : α → JsString
  complete : ∀ a, a ∈ tokens
  distinct : (tokens.map text).Nodup

export CatalogToken (tokens text)

theorem text_injective {α : Type} [CatalogToken α] : Function.Injective (text (α := α)) :=
  fun a b h => List.inj_on_of_nodup_map (CatalogToken.distinct (α := α))
    (CatalogToken.complete a) (CatalogToken.complete b) h

/-- The position of a word in the catalog. -/
def rank {α : Type} [CatalogToken α] [DecidableEq α] (a : α) : Nat := tokens.idxOf a

theorem rank_injective {α : Type} [CatalogToken α] [DecidableEq α] :
    Function.Injective (rank (α := α)) :=
  fun a _ h => (List.idxOf_inj (CatalogToken.complete a)).mp h

/-- The word with the given text, `isOneOf`. -/
def oneOf (α : Type) [CatalogToken α] : JsValue → Option α
  | .string value => tokens.find? (fun a => text a = value)
  | _ => none

theorem oneOf_eq_some {α : Type} [CatalogToken α] {value : JsValue} {a : α} :
    oneOf α value = some a ↔ value = .string (text a) := by
  constructor
  · intro h
    unfold oneOf at h
    split at h
    · have htext := List.find?_some h
      rw [of_decide_eq_true htext]
    · cases h
  · rintro rfl
    have hsome : (tokens.find? fun b : α => text b = text a).isSome := by
      rw [List.find?_isSome]
      exact ⟨a, CatalogToken.complete a, decide_eq_true rfl⟩
    obtain ⟨b, hb⟩ := Option.isSome_iff_exists.mp hsome
    have htext : text b = text a := by simpa using List.find?_some hb
    obtain rfl : b = a := text_injective htext
    exact hb

/-! ## Versions and bounds -/

/-- `PRIORITY_ENGINE_CONTRACT`. -/
def priorityEngineContract : JsString := js "patchpilot.priority.p1p4/1"

/-- `PRIORITY_POLICY_SCHEMA_VERSION`. -/
def priorityPolicySchemaVersion : Nat := 2

/-- `SEVERITY_MAX_VALUES`. -/
def severityMaxValues : Nat := 16

/-- `FINDING_AGE_DAYS_MAX`. -/
def findingAgeDaysMax : Nat := 36500

/-- `FINDING_AGE_BUCKETS_MAX`. -/
def findingAgeBucketsMax : Nat := 16

/-- `POLICY_KEY_MAX_LENGTH`. -/
def policyKeyMaxLength : Nat := 128

/-- `FACTOR_DESCRIPTION_MAX_LENGTH`. -/
def factorDescriptionMaxLength : Nat := 256

/-- `PRIORITY_MAX`. -/
def priorityMax : Nat := 100

/-- `WEIGHT_SUM`. -/
def weightSum : Nat := 100

/-- `PERCENT_MAX`. -/
def percentMax : Nat := 100

/-- `DUE_DATE_RECOMMENDATION_DAYS_MIN`. -/
def dueDateRecommendationDaysMin : Nat := 1

/-- `DUE_DATE_RECOMMENDATION_DAYS_MAX`. -/
def dueDateRecommendationDaysMax : Nat := 3650

/-! ## Factors, states and bands -/

/-- `FactorId`. -/
inductive FactorId
  | sourceSeverity | kevListed | environmentSensitivity | internetExposure
  | businessCriticality | assetDataClassification | directDependency | fixAvailable
  | findingAgeDays | advisoryWithdrawn
  deriving DecidableEq

/-- `FACTOR_IDS`. -/
instance : CatalogToken FactorId where
  tokens := [.sourceSeverity, .kevListed, .environmentSensitivity, .internetExposure,
    .businessCriticality, .assetDataClassification, .directDependency, .fixAvailable,
    .findingAgeDays, .advisoryWithdrawn]
  text
    | .sourceSeverity => js "source_severity"
    | .kevListed => js "kev_listed"
    | .environmentSensitivity => js "environment_sensitivity"
    | .internetExposure => js "internet_exposure"
    | .businessCriticality => js "business_criticality"
    | .assetDataClassification => js "asset_data_classification"
    | .directDependency => js "direct_dependency"
    | .fixAvailable => js "fix_available"
    | .findingAgeDays => js "finding_age_days"
    | .advisoryWithdrawn => js "advisory_withdrawn"
  complete a := by cases a <;> decide
  distinct := by decide

/-- `FACTOR_IDS`, as a list. -/
abbrev factorIds : List FactorId := tokens

/-- `factorOrdinal`. -/
def factorOrdinal (factorId : FactorId) : Nat := factorIds.idxOf factorId + 1

/-- `INFORMATIONAL_FACTOR_ID`. -/
def informationalFactorId : FactorId := .advisoryWithdrawn

/-- `FactorInputState`. -/
inductive FactorInputState
  | observed | unknown | unavailable
  deriving DecidableEq

/-- `FACTOR_INPUT_STATES`. -/
instance : CatalogToken FactorInputState where
  tokens := [.observed, .unknown, .unavailable]
  text
    | .observed => js "observed"
    | .unknown => js "unknown"
    | .unavailable => js "unavailable"
  complete a := by cases a <;> decide
  distinct := by decide

/-- `FactorStatus`. -/
inductive FactorStatus
  | decisive | contributing | nonContributing | informational
  deriving DecidableEq

/-- `PriorityBand`. -/
inductive PriorityBand
  | p1 | p2 | p3 | p4
  deriving DecidableEq, Inhabited

/-- `PRIORITY_BANDS`, the most urgent band first. -/
instance : CatalogToken PriorityBand where
  tokens := [.p1, .p2, .p3, .p4]
  text
    | .p1 => js "P1"
    | .p2 => js "P2"
    | .p3 => js "P3"
    | .p4 => js "P4"
  complete a := by cases a <;> decide
  distinct := by decide

/-! ## Tokens -/

/-- `SeverityRating`. -/
inductive SeverityRating
  | critical | high | medium | low | none
  deriving DecidableEq

/-- `SEVERITY_RATINGS`. -/
instance : CatalogToken SeverityRating where
  tokens := [.critical, .high, .medium, .low, .none]
  text
    | .critical => js "critical"
    | .high => js "high"
    | .medium => js "medium"
    | .low => js "low"
    | .none => js "none"
  complete a := by cases a <;> decide
  distinct := by decide

/-- The word of `SEVERITY_UNKNOWN_TOKENS`. -/
inductive SeverityUnknownToken
  | unrated
  deriving DecidableEq

instance : CatalogToken SeverityUnknownToken where
  tokens := [.unrated]
  text _ := js "unrated"
  complete a := by cases a; decide
  distinct := by decide

/-- `KevObservedToken`. -/
inductive KevObservedToken
  | listedCatalogCurrent | listedCatalogStale | listedCatalogDisabledWithHistory
  | notListedCatalogCurrent
  deriving DecidableEq

/-- `KEV_OBSERVED_TOKENS`. -/
instance : CatalogToken KevObservedToken where
  tokens := [.listedCatalogCurrent, .listedCatalogStale, .listedCatalogDisabledWithHistory,
    .notListedCatalogCurrent]
  text
    | .listedCatalogCurrent => js "listed_catalog_current"
    | .listedCatalogStale => js "listed_catalog_stale"
    | .listedCatalogDisabledWithHistory => js "listed_catalog_disabled_with_history"
    | .notListedCatalogCurrent => js "not_listed_catalog_current"
  complete a := by cases a <;> decide
  distinct := by decide

/-- `isKevListedToken`: the token is one of `KEV_LISTED_TOKENS`. -/
def isKevListedToken (value : KevObservedToken) : Bool :=
  [KevObservedToken.listedCatalogCurrent, .listedCatalogStale,
    .listedCatalogDisabledWithHistory].contains value

/-- `KevUnknownToken`. -/
inductive KevUnknownToken
  | absentCatalogStale | absentCatalogDisabledWithHistory
  deriving DecidableEq

/-- `KEV_UNKNOWN_TOKENS`. -/
instance : CatalogToken KevUnknownToken where
  tokens := [.absentCatalogStale, .absentCatalogDisabledWithHistory]
  text
    | .absentCatalogStale => js "absent_catalog_stale"
    | .absentCatalogDisabledWithHistory => js "absent_catalog_disabled_with_history"
  complete a := by cases a <;> decide
  distinct := by decide

/-- `KevUnavailableReason`. -/
inductive KevUnavailableReason
  | noCanonicalCve | noActiveGeneration
  deriving DecidableEq, Inhabited

/-- `KEV_UNAVAILABLE_REASONS`. -/
instance : CatalogToken KevUnavailableReason where
  tokens := [.noCanonicalCve, .noActiveGeneration]
  text
    | .noCanonicalCve => js "no_canonical_cve"
    | .noActiveGeneration => js "no_active_generation"
  complete a := by cases a <;> decide
  distinct := by decide

/-- `EnvironmentSensitivityToken`. -/
inductive EnvironmentSensitivityToken
  | production | nonProduction
  deriving DecidableEq

/-- `ENVIRONMENT_SENSITIVITY_TOKENS`. -/
instance : CatalogToken EnvironmentSensitivityToken where
  tokens := [.production, .nonProduction]
  text
    | .production => js "production"
    | .nonProduction => js "non_production"
  complete a := by cases a <;> decide
  distinct := by decide

/-- `InternetExposureToken`. -/
inductive InternetExposureToken
  | internetFacing | internal
  deriving DecidableEq

/-- `INTERNET_EXPOSURE_TOKENS`. -/
instance : CatalogToken InternetExposureToken where
  tokens := [.internetFacing, .internal]
  text
    | .internetFacing => js "internet_facing"
    | .internal => js "internal"
  complete a := by cases a <;> decide
  distinct := by decide

/-- The word of `INTERNET_EXPOSURE_UNKNOWN_TOKENS`. -/
inductive InternetExposureUnknownToken
  | unknown
  deriving DecidableEq

instance : CatalogToken InternetExposureUnknownToken where
  tokens := [.unknown]
  text _ := js "unknown"
  complete a := by cases a; decide
  distinct := by decide

/-- `BusinessCriticalityToken`. -/
inductive BusinessCriticalityToken
  | critical | high | medium | low
  deriving DecidableEq

/-- `BUSINESS_CRITICALITY_TOKENS`. -/
instance : CatalogToken BusinessCriticalityToken where
  tokens := [.critical, .high, .medium, .low]
  text
    | .critical => js "critical"
    | .high => js "high"
    | .medium => js "medium"
    | .low => js "low"
  complete a := by cases a <;> decide
  distinct := by decide

/-- `AssetDataClassificationToken`. -/
inductive AssetDataClassificationToken
  | restricted | confidential | internal | publicData
  deriving DecidableEq

/-- `ASSET_DATA_CLASSIFICATION_TOKENS`. -/
instance : CatalogToken AssetDataClassificationToken where
  tokens := [.restricted, .confidential, .internal, .publicData]
  text
    | .restricted => js "restricted"
    | .confidential => js "confidential"
    | .internal => js "internal"
    | .publicData => js "public"
  complete a := by cases a <;> decide
  distinct := by decide

/-- The word of `BUSINESS_CRITICALITY_UNKNOWN_TOKENS` and of
`ASSET_DATA_CLASSIFICATION_UNKNOWN_TOKENS`. -/
inductive UnspecifiedToken
  | unspecified
  deriving DecidableEq

instance : CatalogToken UnspecifiedToken where
  tokens := [.unspecified]
  text _ := js "unspecified"
  complete a := by cases a; decide
  distinct := by decide

/-- `DirectDependencyToken`. -/
inductive DirectDependencyToken
  | direct | transitive
  deriving DecidableEq

/-- `DIRECT_DEPENDENCY_TOKENS`. -/
instance : CatalogToken DirectDependencyToken where
  tokens := [.direct, .transitive]
  text
    | .direct => js "direct"
    | .transitive => js "transitive"
  complete a := by cases a <;> decide
  distinct := by decide

/-- `FixAvailableToken`. -/
inductive FixAvailableToken
  | available | notAvailable
  deriving DecidableEq

/-- `FIX_AVAILABLE_TOKENS`. -/
instance : CatalogToken FixAvailableToken where
  tokens := [.available, .notAvailable]
  text
    | .available => js "available"
    | .notAvailable => js "not_available"
  complete a := by cases a <;> decide
  distinct := by decide

/-- The word of `FIX_AVAILABLE_UNKNOWN_TOKENS`. -/
inductive FixAvailableUnknownToken
  | undetermined
  deriving DecidableEq

instance : CatalogToken FixAvailableUnknownToken where
  tokens := [.undetermined]
  text _ := js "undetermined"
  complete a := by cases a; decide
  distinct := by decide

/-- `AdvisoryWithdrawnToken`. -/
inductive AdvisoryWithdrawnToken
  | withdrawn | notWithdrawn
  deriving DecidableEq

/-- `ADVISORY_WITHDRAWN_TOKENS`. -/
instance : CatalogToken AdvisoryWithdrawnToken where
  tokens := [.withdrawn, .notWithdrawn]
  text
    | .withdrawn => js "withdrawn"
    | .notWithdrawn => js "not_withdrawn"
  complete a := by cases a <;> decide
  distinct := by decide

/-- `KEV_ESCALATION_RULE`. -/
def kevEscalationRule : JsString := js "listed_and_production_or_internet_facing"

/-- `RuleId`. -/
inductive RuleId
  | kevMinimumBand | kevEscalation
  deriving DecidableEq

/-- `EscalationReason`. -/
inductive EscalationReason
  | kevProduction | kevInternetFacing
  deriving DecidableEq

/-! ## Explanation codes -/

/-- `FactorExplanationCode`. -/
inductive FactorExplanationCode
  | severityCritical | severityHigh | severityMedium | severityLow | severityNone
  | severityUnrated | severityUnavailable
  | kevListedCatalogCurrent | kevListedCatalogStale | kevListedCatalogDisabledWithHistory
  | kevNotListedCatalogCurrent | kevAbsentCatalogStale
  | kevAbsentCatalogDisabledWithHistory | kevUnavailableNoCanonicalCve
  | kevUnavailableNoActiveGeneration
  | environmentProduction | environmentNonProduction | environmentUnavailable
  | exposureInternetFacing | exposureInternal | exposureUnknown | exposureUnavailable
  | criticalityCritical | criticalityHigh | criticalityMedium | criticalityLow
  | criticalityUnspecified | criticalityUnavailable
  | dataRestricted | dataConfidential | dataInternal | dataPublic | dataUnspecified
  | dataUnavailable
  | dependencyDirect | dependencyTransitive | dependencyUnavailable
  | fixAvailable | fixNotAvailable | fixUndetermined | fixUnavailable
  | ageUnder30Days | age30To89Days | age90DaysOrMore | ageUnavailable
  | advisoryWithdrawnReviewRequired | advisoryNotWithdrawn | advisoryWithdrawalUnavailable
  deriving DecidableEq

/-- `RuleExplanationCode`. -/
inductive RuleExplanationCode
  | kevMinimumBandRaised | kevMinimumBandAlreadyMet | kevMinimumBandNotTriggered
  | kevEscalationRecommended | kevEscalationContextNotObserved | kevEscalationNotTriggered
  deriving DecidableEq

end PatchPilot.Policy
