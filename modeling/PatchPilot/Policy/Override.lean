import PatchPilot.Foundation.Stringify
import PatchPilot.Policy.CanonicalText
import PatchPilot.Policy.DefinitionDocument

set_option autoImplicit false

/-!
# Policy: organization overrides (`definition.ts`)

An override may change the weights of its parent and nothing else.  The other sections are
compared as texts; validation has built both sides with their keys in one order, so the
texts are equal where the sections are.
-/

namespace PatchPilot.Policy

open PatchPilot.Foundation

/-- `PolicyOverrideIssueCode`. -/
inductive PolicyOverrideIssueCode
  | parentNotValidated | differsFromParent | weightOutsideOverrideBounds
  deriving DecidableEq

/-- `PolicyOverrideIssue`. -/
structure PolicyOverrideIssue where
  path : JsString
  code : PolicyOverrideIssueCode
  deriving DecidableEq

/-- `PolicyDefinitionError` or `PolicyOverrideError`. -/
inductive PolicyOverrideFailure
  | invalidPolicyDefinition (error : PolicyDefinitionError)
  | invalidPolicyOverride (issues : List PolicyOverrideIssue)
  deriving DecidableEq

/-- `OVERRIDE_WEIGHT_BOUNDS`. -/
def overrideWeightBounds : FactorId → Nat × Nat
  | .sourceSeverity => (30, 50)
  | .kevListed => (10, 30)
  | .environmentSensitivity => (0, 20)
  | .internetExposure => (0, 20)
  | .businessCriticality => (0, 15)
  | .assetDataClassification => (0, 10)
  | .directDependency => (0, 5)
  | .fixAvailable => (0, 5)
  | .findingAgeDays => (0, 5)
  | .advisoryWithdrawn => (0, 0)

/-- The sections that an override takes over from its parent. -/
inductive InheritedSection
  | policyKey | factorCatalog | normalization | bands | rules
  deriving DecidableEq

/-- The constant `sections` of `validatePolicyOverride`. -/
instance : CatalogToken InheritedSection where
  tokens := [.policyKey, .factorCatalog, .normalization, .bands, .rules]
  text
    | .policyKey => js "policyKey"
    | .factorCatalog => js "factorCatalog"
    | .normalization => js "normalization"
    | .bands => js "bands"
    | .rules => js "rules"
  complete a := by cases a <;> decide
  distinct := by decide

/-- `definition[section]`. -/
def PriorityPolicyDefinition.inherited (definition : PriorityPolicyDefinition) :
    InheritedSection → JsValue
  | .policyKey => .string definition.policyKey
  | .factorCatalog => catalogDocument definition.factorCatalog
  | .normalization => normalizationDocument definition.normalization
  | .bands => bandsDocument definition.bands
  | .rules => rulesDocument definition.kevMinimumBand

/-- `canonicalSection`.  The numbers of a definition are whole and small, and the text of
such a number is its digits. -/
def canonicalSection (value : JsValue) : Option JsString :=
  value.stringify (jsonTexts exactText)

/-- `validatePolicyOverride`; a parent that no validation produced is `none`. -/
def validatePolicyOverride (parent : Option ValidatedPriorityPolicyDefinition)
    (candidate : JsValue) : Except PolicyOverrideFailure PriorityPolicyDefinition :=
  match parent with
  | none => .error (.invalidPolicyOverride [⟨js "$", .parentNotValidated⟩])
  | some parent =>
      match validatePolicyDefinition candidate with
      | .error error => .error (.invalidPolicyDefinition error)
      | .ok override =>
          let differing := (tokens : List InheritedSection).filter fun section_ =>
            canonicalSection (override.inherited section_) ≠
              canonicalSection (parent.val.inherited section_)
          let outside := factorIds.filter fun factorId =>
            override.weights factorId < (overrideWeightBounds factorId).1 ∨
              override.weights factorId > (overrideWeightBounds factorId).2
          let issues :=
            (differing.map fun section_ =>
              PolicyOverrideIssue.mk (text section_) .differsFromParent) ++
            outside.map fun factorId =>
              PolicyOverrideIssue.mk (fieldPath (js "weights") (text factorId))
                .weightOutsideOverrideBounds
          if issues.length > 0 then .error (.invalidPolicyOverride issues) else .ok override

/-! ## The texts of sections -/

/-- The document of a whole number. -/
def wholeJson (n : Nat) : JsonValue := .number (.finite n)

theorem legible_whole {bound : Nat} (hbound : bound < 2 ^ 53) :
    Legible (· ≤ bound) wholeNumber wholeJson where
  json? := Legible.whole.json?
  writable n h := Legible.whole.writable n (h.trans_lt hbound)
  injective := Legible.whole.injective

theorem json?_string (s : JsString) : (JsValue.string s).json? = some (.string s) :=
  Legible.string.json? s

theorem json?_wholeNumber (n : Nat) : (wholeNumber n).json? = some (wholeJson n) :=
  Legible.whole.json? n

/-- The document of a catalog entry. -/
def catalogEntryJson (entry : FactorCatalogEntry) : JsonValue :=
  .object [(js "factorId", .string (text entry.factorId)),
    (js "description", .string entry.description)]

theorem legible_catalogEntry :
    Legible (fun _ => True) catalogEntryDocument catalogEntryJson where
  json? entry := json?_record
    (.cons ⟨rfl, json?_string _⟩ (.cons ⟨rfl, json?_string _⟩ .nil))
  writable entry _ := by
    refine .object (show [js "factorId", js "description"].Nodup by simp [js_inj]) ?_
    simp only [List.forall_mem_cons, List.not_mem_nil, false_implies, implies_true, and_true]
    exact ⟨.string _, .string _⟩
  injective a b h := by
    simp only [catalogEntryJson, JsonValue.object.injEq, List.cons.injEq, Prod.mk.injEq,
      JsonValue.string.injEq, true_and, and_true] at h
    obtain ⟨hfactorId, hdescription⟩ := h
    cases a
    cases b
    exact congr (congrArg FactorCatalogEntry.mk (text_injective hfactorId)) hdescription

/-- The document of an age bucket. -/
def bucketJson (bucket : AgeBucket) : JsonValue :=
  .object [(js "minDays", wholeJson bucket.minDays), (js "percent", wholeJson bucket.percent)]

theorem legible_bucket :
    Legible (fun bucket => bucket.minDays ≤ findingAgeDaysMax ∧ bucket.percent ≤ percentMax)
      bucketDocument bucketJson where
  json? bucket := json?_record
    (.cons ⟨rfl, json?_wholeNumber _⟩ (.cons ⟨rfl, json?_wholeNumber _⟩ .nil))
  writable bucket h := by
    refine .object (show [js "minDays", js "percent"].Nodup by simp [js_inj]) ?_
    simp only [List.forall_mem_cons, List.not_mem_nil, false_implies, implies_true, and_true]
    exact ⟨(legible_whole (by decide)).writable _ h.1, (legible_whole (by decide)).writable _ h.2⟩
  injective a b h := by
    simp only [bucketJson, JsonValue.object.injEq, List.cons.injEq, Prod.mk.injEq,
      true_and, and_true] at h
    obtain ⟨hminDays, hpercent⟩ := h
    cases a
    cases b
    exact congr (congrArg AgeBucket.mk (Legible.whole.injective hminDays))
      (Legible.whole.injective hpercent)

/-- The document of a band. -/
def bandJson (band : PolicyBand) : JsonValue :=
  .object [(js "band", .string (text band.band)), (js "minPriority", wholeJson band.minPriority),
    (js "dueDateRecommendationDays", wholeJson band.dueDateRecommendationDays)]

theorem legible_band :
    Legible (fun band => band.minPriority ≤ priorityMax ∧
      band.dueDateRecommendationDays ≤ dueDateRecommendationDaysMax) bandDocument bandJson where
  json? band := json?_record (.cons ⟨rfl, json?_string _⟩
    (.cons ⟨rfl, json?_wholeNumber _⟩ (.cons ⟨rfl, json?_wholeNumber _⟩ .nil)))
  writable band h := by
    refine .object
      (show [js "band", js "minPriority", js "dueDateRecommendationDays"].Nodup by simp [js_inj]) ?_
    simp only [List.forall_mem_cons, List.not_mem_nil, false_implies, implies_true, and_true]
    exact ⟨.string _, (legible_whole (by decide)).writable _ h.1,
      (legible_whole (by decide)).writable _ h.2⟩
  injective a b h := by
    simp only [bandJson, JsonValue.object.injEq, List.cons.injEq, Prod.mk.injEq,
      JsonValue.string.injEq, true_and, and_true] at h
    obtain ⟨hband, hminPriority, hdueDays⟩ := h
    cases a
    cases b
    exact congr (congr (congrArg PolicyBand.mk (text_injective hband))
      (Legible.whole.injective hminPriority)) (Legible.whole.injective hdueDays)

/-- The document of the rules. -/
def rulesJson (kevMinimumBand : PriorityBand) : JsonValue :=
  .object [(js "kevMinimumBand", .string (text kevMinimumBand)),
    (js "kevEscalation", .string kevEscalationRule)]

theorem legible_rules : Legible (fun _ => True) rulesDocument rulesJson where
  json? band := json?_record (.cons ⟨rfl, json?_string _⟩ (.cons ⟨rfl, json?_string _⟩ .nil))
  writable band _ := by
    refine .object (show [js "kevMinimumBand", js "kevEscalation"].Nodup by simp [js_inj]) ?_
    simp only [List.forall_mem_cons, List.not_mem_nil, false_implies, implies_true, and_true]
    exact ⟨.string _, .string _⟩
  injective a b h := by
    simp only [rulesJson, JsonValue.object.injEq, List.cons.injEq, Prod.mk.injEq,
      JsonValue.string.injEq, true_and, and_true] at h
    exact text_injective h

/-- The document of the percents of a family of tokens. -/
def percentsJson {α : Type} [CatalogToken α] (percent : α → Nat) : JsonValue :=
  .object ((tokens : List α).map fun token => (text token, wholeJson (percent token)))

theorem legible_percents {α : Type} [CatalogToken α] :
    Legible (fun percent : α → Nat => ∀ a, percent a ≤ percentMax) percentsDocument percentsJson :=
  (legible_whole (by decide)).function CatalogToken.complete CatalogToken.distinct

/-- The document of the normalization. -/
def normalizationJson (normalization : PolicyNormalization) : JsonValue :=
  .object [
    (text FactorId.sourceSeverity, percentsJson normalization.sourceSeverity),
    (text FactorId.kevListed, percentsJson normalization.kevListed),
    (text FactorId.environmentSensitivity, percentsJson normalization.environmentSensitivity),
    (text FactorId.internetExposure, percentsJson normalization.internetExposure),
    (text FactorId.businessCriticality, percentsJson normalization.businessCriticality),
    (text FactorId.assetDataClassification, percentsJson normalization.assetDataClassification),
    (text FactorId.directDependency, percentsJson normalization.directDependency),
    (text FactorId.fixAvailable, percentsJson normalization.fixAvailable),
    (text FactorId.findingAgeDays, .array (normalization.findingAgeDays.map bucketJson))]

theorem legible_normalization :
    Legible (fun normalization => SoundNormalization normalization ∧
      BucketLimits normalization.findingAgeDays) normalizationDocument normalizationJson where
  json? normalization := json?_record
    (.cons ⟨rfl, legible_percents.json? _⟩ (.cons ⟨rfl, legible_percents.json? _⟩
    (.cons ⟨rfl, legible_percents.json? _⟩ (.cons ⟨rfl, legible_percents.json? _⟩
    (.cons ⟨rfl, legible_percents.json? _⟩ (.cons ⟨rfl, legible_percents.json? _⟩
    (.cons ⟨rfl, legible_percents.json? _⟩ (.cons ⟨rfl, legible_percents.json? _⟩
    (.cons ⟨rfl, legible_bucket.list.json? _⟩ .nil)))))))))
  writable normalization h := by
    obtain ⟨hsound, hlimits⟩ := h
    refine .object
      (show normalizationKeys.Nodup by simp [normalizationKeys, text_injective.eq_iff]) ?_
    simp only [List.forall_mem_cons, List.not_mem_nil, false_implies, implies_true, and_true]
    refine ⟨legible_percents.writable _ hsound.sourceSeverity.bounded,
      legible_percents.writable _ hsound.kevListed.bounded,
      legible_percents.writable _ hsound.environmentSensitivity.bounded,
      legible_percents.writable _ hsound.internetExposure.bounded,
      legible_percents.writable _ hsound.businessCriticality.bounded,
      legible_percents.writable _ hsound.assetDataClassification.bounded,
      legible_percents.writable _ hsound.directDependency.bounded,
      legible_percents.writable _ hsound.fixAvailable.bounded,
      legible_bucket.list.writable _ fun bucket hbucket => ?_⟩
    exact ⟨hlimits.days bucket hbucket, hsound.findingAgeDays.bounded bucket hbucket⟩
  injective a b h := by
    simp only [normalizationJson, JsonValue.object.injEq, List.cons.injEq, Prod.mk.injEq,
      JsonValue.array.injEq, true_and, and_true] at h
    obtain ⟨h₁, h₂, h₃, h₄, h₅, h₆, h₇, h₈, h₉⟩ := h
    cases a
    cases b
    rw [PolicyNormalization.mk.injEq]
    exact ⟨legible_percents.injective h₁, legible_percents.injective h₂,
      legible_percents.injective h₃, legible_percents.injective h₄,
      legible_percents.injective h₅, legible_percents.injective h₆,
      legible_percents.injective h₇, legible_percents.injective h₈,
      legible_bucket.injective.list_map h₉⟩

/-! ## Equal sections -/

/-- The definitions are equal in every section but the weights. -/
structure EqualApartFromWeights (definition parent : PriorityPolicyDefinition) : Prop where
  policyKey : definition.policyKey = parent.policyKey
  factorCatalog : definition.factorCatalog = parent.factorCatalog
  normalization : definition.normalization = parent.normalization
  bands : definition.bands = parent.bands
  kevMinimumBand : definition.kevMinimumBand = parent.kevMinimumBand

/-- The texts of the inherited sections are equal where the sections are. -/
theorem canonicalSections_eq_iff {definition parent : PriorityPolicyDefinition}
    (h : AcceptedDefinition definition) (h' : AcceptedDefinition parent) :
    (∀ section_, canonicalSection (definition.inherited section_) =
      canonicalSection (parent.inherited section_)) ↔
      EqualApartFromWeights definition parent := by
  have hkey := Legible.string.stringify_eq_iff jsonTexts_exactText
    (a := definition.policyKey) (b := parent.policyKey) trivial trivial
  have hcatalog := legible_catalogEntry.list.stringify_eq_iff jsonTexts_exactText
    (a := definition.factorCatalog) (b := parent.factorCatalog) (fun _ _ => trivial)
    fun _ _ => trivial
  have hnormalization := legible_normalization.stringify_eq_iff jsonTexts_exactText
    ⟨h.normalization, h.ageBuckets⟩ ⟨h'.normalization, h'.ageBuckets⟩
  have hbands := legible_band.list.stringify_eq_iff jsonTexts_exactText
    (fun band hband => ⟨h.bands.bounded band hband, (h.dueDates band hband).2⟩)
    fun band hband => ⟨h'.bands.bounded band hband, (h'.dueDates band hband).2⟩
  have hrules := legible_rules.stringify_eq_iff jsonTexts_exactText
    (a := definition.kevMinimumBand) (b := parent.kevMinimumBand) trivial trivial
  constructor
  · intro hequal
    exact ⟨hkey.mp (hequal .policyKey), hcatalog.mp (hequal .factorCatalog),
      hnormalization.mp (hequal .normalization), hbands.mp (hequal .bands),
      hrules.mp (hequal .rules)⟩
  · intro hequal section_
    cases section_ with
    | policyKey => exact hkey.mpr hequal.policyKey
    | factorCatalog => exact hcatalog.mpr hequal.factorCatalog
    | normalization => exact hnormalization.mpr hequal.normalization
    | bands => exact hbands.mpr hequal.bands
    | rules => exact hrules.mpr hequal.kevMinimumBand

/-- An override is accepted exactly when it is a valid definition, equal to its parent in every
section but the weights, and every weight lies within its bounds. -/
theorem validatePolicyOverride_ok_iff (parent : ValidatedPriorityPolicyDefinition)
    (candidate : JsValue) (override : PriorityPolicyDefinition) :
    validatePolicyOverride (some parent) candidate = .ok override ↔
      validatePolicyDefinition candidate = .ok override ∧
        EqualApartFromWeights override parent.val ∧
          ∀ factorId, (overrideWeightBounds factorId).1 ≤ override.weights factorId ∧
            override.weights factorId ≤ (overrideWeightBounds factorId).2 := by
  obtain ⟨input, hparent⟩ := parent.property
  have hparent := validatePolicyDefinition_accepted hparent
  unfold validatePolicyOverride
  dsimp only
  cases hcandidate : validatePolicyDefinition candidate with
  | error error => simp
  | ok definition =>
      have hdefinition := validatePolicyDefinition_accepted hcandidate
      have hsections : ((tokens : List InheritedSection).filter fun section_ =>
          canonicalSection (definition.inherited section_) ≠
            canonicalSection (parent.val.inherited section_)) = [] ↔
          EqualApartFromWeights definition parent.val := by
        rw [← canonicalSections_eq_iff hdefinition hparent, List.filter_eq_nil_iff]
        simp only [ne_eq, decide_not, Bool.not_eq_true', decide_eq_false_iff_not, not_not]
        exact ⟨fun h section_ => h section_ (CatalogToken.complete section_), fun h s _ => h s⟩
      have hweights : (factorIds.filter fun factorId =>
          definition.weights factorId < (overrideWeightBounds factorId).1 ∨
            definition.weights factorId > (overrideWeightBounds factorId).2) = [] ↔
          ∀ factorId, (overrideWeightBounds factorId).1 ≤ definition.weights factorId ∧
            definition.weights factorId ≤ (overrideWeightBounds factorId).2 := by
        rw [List.filter_eq_nil_iff]
        simp only [decide_eq_true_eq, not_or, not_lt]
        exact ⟨fun h factorId => h factorId (CatalogToken.complete factorId), fun h f _ => h f⟩
      dsimp only
      rw [List.length_append, List.length_map, List.length_map]
      split
      · rename_i hissues
        refine iff_of_false (fun h => by cases h) ?_
        rintro ⟨heq, hequal, hbounds⟩
        cases heq
        rw [hsections.mpr hequal, hweights.mpr hbounds] at hissues
        exact absurd hissues (lt_irrefl 0)
      · rename_i hissues
        have hnone := Nat.eq_zero_of_not_pos hissues
        obtain ⟨hnosection, hnoweight⟩ := Nat.add_eq_zero_iff.mp hnone
        constructor
        · intro heq
          cases heq
          exact ⟨rfl, hsections.mp (List.length_eq_zero_iff.mp hnosection),
            hweights.mp (List.length_eq_zero_iff.mp hnoweight)⟩
        · rintro ⟨heq, -, -⟩
          cases heq
          rfl

end PatchPilot.Policy
