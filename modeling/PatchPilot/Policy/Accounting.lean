import Mathlib.Algebra.BigOperators.Ring.List
import Mathlib.Algebra.Order.BigOperators.Group.List
import Mathlib.Algebra.Order.Group.Nat
import PatchPilot.Foundation.Steps
import PatchPilot.Policy.Evaluate
import PatchPilot.Policy.Sound

set_option autoImplicit false

/-!
# Policy: the accounts of an evaluation

The evaluator asserts its ranges at run time.  With a validated definition the
assertion cannot fail: percents of at most 100 under weights that add up to 100
keep the score within 10000 hundredths, the uplift only fills the score up to the
threshold of a band, and a priority always reaches the lowest band.
-/

namespace PatchPilot.Policy

open PatchPilot.Foundation

/-! ## Percents -/

theorem reading_percent_le {ω υ ρ : Type} {fact : Fact ω υ ρ} {value : ω → ObservedValue}
    {percent : ω → Nat} {observedCode : ω → FactorExplanationCode}
    {unknownCode : υ → FactorExplanationCode} {unavailableCode : ρ → FactorExplanationCode}
    {k : Nat} (h : ∀ v, percent v ≤ k) :
    (fact.reading value percent observedCode unknownCode
      unavailableCode).normalizedPercent ≤ k := by
  cases fact with
  | observed v => exact h v
  | unknown _ => exact Nat.zero_le k
  | unavailable _ => exact Nat.zero_le k

theorem agePercent_eq (buckets : List AgeBucket) (days : Nat) :
    agePercent buckets days =
      lastAccepted (fun bucket => decide (days ≥ bucket.minDays)) (·.percent) 0 buckets := by
  unfold agePercent lastAccepted
  simp only [decide_eq_true_eq]

theorem agePercent_le {buckets : List AgeBucket} (h : SoundBuckets buckets) (days : Nat) :
    agePercent buckets days ≤ percentMax := by
  rw [agePercent_eq]
  rcases lastAccepted_mem (fun bucket : AgeBucket => decide (days ≥ bucket.minDays))
      (·.percent) buckets 0 with hdefault | ⟨bucket, hbucket, hpercent⟩
  · rw [hdefault]
    exact Nat.zero_le _
  · rw [hpercent]
    exact h.bounded bucket hbucket

/-- Every factor is read into a percent of at most 100. -/
theorem readFactor_percent_le {definition : PriorityPolicyDefinition}
    (h : SoundNormalization definition.normalization) (facts : PriorityFactInput)
    (factorId : FactorId) :
    (readFactor definition facts factorId).normalizedPercent ≤ percentMax := by
  cases factorId with
  | sourceSeverity => exact reading_percent_le fun _ => h.sourceSeverity.bounded _
  | kevListed => exact reading_percent_le h.kevListed.bounded
  | environmentSensitivity => exact reading_percent_le h.environmentSensitivity.bounded
  | internetExposure => exact reading_percent_le h.internetExposure.bounded
  | businessCriticality => exact reading_percent_le h.businessCriticality.bounded
  | assetDataClassification => exact reading_percent_le h.assetDataClassification.bounded
  | directDependency => exact reading_percent_le h.directDependency.bounded
  | fixAvailable => exact reading_percent_le h.fixAvailable.bounded
  | findingAgeDays => exact reading_percent_le (agePercent_le h.findingAgeDays)
  | advisoryWithdrawn => exact reading_percent_le fun _ => Nat.zero_le _

/-! ## The weighted score -/

@[simp] theorem weightedReading_contributionCenti (definition : PriorityPolicyDefinition)
    (facts : PriorityFactInput) (factorId : FactorId) :
    (weightedReading definition facts factorId).contributionCenti =
      definition.weights factorId *
        (readFactor definition facts factorId).normalizedPercent := rfl

theorem computeOutcome_contributions (definition : PriorityPolicyDefinition)
    (facts : PriorityFactInput) :
    (computeOutcome definition facts).contributions = factorIds.map fun factorId =>
      definition.weights factorId *
        (readFactor definition facts factorId).normalizedPercent := by
  simp [computeOutcome, Function.comp_def]

theorem computeOutcome_weightedScoreCenti (definition : PriorityPolicyDefinition)
    (facts : PriorityFactInput) :
    (computeOutcome definition facts).weightedScoreCenti =
      (computeOutcome definition facts).contributions.sum := rfl

/-- The score is at most the whole weight at a full percent. -/
theorem weightedScoreCenti_le {definition : PriorityPolicyDefinition}
    (h : SoundDefinition definition) (facts : PriorityFactInput) :
    (computeOutcome definition facts).weightedScoreCenti ≤ weightSum * percentMax := by
  rw [computeOutcome_weightedScoreCenti, computeOutcome_contributions]
  calc (factorIds.map fun factorId => definition.weights factorId *
        (readFactor definition facts factorId).normalizedPercent).sum
      ≤ (factorIds.map fun factorId => definition.weights factorId * percentMax).sum :=
        List.sum_le_sum fun factorId _ =>
          Nat.mul_le_mul_left _ (readFactor_percent_le h.normalization facts factorId)
    _ = (factorIds.map definition.weights).sum * percentMax :=
        List.sum_map_mul_right _ _ _
    _ = weightSum * percentMax := by rw [h.weights]

theorem contribution_le {definition : PriorityPolicyDefinition}
    (h : SoundDefinition definition) (facts : PriorityFactInput) :
    ∀ contribution ∈ (computeOutcome definition facts).contributions,
      contribution ≤ weightSum * percentMax := by
  intro contribution hmem
  exact le_trans (List.le_sum_of_mem hmem) (weightedScoreCenti_le h facts)

/-! ## The uplift and the priority -/

theorem floorCenti_le {definition : PriorityPolicyDefinition}
    (h : SoundBands definition.bands) : floorCenti definition ≤ weightSum * percentMax := by
  unfold floorCenti
  dsimp only
  cases hfind : definition.bands.find? fun band =>
      decide (band.band = definition.kevMinimumBand) with
  | none => exact Nat.zero_le _
  | some band =>
      have hbounded := h.bounded band (List.mem_of_find?_eq_some hfind)
      change band.minPriority * 100 ≤ 100 * 100
      exact Nat.mul_le_mul_right 100 hbounded

/-- The uplift fills the score up to the floor and no further. -/
theorem weightedScoreCenti_add_upliftCenti (definition : PriorityPolicyDefinition)
    (facts : PriorityFactInput) :
    (computeOutcome definition facts).weightedScoreCenti +
        (computeOutcome definition facts).upliftCenti =
      if isListed facts then
        max (computeOutcome definition facts).weightedScoreCenti (floorCenti definition)
      else (computeOutcome definition facts).weightedScoreCenti := by
  have huplift : (computeOutcome definition facts).upliftCenti =
      if isListed facts then
        floorCenti definition - (computeOutcome definition facts).weightedScoreCenti
      else 0 := rfl
  rw [huplift]
  cases isListed facts with
  | false => simp
  | true =>
      simp only [if_true]
      omega

theorem totalCenti_le {definition : PriorityPolicyDefinition}
    (h : SoundDefinition definition) (facts : PriorityFactInput) :
    (computeOutcome definition facts).weightedScoreCenti +
      (computeOutcome definition facts).upliftCenti ≤ weightSum * percentMax := by
  have hscore := weightedScoreCenti_le h facts
  have hfloor := floorCenti_le h.bands
  rw [weightedScoreCenti_add_upliftCenti]
  split
  · exact max_le hscore hfloor
  · exact hscore

theorem computeOutcome_priority (definition : PriorityPolicyDefinition)
    (facts : PriorityFactInput) :
    (computeOutcome definition facts).priority =
      ((computeOutcome definition facts).weightedScoreCenti +
        (computeOutcome definition facts).upliftCenti + 50) / 100 := rfl

theorem priority_le {definition : PriorityPolicyDefinition}
    (h : SoundDefinition definition) (facts : PriorityFactInput) :
    (computeOutcome definition facts).priority ≤ priorityMax := by
  have htotal := totalCenti_le h facts
  rw [computeOutcome_priority]
  unfold weightSum percentMax at htotal
  unfold priorityMax
  omega

/-! ## The band -/

/-- The priority lies in the interval from the threshold of the band up to the next
higher threshold. -/
structure InBand (bands : List PolicyBand) (priority : Nat) (band : PolicyBand) : Prop where
  listed : band ∈ bands
  reached : band.minPriority ≤ priority
  below : ∀ other ∈ bands, band.minPriority < other.minPriority → priority < other.minPriority

/-- Every priority reaches the lowest band. -/
theorem bandOf_resolved {bands : List PolicyBand} (h : SoundBands bands) (priority : Nat) :
    ∃ band, bandOf bands priority = some band := by
  obtain ⟨band, hband, hlowest⟩ := Option.map_eq_some_iff.mp h.lowest
  refine Option.isSome_iff_exists.mp (List.find?_isSome.mpr ⟨band, ?_, ?_⟩)
  · exact List.mem_of_getLast? hband
  · rw [hlowest]
    exact decide_eq_true (Nat.zero_le priority)

theorem bandOf_inBand {bands : List PolicyBand} (h : SoundBands bands) {priority : Nat}
    {band : PolicyBand} (hband : bandOf bands priority = some band) :
    InBand bands priority band := by
  have hreached := List.find?_some hband
  refine ⟨List.mem_of_find?_eq_some hband, of_decide_eq_true hreached, ?_⟩
  intro other hother hhigher
  -- a listed band is the found one, is not reached, or comes later and lower
  rcases find?_eq_some_of_pairwise h.falling hband other hother with rfl | hreached | hlower
  · exact absurd hhigher (lt_irrefl _)
  · exact not_le.mp (of_decide_eq_false hreached)
  · exact absurd hlower.1 (lt_asymm hhigher)

theorem InBand.eq {bands : List PolicyBand} (h : SoundBands bands) {priority : Nat}
    {a b : PolicyBand} (ha : InBand bands priority a) (hb : InBand bands priority b) :
    a = b := by
  have hthresholds : a.minPriority = b.minPriority := by
    rcases lt_trichotomy a.minPriority b.minPriority with hlt | heq | hgt
    · exact absurd hb.reached (not_le.mpr (ha.below b hb.listed hlt))
    · exact heq
    · exact absurd ha.reached (not_le.mpr (hb.below a ha.listed hgt))
  have hdistinct : (bands.map (·.minPriority)).Nodup :=
    List.pairwise_map.mpr (h.falling.imp fun hfalls => ne_of_gt hfalls.1)
  exact List.inj_on_of_nodup_map hdistinct ha.listed hb.listed hthresholds

/-! ## The run-time assertion -/

theorem inRange_eq_true {value max : Nat} (h : value ≤ max)
    (hmax : max ≤ weightSum * percentMax) : inRange value max = true := by
  unfold inRange maxSafeInteger
  unfold weightSum percentMax at hmax
  simp only [Bool.and_eq_true, decide_eq_true_eq]
  omega

/-- The assertion of the evaluator never fails. -/
theorem checkPriorityInvariants_computeOutcome {definition : PriorityPolicyDefinition}
    (h : SoundDefinition definition) (facts : PriorityFactInput) :
    checkPriorityInvariants (computeOutcome definition facts) = none := by
  have hcontributions : (computeOutcome definition facts).contributions.all
      (inRange · (weightSum * percentMax)) = true :=
    List.all_eq_true.mpr fun contribution hmem =>
      inRange_eq_true (contribution_le h facts contribution hmem) le_rfl
  have hscore := inRange_eq_true (weightedScoreCenti_le h facts) le_rfl
  have huplift : inRange (computeOutcome definition facts).upliftCenti
      (weightSum * percentMax - (computeOutcome definition facts).weightedScoreCenti) =
        true := by
    have htotal := totalCenti_le h facts
    exact inRange_eq_true (by omega) (Nat.sub_le _ _)
  have hpriority := inRange_eq_true (priority_le h facts) (by decide)
  obtain ⟨band, hband⟩ := bandOf_resolved h.bands (computeOutcome definition facts).priority
  have hresolved : (computeOutcome definition facts).band ≠ none := by
    change bandOf definition.bands (computeOutcome definition facts).priority ≠ none
    rw [hband]
    exact Option.some_ne_none band
  unfold checkPriorityInvariants
  simp [hcontributions, hscore, huplift, hpriority, hresolved]

/-- The evaluator answers with the outcome and the band that the priority reaches. -/
theorem evaluatePriority_ok (definition : ValidatedPriorityPolicyDefinition)
    (facts : ParsedPriorityFactInput) :
    ∃ band, bandOf definition.val.bands
        (computeOutcome definition.val facts.val).priority = some band ∧
      evaluatePriority definition facts = .ok (evaluationOf definition.val facts.val
        (computeOutcome definition.val facts.val) band) := by
  obtain ⟨band, hband⟩ := bandOf_resolved definition.sound.bands
    (computeOutcome definition.val facts.val).priority
  have hresolved : (computeOutcome definition.val facts.val).band = some band := hband
  refine ⟨band, hband, ?_⟩
  unfold evaluatePriority
  dsimp only
  rw [checkPriorityInvariants_computeOutcome definition.sound, hresolved]

/-! ## The accounts -/

/-- An evaluation adds up: its rows to its score, its rules to its uplift, its counts
to the number of factors, everything within range, and its band is the one whose
interval contains the priority. -/
structure Accounts (definition : PriorityPolicyDefinition) (evaluation : PriorityEvaluation) :
    Prop where
  contributions : ∀ row ∈ evaluation.factors, row.contributionCenti ≤ 10000
  weightedScore : evaluation.weightedScoreCenti ≤ 10000
  total : evaluation.weightedScoreCenti + evaluation.upliftCenti ≤ 10000
  priority : evaluation.priority ≤ 100
  rows : (evaluation.factors.map (·.contributionCenti)).sum = evaluation.weightedScoreCenti
  rules : evaluation.rules.map (·.upliftCenti) = [evaluation.upliftCenti, 0]
  counts : evaluation.evidenceSummary.observed + evaluation.evidenceSummary.unknown +
    evaluation.evidenceSummary.unavailable = 10
  resolved : ∃ band, InBand definition.bands evaluation.priority band ∧
    evaluation.priorityBand = band.band
  unique : ∀ band, InBand definition.bands evaluation.priority band →
    band.band = evaluation.priorityBand

theorem factors_contributions (definition : PriorityPolicyDefinition)
    (facts : PriorityFactInput) (band : PolicyBand) :
    (evaluationOf definition facts (computeOutcome definition facts) band).factors.map
        (·.contributionCenti) =
      (computeOutcome definition facts).contributions := by
  unfold evaluationOf
  dsimp only
  rw [List.map_map]
  rfl

theorem rules_upliftCenti (definition : PriorityPolicyDefinition)
    (facts : PriorityFactInput) :
    [minimumBandRule (computeOutcome definition facts),
        escalationRule (computeOutcome definition facts)].map (·.upliftCenti) =
      [(computeOutcome definition facts).upliftCenti, 0] := by
  have huplift : (computeOutcome definition facts).upliftCenti =
      if isListed facts then
        floorCenti definition - (computeOutcome definition facts).weightedScoreCenti
      else 0 := rfl
  have hlisted : (computeOutcome definition facts).kevListed = isListed facts := rfl
  simp only [List.map_cons, List.map_nil, minimumBandRule, escalationRule, hlisted]
  cases hcase : isListed facts with
  | true => rfl
  | false =>
      rw [huplift, hcase]
      rfl

/-- Every row is counted under exactly one state. -/
theorem countState_sum : ∀ factors : List PriorityFactorRow,
    countState factors .observed + countState factors .unknown +
      countState factors .unavailable = factors.length := by
  intro factors
  induction factors with
  | nil => rfl
  | cons row rest ih =>
      unfold countState at ih ⊢
      cases hstate : row.inputState with
      | observed => simp [hstate]; omega
      | unknown => simp [hstate]; omega
      | unavailable => simp [hstate]; omega

/-- Every validated definition evaluates every parsed input, and the evaluation adds
up. -/
theorem evaluatePriority_accounts (definition : ValidatedPriorityPolicyDefinition)
    (facts : ParsedPriorityFactInput) :
    ∃ evaluation, evaluatePriority definition facts = .ok evaluation ∧
      Accounts definition.val evaluation := by
  obtain ⟨band, hband, hok⟩ := evaluatePriority_ok definition facts
  have hsound := definition.sound
  have hinBand := bandOf_inBand hsound.bands hband
  refine ⟨_, hok, ?_⟩
  constructor
  case contributions =>
    intro row hrow
    have hmem := List.mem_map_of_mem (f := fun row : PriorityFactorRow => row.contributionCenti)
      hrow
    rw [factors_contributions] at hmem
    exact contribution_le hsound facts.val _ hmem
  case weightedScore => exact weightedScoreCenti_le hsound facts.val
  case total => exact totalCenti_le hsound facts.val
  case priority => exact priority_le hsound facts.val
  case rows => rw [factors_contributions]; rfl
  case rules => exact rules_upliftCenti definition.val facts.val
  case counts => exact countState_sum _
  case resolved => exact ⟨band, hinBand, rfl⟩
  case unique =>
    intro other hother
    rw [InBand.eq hsound.bands hother hinBand]
    rfl

end PatchPilot.Policy
