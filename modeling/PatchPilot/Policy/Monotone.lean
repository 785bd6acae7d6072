import PatchPilot.Policy.Accounting
import PatchPilot.Policy.Definition
import PatchPilot.Policy.FactDocument

set_option autoImplicit false

/-!
# Policy: more evidence never lowers the priority

The facts of a factor are ordered by what they say: nothing observed lies below
everything, and observations are ordered by their token, their highest rating or
their age.  Every stage of the evaluation respects that order.
-/

namespace PatchPilot.Policy

open PatchPilot.Foundation

/-! ## The order of the facts -/

/-- An unobserved fact is below every fact; observed facts are compared. -/
def Fact.Below {ω υ ρ : Type} (le : ω → ω → Prop) : Fact ω υ ρ → Fact ω υ ρ → Prop
  | .observed v, .observed w => le v w
  | .observed _, .unknown _ => False
  | .observed _, .unavailable _ => False
  | .unknown _, _ => True
  | .unavailable _, _ => True

/-- Tokens, in reverse catalog order. -/
def TokenBelow {α : Type} [CatalogToken α] [DecidableEq α] (v w : α) : Prop := rank w ≤ rank v

/-- Severity lists, by their highest rating. -/
def SeveritiesBelow (vs ws : List SeverityRating) : Prop :=
  ∀ v ∈ vs, ∃ w ∈ ws, TokenBelow v w

/-- The order of the facts, factor by factor. -/
structure FactsBelow (f g : PriorityFactInput) : Prop where
  sourceSeverity : f.sourceSeverity.Below SeveritiesBelow g.sourceSeverity
  kevListed : f.kevListed.Below TokenBelow g.kevListed
  environmentSensitivity : f.environmentSensitivity.Below TokenBelow g.environmentSensitivity
  internetExposure : f.internetExposure.Below TokenBelow g.internetExposure
  businessCriticality : f.businessCriticality.Below TokenBelow g.businessCriticality
  assetDataClassification :
    f.assetDataClassification.Below TokenBelow g.assetDataClassification
  directDependency : f.directDependency.Below TokenBelow g.directDependency
  fixAvailable : f.fixAvailable.Below TokenBelow g.fixAvailable
  findingAgeDays : f.findingAgeDays.Below (· ≤ ·) g.findingAgeDays
  advisoryWithdrawn : f.advisoryWithdrawn.Below TokenBelow g.advisoryWithdrawn

/-! ## Readings -/

theorem reading_percent_mono {ω υ ρ : Type} {le : ω → ω → Prop} {f g : Fact ω υ ρ}
    {value : ω → ObservedValue} {percent : ω → Nat}
    {observedCode : ω → FactorExplanationCode} {unknownCode : υ → FactorExplanationCode}
    {unavailableCode : ρ → FactorExplanationCode}
    (hpercent : ∀ v w, le v w → percent v ≤ percent w) (hfg : f.Below le g) :
    (f.reading value percent observedCode unknownCode unavailableCode).normalizedPercent ≤
      (g.reading value percent observedCode unknownCode
        unavailableCode).normalizedPercent := by
  cases f with
  | observed v =>
      cases g with
      | observed w => exact hpercent v w hfg
      | unknown _ => exact hfg.elim
      | unavailable _ => exact hfg.elim
  | unknown _ => exact Nat.zero_le _
  | unavailable _ => exact Nat.zero_le _

/-- The position of the highest rating is the least position. -/
theorem rank_highestSeverity (values : List SeverityRating) :
    rank (highestSeverity values) =
      values.foldl (fun highest value => min highest (rank value))
        ((tokens : List SeverityRating).length - 1) := by
  have hlt : values.foldl (fun highest value => min highest (rank value))
      ((tokens : List SeverityRating).length - 1) < (tokens : List SeverityRating).length := by
    refine Nat.lt_of_le_of_lt ((foldl_min_le_iff values _).mpr (.inl le_rfl)) ?_
    decide
  unfold highestSeverity
  dsimp only
  rw [List.getElem?_eq_getElem hlt]
  exact tokens_nodup.idxOf_getElem _ hlt

theorem highestSeverity_mono {vs ws : List SeverityRating} (h : SeveritiesBelow vs ws) :
    rank (highestSeverity ws) ≤ rank (highestSeverity vs) := by
  rw [rank_highestSeverity, rank_highestSeverity, foldl_min_le_iff]
  rcases (foldl_min_le_iff vs _).mp le_rfl with hstart | ⟨v, hv, hrank⟩
  · exact .inl hstart
  · obtain ⟨w, hw, hbelow⟩ := h v hv
    exact .inr ⟨w, hw, le_trans hbelow hrank⟩

/-- An older finding falls into a later bucket. -/
theorem agePercent_mono {buckets : List AgeBucket} (h : SoundBuckets buckets) {d e : Nat}
    (hde : d ≤ e) : agePercent buckets d ≤ agePercent buckets e := by
  rw [agePercent_eq, agePercent_eq]
  refine lastAccepted_mono le_rfl (fun _ _ => Nat.zero_le _)
    (h.rising.imp fun hrises => hrises.2) fun bucket _ hreached => ?_
  have hdays := of_decide_eq_true hreached
  exact decide_eq_true (le_trans hdays hde)

theorem readFactor_percent_mono {definition : PriorityPolicyDefinition}
    (h : SoundNormalization definition.normalization) {f g : PriorityFactInput}
    (hfg : FactsBelow f g) (factorId : FactorId) :
    (readFactor definition f factorId).normalizedPercent ≤
      (readFactor definition g factorId).normalizedPercent := by
  cases factorId with
  | sourceSeverity =>
      exact reading_percent_mono (fun _ _ hle =>
        h.sourceSeverity.antitone _ _ (highestSeverity_mono hle)) hfg.sourceSeverity
  | kevListed =>
      exact reading_percent_mono (fun v w => h.kevListed.antitone w v) hfg.kevListed
  | environmentSensitivity =>
      exact reading_percent_mono (fun v w => h.environmentSensitivity.antitone w v)
        hfg.environmentSensitivity
  | internetExposure =>
      exact reading_percent_mono (fun v w => h.internetExposure.antitone w v)
        hfg.internetExposure
  | businessCriticality =>
      exact reading_percent_mono (fun v w => h.businessCriticality.antitone w v)
        hfg.businessCriticality
  | assetDataClassification =>
      exact reading_percent_mono (fun v w => h.assetDataClassification.antitone w v)
        hfg.assetDataClassification
  | directDependency =>
      exact reading_percent_mono (fun v w => h.directDependency.antitone w v)
        hfg.directDependency
  | fixAvailable =>
      exact reading_percent_mono (fun v w => h.fixAvailable.antitone w v) hfg.fixAvailable
  | findingAgeDays =>
      exact reading_percent_mono (fun _ _ => agePercent_mono h.findingAgeDays)
        hfg.findingAgeDays
  | advisoryWithdrawn =>
      exact reading_percent_mono (fun _ _ _ => le_rfl) hfg.advisoryWithdrawn

/-! ## The outcome -/

theorem weightedScoreCenti_mono {definition : PriorityPolicyDefinition}
    (h : SoundNormalization definition.normalization) {f g : PriorityFactInput}
    (hfg : FactsBelow f g) :
    (computeOutcome definition f).weightedScoreCenti ≤
      (computeOutcome definition g).weightedScoreCenti := by
  rw [computeOutcome_weightedScoreCenti, computeOutcome_weightedScoreCenti,
    computeOutcome_contributions, computeOutcome_contributions]
  refine List.sum_le_sum fun factorId _ => ?_
  exact Nat.mul_le_mul_left _ (readFactor_percent_mono h hfg factorId)

/-- The listed tokens come first in the catalog. -/
theorem isKevListedToken_mono {v w : KevObservedToken} (h : TokenBelow v w)
    (hv : isKevListedToken v = true) : isKevListedToken w = true := by
  revert h hv
  unfold TokenBelow
  cases v <;> cases w <;> decide

theorem isListed_mono {f g : PriorityFactInput} (hfg : f.kevListed.Below TokenBelow g.kevListed)
    (hf : isListed f = true) : isListed g = true := by
  unfold isListed at hf ⊢
  cases hkf : f.kevListed with
  | observed v =>
      rw [hkf] at hf hfg
      cases hkg : g.kevListed with
      | observed w =>
          rw [hkg] at hfg
          exact isKevListedToken_mono hfg hf
      | unknown _ =>
          rw [hkg] at hfg
          exact hfg.elim
      | unavailable _ =>
          rw [hkg] at hfg
          exact hfg.elim
  | unknown _ =>
      rw [hkf] at hf
      cases hf
  | unavailable _ =>
      rw [hkf] at hf
      cases hf

/-- The floor of a listed vulnerability keeps the total monotone. -/
theorem totalCenti_mono {definition : PriorityPolicyDefinition}
    (h : SoundNormalization definition.normalization) {f g : PriorityFactInput}
    (hfg : FactsBelow f g) :
    (computeOutcome definition f).weightedScoreCenti +
        (computeOutcome definition f).upliftCenti ≤
      (computeOutcome definition g).weightedScoreCenti +
        (computeOutcome definition g).upliftCenti := by
  have hscore := weightedScoreCenti_mono h hfg
  rw [weightedScoreCenti_add_upliftCenti, weightedScoreCenti_add_upliftCenti]
  cases hf : isListed f with
  | true =>
      rw [isListed_mono hfg.kevListed hf, if_pos rfl, if_pos rfl]
      exact max_le_max_right _ hscore
  | false =>
      rw [if_neg Bool.false_ne_true]
      cases isListed g with
      | true =>
          rw [if_pos rfl]
          exact le_trans hscore (le_max_left _ _)
      | false =>
          rw [if_neg Bool.false_ne_true]
          exact hscore

theorem priority_mono {definition : PriorityPolicyDefinition}
    (h : SoundNormalization definition.normalization) {f g : PriorityFactInput}
    (hfg : FactsBelow f g) :
    (computeOutcome definition f).priority ≤ (computeOutcome definition g).priority := by
  have htotal := totalCenti_mono h hfg
  rw [computeOutcome_priority, computeOutcome_priority]
  omega

/-! ## The band and the escalation -/

/-- The first band is at least as urgent as the second: it comes no later in the
catalog and is due no later. -/
def UrgentAs (a b : PolicyBand) : Prop :=
  rank a.band ≤ rank b.band ∧ a.dueDateRecommendationDays ≤ b.dueDateRecommendationDays

theorem bands_urgent {bands : List PolicyBand} (h : SoundBands bands) :
    bands.Pairwise UrgentAs := by
  have hranks : (bands.map (·.band)).Pairwise fun a b => rank a ≤ rank b := by
    rw [h.names]
    decide
  exact (List.pairwise_map.mp hranks).and (h.falling.imp fun hfalls => hfalls.2)

/-- A higher priority reaches a band at least as urgent. -/
theorem bandOf_mono {bands : List PolicyBand} (h : SoundBands bands) {p q : Nat}
    (hpq : p ≤ q) {a b : PolicyBand} (ha : bandOf bands p = some a)
    (hb : bandOf bands q = some b) : UrgentAs b a := by
  have hpermissive : ∀ band ∈ bands, decide (p ≥ band.minPriority) = true →
      decide (q ≥ band.minPriority) = true := by
    intro band _ hreached
    exact decide_eq_true (le_trans (of_decide_eq_true hreached) hpq)
  obtain ⟨c, hc, hurgent⟩ :=
    find?_of_imp (fun _ => ⟨le_rfl, le_rfl⟩) (bands_urgent h) hpermissive ha
  obtain rfl : c = b := Option.some.inj (hc.symm.trans hb)
  exact hurgent

/-- Above the highest token there is only that token. -/
theorem Fact.Below.eq_observed {α υ ρ : Type} [CatalogToken α] [DecidableEq α]
    {f g : Fact α υ ρ} (hfg : f.Below TokenBelow g) {top : α} (htop : rank top = 0)
    (hf : f = .observed top) : g = .observed top := by
  subst hf
  cases g with
  | observed w =>
      have hrank : rank w = rank top := by
        have hle : rank w ≤ rank top := hfg
        omega
      rw [rank_injective hrank]
  | unknown _ => exact hfg.elim
  | unavailable _ => exact hfg.elim

theorem escalationReasons_nonempty (facts : PriorityFactInput) :
    0 < (escalationReasons facts).length ↔ isListed facts = true ∧
      (facts.environmentSensitivity = .observed .production ∨
        facts.internetExposure = .observed .internetFacing) := by
  unfold escalationReasons
  cases isListed facts with
  | false => simp
  | true =>
      by_cases hproduction : facts.environmentSensitivity = .observed .production
      · simp [hproduction]
      · by_cases hfacing : facts.internetExposure = .observed .internetFacing
        · simp [hproduction, hfacing]
        · simp [hproduction, hfacing]

theorem escalationReasons_mono {f g : PriorityFactInput} (hfg : FactsBelow f g)
    (hf : 0 < (escalationReasons f).length) : 0 < (escalationReasons g).length := by
  rw [escalationReasons_nonempty] at hf ⊢
  obtain ⟨hlisted, hcontext⟩ := hf
  refine ⟨isListed_mono hfg.kevListed hlisted, hcontext.imp ?_ ?_⟩
  · exact hfg.environmentSensitivity.eq_observed (by decide)
  · exact hfg.internetExposure.eq_observed (by decide)

/-! ## The evaluation -/

/-- The second evaluation is at least as urgent as the first in every respect. -/
structure AtLeastAsUrgent (low high : PriorityEvaluation) : Prop where
  priority : low.priority ≤ high.priority
  priorityBand : rank high.priorityBand ≤ rank low.priorityBand
  dueDate : high.dueDateRecommendationDays ≤ low.dueDateRecommendationDays
  escalation : low.escalation.recommended = true → high.escalation.recommended = true

/-- More evidence never lowers the priority, the band, the urgency of the due date or
the escalation. -/
theorem evaluatePriority_mono (definition : ValidatedPriorityPolicyDefinition)
    (f g : ParsedPriorityFactInput) (hfg : FactsBelow f.val g.val) :
    ∃ low high, evaluatePriority definition f = .ok low ∧
      evaluatePriority definition g = .ok high ∧ AtLeastAsUrgent low high := by
  obtain ⟨a, ha, hlow⟩ := evaluatePriority_ok definition f
  obtain ⟨b, hb, hhigh⟩ := evaluatePriority_ok definition g
  have hpriority := priority_mono definition.sound.normalization hfg
  have hurgent := bandOf_mono definition.sound.bands hpriority ha hb
  refine ⟨_, _, hlow, hhigh, hpriority, hurgent.1, hurgent.2, ?_⟩
  intro hrecommended
  exact decide_eq_true (escalationReasons_mono hfg (of_decide_eq_true hrecommended))

/-- An internal finding that is not listed. -/
def notListedInTest : PriorityFactInput :=
  { unavailableFacts with
    sourceSeverity := .observed [.medium]
    kevListed := .observed .notListedCatalogCurrent
    environmentSensitivity := .observed .nonProduction
    internetExposure := .unknown .unknown
    findingAgeDays := .observed 29 }

/-- A listed finding in production, one day older. -/
def listedInProduction : PriorityFactInput :=
  { unavailableFacts with
    sourceSeverity := .observed [.low, .high]
    kevListed := .observed .listedCatalogStale
    environmentSensitivity := .observed .production
    findingAgeDays := .observed 30 }

theorem notListedInTest_bounded : BoundedFacts notListedInTest := by
  refine ⟨?_, ?_⟩
  · rintro values ⟨⟩
    decide
  · rintro days ⟨⟩
    decide

theorem listedInProduction_bounded : BoundedFacts listedInProduction := by
  refine ⟨?_, ?_⟩
  · rintro values ⟨⟩
    decide
  · rintro days ⟨⟩
    decide

/-- The built-in definition and two inputs whose facts differ in five factors. -/
theorem evaluatePriority_mono_sample :
    FactsBelow notListedInTest listedInProduction ∧
      ∃ low high, evaluatePriority builtinPriorityPolicyDefinition
          (notListedInTest.parsed notListedInTest_bounded) = .ok low ∧
        evaluatePriority builtinPriorityPolicyDefinition
          (listedInProduction.parsed listedInProduction_bounded) = .ok high ∧
        AtLeastAsUrgent low high := by
  have hseverity : SeveritiesBelow [.medium] [.low, .high] := by
    intro v hv
    obtain rfl := List.mem_singleton.mp hv
    exact ⟨.high, by decide, by unfold TokenBelow; decide⟩
  have hkev : TokenBelow KevObservedToken.notListedCatalogCurrent .listedCatalogStale := by
    unfold TokenBelow
    decide
  have henvironment : TokenBelow EnvironmentSensitivityToken.nonProduction .production := by
    unfold TokenBelow
    decide
  have hage : 29 ≤ 30 := by decide
  have hbelow : FactsBelow notListedInTest listedInProduction :=
    ⟨hseverity, hkev, henvironment, trivial, trivial, trivial, trivial, trivial, hage, trivial⟩
  exact ⟨hbelow, evaluatePriority_mono builtinPriorityPolicyDefinition
    (notListedInTest.parsed notListedInTest_bounded)
    (listedInProduction.parsed listedInProduction_bounded) hbelow⟩

end PatchPilot.Policy
