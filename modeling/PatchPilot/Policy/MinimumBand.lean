import PatchPilot.Policy.Accounting
import PatchPilot.Policy.Definition
import PatchPilot.Policy.FactDocument

set_option autoImplicit false

/-!
# Policy: the minimum band of a listed vulnerability (`evaluate.ts`)

A listed vulnerability is lifted to the threshold of the definition's minimum band.  The
uplift is computed in hundredths and the sum is rounded, but a threshold is a whole
priority, so the lift commutes with the rounding: the priority is the larger of the
rounded score and the threshold.

The rule row says that the priority was raised when the uplift is positive, and that is
decided before the rounding.  A score within half a point below the threshold is rounded
up to it in any case, and there the row claims a raise that did not happen.
-/

namespace PatchPilot.Policy

open PatchPilot.Foundation

/-! ## Rounding -/

/-- `Math.floor((centi + 50) / 100)`. -/
def roundedPriority (centi : Nat) : Nat := (centi + 50) / 100

theorem roundedPriority_max (centi threshold : Nat) :
    roundedPriority (max centi (threshold * 100)) = max (roundedPriority centi) threshold := by
  unfold roundedPriority
  rcases le_total centi (threshold * 100) with h | h
  · rw [max_eq_right h]
    omega
  · rw [max_eq_left h]
    omega

theorem roundedPriority_lt_iff (centi threshold : Nat) :
    roundedPriority centi < threshold ↔ centi + 50 < threshold * 100 := by
  unfold roundedPriority
  exact Nat.div_lt_iff_lt_mul (by decide)

/-! ## The minimum band -/

/-- The band is the minimum band of the definition. -/
structure IsMinimumBand (definition : PriorityPolicyDefinition) (band : PolicyBand) : Prop where
  listed : band ∈ definition.bands
  named : band.band = definition.kevMinimumBand

theorem IsMinimumBand.eq {definition : PriorityPolicyDefinition}
    (h : SoundBands definition.bands) {a b : PolicyBand} (ha : IsMinimumBand definition a)
    (hb : IsMinimumBand definition b) : a = b := by
  have hdistinct : (definition.bands.map (·.band)).Nodup := h.names ▸ tokens_nodup
  exact List.inj_on_of_nodup_map hdistinct ha.listed hb.listed (ha.named.trans hb.named.symm)

/-- A sound definition has its minimum band, and the evaluator finds its threshold. -/
theorem exists_isMinimumBand {definition : PriorityPolicyDefinition}
    (h : SoundBands definition.bands) :
    ∃ band, IsMinimumBand definition band ∧ floorCenti definition = band.minPriority * 100 := by
  have hnamed : definition.kevMinimumBand ∈ definition.bands.map (·.band) := by
    rw [h.names]
    exact CatalogToken.complete _
  obtain ⟨band, hband, hname⟩ := List.mem_map.mp hnamed
  have hminimum : IsMinimumBand definition band := ⟨hband, hname⟩
  refine ⟨band, hminimum, ?_⟩
  unfold floorCenti
  dsimp only
  rw [find?_eq_some_of_unique hband (decide_eq_true hname) fun found hfound hsame =>
    IsMinimumBand.eq h ⟨hfound, of_decide_eq_true hsame⟩ hminimum]
  rfl

/-! ## The priority of a listed vulnerability -/

theorem priority_eq_roundedPriority (definition : PriorityPolicyDefinition)
    (facts : PriorityFactInput) :
    (computeOutcome definition facts).priority =
      roundedPriority ((computeOutcome definition facts).weightedScoreCenti +
        (computeOutcome definition facts).upliftCenti) := rfl

theorem priority_of_listed {definition : PriorityPolicyDefinition} {facts : PriorityFactInput}
    {band : PolicyBand} (hlisted : isListed facts = true)
    (hfloor : floorCenti definition = band.minPriority * 100) :
    (computeOutcome definition facts).priority =
      max (roundedPriority (computeOutcome definition facts).weightedScoreCenti)
        band.minPriority := by
  rw [priority_eq_roundedPriority, weightedScoreCenti_add_upliftCenti, if_pos hlisted, hfloor]
  exact roundedPriority_max _ _

theorem upliftCenti_of_not_listed {definition : PriorityPolicyDefinition}
    {facts : PriorityFactInput} (hlisted : isListed facts = false) :
    (computeOutcome definition facts).upliftCenti = 0 := by
  unfold computeOutcome
  dsimp only
  rw [hlisted]
  rfl

/-- What the minimum band does to an evaluation. -/
structure LiftsToBand (definition : PriorityPolicyDefinition) (facts : PriorityFactInput)
    (evaluation : PriorityEvaluation) (band : PolicyBand) : Prop where
  minimum : IsMinimumBand definition band
  unique : ∀ other, IsMinimumBand definition other → other = band
  listed : isListed facts = true → evaluation.priority =
    max (roundedPriority evaluation.weightedScoreCenti) band.minPriority
  /-- What is lifted is lifted to the lowest priority of the band. -/
  lifted : roundedPriority evaluation.weightedScoreCenti < evaluation.priority →
    evaluation.priority = band.minPriority
  notListed : isListed facts = false → evaluation.upliftCenti = 0 ∧
    evaluation.priority = roundedPriority evaluation.weightedScoreCenti

/-- The priority of a listed vulnerability is the larger of its rounded score and the
threshold of the minimum band; any other priority is the rounded score. -/
theorem evaluatePriority_lifts (definition : ValidatedPriorityPolicyDefinition)
    (facts : ParsedPriorityFactInput) :
    ∃ evaluation band, evaluatePriority definition facts = .ok evaluation ∧
      LiftsToBand definition.val facts.val evaluation band := by
  obtain ⟨resolved, -, hok⟩ := evaluatePriority_ok definition facts
  obtain ⟨band, hminimum, hfloor⟩ := exists_isMinimumBand definition.sound.bands
  have hplain : isListed facts.val = false →
      (computeOutcome definition.val facts.val).priority =
        roundedPriority (computeOutcome definition.val facts.val).weightedScoreCenti := by
    intro hlisted
    rw [priority_eq_roundedPriority, upliftCenti_of_not_listed hlisted, Nat.add_zero]
  refine ⟨_, band, hok, ?_⟩
  constructor
  case minimum => exact hminimum
  case unique => exact fun other hother => hother.eq definition.sound.bands hminimum
  case listed => exact fun hlisted => priority_of_listed hlisted hfloor
  case lifted =>
    intro hraised
    change roundedPriority (computeOutcome definition.val facts.val).weightedScoreCenti <
      (computeOutcome definition.val facts.val).priority at hraised
    change (computeOutcome definition.val facts.val).priority = band.minPriority
    cases hlisted : isListed facts.val with
    | true =>
        rw [priority_of_listed hlisted hfloor] at hraised ⊢
        exact max_eq_right (le_of_lt ((lt_max_iff.mp hraised).resolve_left (lt_irrefl _)))
    | false =>
        rw [hplain hlisted] at hraised
        exact absurd hraised (lt_irrefl _)
  case notListed => exact fun hlisted => ⟨upliftCenti_of_not_listed hlisted, hplain hlisted⟩

/-! ## What the rule row says -/

/-- The row of the rule says that the priority was raised. -/
def SaysRaised (evaluation : PriorityEvaluation) : Prop :=
  ∃ rule ∈ evaluation.rules, rule.ruleId = .kevMinimumBand ∧
    rule.explanationCode = .kevMinimumBandRaised

/-- The row says so exactly when the priority is higher than the rounded score. -/
def ExplainsRaise (evaluation : PriorityEvaluation) : Prop :=
  SaysRaised evaluation ↔ roundedPriority evaluation.weightedScoreCenti < evaluation.priority

/-- The facts of a definition, weighted and added up. -/
def statedScoreCenti (definition : PriorityPolicyDefinition) (facts : PriorityFactInput) : Nat :=
  (factorIds.map fun factorId =>
    definition.weights factorId * (readFactor definition facts factorId).normalizedPercent).sum

theorem weightedScoreCenti_eq_statedScoreCenti (definition : PriorityPolicyDefinition)
    (facts : PriorityFactInput) :
    (computeOutcome definition facts).weightedScoreCenti = statedScoreCenti definition facts := by
  rw [computeOutcome_weightedScoreCenti, computeOutcome_contributions]
  rfl

/-- The row of a listed vulnerability says `raised` when the score is below the threshold. -/
theorem saysRaised_iff {definition : PriorityPolicyDefinition} {facts : PriorityFactInput}
    (hlisted : isListed facts = true) (band : PolicyBand) :
    SaysRaised (evaluationOf definition facts (computeOutcome definition facts) band) ↔
      (computeOutcome definition facts).weightedScoreCenti < floorCenti definition := by
  have huplift : (computeOutcome definition facts).upliftCenti =
      floorCenti definition - (computeOutcome definition facts).weightedScoreCenti :=
    if_pos hlisted
  have hkev : (computeOutcome definition facts).kevListed = true := hlisted
  have hrow : minimumBandRule (computeOutcome definition facts) =
      ⟨.kevMinimumBand, true, (computeOutcome definition facts).upliftCenti,
        if (computeOutcome definition facts).upliftCenti > 0 then .kevMinimumBandRaised
        else .kevMinimumBandAlreadyMet⟩ := by
    unfold minimumBandRule
    rw [hkev, if_neg Bool.true_eq_false.mp]
  constructor
  · rintro ⟨rule, hrule, hname, hcode⟩
    rcases List.mem_cons.mp hrule with rfl | hrule
    · rw [hrow] at hcode
      dsimp only at hcode
      split at hcode
      · rename_i hpositive
        omega
      · cases hcode
    · rw [List.mem_singleton.mp hrule] at hname
      cases hname
  · intro hbelow
    refine ⟨_, List.mem_cons_self, ?_, ?_⟩
    · rw [hrow]
    · rw [hrow]
      exact if_pos (by omega)

/-- The row of a listed vulnerability is right exactly when the score is not within half a
point below the threshold of the minimum band. -/
theorem evaluatePriority_explainsRaise_iff (definition : ValidatedPriorityPolicyDefinition)
    (facts : ParsedPriorityFactInput) (hlisted : isListed facts.val = true) :
    (∃ evaluation, evaluatePriority definition facts = .ok evaluation ∧
        ExplainsRaise evaluation) ↔
      ∀ band, IsMinimumBand definition.val band →
        statedScoreCenti definition.val facts.val + 50 < band.minPriority * 100 ∨
          band.minPriority * 100 ≤ statedScoreCenti definition.val facts.val := by
  obtain ⟨resolved, -, hok⟩ := evaluatePriority_ok definition facts
  obtain ⟨band, hminimum, hfloor⟩ := exists_isMinimumBand definition.sound.bands
  rw [← weightedScoreCenti_eq_statedScoreCenti]
  have hexplains : ExplainsRaise (evaluationOf definition.val facts.val
        (computeOutcome definition.val facts.val) resolved) ↔
      ((computeOutcome definition.val facts.val).weightedScoreCenti < band.minPriority * 100 ↔
        (computeOutcome definition.val facts.val).weightedScoreCenti + 50 <
          band.minPriority * 100) := by
    unfold ExplainsRaise
    rw [saysRaised_iff hlisted, hfloor, ← roundedPriority_lt_iff]
    refine iff_congr Iff.rfl ?_
    change _ < (computeOutcome definition.val facts.val).priority ↔ _
    rw [priority_of_listed hlisted hfloor, lt_max_iff]
    exact or_iff_right (lt_irrefl _)
  constructor
  · rintro ⟨evaluation, heval, hright⟩ other hother
    rw [hok] at heval
    cases heval
    rw [hother.eq definition.sound.bands hminimum]
    have hiff := hexplains.mp hright
    omega
  · intro hcondition
    refine ⟨_, hok, hexplains.mpr ?_⟩
    have hoff := hcondition band hminimum
    omega

/-! ## Half a point below the threshold -/

/-- The built-in document with a point of the fix moved to the criticality. -/
def reweightedPolicyDocument : JsValue :=
  match builtinPolicyDocument with
  | .object header properties =>
      .object header (properties.map fun property =>
        if property.1 = js "weights" then
          (property.1, .data true (numberRecord [
            ("source_severity", 40), ("kev_listed", 20), ("environment_sensitivity", 10),
            ("internet_exposure", 10), ("business_criticality", 7),
            ("asset_data_classification", 5), ("direct_dependency", 3), ("fix_available", 3),
            ("finding_age_days", 2), ("advisory_withdrawn", 0)]))
        else property)
  | document => document

/-- A listed finding whose score is 5950 hundredths under that definition. -/
def listedAtHalfPoint : PriorityFactInput :=
  { unavailableFacts with
    sourceSeverity := .observed [.high]
    kevListed := .observed .listedCatalogCurrent
    businessCriticality := .observed .high
    assetDataClassification := .observed .confidential
    directDependency := .observed .direct }

/-- The same finding without a stated criticality. -/
def listedWithoutCriticality : PriorityFactInput :=
  { listedAtHalfPoint with businessCriticality := .unavailable () }

theorem listedAtHalfPoint_bounded : BoundedFacts listedAtHalfPoint := by
  refine ⟨?_, nofun⟩
  rintro values ⟨⟩
  decide

theorem listedWithoutCriticality_bounded : BoundedFacts listedWithoutCriticality :=
  ⟨listedAtHalfPoint_bounded.severityValues, nofun⟩

theorem reweightedPolicyDocument_accepted :
    ((validatePolicyDefinition reweightedPolicyDocument).map fun definition =>
      (floorCenti definition, statedScoreCenti definition listedAtHalfPoint,
        statedScoreCenti definition listedWithoutCriticality)).toOption =
      some (6000, 5950, 5600) := by
  decide +kernel

/-- The definition of that document, with the threshold and the two scores. -/
theorem exists_reweightedPolicyDefinition :
    ∃ definition : ValidatedPriorityPolicyDefinition,
      validatePolicyDefinition reweightedPolicyDocument = .ok definition.val ∧
        floorCenti definition.val = 6000 ∧
          statedScoreCenti definition.val listedAtHalfPoint = 5950 ∧
            statedScoreCenti definition.val listedWithoutCriticality = 5600 := by
  have haccepted := reweightedPolicyDocument_accepted
  cases hvalid : validatePolicyDefinition reweightedPolicyDocument with
  | error issues =>
      rw [hvalid] at haccepted
      cases haccepted
  | ok definition =>
      rw [hvalid] at haccepted
      obtain ⟨hfloor, hscores⟩ := Prod.mk.inj (Option.some.inj haccepted)
      obtain ⟨hscore, hscore'⟩ := Prod.mk.inj hscores
      exact ⟨⟨definition, _, hvalid⟩, rfl, hfloor, hscore, hscore'⟩

/-- The rounded score is 60 and so is the priority, yet the row says that it was raised. -/
theorem evaluatePriority_not_explainsRaise :
    ∃ definition : ValidatedPriorityPolicyDefinition,
      validatePolicyDefinition reweightedPolicyDocument = .ok definition.val ∧
        isListed listedAtHalfPoint = true ∧
          ∃ evaluation, evaluatePriority definition
              (listedAtHalfPoint.parsed listedAtHalfPoint_bounded) = .ok evaluation ∧
            SaysRaised evaluation ∧ evaluation.priority = 60 ∧
              roundedPriority evaluation.weightedScoreCenti = 60 ∧
                ¬ ExplainsRaise evaluation := by
  obtain ⟨definition, hvalid, hfloor, hscore, -⟩ := exists_reweightedPolicyDefinition
  obtain ⟨resolved, -, hok⟩ := evaluatePriority_ok definition
    (listedAtHalfPoint.parsed listedAtHalfPoint_bounded)
  rw [← weightedScoreCenti_eq_statedScoreCenti] at hscore
  have hpriority : (computeOutcome definition.val listedAtHalfPoint).priority = 60 := by
    rw [@priority_of_listed _ _ ⟨.p2, 60, 0⟩ rfl hfloor, hscore]
    rfl
  have hsays : SaysRaised (evaluationOf definition.val listedAtHalfPoint
      (computeOutcome definition.val listedAtHalfPoint) resolved) := by
    rw [saysRaised_iff rfl, hscore, hfloor]
    decide
  have hrounded : roundedPriority (computeOutcome definition.val
      listedAtHalfPoint).weightedScoreCenti = 60 := by
    rw [hscore]
    rfl
  refine ⟨definition, hvalid, rfl, _, hok, hsays, hpriority, hrounded, fun hexplains => ?_⟩
  have hhigher := hexplains.mp hsays
  change roundedPriority (computeOutcome definition.val listedAtHalfPoint).weightedScoreCenti <
    (computeOutcome definition.val listedAtHalfPoint).priority at hhigher
  rw [hpriority, hrounded] at hhigher
  exact absurd hhigher (lt_irrefl _)

/-- Without a stated criticality the score is four points below the threshold, and the row
is right. -/
theorem evaluatePriority_explainsRaise_iff_sample :
    ∃ definition : ValidatedPriorityPolicyDefinition,
      validatePolicyDefinition reweightedPolicyDocument = .ok definition.val ∧
        isListed listedWithoutCriticality = true ∧
          ∃ evaluation, evaluatePriority definition
              (listedWithoutCriticality.parsed listedWithoutCriticality_bounded) =
                .ok evaluation ∧ ExplainsRaise evaluation := by
  obtain ⟨definition, hvalid, hfloor, -, hscore⟩ := exists_reweightedPolicyDefinition
  refine ⟨definition, hvalid, rfl, (evaluatePriority_explainsRaise_iff definition
    (listedWithoutCriticality.parsed listedWithoutCriticality_bounded) rfl).mpr ?_⟩
  intro band hband
  obtain ⟨found, hfound, hthreshold⟩ := exists_isMinimumBand definition.sound.bands
  rw [hband.eq definition.sound.bands hfound, ← hthreshold, hfloor]
  change statedScoreCenti definition.val listedWithoutCriticality + 50 < 6000 ∨ _
  rw [hscore]
  exact .inl (by decide)

end PatchPilot.Policy
