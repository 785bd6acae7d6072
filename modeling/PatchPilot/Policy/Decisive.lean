import PatchPilot.Policy.Accounting
import PatchPilot.Policy.Monotone

set_option autoImplicit false

/-!
# Policy: which factors are decisive (`evaluate.ts`)

A factor is decisive when the band or the escalation would be another one without its
fact.  Without a fact its contribution is gone; the uplift goes with the listed token, and
the escalation with that token or with the context it was read in.  A factor that gave none
of these changes nothing when it is taken away.
-/

namespace PatchPilot.Policy

open PatchPilot.Foundation

/-! ## A fact that is taken away -/

/-- The fact of the factor bears on the uplift or on the escalation. -/
def BearsOnRules (facts : PriorityFactInput) : FactorId → Prop
  | .kevListed => isListed facts = true
  | .environmentSensitivity => facts.environmentSensitivity = .observed .production
  | .internetExposure => facts.internetExposure = .observed .internetFacing
  | _ => False

/-- The other factors are read as before. -/
theorem readFactor_withFactorUnavailable_of_ne (definition : PriorityPolicyDefinition)
    (facts : PriorityFactInput) {factorId other : FactorId} (h : factorId ≠ other) :
    readFactor definition (withFactorUnavailable facts factorId) other =
      readFactor definition facts other := by
  cases factorId <;> cases other <;> first | rfl | exact absurd rfl h

/-- The factor itself is read as nothing. -/
theorem readFactor_withFactorUnavailable_self (definition : PriorityPolicyDefinition)
    (facts : PriorityFactInput) (factorId : FactorId) :
    (readFactor definition (withFactorUnavailable facts factorId) factorId).normalizedPercent =
      0 := by
  cases factorId <;> rfl

/-- Taking a factor away that contributes nothing leaves all contributions alone. -/
theorem contribution_withFactorUnavailable {definition : PriorityPolicyDefinition}
    {facts : PriorityFactInput} {factorId : FactorId}
    (h : (weightedReading definition facts factorId).contributionCenti = 0) (other : FactorId) :
    definition.weights other *
        (readFactor definition (withFactorUnavailable facts factorId) other).normalizedPercent =
      definition.weights other * (readFactor definition facts other).normalizedPercent := by
  by_cases hsame : factorId = other
  · subst hsame
    rw [weightedReading_contributionCenti] at h
    rw [h, readFactor_withFactorUnavailable_self, Nat.mul_zero]
  · rw [readFactor_withFactorUnavailable_of_ne definition facts hsame]

section

variable {facts : PriorityFactInput} {factorId : FactorId}

/-- Whether the vulnerability is listed does not depend on a fact that does not say so. -/
theorem isListed_withFactorUnavailable (h : ¬BearsOnRules facts factorId) :
    isListed (withFactorUnavailable facts factorId) = isListed facts := by
  cases factorId with
  | kevListed =>
      have hlisted : isListed facts = false := Bool.not_eq_true _ ▸ h
      rw [hlisted]
      rfl
  | sourceSeverity => rfl
  | environmentSensitivity => rfl
  | internetExposure => rfl
  | businessCriticality => rfl
  | assetDataClassification => rfl
  | directDependency => rfl
  | fixAvailable => rfl
  | findingAgeDays => rfl
  | advisoryWithdrawn => rfl

theorem production_withFactorUnavailable (h : ¬BearsOnRules facts factorId) :
    (withFactorUnavailable facts factorId).environmentSensitivity = .observed .production ↔
      facts.environmentSensitivity = .observed .production := by
  cases factorId with
  | environmentSensitivity => exact iff_of_false nofun h
  | kevListed => exact Iff.rfl
  | sourceSeverity => exact Iff.rfl
  | internetExposure => exact Iff.rfl
  | businessCriticality => exact Iff.rfl
  | assetDataClassification => exact Iff.rfl
  | directDependency => exact Iff.rfl
  | fixAvailable => exact Iff.rfl
  | findingAgeDays => exact Iff.rfl
  | advisoryWithdrawn => exact Iff.rfl

theorem internetFacing_withFactorUnavailable (h : ¬BearsOnRules facts factorId) :
    (withFactorUnavailable facts factorId).internetExposure = .observed .internetFacing ↔
      facts.internetExposure = .observed .internetFacing := by
  cases factorId with
  | internetExposure => exact iff_of_false nofun h
  | kevListed => exact Iff.rfl
  | sourceSeverity => exact Iff.rfl
  | environmentSensitivity => exact Iff.rfl
  | businessCriticality => exact Iff.rfl
  | assetDataClassification => exact Iff.rfl
  | directDependency => exact Iff.rfl
  | fixAvailable => exact Iff.rfl
  | findingAgeDays => exact Iff.rfl
  | advisoryWithdrawn => exact Iff.rfl

/-- The escalation stays. -/
theorem escalation_withFactorUnavailable (h : ¬BearsOnRules facts factorId) :
    0 < (escalationReasons (withFactorUnavailable facts factorId)).length ↔
      0 < (escalationReasons facts).length := by
  rw [escalationReasons_nonempty, escalationReasons_nonempty, isListed_withFactorUnavailable h,
    production_withFactorUnavailable h, internetFacing_withFactorUnavailable h]

end

/-- The band depends on the contributions and on whether the vulnerability is listed. -/
theorem band_congr {definition : PriorityPolicyDefinition} {f g : PriorityFactInput}
    (hcontributions : ∀ factorId,
      definition.weights factorId * (readFactor definition f factorId).normalizedPercent =
        definition.weights factorId * (readFactor definition g factorId).normalizedPercent)
    (hlisted : isListed f = isListed g) :
    (computeOutcome definition f).band = (computeOutcome definition g).band := by
  have hscore : (computeOutcome definition f).weightedScoreCenti =
      (computeOutcome definition g).weightedScoreCenti := by
    rw [computeOutcome_weightedScoreCenti, computeOutcome_weightedScoreCenti,
      computeOutcome_contributions, computeOutcome_contributions]
    exact congrArg List.sum (List.map_congr_left fun factorId _ => hcontributions factorId)
  have htotal : (computeOutcome definition f).weightedScoreCenti +
        (computeOutcome definition f).upliftCenti =
      (computeOutcome definition g).weightedScoreCenti +
        (computeOutcome definition g).upliftCenti := by
    rw [weightedScoreCenti_add_upliftCenti, weightedScoreCenti_add_upliftCenti, hscore, hlisted]
  have hpriority : (computeOutcome definition f).priority =
      (computeOutcome definition g).priority := by
    rw [computeOutcome_priority, computeOutcome_priority, htotal]
  exact congrArg (bandOf definition.bands) hpriority

/-! ## The status of a factor -/

/-- A factor that contributes nothing and bears on no rule is not decisive. -/
theorem factorStatus_not_decisive {definition : PriorityPolicyDefinition}
    {facts : PriorityFactInput} {factorId : FactorId}
    (hcontribution : (weightedReading definition facts factorId).contributionCenti = 0)
    (hrules : ¬BearsOnRules facts factorId) :
    factorStatus definition facts (computeOutcome definition facts)
      (weightedReading definition facts factorId) ≠ .decisive := by
  have hband : (computeOutcome definition (withFactorUnavailable facts factorId)).band =
      (computeOutcome definition facts).band :=
    band_congr (contribution_withFactorUnavailable hcontribution)
      (isListed_withFactorUnavailable hrules)
  have hreasons :
      (0 < (computeOutcome definition (withFactorUnavailable facts factorId)).reasons.length) =
        (0 < (computeOutcome definition facts).reasons.length) :=
    propext (escalation_withFactorUnavailable hrules)
  have hfactor : (weightedReading definition facts factorId).factorId = factorId := rfl
  unfold factorStatus
  rw [hfactor]
  dsimp only
  rw [if_neg]
  · split
    · exact nofun
    · split
      · exact nofun
      · exact nofun
  · rintro ⟨-, hchanged | hchanged⟩
    · exact hchanged (congrArg _ hband)
    · refine hchanged ?_
      simp only [gt_iff_lt, hreasons]

theorem reading_percent_of_not_observed {ω υ ρ : Type} {fact : Fact ω υ ρ}
    {value : ω → ObservedValue} {percent : ω → Nat} {observedCode : ω → FactorExplanationCode}
    {unknownCode : υ → FactorExplanationCode} {unavailableCode : ρ → FactorExplanationCode}
    (h : (fact.reading value percent observedCode unknownCode unavailableCode).inputState ≠
      .observed) :
    (fact.reading value percent observedCode unknownCode unavailableCode).normalizedPercent =
      0 := by
  cases fact with
  | observed v => exact absurd rfl h
  | unknown v => rfl
  | unavailable r => rfl

section

variable {definition : PriorityPolicyDefinition} {facts : PriorityFactInput}
  {factorId : FactorId}

/-- A fact that is not observed gives no percent. -/
theorem percent_of_not_observed
    (h : (readFactor definition facts factorId).inputState ≠ .observed) :
    (readFactor definition facts factorId).normalizedPercent = 0 := by
  cases factorId with
  | sourceSeverity => exact reading_percent_of_not_observed h
  | kevListed => exact reading_percent_of_not_observed h
  | environmentSensitivity => exact reading_percent_of_not_observed h
  | internetExposure => exact reading_percent_of_not_observed h
  | businessCriticality => exact reading_percent_of_not_observed h
  | assetDataClassification => exact reading_percent_of_not_observed h
  | directDependency => exact reading_percent_of_not_observed h
  | fixAvailable => exact reading_percent_of_not_observed h
  | findingAgeDays => exact reading_percent_of_not_observed h
  | advisoryWithdrawn => exact reading_percent_of_not_observed h

/-- A fact that bears on a rule is observed. -/
theorem observed_of_bearsOnRules (h : BearsOnRules facts factorId) :
    (readFactor definition facts factorId).inputState = .observed := by
  cases factorId with
  | kevListed =>
      change isListed facts = true at h
      change (facts.kevListed.reading _ _ _ _ _).inputState = .observed
      unfold isListed at h
      split at h
      · rename_i value hvalue
        rw [hvalue]
        rfl
      · cases h
  | environmentSensitivity =>
      change facts.environmentSensitivity = .observed .production at h
      change (facts.environmentSensitivity.reading _ _ _ _ _).inputState = .observed
      rw [h]
      rfl
  | internetExposure =>
      change facts.internetExposure = .observed .internetFacing at h
      change (facts.internetExposure.reading _ _ _ _ _).inputState = .observed
      rw [h]
      rfl
  | sourceSeverity => cases h
  | businessCriticality => cases h
  | assetDataClassification => cases h
  | directDependency => cases h
  | fixAvailable => cases h
  | findingAgeDays => cases h
  | advisoryWithdrawn => cases h

/-- The withdrawal of an advisory never counts. -/
theorem withdrawn_percent :
    (readFactor definition facts .advisoryWithdrawn).normalizedPercent = 0 := by
  change (facts.advisoryWithdrawn.reading _ _ _ _ _).normalizedPercent = 0
  cases facts.advisoryWithdrawn with
  | observed value => rfl
  | unknown value => cases value
  | unavailable reason => rfl

end

/-! ## The rows of an evaluation -/

/-- What a decisive row is: its fact is observed, and it contributes or bears on a rule. -/
structure DecisiveRow (facts : PriorityFactInput) (row : PriorityFactorRow) : Prop where
  observed : row.inputState = .observed
  counts : 0 < row.contributionCenti ∨ BearsOnRules facts row.factorId
  notWithdrawn : row.factorId ≠ .advisoryWithdrawn

theorem decisiveRow_of_status {definition : PriorityPolicyDefinition} {facts : PriorityFactInput}
    {factorId : FactorId}
    (h : factorStatus definition facts (computeOutcome definition facts)
      (weightedReading definition facts factorId) = .decisive) :
    DecisiveRow facts (factorRow definition facts (computeOutcome definition facts)
      (weightedReading definition facts factorId)) := by
  have hcounts : 0 < (weightedReading definition facts factorId).contributionCenti ∨
      BearsOnRules facts factorId := by
    by_contra hnot
    obtain ⟨hcontribution, hrules⟩ := not_or.mp hnot
    exact factorStatus_not_decisive (Nat.eq_zero_of_not_pos hcontribution) hrules h
  have hpercent : (readFactor definition facts factorId).normalizedPercent = 0 →
      ¬0 < (weightedReading definition facts factorId).contributionCenti := by
    intro hzero
    rw [weightedReading_contributionCenti, hzero, Nat.mul_zero]
    exact lt_irrefl 0
  refine ⟨?_, hcounts, ?_⟩
  · by_contra hnot
    rcases hcounts with hpositive | hrules
    · exact hpercent (percent_of_not_observed hnot) hpositive
    · exact hnot (observed_of_bearsOnRules hrules)
  · intro hwithdrawn
    change factorId = .advisoryWithdrawn at hwithdrawn
    subst hwithdrawn
    rcases hcounts with hpositive | hrules
    · exact hpercent withdrawn_percent hpositive
    · exact hrules

/-- Every decisive row of an evaluation has an observed fact that contributes or bears on
the uplift or the escalation. -/
theorem evaluatePriority_decisive (definition : ValidatedPriorityPolicyDefinition)
    (facts : ParsedPriorityFactInput) :
    ∃ evaluation, evaluatePriority definition facts = .ok evaluation ∧
      evaluation.factors.map (·.factorId) = factorIds ∧
        ∀ row ∈ evaluation.factors, row.status = .decisive → DecisiveRow facts.val row := by
  obtain ⟨band, -, hok⟩ := evaluatePriority_ok definition facts
  refine ⟨_, hok, rfl, ?_⟩
  intro row hrow hdecisive
  obtain ⟨reading, hreading, rfl⟩ := List.mem_map.mp hrow
  obtain ⟨factorId, -, rfl⟩ := List.mem_map.mp hreading
  exact decisiveRow_of_status hdecisive

end PatchPilot.Policy
