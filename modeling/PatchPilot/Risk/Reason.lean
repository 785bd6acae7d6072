import PatchPilot.Policy.Accounting
import PatchPilot.Risk.Calculation

set_option autoImplicit false

/-!
# Risk: what a recalculation is attributed to

The reason of a recalculation is found by comparing the new facts with the rows that
the evaluation of the old facts left behind.  A row keeps the token of an observed
fact and the reason of an unavailable one, but nothing of an unknown one.  The
comparison of the asset's facts allows for that, the comparison of the KEV fact does
not: against an unknown KEV fact every recalculation is an intelligence refresh.
-/

namespace PatchPilot.Risk

open PatchPilot.Foundation
open PatchPilot.Policy

/-! ## The rows of an evaluation -/

/-- The reading that a row was written from. -/
def rowReading (row : PriorityFactorRow) : FactorReading :=
  ⟨row.inputState, row.observedValue, row.normalizedPercent, row.explanationCode⟩

/-- An evaluation has exactly one row for each factor, written from its reading. -/
theorem factorById_evaluationOf (definition : PriorityPolicyDefinition)
    (facts : PriorityFactInput) (band : PolicyBand) (factorId : FactorId) :
    ∃ row, factorById
        (evaluationOf definition facts (computeOutcome definition facts) band).factors
        factorId = some row ∧
      rowReading row = readFactor definition facts factorId := by
  refine ⟨factorRow definition facts (computeOutcome definition facts)
    (weightedReading definition facts factorId), ?_, rfl⟩
  cases factorId <;> rfl

/-! ## The comparison of one fact -/

theorem tokenValue_injective {α : Type} [CatalogToken α] :
    Function.Injective (tokenValue (α := α)) :=
  fun _ _ h => text_injective (ObservedValue.text.inj h)

theorem kevUnavailableReason_code (reason : KevUnavailableReason) :
    kevUnavailableReason (kevUnavailableCode reason) = some reason := by
  cases reason <;> rfl

/-- A fact is recognised in its own row, unless it is an unknown KEV fact. -/
theorem kevFactDiffers_eq {row : PriorityFactorRow} {f g : KevListedFact}
    {percent : KevObservedToken → Nat}
    (hrow : rowReading row = f.reading tokenValue percent kevObservedCode kevUnknownCode
      kevUnavailableCode) :
    kevFactDiffers row g = some (decide (g ≠ f ∨ f.state = .unknown)) := by
  have hstate : row.inputState = _ := congrArg FactorReading.inputState hrow
  have hvalue : row.observedValue = _ := congrArg FactorReading.observedValue hrow
  have hcode : row.explanationCode = _ := congrArg FactorReading.explanationCode hrow
  unfold kevFactDiffers
  rw [hstate, hvalue, hcode]
  cases f with
  | observed v =>
      cases g with
      | observed w =>
          simp [Fact.reading, Fact.state, tokenValue_injective.eq_iff, eq_comm]
      | unknown w => simp [Fact.reading, Fact.state]
      | unavailable r => simp [Fact.reading, Fact.state]
  | unknown v =>
      -- the row of an unknown fact keeps nothing to compare with
      cases g with
      | observed w => simp [Fact.reading, Fact.state]
      | unknown w => simp [Fact.reading, Fact.state]
      | unavailable r => simp [Fact.reading, Fact.state]
  | unavailable r =>
      cases g with
      | observed w => simp [Fact.reading, Fact.state]
      | unknown w => simp [Fact.reading, Fact.state]
      | unavailable s =>
          simp [Fact.reading, Fact.state, kevUnavailableReason_code, eq_comm]

/-- A fact of the asset is recognised in its own row. -/
theorem contextFactDiffers_eq {ω υ : Type} [Subsingleton υ] [DecidableEq ω] [DecidableEq υ]
    {observed : ω → JsString} (hobserved : observed.Injective) {unknown : υ → JsString}
    {row : PriorityFactorRow} {f g : Fact ω υ Unit} {percent : ω → Nat}
    {observedCode : ω → FactorExplanationCode} {unknownCode : υ → FactorExplanationCode}
    {unavailableCode : Unit → FactorExplanationCode}
    (hrow : rowReading row = f.reading (fun v => .text (observed v)) percent observedCode
      unknownCode unavailableCode) :
    contextFactDiffers row (factWords observed unknown g) = decide (g ≠ f) := by
  have hstate : row.inputState = _ := congrArg FactorReading.inputState hrow
  have hvalue : row.observedValue = _ := congrArg FactorReading.observedValue hrow
  unfold contextFactDiffers
  rw [hstate, hvalue]
  cases f with
  | observed v =>
      cases g with
      | observed w =>
          simp [Fact.reading, Fact.state, factWords, hobserved.eq_iff, eq_comm]
      | unknown w => simp [Fact.reading, Fact.state, factWords]
      | unavailable r => simp [Fact.reading, Fact.state, factWords]
  | unknown v =>
      cases g with
      | observed w => simp [Fact.reading, Fact.state, factWords]
      | unknown w =>
          have hsame : w = v := Subsingleton.elim w v
          simp [Fact.reading, Fact.state, factWords, hsame]
      | unavailable r => simp [Fact.reading, Fact.state, factWords]
  | unavailable r =>
      cases g with
      | observed w => simp [Fact.reading, Fact.state, factWords]
      | unknown w => simp [Fact.reading, Fact.state, factWords]
      | unavailable s => simp [Fact.reading, Fact.state, factWords]

/-! ## The comparison of the asset's facts -/

/-- The two inputs agree in a fact of the asset. -/
def SameContextFact (f g : PriorityFactInput) : AssetContextFactorId → Prop
  | .environmentSensitivity => g.environmentSensitivity = f.environmentSensitivity
  | .internetExposure => g.internetExposure = f.internetExposure
  | .businessCriticality => g.businessCriticality = f.businessCriticality
  | .assetDataClassification => g.assetDataClassification = f.assetDataClassification

instance (f g : PriorityFactInput) : DecidablePred (SameContextFact f g)
  | .environmentSensitivity => inferInstanceAs (Decidable (_ = _))
  | .internetExposure => inferInstanceAs (Decidable (_ = _))
  | .businessCriticality => inferInstanceAs (Decidable (_ = _))
  | .assetDataClassification => inferInstanceAs (Decidable (_ = _))

instance : Subsingleton InternetExposureUnknownToken := ⟨fun a b => by cases a; cases b; rfl⟩

instance : Subsingleton UnspecifiedToken := ⟨fun a b => by cases a; cases b; rfl⟩

theorem contextFactDiffers_readFactor (definition : PriorityPolicyDefinition)
    {f g : PriorityFactInput} {row : PriorityFactorRow} (context : AssetContextFactorId)
    (hrow : rowReading row = readFactor definition f context.factorId) :
    contextFactDiffers row (assetContextFact g context) =
      decide (¬ SameContextFact f g context) := by
  cases context with
  | environmentSensitivity => exact contextFactDiffers_eq text_injective hrow
  | internetExposure => exact contextFactDiffers_eq text_injective hrow
  | businessCriticality => exact contextFactDiffers_eq text_injective hrow
  | assetDataClassification => exact contextFactDiffers_eq text_injective hrow

/-- The loop finds the first fact of the asset that differs. -/
theorem contextReason_eq {definition : PriorityPolicyDefinition} {f g : PriorityFactInput}
    {rows : List PriorityFactorRow}
    (hrows : ∀ factorId, ∃ row, factorById rows factorId = some row ∧
      rowReading row = readFactor definition f factorId) :
    ∀ contexts, contextReason rows g contexts =
      some (if ∀ context ∈ contexts, SameContextFact f g context then .rescan
        else .assetChange) := by
  intro contexts
  induction contexts with
  | nil => simp [contextReason]
  | cons context rest ih =>
      obtain ⟨row, hfound, hrow⟩ := hrows context.factorId
      unfold contextReason
      rw [hfound]
      dsimp only
      rw [contextFactDiffers_readFactor definition context hrow, ih]
      by_cases hsame : SameContextFact f g context
      · simp [hsame]
      · simp [hsame]

/-! ## The reason -/

/-- The stored calculation is the one the engine produced for a definition with the
given hash and facts. -/
def StoresEvaluation (hash : JsString) (definition : ValidatedPriorityPolicyDefinition)
    (facts : ParsedPriorityFactInput) (current : StoredRiskCalculation) : Prop :=
  current.policyDefinitionSha256 = hash ∧
    ∃ evaluation sources, evaluatePriority definition facts = .ok evaluation ∧
      current.factors = factorsDocument evaluation sources

/-- What the comparison computes, in terms of the facts. -/
theorem reasonAgainstCurrent_eq {hash : JsString}
    {definition : ValidatedPriorityPolicyDefinition} {f : ParsedPriorityFactInput}
    {current : StoredRiskCalculation} (hstored : StoresEvaluation hash definition f current)
    (g : PriorityFactInput) :
    reasonAgainstCurrent current hash g =
      some (if g.kevListed ≠ f.val.kevListed ∨ f.val.kevListed.state = .unknown then
          .intelRefresh
        else if ∀ context ∈ assetContextFactors, SameContextFact f.val g context then .rescan
        else .assetChange) := by
  obtain ⟨rfl, evaluation, sources, hok, hfactors⟩ := hstored
  obtain ⟨band, -, hevaluation⟩ := evaluatePriority_ok definition f
  obtain rfl := Except.ok.inj (hok.symm.trans hevaluation)
  have hrows : ∀ factorId, ∃ row, factorById current.factors.factors factorId = some row ∧
      rowReading row = readFactor definition.val f.val factorId := by
    rw [hfactors]
    exact factorById_evaluationOf definition.val f.val band
  obtain ⟨row, hfound, hrow⟩ := hrows .kevListed
  unfold reasonAgainstCurrent
  rw [if_neg (not_not.mpr rfl), hfound]
  dsimp only
  rw [kevFactDiffers_eq hrow]
  by_cases hkev : g.kevListed ≠ f.val.kevListed ∨ f.val.kevListed.state = .unknown
  · rw [decide_eq_true hkev, if_pos hkev]
  · rw [decide_eq_false hkev, if_neg hkev]
    exact contextReason_eq hrows assetContextFactors

/-- The two inputs agree in every fact that is not one of the asset. -/
def SameOutsideContext (f g : PriorityFactInput) : Prop :=
  g = { f with
    environmentSensitivity := g.environmentSensitivity
    internetExposure := g.internetExposure
    businessCriticality := g.businessCriticality
    assetDataClassification := g.assetDataClassification }

/-- The reason names the family of facts in which the new input differs. -/
structure NamesDifference (f g : PriorityFactInput) (reason : Option RiskCalculationReason) :
    Prop where
  same : g = f → reason = some .rescan
  intel : g.kevListed ≠ f.kevListed → g = { f with kevListed := g.kevListed } →
    reason = some .intelRefresh
  asset : g ≠ f → SameOutsideContext f g → reason = some .assetChange

theorem eq_of_sameContext {f g : PriorityFactInput} (houtside : SameOutsideContext f g)
    (hcontext : ∀ context ∈ assetContextFactors, SameContextFact f g context) : g = f := by
  have henvironment := hcontext .environmentSensitivity (by decide)
  have hexposure := hcontext .internetExposure (by decide)
  have hcriticality := hcontext .businessCriticality (by decide)
  have hclassification := hcontext .assetDataClassification (by decide)
  unfold SameContextFact at henvironment hexposure hcriticality hclassification
  unfold SameOutsideContext at houtside
  rw [houtside, henvironment, hexposure, hcriticality, hclassification]

/-- The reason names the difference exactly when the stored KEV fact is known or
something outside the facts of the asset differs. -/
theorem reasonAgainstCurrent_names_iff (hash : JsString)
    (definition : ValidatedPriorityPolicyDefinition) (f g : ParsedPriorityFactInput)
    (current : StoredRiskCalculation) (hstored : StoresEvaluation hash definition f current) :
    NamesDifference f.val g.val (reasonAgainstCurrent current hash g.val) ↔
      ¬ (f.val.kevListed.state = .unknown ∧ SameOutsideContext f.val g.val) := by
  rw [reasonAgainstCurrent_eq hstored]
  constructor
  · rintro hnames ⟨hunknown, houtside⟩
    have hrefresh : g.val.kevListed ≠ f.val.kevListed ∨ f.val.kevListed.state = .unknown :=
      .inr hunknown
    by_cases heq : g.val = f.val
    · have hreason := hnames.same heq
      rw [if_pos hrefresh] at hreason
      cases hreason
    · have hreason := hnames.asset heq houtside
      rw [if_pos hrefresh] at hreason
      cases hreason
  · intro hknown
    refine ⟨?_, ?_, ?_⟩
    · intro heq
      have houtside : SameOutsideContext f.val g.val := by rw [heq]; rfl
      have hkev : ¬ (g.val.kevListed ≠ f.val.kevListed ∨ f.val.kevListed.state = .unknown) := by
        rintro (hne | hunknown)
        · exact hne (by rw [heq])
        · exact hknown ⟨hunknown, houtside⟩
      have hcontext : ∀ context ∈ assetContextFactors,
          SameContextFact f.val g.val context := by
        rw [heq]
        intro context _
        cases context <;> rfl
      rw [if_neg hkev, if_pos hcontext]
    · intro hne _
      rw [if_pos (.inl hne)]
    · intro hne houtside
      have hsamekev : g.val.kevListed = f.val.kevListed := by
        have hfield := congrArg PriorityFactInput.kevListed houtside
        exact hfield
      have hkev : ¬ (g.val.kevListed ≠ f.val.kevListed ∨ f.val.kevListed.state = .unknown) := by
        rintro (hdiffers | hunknown)
        · exact hdiffers hsamekev
        · exact hknown ⟨hunknown, houtside⟩
      have hcontext : ¬ ∀ context ∈ assetContextFactors,
          SameContextFact f.val g.val context :=
        fun hsame => hne (eq_of_sameContext houtside hsame)
      rw [if_neg hkev, if_neg hcontext]

/-- Facts with a KEV fact and an exposure, of which nothing else was observed. -/
def exposedFacts (kevListed : KevListedFact) (exposure : InternetExposureToken) :
    ParsedPriorityFactInput :=
  { unavailableFacts with kevListed, internetExposure := .observed exposure }.parsed <| by
    refine ⟨?_, ?_⟩
    · rintro values ⟨⟩
    · rintro days ⟨⟩

/-- The calculation that stores an evaluation. -/
def storedEvaluation (hash : JsString) (evaluation : PriorityEvaluation) :
    StoredRiskCalculation :=
  { (default : StoredRiskCalculation) with
    policyDefinitionSha256 := hash
    factors := factorsDocument evaluation default }

theorem storedEvaluation_stores (hash : JsString)
    (definition : ValidatedPriorityPolicyDefinition) (facts : ParsedPriorityFactInput) :
    ∃ evaluation, StoresEvaluation hash definition facts (storedEvaluation hash evaluation) := by
  obtain ⟨band, -, hok⟩ := evaluatePriority_ok definition facts
  exact ⟨_, rfl, _, default, hok, rfl⟩

/-- A listed vulnerability whose asset becomes internet facing. -/
theorem reasonAgainstCurrent_names_iff_sample :
    ∃ current, StoresEvaluation admittedBuiltinSha256 builtinPriorityPolicyDefinition
        (exposedFacts (.observed .listedCatalogCurrent) .internal) current ∧
      (NamesDifference (exposedFacts (.observed .listedCatalogCurrent) .internal).val
          (exposedFacts (.observed .listedCatalogCurrent) .internetFacing).val
          (reasonAgainstCurrent current admittedBuiltinSha256
            (exposedFacts (.observed .listedCatalogCurrent) .internetFacing).val) ↔
        ¬ ((exposedFacts (.observed .listedCatalogCurrent) .internal).val.kevListed.state =
            .unknown ∧
          SameOutsideContext (exposedFacts (.observed .listedCatalogCurrent) .internal).val
            (exposedFacts (.observed .listedCatalogCurrent) .internetFacing).val)) := by
  obtain ⟨evaluation, hstored⟩ := storedEvaluation_stores admittedBuiltinSha256
    builtinPriorityPolicyDefinition
    (exposedFacts (.observed .listedCatalogCurrent) .internal)
  exact ⟨_, hstored, reasonAgainstCurrent_names_iff admittedBuiltinSha256
    builtinPriorityPolicyDefinition
    _ (exposedFacts (.observed .listedCatalogCurrent) .internetFacing) _ hstored⟩

/-- A vulnerability that a stale catalog does not list: its asset becoming internet
facing is attributed to intelligence. -/
theorem reasonAgainstCurrent_not_names :
    ∃ current, StoresEvaluation admittedBuiltinSha256 builtinPriorityPolicyDefinition
        (exposedFacts (.unknown .absentCatalogStale) .internal) current ∧
      SameOutsideContext (exposedFacts (.unknown .absentCatalogStale) .internal).val
        (exposedFacts (.unknown .absentCatalogStale) .internetFacing).val ∧
      reasonAgainstCurrent current admittedBuiltinSha256
          (exposedFacts (.unknown .absentCatalogStale) .internetFacing).val =
        some .intelRefresh ∧
      ¬ NamesDifference (exposedFacts (.unknown .absentCatalogStale) .internal).val
        (exposedFacts (.unknown .absentCatalogStale) .internetFacing).val
        (reasonAgainstCurrent current admittedBuiltinSha256
          (exposedFacts (.unknown .absentCatalogStale) .internetFacing).val) := by
  obtain ⟨evaluation, hstored⟩ := storedEvaluation_stores admittedBuiltinSha256
    builtinPriorityPolicyDefinition (exposedFacts (.unknown .absentCatalogStale) .internal)
  have hreason := reasonAgainstCurrent_eq hstored
    (exposedFacts (.unknown .absentCatalogStale) .internetFacing).val
  rw [if_pos (.inr rfl)] at hreason
  refine ⟨_, hstored, rfl, hreason, ?_⟩
  intro hnames
  have hdiffers : (exposedFacts (.unknown .absentCatalogStale) .internetFacing).val ≠
      (exposedFacts (.unknown .absentCatalogStale) .internal).val := by
    intro heq
    cases congrArg PriorityFactInput.internetExposure heq
  have hasset := hnames.asset hdiffers rfl
  rw [hreason] at hasset
  cases hasset

end PatchPilot.Risk
