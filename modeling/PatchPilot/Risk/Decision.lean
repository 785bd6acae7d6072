import PatchPilot.Foundation.Fallible
import PatchPilot.Policy.Accounting
import PatchPilot.Risk.Calculation

set_option autoImplicit false

/-!
# Risk: what a decision goes by

A locked calculation selects a definition and assembles facts and their sources.  Its
command is determined by these, up to the reason and the time of the calculation.
-/

namespace PatchPilot.Risk

open PatchPilot.Foundation
open PatchPilot.Policy

/-! ## The material of a decision -/

/-- The record that a lookup found. -/
def Lookup.found? {α : Type} : Lookup α → Option α
  | .found value => some value
  | .notFound => none
  | .unavailable => none

/-- The definition under which a calculation is made, its facts, and where these come
from. -/
structure CalculationMaterial where
  definition : PriorityPolicyDefinition
  facts : PriorityFactInput
  sources : RiskCalculationFactorSources

/-- The facts and the sources that a locked calculation assembles. -/
def lockedFacts (context : LockedPriorityCalculationContext) :
    Option (PriorityFactInput × RiskCalculationFactorSources) := do
  let snapshot ← context.graph.found?
  let asOf ← context.asOf
  let canonicalCves ← (selectFindingRiskCanonicalCves snapshot).toOption
  let memberships ← (canonicalCves.mapM context.queryActiveKevMembership).toOption
  let kevFact ← (mapActiveKevToListedFact canonicalCves.length memberships).toOption
  let kevSource ← kevCatalogSource kevFact memberships
  let facts ← (assemblePriorityFacts snapshot kevFact asOf).toOption
  some (facts, assembleRiskCalculationFactorSources snapshot kevSource)

/-- What a locked calculation goes by: the definition that it selects as well. -/
def lockedMaterial (dependencies : CalculateFindingRiskDependencies)
    (context : LockedPriorityCalculationContext) : Option CalculationMaterial := do
  let (facts, sources) ← lockedFacts context
  let selected ← (selectPolicy dependencies context.builtin context.override).toOption
  some ⟨selected.definition.val, facts, sources⟩

/-- The command carries the fingerprint of the material and the documents of its
evaluation. -/
structure Calculates (dependencies : CalculateFindingRiskDependencies)
    (material : CalculationMaterial) (command : PersistFindingRiskCalculationCommand) :
    Prop where
  fingerprint : fingerprintCalculation dependencies material.definition material.facts =
    some ⟨command.policyDefinitionSha256, command.inputFingerprint⟩
  documents : ∃ (definition : ValidatedPriorityPolicyDefinition)
    (facts : ParsedPriorityFactInput) (evaluation : PriorityEvaluation),
    definition.val = material.definition ∧ facts.val = material.facts ∧
      evaluatePriority definition facts = .ok evaluation ∧
      command.factors = factorsDocument evaluation material.sources ∧
      command.result = resultDocument evaluation

/-! ## The steps of a decision -/

theorem orStop_eq_ok {α : Type} {failure : CalculateFindingRiskFailure} {value : Option α}
    {a : α} (h : orStop failure value = .ok a) : value = some a := by
  cases value with
  | none => cases h
  | some b =>
      cases h
      rfl

/-- A snapshot is read when it is found, is of the finding and is eligible. -/
theorem readLockedSnapshot_eq_ok {authorized : AuthorizedFinding}
    {context : LockedPriorityCalculationContext} {asOf : JsDate}
    {snapshot : FindingRiskSourceSnapshot} :
    readLockedSnapshot authorized context = .ok (asOf, snapshot) ↔
      context.graph = .found snapshot ∧ context.asOf = some asOf ∧
        snapshot.finding.id = authorized.findingId ∧
        snapshot.finding.organizationId = authorized.organizationId ∧
        assessFindingRiskEligibility snapshot = none := by
  constructor
  · intro h
    unfold readLockedSnapshot at h
    split at h
    · cases h
    · cases h
    · cases h
    · rename_i found clock hgraph hclock
      split at h
      · cases h
      · rename_i hids
        obtain ⟨hid, horganization⟩ := not_or.mp hids
        split at h
        · cases h
        · rename_i heligible
          cases h
          exact ⟨hgraph, hclock, not_not.mp hid, not_not.mp horganization, heligible⟩
  · rintro ⟨hgraph, hasOf, hid, horganization, heligible⟩
    unfold readLockedSnapshot
    rw [hgraph, hasOf]
    dsimp only
    rw [if_neg (not_or.mpr ⟨not_not.mpr hid, not_not.mpr horganization⟩), heligible]

theorem readLockedSnapshot_ok {authorized : AuthorizedFinding}
    {context : LockedPriorityCalculationContext} {asOf : JsDate}
    {snapshot : FindingRiskSourceSnapshot}
    (h : readLockedSnapshot authorized context = .ok (asOf, snapshot)) :
    context.graph.found? = some snapshot ∧ context.asOf = some asOf := by
  obtain ⟨hgraph, hasOf, -⟩ := readLockedSnapshot_eq_ok.mp h
  rw [hgraph]
  exact ⟨rfl, hasOf⟩

/-- The steps by which the facts and the sources are assembled. -/
theorem lockedFacts_eq_some {context : LockedPriorityCalculationContext} {asOf : JsDate}
    {snapshot : FindingRiskSourceSnapshot} (hgraph : context.graph.found? = some snapshot)
    (hasOf : context.asOf = some asOf) {facts : PriorityFactInput}
    {sources : RiskCalculationFactorSources} :
    lockedFacts context = some (facts, sources) ↔
      ∃ canonicalCves memberships kevFact kevSource,
        selectFindingRiskCanonicalCves snapshot = .ok canonicalCves ∧
        canonicalCves.mapM context.queryActiveKevMembership = .ok memberships ∧
        mapActiveKevToListedFact canonicalCves.length memberships = .ok kevFact ∧
        kevCatalogSource kevFact memberships = some kevSource ∧
        assemblePriorityFacts snapshot kevFact asOf = .ok facts ∧
        assembleRiskCalculationFactorSources snapshot kevSource = sources := by
  unfold lockedFacts
  rw [hgraph, hasOf, Option.bind_eq_bind, Option.bind_some, Option.bind_eq_bind,
    Option.bind_some]
  constructor
  · intro h
    obtain ⟨canonicalCves, hcves, h⟩ := Option.bind_eq_some_iff.mp h
    obtain ⟨memberships, hmemberships, h⟩ := Option.bind_eq_some_iff.mp h
    obtain ⟨kevFact, hfact, h⟩ := Option.bind_eq_some_iff.mp h
    obtain ⟨kevSource, hsource, h⟩ := Option.bind_eq_some_iff.mp h
    obtain ⟨assembled, hfacts, h⟩ := Option.bind_eq_some_iff.mp h
    cases h
    exact ⟨canonicalCves, memberships, kevFact, kevSource, ok_of_toOption hcves,
      ok_of_toOption hmemberships, ok_of_toOption hfact, hsource, ok_of_toOption hfacts, rfl⟩
  · rintro ⟨canonicalCves, memberships, kevFact, kevSource, hcves, hmemberships, hfact,
      hsource, hfacts, rfl⟩
    exact Option.bind_eq_some_iff.mpr ⟨canonicalCves, toOption_of_ok hcves,
      Option.bind_eq_some_iff.mpr ⟨memberships, toOption_of_ok hmemberships,
      Option.bind_eq_some_iff.mpr ⟨kevFact, toOption_of_ok hfact,
      Option.bind_eq_some_iff.mpr ⟨kevSource, hsource,
      Option.bind_eq_some_iff.mpr ⟨facts, toOption_of_ok hfacts, rfl⟩⟩⟩⟩⟩

theorem parsed_val {input : JsValue} {facts : ParsedPriorityFactInput}
    (h : parsed input = some facts) : parseFactInput input = .ok facts.val := by
  unfold parsed at h
  split at h
  · rename_i value hparse
    cases h
    exact hparse
  · cases h

/-- The steps that lead to a command. -/
theorem decideLockedCalculation_eq_ok {dependencies : CalculateFindingRiskDependencies}
    {authorized : AuthorizedFinding} {context : LockedPriorityCalculationContext}
    {command : PersistFindingRiskCalculationCommand} :
    decideLockedCalculation dependencies authorized context = .ok command ↔
      ∃ asOf snapshot facts sources selected parsedFacts fingerprint reason evaluation
        correlationId,
        readLockedSnapshot authorized context = .ok (asOf, snapshot) ∧
        lockedFacts context = some (facts, sources) ∧
        selectPolicy dependencies context.builtin context.override = .ok selected ∧
        parsed facts.document = some parsedFacts ∧
        fingerprintCalculation dependencies selected.definition.val parsedFacts.val =
          some fingerprint ∧
        resolveReason context.current fingerprint.policyDefinitionSha256 facts =
          .ok reason ∧
        evaluatePriority selected.definition parsedFacts = .ok evaluation ∧
        evaluationAccepted evaluation ≠ false ∧
        dependencies.createCorrelationId = some correlationId ∧
        { organizationId := authorized.organizationId
          actorUserId := authorized.userId
          membershipId := authorized.membershipId
          findingId := authorized.findingId
          riskPolicyId := selected.riskPolicyId
          policyDefinitionSha256 := fingerprint.policyDefinitionSha256
          inputFingerprint := fingerprint.inputFingerprint
          calculationReason := reason
          factors := factorsDocument evaluation sources
          result := resultDocument evaluation
          correlationId
          calculatedAt := asOf } = command := by
  constructor
  · intro h
    unfold decideLockedCalculation at h
    obtain ⟨⟨asOf, snapshot⟩, hsnapshot, h⟩ := bind_eq_ok.mp h
    obtain ⟨canonicalCves, hcves, h⟩ := bind_eq_ok.mp h
    obtain ⟨memberships, hmemberships, h⟩ := bind_eq_ok.mp h
    obtain ⟨kevFact, hfact, h⟩ := bind_eq_ok.mp h
    obtain ⟨kevSource, hsource, h⟩ := bind_eq_ok.mp h
    obtain ⟨selected, hselected, h⟩ := bind_eq_ok.mp h
    obtain ⟨facts, hfacts, h⟩ := bind_eq_ok.mp h
    obtain ⟨parsedFacts, hparsed, h⟩ := bind_eq_ok.mp h
    obtain ⟨fingerprint, hfingerprint, h⟩ := bind_eq_ok.mp h
    obtain ⟨reason, hreason, h⟩ := bind_eq_ok.mp h
    obtain ⟨evaluation, hevaluation, h⟩ := bind_eq_ok.mp h
    split at h
    · cases h
    · rename_i haccepted
      obtain ⟨correlationId, hcorrelation, h⟩ := bind_eq_ok.mp h
      obtain ⟨hgraph, hasOf⟩ := readLockedSnapshot_ok hsnapshot
      exact ⟨asOf, snapshot, facts, _, selected, parsedFacts, fingerprint, reason, evaluation,
        correlationId, hsnapshot,
        (lockedFacts_eq_some hgraph hasOf).mpr ⟨canonicalCves, memberships, kevFact, kevSource,
          mapError_eq_ok.mp hcves, mapError_eq_ok.mp hmemberships, mapError_eq_ok.mp hfact,
          orStop_eq_ok hsource, mapError_eq_ok.mp hfacts, rfl⟩,
        hselected, orStop_eq_ok hparsed, orStop_eq_ok hfingerprint, hreason,
        mapError_eq_ok.mp hevaluation, haccepted, orStop_eq_ok hcorrelation,
        Except.ok.inj h⟩
  · rintro ⟨asOf, snapshot, facts, sources, selected, parsedFacts, fingerprint, reason,
      evaluation, correlationId, hsnapshot, hlocked, hselected, hparsed, hfingerprint, hreason,
      hevaluation, haccepted, hcorrelation, rfl⟩
    obtain ⟨hgraph, hasOf⟩ := readLockedSnapshot_ok hsnapshot
    obtain ⟨canonicalCves, memberships, kevFact, kevSource, hcves, hmemberships, hfact,
      hsource, hfacts, rfl⟩ := (lockedFacts_eq_some hgraph hasOf).mp hlocked
    unfold decideLockedCalculation
    refine bind_eq_ok.mpr ⟨(asOf, snapshot), hsnapshot, ?_⟩
    refine bind_eq_ok.mpr ⟨canonicalCves, mapError_eq_ok.mpr hcves, ?_⟩
    refine bind_eq_ok.mpr ⟨memberships, mapError_eq_ok.mpr hmemberships, ?_⟩
    refine bind_eq_ok.mpr ⟨kevFact, mapError_eq_ok.mpr hfact, ?_⟩
    refine bind_eq_ok.mpr ⟨kevSource, by rw [hsource]; rfl, ?_⟩
    refine bind_eq_ok.mpr ⟨selected, hselected, ?_⟩
    refine bind_eq_ok.mpr ⟨facts, mapError_eq_ok.mpr hfacts, ?_⟩
    refine bind_eq_ok.mpr ⟨parsedFacts, by rw [hparsed]; rfl, ?_⟩
    refine bind_eq_ok.mpr ⟨fingerprint, by rw [hfingerprint]; rfl, ?_⟩
    refine bind_eq_ok.mpr ⟨reason, hreason, ?_⟩
    refine bind_eq_ok.mpr ⟨evaluation, mapError_eq_ok.mpr hevaluation, ?_⟩
    rw [if_neg haccepted]
    exact bind_eq_ok.mpr ⟨correlationId, by rw [hcorrelation]; rfl, rfl⟩

/-- A decided command calculates the locked material. -/
theorem decideLockedCalculation_calculates {dependencies : CalculateFindingRiskDependencies}
    {authorized : AuthorizedFinding} {context : LockedPriorityCalculationContext}
    {command : PersistFindingRiskCalculationCommand}
    (h : decideLockedCalculation dependencies authorized context = .ok command) :
    ∃ material, lockedMaterial dependencies context = some material ∧
      Calculates dependencies material command := by
  obtain ⟨asOf, snapshot, facts, sources, selected, parsedFacts, fingerprint, reason,
    evaluation, correlationId, hsnapshot, hlocked, hselected, hparsed, hfingerprint, -,
    hevaluation, -, -, rfl⟩ := decideLockedCalculation_eq_ok.mp h
  obtain ⟨hgraph, hasOf⟩ := readLockedSnapshot_ok hsnapshot
  obtain ⟨_, _, _, _, -, -, -, -, hfacts, -⟩ := (lockedFacts_eq_some hgraph hasOf).mp hlocked
  -- the parsed facts are the assembled ones
  have hval : parsedFacts.val = facts :=
    Except.ok.inj ((parsed_val hparsed).symm.trans
      (parseFactInput_document (assemblePriorityFacts_bounded hfacts)))
  refine ⟨⟨selected.definition.val, facts, sources⟩, ?_, ?_⟩
  · exact Option.bind_eq_some_iff.mpr ⟨_, hlocked,
      Option.bind_eq_some_iff.mpr ⟨selected, toOption_of_ok hselected, rfl⟩⟩
  · refine ⟨?_, selected.definition, parsedFacts, evaluation, rfl, hval, hevaluation, rfl, rfl⟩
    rw [← hval]
    exact hfingerprint

/-- A decision for facts that were decided before, under the same policy records, differs
in the reason, the sources and the time only. -/
theorem decideLockedCalculation_again {dependencies : CalculateFindingRiskDependencies}
    {authorized : AuthorizedFinding} {context again : LockedPriorityCalculationContext}
    {command : PersistFindingRiskCalculationCommand}
    (h : decideLockedCalculation dependencies authorized context = .ok command)
    (hbuiltin : again.builtin = context.builtin) (hoverride : again.override = context.override)
    {facts : PriorityFactInput} {sources sources' : RiskCalculationFactorSources}
    (hfacts : lockedFacts context = some (facts, sources))
    (hfacts' : lockedFacts again = some (facts, sources')) {asOf : JsDate}
    {snapshot : FindingRiskSourceSnapshot}
    (hsnapshot : readLockedSnapshot authorized again = .ok (asOf, snapshot))
    {reason : RiskCalculationReason}
    (hreason : resolveReason again.current command.policyDefinitionSha256 facts = .ok reason) :
    decideLockedCalculation dependencies authorized again = .ok { command with
      calculationReason := reason
      factors := { command.factors with sources := sources' }
      calculatedAt := asOf } := by
  obtain ⟨firstAsOf, firstSnapshot, firstFacts, firstSources, selected, parsedFacts,
    fingerprint, firstReason, evaluation, correlationId, -, hfirst, hselected, hparsed,
    hfingerprint, -, hevaluation, haccepted, hcorrelation, rfl⟩ :=
    decideLockedCalculation_eq_ok.mp h
  -- the first decision assembled the same facts
  have hsame : firstFacts = facts :=
    congrArg Prod.fst (Option.some.inj (hfirst.symm.trans hfacts))
  rw [hsame] at hparsed
  rw [← hbuiltin, ← hoverride] at hselected
  exact decideLockedCalculation_eq_ok.mpr ⟨asOf, snapshot, facts, sources', selected,
    parsedFacts, fingerprint, reason, evaluation, correlationId, hsnapshot, hfacts', hselected,
    hparsed, hfingerprint, hreason, hevaluation, haccepted, hcorrelation, rfl⟩

/-- The evaluation is determined by the definition and the facts. -/
theorem evaluatePriority_congr {definition other : ValidatedPriorityPolicyDefinition}
    {facts otherFacts : ParsedPriorityFactInput} (hdefinition : definition.val = other.val)
    (hfacts : facts.val = otherFacts.val) :
    evaluatePriority definition facts = evaluatePriority other otherFacts := by
  unfold evaluatePriority
  rw [hdefinition, hfacts]

section

variable {dependencies other : CalculateFindingRiskDependencies}
  {material later : CalculationMaterial}
  {command repeated : PersistFindingRiskCalculationCommand}

/-- Two commands for the same facts under the same definition have the same fingerprint,
and documents that differ in the sources only. -/
theorem Calculates.agree (h : Calculates dependencies material command)
    (h' : Calculates other later repeated)
    (hcanonical : other.canonicalJson = dependencies.canonicalJson)
    (hsha256 : other.sha256Hex = dependencies.sha256Hex)
    (hdefinition : later.definition = material.definition)
    (hfacts : later.facts = material.facts) :
    repeated.policyDefinitionSha256 = command.policyDefinitionSha256 ∧
      repeated.inputFingerprint = command.inputFingerprint ∧
      repeated.result = command.result ∧
      (repeated.factors = command.factors ↔ later.sources = material.sources) := by
  have hfingerprint := h'.fingerprint
  unfold fingerprintCalculation definitionSha256 at hfingerprint
  rw [hcanonical, hsha256, hdefinition, hfacts] at hfingerprint
  have hsame := hfingerprint.symm.trans h.fingerprint
  obtain ⟨definition, facts, evaluation, hval, hfactsVal, hok, hfactors, hresult⟩ :=
    h.documents
  obtain ⟨definition', facts', evaluation', hval', hfactsVal', hok', hfactors', hresult'⟩ :=
    h'.documents
  have hcongr : evaluatePriority definition' facts' = evaluatePriority definition facts :=
    evaluatePriority_congr (by rw [hval', hval, hdefinition])
      (by rw [hfactsVal', hfactsVal, hfacts])
  obtain rfl : evaluation' = evaluation :=
    Except.ok.inj (hok'.symm.trans (hcongr.trans hok))
  have hpair := Option.some.inj hsame
  refine ⟨congrArg CalculationFingerprint.policyDefinitionSha256 hpair,
    congrArg CalculationFingerprint.inputFingerprint hpair, by rw [hresult, hresult'], ?_⟩
  rw [hfactors, hfactors']
  constructor
  · intro heq
    exact congrArg RiskCalculationFactors.sources heq
  · intro heq
    rw [heq]

end

end PatchPilot.Risk
