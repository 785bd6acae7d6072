import PatchPilot.Risk.Decision
import PatchPilot.Risk.PriorityRead

set_option autoImplicit false

/-!
# Risk: what a read reports of a calculation that was written

The signals of a read are compared with what really changed since the calculation.
Four of the five agree.  The generation of the KEV catalog is never stored, so its
signal says whether a generation is active, not whether it changed.
-/

namespace PatchPilot.Risk

open PatchPilot.Foundation
open PatchPilot.Policy

/-! ## The signals of a comparison -/

/-- The condition under which a signal is pushed. -/
def PriorityInputChangeComparison.Fires (input : PriorityInputChangeComparison) :
    PriorityInputChangeSignal → Prop
  | .policySuperseded =>
      input.storedPolicyDefinitionSha256 ≠ input.publishedPolicyDefinitionSha256
  | .engineVersionChanged => input.storedEngineVersion ≠ input.referenceEngineVersion
  | .kevGenerationChanged => input.storedKevGenerationId ≠ input.activeKevGenerationId
  | .observedAfterCalculation =>
      ∃ observed ∈ input.lastObservedAt, ∃ calculated ∈ input.calculatedAt,
        calculated < observed
  | .assetUpdatedAfterCalculation =>
      ∃ updated ∈ input.assetUpdatedAt, ∃ calculated ∈ input.calculatedAt,
        calculated < updated

theorem mem_pushWhen {condition : Prop} [Decidable condition]
    {signal s : PriorityInputChangeSignal} :
    s ∈ pushWhen condition signal ↔ condition ∧ s = signal := by
  unfold pushWhen
  split
  · rename_i h
    rw [List.mem_singleton]
    exact ⟨fun hs => ⟨h, hs⟩, And.right⟩
  · rename_i h
    exact ⟨fun hs => absurd hs List.not_mem_nil, fun hs => absurd hs.1 h⟩

/-- `PRIORITY_INPUT_CHANGE_SIGNALS`. -/
def priorityInputChangeSignals : List PriorityInputChangeSignal :=
  [.policySuperseded, .engineVersionChanged, .kevGenerationChanged,
    .observedAfterCalculation, .assetUpdatedAfterCalculation]

theorem pushWhen_sublist {condition : Prop} [Decidable condition]
    {signal : PriorityInputChangeSignal} :
    (pushWhen condition signal).Sublist [signal] := by
  unfold pushWhen
  split
  · exact List.Sublist.refl _
  · exact List.nil_sublist _

/-- The signals come in their order, each at most once. -/
theorem pushedSignals_sublist (input : PriorityInputChangeComparison)
    (observed updated calculated : Int) :
    (pushedSignals input observed updated calculated).Sublist priorityInputChangeSignals :=
  (((pushWhen_sublist.append pushWhen_sublist).append pushWhen_sublist).append
    pushWhen_sublist).append pushWhen_sublist

/-- A report holds the signals that fire, each once. -/
theorem classify_signals {input : PriorityInputChangeComparison}
    {report : PriorityInputChangeReport}
    (h : classifyPriorityInputChanges input = some report) :
    (∀ s, s ∈ report.signals ↔ input.Fires s) ∧
      report.signals.Sublist priorityInputChangeSignals ∧
      report.status = if report.signals.length = 0 then .noneDetected else .detected := by
  unfold classifyPriorityInputChanges at h
  split at h
  · rename_i observed updated calculated hobserved hupdated hcalculated
    have hreport : report.signals = pushedSignals input observed updated calculated ∧
        report.status =
          if report.signals.length = 0 then .noneDetected else .detected := by
      dsimp only at h
      split at h
      · rename_i hempty
        cases h
        exact ⟨rfl, (if_pos hempty).symm⟩
      · rename_i hne
        cases h
        exact ⟨rfl, (if_neg hne).symm⟩
    refine ⟨?_, ?_, hreport.2⟩
    · intro s
      rw [hreport.1]
      unfold pushedSignals PriorityInputChangeComparison.Fires
      rw [hobserved, hupdated, hcalculated]
      simp only [List.mem_append, mem_pushWhen]
      cases s <;> simp
    · rw [hreport.1]
      exact pushedSignals_sublist input observed updated calculated
  · cases h

/-! ## Reports and changes -/

/-- Without a change the report is empty, and a single change is reported alone. -/
def ReportsChanges (changed : PriorityInputChangeSignal → Prop)
    (report : PriorityInputChangeReport) : Prop :=
  ((∀ s, ¬ changed s) → report = ⟨.noneDetected, []⟩) ∧
    ∀ s, (∀ t, changed t ↔ t = s) → report = ⟨.detected, [s]⟩

section

variable {input : PriorityInputChangeComparison} {report : PriorityInputChangeReport}

theorem report_of_none_fires (h : classifyPriorityInputChanges input = some report)
    (hnone : ∀ s, ¬ input.Fires s) : report = ⟨.noneDetected, []⟩ := by
  obtain ⟨hmem, -, hstatus⟩ := classify_signals h
  have hsignals : report.signals = [] :=
    List.eq_nil_iff_forall_not_mem.mpr fun s hs => hnone s ((hmem s).mp hs)
  rw [hsignals] at hstatus
  cases report
  cases hsignals
  cases hstatus
  rfl

theorem report_of_one_fires (h : classifyPriorityInputChanges input = some report)
    {s : PriorityInputChangeSignal} (hone : ∀ t, input.Fires t ↔ t = s) :
    report = ⟨.detected, [s]⟩ := by
  obtain ⟨hmem, hsublist, hstatus⟩ := classify_signals h
  have hnodup : report.signals.Nodup := hsublist.nodup (by decide)
  have hperm : report.signals.Perm [s] := by
    rw [List.perm_ext_iff_of_nodup hnodup (List.nodup_singleton s)]
    intro t
    rw [hmem, hone, List.mem_singleton]
  have hsignals := List.perm_singleton.mp hperm
  rw [hsignals] at hstatus
  cases report
  cases hsignals
  cases hstatus
  rfl

/-- A report is right about changes exactly when two of them happened, about which
nothing is said, or when the signals that fire are the changes. -/
theorem reportsChanges_iff (h : classifyPriorityInputChanges input = some report)
    (changed : PriorityInputChangeSignal → Prop) :
    ReportsChanges changed report ↔
      (∃ s t, s ≠ t ∧ changed s ∧ changed t) ∨ ∀ s, input.Fires s ↔ changed s := by
  have hmem := (classify_signals h).1
  constructor
  · rintro ⟨hnone, hone⟩
    by_cases hmany : ∃ s t, s ≠ t ∧ changed s ∧ changed t
    · exact .inl hmany
    · refine .inr ?_
      by_cases hsome : ∃ s, changed s
      · obtain ⟨s, hs⟩ := hsome
        have honly : ∀ t, changed t ↔ t = s := by
          intro t
          constructor
          · intro ht
            by_contra hne
            exact hmany ⟨t, s, hne, ht, hs⟩
          · rintro rfl
            exact hs
        intro t
        rw [← hmem, hone s honly, List.mem_singleton, honly]
      · have hempty := hnone fun s hs => hsome ⟨s, hs⟩
        intro t
        rw [← hmem, hempty]
        exact ⟨fun ht => absurd ht List.not_mem_nil, fun ht => absurd ⟨t, ht⟩ hsome⟩
  · rintro (⟨s, t, hne, hs, ht⟩ | hagree)
    · refine ⟨fun hnone => absurd hs (hnone s), ?_⟩
      intro u honly
      exact absurd (((honly s).mp hs).trans ((honly t).mp ht).symm) hne
    · refine ⟨fun hnone => report_of_none_fires h fun s hs => hnone s ((hagree s).mp hs), ?_⟩
      intro s honly
      exact report_of_one_fires h fun t => (hagree t).trans (honly t)

end

/-! ## What a calculation stores -/

/-- A source that is read from the catalog does not name a generation. -/
theorem kevCatalogSource_generation {fact : KevListedFact}
    {memberships : List ActiveKevMembership} {source : RiskCalculationKevSource}
    (h : kevCatalogSource fact memberships = some source) :
    (∃ reason, source = .unavailable reason) ∨
      ∃ version releasedAt freshness,
        source = .catalog version releasedAt freshness none none := by
  unfold kevCatalogSource at h
  split at h
  · cases h
    exact .inl ⟨_, rfl⟩
  · obtain ⟨catalogs, -, h⟩ := Option.bind_eq_some_iff.mp h
    obtain ⟨first, -, h⟩ := Option.bind_eq_some_iff.mp h
    obtain ⟨releasedAt, -, h⟩ := Option.bind_eq_some_iff.mp h
    split at h
    · obtain ⟨freshness, -, h⟩ := Option.bind_eq_some_iff.mp h
      split at h
      · cases h
        exact .inr ⟨_, _, _, rfl⟩
      · cases h
    · cases h

theorem storedKevGenerationId_of_source {factors : RiskCalculationFactors}
    {fact : KevListedFact} {memberships : List ActiveKevMembership}
    (h : kevCatalogSource fact memberships = some factors.sources.kev) :
    storedKevGenerationId factors = none := by
  unfold storedKevGenerationId
  rcases kevCatalogSource_generation h with ⟨reason, hkev⟩ | ⟨version, releasedAt, _, hkev⟩
  · rw [hkev]
  · rw [hkev]

/-- A decided command is about the finding it was asked for and stores no generation. -/
theorem decideLockedCalculation_command {dependencies : CalculateFindingRiskDependencies}
    {authorized : AuthorizedFinding} {context : LockedPriorityCalculationContext}
    {command : PersistFindingRiskCalculationCommand}
    (h : decideLockedCalculation dependencies authorized context = .ok command) :
    command.organizationId = authorized.organizationId ∧
      command.findingId = authorized.findingId ∧
      storedKevGenerationId command.factors = none := by
  obtain ⟨asOf, snapshot, facts, sources, selected, parsedFacts, fingerprint, reason,
    evaluation, correlationId, hsnapshot, hlocked, -, -, -, -, -, -, -, rfl⟩ :=
    decideLockedCalculation_eq_ok.mp h
  obtain ⟨hgraph, hasOf⟩ := readLockedSnapshot_ok hsnapshot
  obtain ⟨_, _, _, kevSource, -, -, -, hsource, -, rfl⟩ :=
    (lockedFacts_eq_some hgraph hasOf).mp hlocked
  exact ⟨rfl, rfl, storedKevGenerationId_of_source hsource⟩

/-- The row that a command inserted, found again by its id. -/
theorem row_of_inserts {reads : TransactionReads} {ledger : RiskLedger}
    {command : NormalizedPersist} {outcome : PersistRiskCalculationResult × RiskLedger}
    (h : Inserts reads ledger command outcome) {table : CalculationTable}
    (hkept : ∀ row ∈ outcome.2.calculations.rows, row ∈ table.rows)
    {row : CalculationRow} (hrow : row ∈ table.rows) (hid : row.id = reads.generatedId) :
    ∃ policyId policyVersion, row = insertedRow reads command policyId policyVersion := by
  obtain ⟨-, policyId, policyVersion, hrows⟩ := h
  refine ⟨policyId, policyVersion, ?_⟩
  have hinserted : insertedRow reads command policyId policyVersion ∈ table.rows := by
    apply hkept
    rw [hrows]
    exact List.mem_append_right _ List.mem_cons_self
  exact List.inj_on_of_nodup_map table.primaryKey hrow hinserted hid

theorem readStoredEngineVersion_current :
    readStoredEngineVersion priorityCalculationEngineVersion =
      some priorityCalculationEngineVersion := by
  decide +kernel

/-! ## Written, then read -/

/-- The inputs of a calculation that a read compares, as they are at one time. -/
structure LiveInputs where
  policyDefinitionSha256 : Option JsString
  engineVersion : JsString
  activeKevGenerationId : Option JsString
  deriving DecidableEq

/-- What changed between a calculation and a read. -/
def ChangedSince (written : LiveInputs) (calculatedAt : Int) (live : LiveInputs)
    (lastObservedAt assetUpdatedAt : Int) : PriorityInputChangeSignal → Prop
  | .policySuperseded => live.policyDefinitionSha256 ≠ written.policyDefinitionSha256
  | .engineVersionChanged => live.engineVersion ≠ written.engineVersion
  | .kevGenerationChanged => live.activeKevGenerationId ≠ written.activeKevGenerationId
  | .observedAfterCalculation => calculatedAt < lastObservedAt
  | .assetUpdatedAfterCalculation => calculatedAt < assetUpdatedAt

/-- The inputs under which a command was decided, while a generation was active. -/
def PersistFindingRiskCalculationCommand.inputs
    (command : PersistFindingRiskCalculationCommand)
    (activeKevGenerationId : Option JsString) : LiveInputs where
  policyDefinitionSha256 := some command.policyDefinitionSha256
  engineVersion := priorityCalculationEngineVersion
  activeKevGenerationId := activeKevGenerationId

section

variable {ρ : Type}

/-- The inputs at the time of a read. -/
def FindingPrioritySelection.inputs (selection : FindingPrioritySelection ρ)
    (dependencies : ReadControlledFindingPriorityDependencies) : LiveInputs where
  policyDefinitionSha256 := selection.publishedBuiltin.bind fun policy =>
    dependencies.hashPolicyDefinition policy.definition
  engineVersion := dependencies.referenceEngineVersion
  activeKevGenerationId := selection.activeKevGenerationId

/-- A view comes from the current row under the published policy. -/
theorem executeRead_calculated {dependencies : ReadControlledFindingPriorityDependencies}
    {table : CalculationTable} {selection : FindingPrioritySelection ρ}
    {organizationId findingId : JsString} {row : CalculationRow}
    (hcurrent : queryCurrentRiskCalculation table organizationId findingId = some row)
    {view : FindingPriorityCalculatedView ρ}
    (h : executeRead dependencies findingId
      (readFindingPriorityState table (some selection) organizationId findingId) =
        .calculated view) :
    ∃ reference calculation,
      (selection.inputs dependencies).policyDefinitionSha256 = some reference ∧
      readPriorityCalculation row selection = some calculation ∧
      classifyPriorityInputChanges
        (priorityInputComparison dependencies reference calculation) =
          some view.inputsChanged := by
  unfold readFindingPriorityState at h
  dsimp only at h
  rw [hcurrent] at h
  dsimp only at h
  unfold executeRead at h
  split at h
  · cases h
  · cases hcalculation : readPriorityCalculation row selection with
    | none =>
        rw [hcalculation] at h
        cases h
    | some calculation =>
        rw [hcalculation] at h
        dsimp only at h
        rw [if_neg (not_not.mpr rfl)] at h
        split at h
        · cases h
        · rename_i reference hreference
          refine ⟨reference, calculation, ?_, rfl, ?_⟩
          · obtain ⟨policy, hpolicy, hreference⟩ := Option.bind_eq_some_iff.mp hreference
            obtain ⟨hash, hhash, hreference⟩ := Option.bind_eq_some_iff.mp hreference
            split at hreference
            · cases hreference
              unfold FindingPrioritySelection.inputs
              dsimp only
              rw [hpolicy]
              exact hhash
            · cases hreference
          · unfold viewCalculation at h
            split at h
            · cases h
            · rename_i inputsChanged hclassify
              cases h
              exact hclassify

/-- What a read compares of a row that the present engine wrote. -/
theorem priorityInputComparison_of_read {row : CalculationRow}
    {selection : FindingPrioritySelection ρ} {calculation : FindingPriorityCalculationRecord}
    (h : readPriorityCalculation row selection = some calculation)
    (hengine : row.calculationEngineVersion = priorityCalculationEngineVersion)
    (hkev : storedKevGenerationId row.factors = none)
    (dependencies : ReadControlledFindingPriorityDependencies) (reference : JsString) :
    priorityInputComparison dependencies reference calculation = {
      storedPolicyDefinitionSha256 := row.policyDefinitionSha256
      publishedPolicyDefinitionSha256 := reference
      storedEngineVersion := priorityCalculationEngineVersion
      referenceEngineVersion := dependencies.referenceEngineVersion
      storedKevGenerationId := none
      activeKevGenerationId := selection.activeKevGenerationId
      lastObservedAt := some selection.lastObservedAt
      assetUpdatedAt := some selection.assetUpdatedAt
      calculatedAt := some row.calculatedAt } := by
  unfold readPriorityCalculation at h
  rw [hengine, readStoredEngineVersion_current] at h
  change (if _ then none else some _) = _ at h
  split at h
  · cases h
  · cases h
    unfold priorityInputComparison
    rw [hkev]

/-- Signals and changes agree when the generation that is active now says whether the
generation changed. -/
theorem fires_iff_changed {dependencies : ReadControlledFindingPriorityDependencies}
    {command : PersistFindingRiskCalculationCommand} {row : CalculationRow}
    {selection : FindingPrioritySelection ρ} {reference : JsString}
    {calculation : FindingPriorityCalculationRecord}
    (hcalculation : readPriorityCalculation row selection = some calculation)
    (hpolicy : row.policyDefinitionSha256 = command.policyDefinitionSha256)
    (hengine : row.calculationEngineVersion = priorityCalculationEngineVersion)
    (hkev : storedKevGenerationId row.factors = none)
    (hreference : (selection.inputs dependencies).policyDefinitionSha256 = some reference)
    (activeKevGenerationId : Option JsString) :
    (∀ s, (priorityInputComparison dependencies reference calculation).Fires s ↔
      ChangedSince (command.inputs activeKevGenerationId) row.calculatedAt
        (selection.inputs dependencies) selection.lastObservedAt selection.assetUpdatedAt s) ↔
      (selection.activeKevGenerationId ≠ none ↔
        selection.activeKevGenerationId ≠ activeKevGenerationId) := by
  rw [priorityInputComparison_of_read hcalculation hengine hkev]
  constructor
  · intro hagree
    have hgeneration := hagree .kevGenerationChanged
    exact (Iff.intro Ne.symm Ne.symm).trans hgeneration
  · intro hgeneration s
    cases s with
    | policySuperseded =>
        change row.policyDefinitionSha256 ≠ reference ↔
          (selection.inputs dependencies).policyDefinitionSha256 ≠
            some command.policyDefinitionSha256
        rw [hreference, hpolicy, ne_eq, ne_eq, Option.some.injEq, eq_comm]
    | engineVersionChanged => exact ⟨Ne.symm, Ne.symm⟩
    | kevGenerationChanged => exact (Iff.intro Ne.symm Ne.symm).trans hgeneration
    | observedAfterCalculation =>
        constructor
        · rintro ⟨_, ⟨⟩, _, ⟨⟩, hlater⟩
          exact hlater
        · intro hlater
          exact ⟨_, rfl, _, rfl, hlater⟩
    | assetUpdatedAfterCalculation =>
        constructor
        · rintro ⟨_, ⟨⟩, _, ⟨⟩, hlater⟩
          exact hlater
        · intro hlater
          exact ⟨_, rfl, _, rfl, hlater⟩

/-- A generation that is active says whether it changed when none was active before, or
when it really is another one. -/
theorem generation_agrees_iff {live written : Option JsString} :
    (live ≠ none ↔ live ≠ written) ↔ written = none ∨ (live ≠ none ∧ live ≠ written) := by
  constructor
  · intro hagree
    by_cases hlive : live = none
    · refine .inl ?_
      by_contra hwritten
      exact hagree.mpr (fun heq => hwritten (heq.symm.trans hlive)) hlive
    · exact .inr ⟨hlive, hagree.mp hlive⟩
  · rintro (rfl | ⟨hlive, hchanged⟩)
    · exact Iff.rfl
    · exact ⟨fun _ => hchanged, fun _ => hlive⟩

/-- A calculation that was written and is read as the current one, after any other
calculations: the read reports what changed exactly when two inputs changed, or when no
generation was active at the calculation, or when another generation is active now. -/
theorem executeRead_reportsChanges_iff {writer : CalculateFindingRiskDependencies}
    {authorized : AuthorizedFinding} {context : LockedPriorityCalculationContext}
    {command : PersistFindingRiskCalculationCommand}
    (hdecided : decideLockedCalculation writer authorized context = .ok command)
    {normalized : NormalizedPersist}
    (hnormalized : normalizePersistInput command = some normalized)
    {reads : TransactionReads} {ledger : RiskLedger}
    (hinserted : Inserts reads ledger normalized
      (persistRiskCalculation reads ledger normalized))
    {table : CalculationTable}
    (hkept : ∀ row ∈ (persistRiskCalculation reads ledger normalized).2.calculations.rows,
      row ∈ table.rows)
    {row : CalculationRow}
    (hcurrent : queryCurrentRiskCalculation table authorized.organizationId
      authorized.findingId = some row)
    (hrow : row.id = reads.generatedId)
    {reader : ReadControlledFindingPriorityDependencies}
    {selection : FindingPrioritySelection ρ} {view : FindingPriorityCalculatedView ρ}
    (hread : executeRead reader authorized.findingId
      (readFindingPriorityState table (some selection) authorized.organizationId
        authorized.findingId) = .calculated view)
    (activeKevGenerationId : Option JsString) :
    ReportsChanges
        (ChangedSince (command.inputs activeKevGenerationId) row.calculatedAt
          (selection.inputs reader) selection.lastObservedAt selection.assetUpdatedAt)
        view.inputsChanged ↔
      (∃ s t, s ≠ t ∧
        ChangedSince (command.inputs activeKevGenerationId) row.calculatedAt
          (selection.inputs reader) selection.lastObservedAt selection.assetUpdatedAt s ∧
        ChangedSince (command.inputs activeKevGenerationId) row.calculatedAt
          (selection.inputs reader) selection.lastObservedAt selection.assetUpdatedAt t) ∨
      activeKevGenerationId = none ∨
      (selection.activeKevGenerationId ≠ none ∧
        selection.activeKevGenerationId ≠ activeKevGenerationId) := by
  obtain ⟨-, -, hkev⟩ := decideLockedCalculation_command hdecided
  obtain ⟨calculatedAt, -, hnormalized⟩ := Option.bind_eq_some_iff.mp hnormalized
  cases hnormalized
  obtain ⟨policyId, policyVersion, rfl⟩ := row_of_inserts hinserted hkept
    (mem_ofFinding.mp (queryCurrent_mem hcurrent)).1 hrow
  obtain ⟨reference, calculation, hreference, hcalculation, hclassify⟩ :=
    executeRead_calculated hcurrent hread
  rw [reportsChanges_iff hclassify, fires_iff_changed hcalculation rfl rfl hkev hreference,
    generation_agrees_iff]

end

/-! ## A finding that is read while the catalog stays the same -/

/-- An id that repeats one digit. -/
def uuidOf (digit : Char) : JsString :=
  List.replicate 8 (unit digit) ++ [unit '-'] ++ List.replicate 4 (unit digit) ++
    [unit '-', unit '4'] ++ List.replicate 3 (unit digit) ++ [unit '-', unit '8'] ++
    List.replicate 3 (unit digit) ++ [unit '-'] ++ List.replicate 12 (unit digit)

/-- The canonical text of values with whole numbers. -/
def wholeCanonicalJson : JsValue → Option JsString :=
  canonicalJson fun value => integerText value.num

/-- SHA-256, on the text of the built-in definition and on the fingerprint text of the
calculation below. -/
def sampleSha256Hex (value : JsString) : JsString :=
  if (value.drop 1).take 7 = js "\"bands\"" then admittedBuiltinSha256
  else js "4379606e40e37ee326cf7040c3ff4b75c33575ebce1917f8596f4f22e980427a"

/-- The dependencies of the calculation, as the application sets them up. -/
def sampleWriter : CalculateFindingRiskDependencies where
  canonicalJson := wholeCanonicalJson
  sha256Hex := sampleSha256Hex
  builtinDefinition := builtinPolicyDocument
  admittedPairs := admittedPriorityPolicyPairs
  createCorrelationId := some (uuidOf '6')

/-- The dependencies of the read, with `hashPriorityPolicyDefinition`. -/
def sampleReader : ReadControlledFindingPriorityDependencies where
  admittedPairs := admittedPriorityPolicyPairs
  referenceEngineVersion := priorityCalculationEngineVersion
  hashPolicyDefinition := fun definition => (wholeCanonicalJson definition).map sampleSha256Hex

def sampleAuthorized : AuthorizedFinding where
  organizationId := uuidOf '1'
  userId := uuidOf '3'
  membershipId := uuidOf '2'
  findingId := uuidOf '4'

/-- The policy that is published. -/
def samplePolicy : StoredPriorityPolicyView :=
  ⟨uuidOf '5', builtinPriorityPolicyKey,
    builtinPriorityPolicyVersion, builtinPolicyDocument⟩

/-- A row of evidence that names one CVE. -/
def sampleEvidence (evidenceId advisoryRevisionId : Char) : FindingRiskCreationEvidence where
  evidenceId := uuidOf evidenceId
  advisoryRevisionId := uuidOf advisoryRevisionId
  componentOccurrenceId := uuidOf 'c'
  isDirect := none
  withdrawalClassification := .notWithdrawn
  bindingClassification := .oneCveAliasEvidence
  canonicalCves := [js "CVE-2025-0001"]

/-- A finding with two rows of evidence. -/
def sampleSnapshot : FindingRiskSourceSnapshot where
  finding := {
    id := sampleAuthorized.findingId
    organizationId := sampleAuthorized.organizationId
    state := .open
    version := 1
    firstObservedAt := some 1766793600000
    currentRiskCalculationId := none
    dueAt := none }
  asset := some ⟨none, .unknown, .unspecified, .unspecified⟩
  creationEvidence := [sampleEvidence 'a' 'b', sampleEvidence '8' '9']
  hasControlledCreationObservation := true

/-- The finding, whose CVE the active catalog does not list. -/
def sampleContext : LockedPriorityCalculationContext where
  asOf := some (some 1767225600000)
  graph := .found sampleSnapshot
  builtin := .found samplePolicy
  override := .notFound
  current := .notFound
  queryActiveKevMembership := fun _ =>
    .ok (.absent ⟨js "2025.12.31", some 1767139200000, .current⟩)

/-- The row of a factor that is unknown. -/
def unknownRow (factorId : FactorId) (weight : Nat)
    (explanationCode : FactorExplanationCode) : PriorityFactorRow :=
  ⟨factorId, factorOrdinal factorId, .unknown, none, 0, weight, 0, .nonContributing,
    explanationCode⟩

/-- The command that is decided. -/
def sampleCommand : PersistFindingRiskCalculationCommand where
  organizationId := sampleAuthorized.organizationId
  actorUserId := sampleAuthorized.userId
  membershipId := sampleAuthorized.membershipId
  findingId := sampleAuthorized.findingId
  riskPolicyId := samplePolicy.id
  policyDefinitionSha256 := admittedBuiltinSha256
  inputFingerprint := sampleSha256Hex []
  calculationReason := .initial
  factors := {
    factors := [
      unavailableRow .sourceSeverity 40 .severityUnavailable,
      ⟨.kevListed, factorOrdinal .kevListed, .observed,
        some (tokenValue KevObservedToken.notListedCatalogCurrent), 0, 20, 0,
        .nonContributing, .kevNotListedCatalogCurrent⟩,
      unavailableRow .environmentSensitivity 10 .environmentUnavailable,
      unknownRow .internetExposure 10 .exposureUnknown,
      unknownRow .businessCriticality 8 .criticalityUnspecified,
      unknownRow .assetDataClassification 5 .dataUnspecified,
      unavailableRow .directDependency 3 .dependencyUnavailable,
      unavailableRow .fixAvailable 2 .fixUnavailable,
      ⟨.findingAgeDays, factorOrdinal .findingAgeDays, .observed, some (.days 5), 0, 2, 0,
        .nonContributing, .ageUnder30Days⟩,
      ⟨.advisoryWithdrawn, factorOrdinal .advisoryWithdrawn, .observed,
        some (tokenValue AdvisoryWithdrawnToken.notWithdrawn), 0, 0, 0, .informational,
        .advisoryNotWithdrawn⟩]
    rules := [⟨.kevMinimumBand, false, 0, .kevMinimumBandNotTriggered⟩,
      ⟨.kevEscalation, false, 0, .kevEscalationNotTriggered⟩]
    escalationReasons := []
    evidenceSummary := ⟨3, 3, 4⟩
    weightedScoreCenti := 0
    upliftCenti := 0
    sources := {
      evidenceIds := [uuidOf 'a', uuidOf '8']
      advisoryRevisionIds := [uuidOf 'b', uuidOf '9']
      componentOccurrenceIds := [uuidOf 'c']
      kev := .catalog (js "2025.12.31") 1767139200000 .current none none } }
  result := ⟨0, .p4, 180, false⟩
  correlationId := uuidOf '6'
  calculatedAt := some 1767225600000

/-- What the transaction of the command reads. -/
def sampleReads : TransactionReads where
  memberships := [⟨sampleAuthorized.organizationId, sampleAuthorized.membershipId,
    sampleAuthorized.userId, true⟩]
  findings := [⟨sampleAuthorized.organizationId, sampleAuthorized.findingId, .open, 1, none,
    none⟩]
  policies := [⟨samplePolicy.id, none, builtinPriorityPolicyKey, builtinPriorityPolicyVersion,
    .published, priorityPolicySchemaVersion⟩]
  creationInsertEligible := fun _ _ => some true
  databaseNow := 1767225600000
  generatedId := uuidOf '7'

/-- The command as it is persisted. -/
def sampleNormalized : NormalizedPersist where
  organizationId := sampleCommand.organizationId
  actorUserId := sampleCommand.actorUserId
  membershipId := sampleCommand.membershipId
  findingId := sampleCommand.findingId
  riskPolicyId := sampleCommand.riskPolicyId
  policyDefinitionSha256 := sampleCommand.policyDefinitionSha256
  inputFingerprint := sampleCommand.inputFingerprint
  calculationReason := sampleCommand.calculationReason
  factors := sampleCommand.factors
  result := sampleCommand.result
  correlationId := sampleCommand.correlationId
  calculatedAt := sampleCommand.calculatedAt

/-- The ledger and the answer after the command. -/
def sampleOutcome : PersistRiskCalculationResult × RiskLedger :=
  persistRiskCalculation sampleReads ⟨.empty, []⟩ sampleNormalized

/-- The row of the command. -/
def sampleRow : CalculationRow :=
  insertedRow sampleReads sampleNormalized samplePolicy.id builtinPriorityPolicyVersion

/-- A generation of the catalog. -/
def sampleGeneration : JsString := uuidOf 'd'

/-- A minute later the same generation is active, and nothing else happened. -/
def sampleSelection : FindingPrioritySelection Unit where
  lastObservedAt := 1766793600000
  assetUpdatedAt := 1766793600000
  policyKey := builtinPriorityPolicyKey
  policyRowVersion := builtinPriorityPolicyVersion
  publishedBuiltin := some samplePolicy
  activeKevGenerationId := some sampleGeneration
  review := ()

/-- What the read answers. -/
def sampleRead : ReadControlledFindingPriorityResult Unit :=
  executeRead sampleReader sampleAuthorized.findingId
    (readFindingPriorityState sampleOutcome.2.calculations (some sampleSelection)
      sampleAuthorized.organizationId sampleAuthorized.findingId)

/-- The report of a view. -/
def ReadControlledFindingPriorityResult.report? {ρ : Type} :
    ReadControlledFindingPriorityResult ρ → Option PriorityInputChangeReport
  | .calculated view => some view.inputsChanged
  | _ => none

/-- What the sample computes: the command, the ledger after it and the report. -/
theorem sample_evaluated :
    (decideLockedCalculation sampleWriter sampleAuthorized sampleContext).toOption =
        some sampleCommand ∧
      sampleOutcome.2.calculations.rows = [sampleRow] ∧
      queryCurrentRiskCalculation sampleOutcome.2.calculations sampleAuthorized.organizationId
        sampleAuthorized.findingId = some sampleRow ∧
      sampleRead.report? = some ⟨.detected, [.kevGenerationChanged]⟩ := by
  refine ⟨?_, ?_, ?_, ?_⟩
  all_goals decide +kernel

theorem sampleCommand_decided :
    decideLockedCalculation sampleWriter sampleAuthorized sampleContext =
      .ok sampleCommand := by
  have heval := sample_evaluated.1
  cases h : decideLockedCalculation sampleWriter sampleAuthorized sampleContext with
  | error failure =>
      rw [h] at heval
      cases heval
  | ok command =>
      rw [h] at heval
      cases heval
      rfl

theorem sampleOutcome_rows : sampleOutcome.2.calculations.rows = [sampleRow] :=
  sample_evaluated.2.1

theorem sampleOutcome_inserts : Inserts sampleReads ⟨.empty, []⟩ sampleNormalized sampleOutcome :=
  ⟨fun _ hrow => absurd (mem_ofFinding.mp hrow).1 List.not_mem_nil, samplePolicy.id,
    builtinPriorityPolicyVersion, sampleOutcome_rows⟩

theorem sampleOutcome_current :
    queryCurrentRiskCalculation sampleOutcome.2.calculations sampleAuthorized.organizationId
      sampleAuthorized.findingId = some sampleRow :=
  sample_evaluated.2.2.1

theorem sampleRead_report :
    ∃ view, sampleRead = .calculated view ∧
      view.inputsChanged = ⟨.detected, [.kevGenerationChanged]⟩ := by
  have heval := sample_evaluated.2.2.2
  cases h : sampleRead with
  | calculated view =>
      rw [h] at heval
      exact ⟨view, rfl, Option.some.inj heval⟩
  | notFound => rw [h] at heval; cases heval
  | notCalculated findingId => rw [h] at heval; cases heval
  | priorityPolicyUnavailable => rw [h] at heval; cases heval
  | unavailable => rw [h] at heval; cases heval
  | internalFailure => rw [h] at heval; cases heval

/-- The generation before it. -/
def supersededGeneration : JsString := uuidOf 'e'

/-- The finding is calculated, written and read back under the next generation. -/
theorem executeRead_reportsChanges_iff_sample :
    ∃ view, sampleRead = .calculated view ∧
      (ReportsChanges
          (ChangedSince (sampleCommand.inputs (some supersededGeneration)) sampleRow.calculatedAt
            (sampleSelection.inputs sampleReader) sampleSelection.lastObservedAt
            sampleSelection.assetUpdatedAt) view.inputsChanged ↔
        (∃ s t, s ≠ t ∧
          ChangedSince (sampleCommand.inputs (some supersededGeneration)) sampleRow.calculatedAt
            (sampleSelection.inputs sampleReader) sampleSelection.lastObservedAt
            sampleSelection.assetUpdatedAt s ∧
          ChangedSince (sampleCommand.inputs (some supersededGeneration)) sampleRow.calculatedAt
            (sampleSelection.inputs sampleReader) sampleSelection.lastObservedAt
            sampleSelection.assetUpdatedAt t) ∨
        some supersededGeneration = none ∨
        (sampleSelection.activeKevGenerationId ≠ none ∧
          sampleSelection.activeKevGenerationId ≠ some supersededGeneration)) := by
  obtain ⟨view, hview, -⟩ := sampleRead_report
  exact ⟨view, hview, executeRead_reportsChanges_iff sampleCommand_decided rfl
    sampleOutcome_inserts (fun _ hrow => hrow) sampleOutcome_current rfl hview
    (some supersededGeneration)⟩

/-- Nothing changed, and the read reports another generation. -/
theorem executeRead_not_reportsChanges :
    ∃ view, sampleRead = .calculated view ∧
      (∀ s, ¬ ChangedSince (sampleCommand.inputs (some sampleGeneration))
        sampleRow.calculatedAt (sampleSelection.inputs sampleReader)
        sampleSelection.lastObservedAt sampleSelection.assetUpdatedAt s) ∧
      view.inputsChanged = ⟨.detected, [.kevGenerationChanged]⟩ ∧
      ¬ ReportsChanges
        (ChangedSince (sampleCommand.inputs (some sampleGeneration)) sampleRow.calculatedAt
          (sampleSelection.inputs sampleReader) sampleSelection.lastObservedAt
          sampleSelection.assetUpdatedAt) view.inputsChanged := by
  obtain ⟨view, hview, hreport⟩ := sampleRead_report
  have hsame : ∀ s, ¬ ChangedSince (sampleCommand.inputs (some sampleGeneration))
      sampleRow.calculatedAt (sampleSelection.inputs sampleReader)
      sampleSelection.lastObservedAt sampleSelection.assetUpdatedAt s := by
    intro s
    cases s with
    | policySuperseded => exact not_not.mpr (by decide +kernel)
    | engineVersionChanged => exact not_not.mpr rfl
    | kevGenerationChanged => exact not_not.mpr rfl
    | observedAfterCalculation => exact Int.not_lt.mpr (by decide +kernel)
    | assetUpdatedAfterCalculation => exact Int.not_lt.mpr (by decide +kernel)
  refine ⟨view, hview, hsame, hreport, ?_⟩
  rintro ⟨hnone, -⟩
  rw [hnone hsame] at hreport
  cases hreport

end PatchPilot.Risk
