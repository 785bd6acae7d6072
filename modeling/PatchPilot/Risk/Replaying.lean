import PatchPilot.Foundation.Runs
import PatchPilot.Risk.Freshness

set_option autoImplicit false

/-!
# Risk: a repeated fingerprint

The fingerprint of a calculation covers the engine version, the policy definition and
the facts.  A replay compares the stored document, which also names the sources of the
facts: the evidence and the version and release time of the KEV catalog.  So a command
with the fingerprint of a stored row is a replay of it under the same sources only, and a
new release of the catalog turns the replay into a conflict.
-/

namespace PatchPilot.Risk

open PatchPilot.Foundation
open PatchPilot.Policy

/-! ## The answer to a repeated fingerprint -/

/-- The transaction comes to the calculations of the finding: the actor is an active
member, the finding is open and the policy is visible. -/
def LetThrough (reads : TransactionReads) (command : NormalizedPersist) : Prop :=
  (loadActor reads.memberships command.organizationId command.membershipId
      command.actorUserId).isSome = true ∧
    loadFindingForUpdate reads.findings command.organizationId command.findingId =
      .ok .open ∧
    ∃ policyId policyVersion, loadVisiblePolicy reads.policies command.organizationId
      command.riskPolicyId = .visible policyId policyVersion

theorem findByFingerprint_row {table : CalculationTable} {command : NormalizedPersist}
    {row : CalculationRow}
    (hrow : row ∈ table.ofFinding command.organizationId command.findingId)
    (hfingerprint : row.inputFingerprint = command.inputFingerprint) :
    findByFingerprint table command = .ok (some row) := by
  rcases findByFingerprint_spec table command with
    ⟨-, hnew⟩ | ⟨found, hfound, hsame, hfind⟩
  · exact absurd hfingerprint (hnew row hrow)
  · rw [hfind, eq_of_fingerprint hfound hrow (hsame.trans hfingerprint.symm)]

/-- A command that is let through is answered from the row with its fingerprint. -/
theorem persistInTransaction_found {reads : TransactionReads} {ledger : RiskLedger}
    {command : NormalizedPersist} {row : CalculationRow} (hthrough : LetThrough reads command)
    (hrow : row ∈ ledger.calculations.ofFinding command.organizationId command.findingId)
    (hfingerprint : row.inputFingerprint = command.inputFingerprint) :
    persistInTransaction reads ledger command = .ok (replayFromRow command row, ledger) := by
  obtain ⟨hactor, hfinding, policyId, policyVersion, hpolicy⟩ := hthrough
  obtain ⟨actor, hactor⟩ := Option.isSome_iff_exists.mp hactor
  unfold persistInTransaction
  rw [hactor, hfinding]
  refine bind_eq_ok.mpr ⟨.open, rfl, ?_⟩
  dsimp only
  rw [hpolicy, findByFingerprint_row hrow hfingerprint]
  rfl

/-- A command that is not let through is neither a replay nor a conflict. -/
theorem persistInTransaction_stopped {reads : TransactionReads} {ledger : RiskLedger}
    {command : NormalizedPersist} {outcome : PersistRiskCalculationResult × RiskLedger}
    (hstopped : ¬ LetThrough reads command)
    (h : persistInTransaction reads ledger command = .ok outcome) :
    outcome.1 ≠ .immutableConflict ∧ ∀ calculation, outcome.1 ≠ .replay calculation := by
  unfold persistInTransaction at h
  split at h
  · cases h
    exact ⟨by rintro ⟨⟩, by rintro _ ⟨⟩⟩
  · rename_i actor hactor
    obtain ⟨finding, hfinding, h⟩ := bind_eq_ok.mp h
    cases finding with
    | notFound =>
        cases h
        exact ⟨by rintro ⟨⟩, by rintro _ ⟨⟩⟩
    | ineligible =>
        cases h
        exact ⟨by rintro ⟨⟩, by rintro _ ⟨⟩⟩
    | «open» =>
        dsimp only at h
        split at h
        · cases h
          exact ⟨by rintro ⟨⟩, by rintro _ ⟨⟩⟩
        · cases h
          exact ⟨by rintro ⟨⟩, by rintro _ ⟨⟩⟩
        · rename_i policyId policyVersion hpolicy
          refine absurd ⟨?_, hfinding, policyId, policyVersion, hpolicy⟩ hstopped
          rw [hactor, Option.isSome_some]

/-- A row that reads back is replayed when the command has its hash and documents. -/
theorem replayFromRow_of_mapped {command : NormalizedPersist} {row : CalculationRow}
    {calculation : StoredRiskCalculation} (hmapped : mapCalculationRow row = some calculation)
    (hhash : row.policyDefinitionSha256 = command.policyDefinitionSha256)
    (hresult : row.result = command.result) :
    replayFromRow command row =
      if command.factors = row.factors then .replay calculation else .immutableConflict := by
  have hengine : row.calculationEngineVersion = priorityCalculationEngineVersion := by
    by_contra hother
    unfold mapCalculationRow at hmapped
    rw [if_pos (.inr hother)] at hmapped
    cases hmapped
  unfold replayFromRow
  rw [hhash, hresult, hengine, hmapped]
  by_cases hfactors : command.factors = row.factors
  · rw [if_pos hfactors, if_neg (by simp [hfactors])]
  · rw [if_neg hfactors, if_pos (.inr (.inl (Ne.symm hfactors)))]

/-! ## Runs -/

/-- A decision of the use case, with the command it hands to the persistence. -/
structure Decision where
  dependencies : CalculateFindingRiskDependencies
  authorized : AuthorizedFinding
  context : LockedPriorityCalculationContext
  command : NormalizedPersist
  decided : ∃ handed, decideLockedCalculation dependencies authorized context = .ok handed ∧
    normalizePersistInput handed = some command

/-- What a decision goes by. -/
def Decision.material (decision : Decision) : Option CalculationMaterial :=
  lockedMaterial decision.dependencies decision.context

/-- A decision with what its transaction reads. -/
structure PersistedDecision where
  reads : TransactionReads
  decision : Decision

/-- The decision is persisted. -/
def persistDecision (input : PersistedDecision) (ledger : RiskLedger) :
    PersistRiskCalculationResult × RiskLedger :=
  persistRiskCalculation input.reads ledger input.decision.command

/-- A ledger without calculations. -/
def RiskLedger.empty : RiskLedger := ⟨.empty, []⟩

/-- The row is the one that the decision inserted. -/
def CalculationRow.StoredFor (row : CalculationRow) (input : PersistedDecision) : Prop :=
  (mapCalculationRow row).isSome = true ∧
    ∃ policyId policyVersion,
      row = insertedRow input.reads input.decision.command policyId policyVersion

/-- The later decision is about the same finding, with the same hash functions, and
selects the same definition and assembles the same facts. -/
structure SameInputs (first later : Decision) : Prop where
  canonicalJson : later.dependencies.canonicalJson = first.dependencies.canonicalJson
  sha256Hex : later.dependencies.sha256Hex = first.dependencies.sha256Hex
  organizationId : later.authorized.organizationId = first.authorized.organizationId
  findingId : later.authorized.findingId = first.authorized.findingId
  definition : later.material.map (·.definition) = first.material.map (·.definition)
  facts : later.material.map (·.facts) = first.material.map (·.facts)

theorem lockedMaterial_of_facts {dependencies : CalculateFindingRiskDependencies}
    {context : LockedPriorityCalculationContext} {facts : PriorityFactInput}
    {sources : RiskCalculationFactorSources} (h : lockedFacts context = some (facts, sources)) :
    lockedMaterial dependencies context =
      (selectPolicy dependencies context.builtin context.override).toOption.map fun selected =>
        ⟨selected.definition.val, facts, sources⟩ := by
  unfold lockedMaterial
  rw [h, Option.bind_eq_bind, Option.bind_some]
  exact (Option.map_eq_bind ..).symm

/-- Decisions under the same policy records whose facts agree have the same inputs. -/
theorem sameInputs_of_facts {first later : Decision}
    (hdependencies : later.dependencies = first.dependencies)
    (hauthorized : later.authorized = first.authorized)
    (hbuiltin : later.context.builtin = first.context.builtin)
    (hoverride : later.context.override = first.context.override)
    {facts : PriorityFactInput} {sources laterSources : RiskCalculationFactorSources}
    (hfirst : lockedFacts first.context = some (facts, sources))
    (hlater : lockedFacts later.context = some (facts, laterSources)) :
    SameInputs first later where
  canonicalJson := by rw [hdependencies]
  sha256Hex := by rw [hdependencies]
  organizationId := by rw [hauthorized]
  findingId := by rw [hauthorized]
  definition := by
    unfold Decision.material
    rw [lockedMaterial_of_facts hfirst, lockedMaterial_of_facts hlater, hdependencies,
      hbuiltin, hoverride, Option.map_map, Option.map_map]
    rfl
  facts := by
    unfold Decision.material
    rw [lockedMaterial_of_facts hfirst, lockedMaterial_of_facts hlater, hdependencies,
      hbuiltin, hoverride, Option.map_map, Option.map_map]
    rfl

/-- The rows after a command are those before it and the one that it inserts. -/
theorem persistRiskCalculation_rows {reads : TransactionReads} {ledger : RiskLedger}
    {command : NormalizedPersist} {row : CalculationRow}
    (hrow : row ∈ (persistRiskCalculation reads ledger command).2.calculations.rows) :
    row ∈ ledger.calculations.rows ∨ (mapCalculationRow row).isSome = true ∧
      ∃ policyId policyVersion, row = insertedRow reads command policyId policyVersion := by
  unfold persistRiskCalculation at hrow
  split at hrow
  · rename_i outcome hcommitted
    rcases persistInTransaction_paths hcommitted with
      ⟨stored, -, -, rfl⟩ | ⟨-, policyId, policyVersion, hinsert⟩ | ⟨-, hledger⟩
    · exact .inl hrow
    · obtain ⟨hrows, calculation, -, hmapped⟩ := insertCalculation_ok hinsert
      rw [hrows] at hrow
      rcases List.mem_append.mp hrow with hold | hinserted
      · exact .inl hold
      · rw [List.mem_singleton.mp hinserted]
        exact .inr ⟨by rw [hmapped]; rfl, policyId, policyVersion, rfl⟩
    · rw [hledger] at hrow
      exact .inl hrow
  · exact .inl hrow
  · exact .inl hrow

/-- Every row that decisions left behind was inserted by one of them. -/
theorem storedFor_of_mem {inputs : List PersistedDecision} :
    ∀ {run : List PersistedDecision} {ledger : RiskLedger} {row : CalculationRow},
      run ⊆ inputs → (∀ old ∈ ledger.calculations.rows, ∃ first ∈ inputs, old.StoredFor first) →
      row ∈ (stateAfter persistDecision run ledger).calculations.rows →
        ∃ first ∈ inputs, row.StoredFor first := by
  intro run
  induction run with
  | nil =>
      intro ledger row _ hledger hrow
      exact hledger row hrow
  | cons input rest ih =>
      intro ledger row hsubset hledger hrow
      obtain ⟨hinput, hrest⟩ := List.cons_subset.mp hsubset
      refine ih hrest ?_ hrow
      intro old hold
      rcases persistRiskCalculation_rows hold with hbefore | hinserted
      · exact hledger old hbefore
      · exact ⟨input, hinput, hinserted⟩

/-- What a decision goes by, and that its command calculates it. -/
theorem Decision.spec (decision : Decision) :
    ∃ material handed, decision.material = some material ∧
      Calculates decision.dependencies material handed ∧
      normalizePersistInput handed = some decision.command ∧
      handed.organizationId = decision.authorized.organizationId ∧
      handed.findingId = decision.authorized.findingId := by
  obtain ⟨handed, hdecided, hnormalized⟩ := decision.decided
  obtain ⟨material, hmaterial, hcalculates⟩ := decideLockedCalculation_calculates hdecided
  obtain ⟨horganization, hfinding, -⟩ := decideLockedCalculation_command hdecided
  exact ⟨material, handed, hmaterial, hcalculates, hnormalized, horganization, hfinding⟩

/-- A later command for the facts and the definition of a stored row meets that row, and
the sources decide what it is answered. -/
theorem SameInputs.meets {ledger : RiskLedger} {row : CalculationRow}
    {first : PersistedDecision} {later : Decision} (hsame : SameInputs first.decision later)
    (hrow : row ∈ ledger.calculations.rows) {calculation : StoredRiskCalculation}
    (hmapped : mapCalculationRow row = some calculation)
    (hinserted : ∃ policyId policyVersion,
      row = insertedRow first.reads first.decision.command policyId policyVersion) :
    row ∈ ledger.calculations.ofFinding later.command.organizationId
        later.command.findingId ∧
      row.inputFingerprint = later.command.inputFingerprint ∧
      replayFromRow later.command row =
        if later.material.map (·.sources) = some row.factors.sources then .replay calculation
        else .immutableConflict := by
  obtain ⟨policyId, policyVersion, rfl⟩ := hinserted
  obtain ⟨material, handed, hmaterial, hcalculates, hnormalized, horganization, hfinding⟩ :=
    first.decision.spec
  obtain ⟨material', handed', hmaterial', hcalculates', hnormalized', horganization',
    hfinding'⟩ := later.spec
  have hdefinition := hsame.definition
  have hfacts := hsame.facts
  rw [hmaterial, hmaterial', Option.map_some, Option.map_some, Option.some.injEq]
    at hdefinition hfacts
  obtain ⟨hhash, hfingerprint, hresult, hfactors⟩ := hcalculates.agree hcalculates'
    hsame.canonicalJson hsame.sha256Hex hdefinition hfacts
  obtain ⟨calculatedAt, -, hcommand⟩ := Option.bind_eq_some_iff.mp hnormalized
  obtain ⟨calculatedAt', -, hcommand'⟩ := Option.bind_eq_some_iff.mp hnormalized'
  have hcommand := (Option.some.inj hcommand).symm
  have hcommand' := (Option.some.inj hcommand').symm
  have hsources : (insertedRow first.reads first.decision.command policyId
      policyVersion).factors.sources = material.sources := by
    obtain ⟨_, _, _, -, -, -, hdocument, -⟩ := hcalculates.documents
    rw [hcommand]
    change handed.factors.sources = _
    rw [hdocument]
    rfl
  refine ⟨mem_ofFinding.mpr ⟨hrow, ?_, ?_⟩, ?_, ?_⟩
  · rw [hcommand, hcommand']
    exact horganization.trans (hsame.organizationId.symm.trans horganization'.symm)
  · rw [hcommand, hcommand']
    exact hfinding.trans (hsame.findingId.symm.trans hfinding'.symm)
  · rw [hcommand, hcommand']
    exact hfingerprint.symm
  · rw [replayFromRow_of_mapped hmapped (by rw [hcommand, hcommand']; exact hhash.symm)
      (by rw [hcommand, hcommand']; exact hresult.symm), hmaterial', hsources, Option.map_some]
    refine if_congr ?_ rfl rfl
    rw [Option.some.injEq, ← hfactors, hcommand, hcommand']
    rfl

/-- What the later command is answered from the row. -/
theorem SameInputs.answers {ledger : RiskLedger} {row : CalculationRow}
    {first : PersistedDecision} {later : Decision} (hsame : SameInputs first.decision later)
    (hrow : row ∈ ledger.calculations.rows) (hstored : row.StoredFor first)
    (reads : TransactionReads) :
    ((∃ calculation, mapCalculationRow row = some calculation ∧
        persistInTransaction reads ledger later.command = .ok (.replay calculation, ledger)) ↔
      LetThrough reads later.command ∧
        later.material.map (·.sources) = some row.factors.sources) ∧
    (persistInTransaction reads ledger later.command = .ok (.immutableConflict, ledger) ↔
      LetThrough reads later.command ∧
        later.material.map (·.sources) ≠ some row.factors.sources) := by
  obtain ⟨hmapped, hinserted⟩ := hstored
  obtain ⟨calculation, hmapped⟩ := Option.isSome_iff_exists.mp hmapped
  obtain ⟨hfound, hfingerprint, hanswer⟩ := hsame.meets hrow hmapped hinserted
  have hdiffer : ∀ calculation, (PersistRiskCalculationResult.immutableConflict, ledger) ≠
      (.replay calculation, ledger) := by
    intro calculation heq
    cases congrArg Prod.fst heq
  by_cases hthrough : LetThrough reads later.command
  · rw [persistInTransaction_found hthrough hfound hfingerprint, hanswer]
    by_cases hsources : later.material.map (·.sources) = some row.factors.sources
    · rw [if_pos hsources]
      refine ⟨iff_of_true ⟨calculation, hmapped, rfl⟩ ⟨hthrough, hsources⟩,
        iff_of_false ?_ fun h => h.2 hsources⟩
      intro heq
      exact hdiffer calculation (Except.ok.inj heq).symm
    · rw [if_neg hsources]
      refine ⟨iff_of_false ?_ fun h => hsources h.2, iff_of_true rfl ⟨hthrough, hsources⟩⟩
      rintro ⟨other, -, heq⟩
      exact hdiffer other (Except.ok.inj heq)
  · refine ⟨iff_of_false ?_ fun h => hthrough h.1, iff_of_false ?_ fun h => hthrough h.1⟩
    · rintro ⟨other, -, hcommitted⟩
      exact (persistInTransaction_stopped hthrough hcommitted).2 other rfl
    · intro hcommitted
      exact (persistInTransaction_stopped hthrough hcommitted).1 rfl

/-- The decisions left the ledger's rows behind.  A later command for the facts and the
definition of a stored row is replayed exactly when it is let through and names the
sources that the row stores.  When it is let through with other sources, it conflicts. -/
theorem persistInTransaction_replays_iff (run : List PersistedDecision) (row : CalculationRow)
    (hrow : row ∈ (stateAfter persistDecision run .empty).calculations.rows) :
    ∃ first ∈ run, row.StoredFor first ∧
      ∀ (reads : TransactionReads) (later : Decision), SameInputs first.decision later →
        ((∃ calculation, mapCalculationRow row = some calculation ∧
            persistInTransaction reads (stateAfter persistDecision run .empty) later.command =
              .ok (.replay calculation, stateAfter persistDecision run .empty)) ↔
          LetThrough reads later.command ∧
            later.material.map (·.sources) = some row.factors.sources) ∧
        (persistInTransaction reads (stateAfter persistDecision run .empty) later.command =
            .ok (.immutableConflict, stateAfter persistDecision run .empty) ↔
          LetThrough reads later.command ∧
            later.material.map (·.sources) ≠ some row.factors.sources) := by
  obtain ⟨first, hfirst, hstored⟩ := storedFor_of_mem (fun _ h => h)
    (fun _ hold => absurd hold List.not_mem_nil) hrow
  exact ⟨first, hfirst, hstored, fun reads later hsame => hsame.answers hrow hstored reads⟩

/-! ## A finding that is calculated again after a release of the catalog -/

/-- The decision of the first calculation. -/
def sampleDecision : Decision :=
  ⟨sampleWriter, sampleAuthorized, sampleContext, sampleNormalized,
    sampleCommand, sampleCommand_decided, rfl⟩

/-- A minute later the catalog has a new release, which does not list the CVE either. -/
def releasedContext : LockedPriorityCalculationContext :=
  { sampleContext with
    asOf := some (some 1767225660000)
    current := .found {
      id := sampleRow.id
      organizationId := sampleRow.organizationId
      findingId := sampleRow.findingId
      riskPolicyId := sampleRow.riskPolicyId
      policyVersion := sampleRow.policyVersion
      policyDefinitionSha256 := sampleRow.policyDefinitionSha256
      calculatedAt := some sampleRow.calculatedAt
      factors := sampleRow.factors
      result := sampleRow.result
      calculationReason := sampleRow.calculationReason
      inputFingerprint := sampleRow.inputFingerprint }
    queryActiveKevMembership := fun _ =>
      .ok (.absent ⟨js "2026.01.01", some 1767225630000, .current⟩) }

/-- The command that is decided then. -/
def releasedCommand : PersistFindingRiskCalculationCommand :=
  { sampleCommand with
    calculationReason := .rescan
    factors := { sampleCommand.factors with
      sources := { sampleCommand.factors.sources with
        kev := .catalog (js "2026.01.01") 1767225630000 .current none none } }
    calculatedAt := some 1767225660000 }

/-- The facts of both calculations. -/
def sampleFacts : PriorityFactInput where
  sourceSeverity := .unavailable ()
  kevListed := .observed .notListedCatalogCurrent
  environmentSensitivity := .unavailable ()
  internetExposure := .unknown .unknown
  businessCriticality := .unknown .unspecified
  assetDataClassification := .unknown .unspecified
  directDependency := .unavailable ()
  fixAvailable := .unavailable ()
  findingAgeDays := .observed 5
  advisoryWithdrawn := .observed .notWithdrawn

theorem decisions_evaluated :
    lockedFacts sampleContext = some (sampleFacts, sampleCommand.factors.sources) ∧
      lockedFacts releasedContext = some (sampleFacts, releasedCommand.factors.sources) ∧
      (readLockedSnapshot sampleAuthorized releasedContext).toOption =
        some (some 1767225660000, sampleSnapshot) ∧
      (resolveReason releasedContext.current sampleCommand.policyDefinitionSha256
        sampleFacts).toOption = some .rescan := by
  refine ⟨?_, ?_, ?_, ?_⟩
  all_goals decide +kernel

theorem sampleDecision_facts :
    lockedFacts sampleContext = some (sampleFacts, sampleCommand.factors.sources) :=
  decisions_evaluated.1

theorem releasedDecision_facts :
    lockedFacts releasedContext = some (sampleFacts, releasedCommand.factors.sources) :=
  decisions_evaluated.2.1

theorem releasedContext_snapshot :
    readLockedSnapshot sampleAuthorized releasedContext =
      .ok (some 1767225660000, sampleSnapshot) :=
  ok_of_toOption decisions_evaluated.2.2.1

theorem releasedCommand_decided :
    decideLockedCalculation sampleWriter sampleAuthorized releasedContext =
      .ok releasedCommand := by
  have hreason : resolveReason releasedContext.current sampleCommand.policyDefinitionSha256
      sampleFacts = .ok .rescan := ok_of_toOption decisions_evaluated.2.2.2
  have hbuiltin : releasedContext.builtin = sampleContext.builtin := rfl
  have hoverride : releasedContext.override = sampleContext.override := rfl
  exact decideLockedCalculation_again sampleCommand_decided hbuiltin hoverride
    sampleDecision_facts releasedDecision_facts releasedContext_snapshot hreason

/-- The decision of the second calculation. -/
def releasedDecision : Decision where
  dependencies := sampleWriter
  authorized := sampleAuthorized
  context := releasedContext
  command := {
    organizationId := releasedCommand.organizationId
    actorUserId := releasedCommand.actorUserId
    membershipId := releasedCommand.membershipId
    findingId := releasedCommand.findingId
    riskPolicyId := releasedCommand.riskPolicyId
    policyDefinitionSha256 := releasedCommand.policyDefinitionSha256
    inputFingerprint := releasedCommand.inputFingerprint
    calculationReason := releasedCommand.calculationReason
    factors := releasedCommand.factors
    result := releasedCommand.result
    correlationId := releasedCommand.correlationId
    calculatedAt := releasedCommand.calculatedAt }
  decided := ⟨releasedCommand, releasedCommand_decided, rfl⟩

theorem releasedDecision_sameInputs : SameInputs sampleDecision releasedDecision :=
  sameInputs_of_facts rfl rfl rfl rfl sampleDecision_facts releasedDecision_facts

/-- The ledger that the first decision leaves behind. -/
def sampleLedger : RiskLedger := stateAfter persistDecision [⟨sampleReads, sampleDecision⟩] .empty

theorem sampleRow_mem : sampleRow ∈ sampleLedger.calculations.rows := by
  change sampleRow ∈ sampleOutcome.2.calculations.rows
  rw [sampleOutcome_rows]
  exact List.mem_singleton_self sampleRow

/-- The row of the first decision, and what later commands are answered. -/
theorem persistInTransaction_replays_iff_sample :
    ∃ first ∈ [(⟨sampleReads, sampleDecision⟩ : PersistedDecision)], sampleRow.StoredFor first ∧
      ∀ (reads : TransactionReads) (later : Decision), SameInputs first.decision later →
        ((∃ calculation, mapCalculationRow sampleRow = some calculation ∧
            persistInTransaction reads sampleLedger later.command =
              .ok (.replay calculation, sampleLedger)) ↔
          LetThrough reads later.command ∧
            later.material.map (·.sources) = some sampleRow.factors.sources) ∧
        (persistInTransaction reads sampleLedger later.command =
            .ok (.immutableConflict, sampleLedger) ↔
          LetThrough reads later.command ∧
            later.material.map (·.sources) ≠ some sampleRow.factors.sources) :=
  persistInTransaction_replays_iff [⟨sampleReads, sampleDecision⟩] sampleRow sampleRow_mem

/-- Nothing that the fingerprint covers has changed, and the calculation conflicts. -/
theorem persistInTransaction_not_replays :
    sampleRow ∈ sampleLedger.calculations.rows ∧
      SameInputs sampleDecision releasedDecision ∧
      LetThrough sampleReads releasedDecision.command ∧
      releasedDecision.command.inputFingerprint = sampleRow.inputFingerprint ∧
      persistInTransaction sampleReads sampleLedger releasedDecision.command =
        .ok (.immutableConflict, sampleLedger) := by
  have hthrough : LetThrough sampleReads releasedDecision.command :=
    ⟨by decide +kernel, by decide +kernel, samplePolicy.id, builtinPriorityPolicyVersion,
      by decide +kernel⟩
  have hfingerprint : releasedDecision.command.inputFingerprint =
      sampleRow.inputFingerprint := rfl
  refine ⟨sampleRow_mem, releasedDecision_sameInputs, hthrough, hfingerprint, ?_⟩
  rw [persistInTransaction_found hthrough (mem_ofFinding.mpr ⟨sampleRow_mem, rfl, rfl⟩)
    hfingerprint.symm]
  have hconflict : replayFromRow releasedDecision.command sampleRow = .immutableConflict := by
    decide +kernel
  rw [hconflict]

end PatchPilot.Risk
