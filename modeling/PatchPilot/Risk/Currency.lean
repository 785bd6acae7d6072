import PatchPilot.Risk.Persistence

set_option autoImplicit false

/-!
# Risk: which calculation is current after a command

An accepted command answers with the row that carries its fingerprint.  That row is
current when it was inserted as the newest row of its finding, or when it was replayed
and still is the newest.  A replay writes nothing, so inputs that change and change
back leave the row of the inputs in between current.
-/

namespace PatchPilot.Risk

open PatchPilot.Foundation
open PatchPilot.Policy

/-! ## The current row -/

instance : Std.TransCmp newestFirst :=
  inferInstanceAs (Std.TransCmp (compareLex (comapCmp (descending compare) _)
    (comapCmp (descending compareCodeUnits) _)))

theorem mem_ofFinding {table : CalculationTable} {organizationId findingId : JsString}
    {row : CalculationRow} : row ∈ table.ofFinding organizationId findingId ↔
      row ∈ table.rows ∧ row.organizationId = organizationId ∧ row.findingId = findingId := by
  unfold CalculationTable.ofFinding
  rw [List.mem_filter, decide_eq_true_eq]

/-- The replay key: a fingerprint is stored at most once for a finding. -/
theorem eq_of_fingerprint {table : CalculationTable} {organizationId findingId : JsString}
    {a b : CalculationRow} (ha : a ∈ table.ofFinding organizationId findingId)
    (hb : b ∈ table.ofFinding organizationId findingId)
    (h : a.inputFingerprint = b.inputFingerprint) : a = b := by
  obtain ⟨ha, haOrganization, haFinding⟩ := mem_ofFinding.mp ha
  obtain ⟨hb, hbOrganization, hbFinding⟩ := mem_ofFinding.mp hb
  refine List.inj_on_of_nodup_map table.replayKey ha hb ?_
  unfold CalculationRow.replayKey
  rw [haOrganization, hbOrganization, haFinding, hbFinding, h]

/-- A row comes first when it was calculated later, or at the same time under a higher
id. -/
theorem newestFirst_eq_lt {a b : CalculationRow} :
    newestFirst a b = .lt ↔ b.calculatedAt < a.calculatedAt ∨
      b.calculatedAt = a.calculatedAt ∧ compareCodeUnits b.id a.id = .lt := by
  unfold newestFirst compareLex
  rw [Ordering.then_eq_lt]
  unfold comapCmp descending
  rw [compare_lt_iff_lt, compare_eq_iff_eq]

theorem queryCurrent_mem {table : CalculationTable} {organizationId findingId : JsString}
    {row : CalculationRow}
    (h : queryCurrentRiskCalculation table organizationId findingId = some row) :
    row ∈ table.ofFinding organizationId findingId :=
  (head?_sortBy newestFirst h).1

/-! ## What a command does -/

/-- The result says that the calculation of the command is stored. -/
def PersistRiskCalculationResult.accepted : PersistRiskCalculationResult → Prop
  | .persisted _ => True
  | .replay _ => True
  | _ => False

instance : DecidablePred PersistRiskCalculationResult.accepted
  | .persisted _ | .replay _ => .isTrue trivial
  | .immutableConflict | .notFound | .ineligible | .policyNotFound | .policyNotEligible
  | .authorityRejected | .calculationReasonRejected | .transactionAborted
  | .internalFailure => .isFalse id

theorem findByFingerprint_spec (table : CalculationTable) (command : NormalizedPersist) :
    (findByFingerprint table command = .ok none ∧
      ∀ row ∈ table.ofFinding command.organizationId command.findingId,
        row.inputFingerprint ≠ command.inputFingerprint) ∨
    ∃ row ∈ table.ofFinding command.organizationId command.findingId,
      row.inputFingerprint = command.inputFingerprint ∧
        findByFingerprint table command = .ok (some row) := by
  have hmem : ∀ row, row ∈ (table.ofFinding command.organizationId command.findingId).filter
      (fun row => row.inputFingerprint = command.inputFingerprint) ↔
        row ∈ table.ofFinding command.organizationId command.findingId ∧
          row.inputFingerprint = command.inputFingerprint := by
    intro row
    rw [List.mem_filter, decide_eq_true_eq]
  have hnodup : ((table.ofFinding command.organizationId command.findingId).filter
      fun row => row.inputFingerprint = command.inputFingerprint).Nodup :=
    ((List.Nodup.of_map _ table.primaryKey).filter _).filter _
  unfold findByFingerprint
  split
  · rename_i hnone
    refine .inl ⟨rfl, ?_⟩
    intro row hrow hfingerprint
    have hfound := (hmem row).mpr ⟨hrow, hfingerprint⟩
    rw [hnone] at hfound
    cases hfound
  · rename_i row hone
    have hfound := (hmem row).mp (by rw [hone]; simp)
    exact .inr ⟨row, hfound.1, hfound.2, rfl⟩
  · -- two rows would share the replay key
    rename_i hnotNil hnotOne
    cases hfilter : (table.ofFinding command.organizationId command.findingId).filter
        fun row => row.inputFingerprint = command.inputFingerprint with
    | nil => exact absurd hfilter hnotNil
    | cons first rest =>
        cases rest with
        | nil => exact absurd hfilter (hnotOne first)
        | cons second rest =>
            rw [hfilter] at hmem hnodup
            obtain ⟨hfirst, hfirstFingerprint⟩ := (hmem first).mp (by simp)
            obtain ⟨hsecond, hsecondFingerprint⟩ := (hmem second).mp (by simp)
            have heq := eq_of_fingerprint hfirst hsecond
              (hfirstFingerprint.trans hsecondFingerprint.symm)
            exact absurd (heq ▸ List.mem_cons_self) (List.nodup_cons.mp hnodup).1

/-- A replayed command leaves the ledger as it is and answers with the row that
carries its fingerprint. -/
def Replays (ledger : RiskLedger) (command : NormalizedPersist)
    (outcome : PersistRiskCalculationResult × RiskLedger) : Prop :=
  outcome.2 = ledger ∧
    ∃ row ∈ ledger.calculations.ofFinding command.organizationId command.findingId,
      row.inputFingerprint = command.inputFingerprint

/-- A persisted command appends a row with a new fingerprint. -/
def Inserts (reads : TransactionReads) (ledger : RiskLedger) (command : NormalizedPersist)
    (outcome : PersistRiskCalculationResult × RiskLedger) : Prop :=
  (∀ row ∈ ledger.calculations.ofFinding command.organizationId command.findingId,
    row.inputFingerprint ≠ command.inputFingerprint) ∧
    ∃ policyId policyVersion, outcome.2.calculations.rows =
      ledger.calculations.rows ++ [insertedRow reads command policyId policyVersion]

theorem replayFromRow_cases {ledger : RiskLedger} {command : NormalizedPersist}
    {row : CalculationRow}
    (hrow : row ∈ ledger.calculations.ofFinding command.organizationId command.findingId)
    (hfingerprint : row.inputFingerprint = command.inputFingerprint) :
    Replays ledger command (replayFromRow command row, ledger) :=
  ⟨rfl, row, hrow, hfingerprint⟩

/-- An insertion answers with the row that it appends. -/
theorem insertCalculation_ok {reads : TransactionReads} {ledger : RiskLedger}
    {command : NormalizedPersist} {policyId : JsString} {policyVersion : Nat}
    {outcome : PersistRiskCalculationResult × RiskLedger}
    (h : insertCalculation reads ledger command policyId policyVersion = .ok outcome) :
    outcome.2.calculations.rows =
        ledger.calculations.rows ++ [insertedRow reads command policyId policyVersion] ∧
      ∃ calculation, outcome.1 = .persisted calculation ∧
        mapCalculationRow (insertedRow reads command policyId policyVersion) =
          some calculation := by
  unfold insertCalculation at h
  dsimp only at h
  split at h
  · cases h
  · cases h
  · rename_i table calculation htable hmapped
    cases h
    unfold CalculationTable.insert at htable
    split at htable
    · cases htable
      exact ⟨rfl, calculation, rfl, hmapped⟩
    · cases htable

/-- A committed transaction replays the row with the fingerprint of its command, inserts
one, or refuses and changes nothing. -/
theorem persistInTransaction_paths {reads : TransactionReads} {ledger : RiskLedger}
    {command : NormalizedPersist} {outcome : PersistRiskCalculationResult × RiskLedger}
    (h : persistInTransaction reads ledger command = .ok outcome) :
    (∃ row ∈ ledger.calculations.ofFinding command.organizationId command.findingId,
        row.inputFingerprint = command.inputFingerprint ∧
          outcome = (replayFromRow command row, ledger)) ∨
      ((∀ row ∈ ledger.calculations.ofFinding command.organizationId command.findingId,
          row.inputFingerprint ≠ command.inputFingerprint) ∧
        ∃ policyId policyVersion,
          insertCalculation reads ledger command policyId policyVersion = .ok outcome) ∨
      ¬ outcome.1.accepted ∧ outcome.2 = ledger := by
  unfold persistInTransaction at h
  split at h
  · cases h
    exact .inr (.inr ⟨id, rfl⟩)
  · obtain ⟨finding, -, h⟩ := bind_eq_ok.mp h
    cases finding with
    | notFound =>
        cases h
        exact .inr (.inr ⟨id, rfl⟩)
    | ineligible =>
        cases h
        exact .inr (.inr ⟨id, rfl⟩)
    | «open» =>
        dsimp only at h
        split at h
        · cases h
          exact .inr (.inr ⟨id, rfl⟩)
        · cases h
          exact .inr (.inr ⟨id, rfl⟩)
        · rcases findByFingerprint_spec ledger.calculations command with
            ⟨hfind, hnew⟩ | ⟨row, hrow, hfingerprint, hfind⟩
          · rw [hfind] at h
            split at h
            · cases h
            · cases h
              exact .inr (.inr ⟨id, rfl⟩)
            · split at h
              · cases h
                exact .inr (.inr ⟨id, rfl⟩)
              · exact .inr (.inl ⟨hnew, _, _, h⟩)
          · rw [hfind] at h
            cases h
            exact .inl ⟨row, hrow, hfingerprint, rfl⟩

/-- A committed transaction replays, inserts, or refuses and changes nothing. -/
theorem persistInTransaction_cases {reads : TransactionReads} {ledger : RiskLedger}
    {command : NormalizedPersist} {outcome : PersistRiskCalculationResult × RiskLedger}
    (h : persistInTransaction reads ledger command = .ok outcome) :
    Replays ledger command outcome ∨ Inserts reads ledger command outcome ∨
      ¬ outcome.1.accepted ∧ outcome.2 = ledger := by
  rcases persistInTransaction_paths h with
    ⟨row, hrow, hfingerprint, rfl⟩ | ⟨hnew, policyId, policyVersion, hinsert⟩ | hrefused
  · exact .inl (replayFromRow_cases hrow hfingerprint)
  · exact .inr (.inl ⟨hnew, policyId, policyVersion, (insertCalculation_ok hinsert).1⟩)
  · exact .inr (.inr hrefused)

/-- So does a command, also when its transaction is rolled back. -/
theorem persistRiskCalculation_cases (reads : TransactionReads) (ledger : RiskLedger)
    (command : NormalizedPersist) :
    Replays ledger command (persistRiskCalculation reads ledger command) ∨
      Inserts reads ledger command (persistRiskCalculation reads ledger command) ∨
      ¬ (persistRiskCalculation reads ledger command).1.accepted ∧
        (persistRiskCalculation reads ledger command).2 = ledger := by
  unfold persistRiskCalculation
  split
  · rename_i outcome hcommitted
    exact persistInTransaction_cases hcommitted
  · unfold reloadReplay
    rcases findByFingerprint_spec ledger.calculations command with
      ⟨hfind, -⟩ | ⟨row, hrow, hfingerprint, hfind⟩
    · rw [hfind]
      exact .inr (.inr ⟨id, rfl⟩)
    · rw [hfind]
      exact .inl (replayFromRow_cases hrow hfingerprint)
  · exact .inr (.inr ⟨id, rfl⟩)

/-! ## One command -/

/-- The time a command is calculated at. -/
def calculationTime (reads : TransactionReads) (command : NormalizedPersist) : Int :=
  command.calculatedAt.getD reads.databaseNow

/-- The current row of the finding carries the fingerprint of the command. -/
def Carries (ledger : RiskLedger) (command : NormalizedPersist) : Prop :=
  ∃ row, queryCurrentRiskCalculation ledger.calculations command.organizationId
      command.findingId = some row ∧
    row.inputFingerprint = command.inputFingerprint

/-- A row that carries the fingerprint already is the current one; without one, no row
of the same time has a higher id than the generated one. -/
structure LeavesCurrent (reads : TransactionReads) (ledger : RiskLedger)
    (command : NormalizedPersist) : Prop where
  stored : ∀ row ∈ ledger.calculations.ofFinding command.organizationId command.findingId,
    row.inputFingerprint = command.inputFingerprint →
      queryCurrentRiskCalculation ledger.calculations command.organizationId
        command.findingId = some row
  new : (∀ row ∈ ledger.calculations.ofFinding command.organizationId command.findingId,
      row.inputFingerprint ≠ command.inputFingerprint) →
    ∀ row ∈ ledger.calculations.ofFinding command.organizationId command.findingId,
      row.calculatedAt = calculationTime reads command →
        compareCodeUnits row.id reads.generatedId = .lt

theorem carries_iff_of_replays {reads : TransactionReads} {ledger : RiskLedger}
    {command : NormalizedPersist} {outcome : PersistRiskCalculationResult × RiskLedger}
    (h : Replays ledger command outcome) :
    Carries outcome.2 command ↔ LeavesCurrent reads ledger command := by
  obtain ⟨hledger, stored, hstored, hfingerprint⟩ := h
  rw [hledger]
  constructor
  · rintro ⟨current, hcurrent, hcarries⟩
    refine ⟨?_, fun hnew => absurd hfingerprint (hnew stored hstored)⟩
    intro row hrow hrowFingerprint
    have heq := eq_of_fingerprint (queryCurrent_mem hcurrent) hrow
      (hcarries.trans hrowFingerprint.symm)
    rw [hcurrent, heq]
  · intro hleaves
    exact ⟨stored, hleaves.stored stored hstored hfingerprint, hfingerprint⟩

theorem carries_iff_of_inserts {reads : TransactionReads} {ledger : RiskLedger}
    {command : NormalizedPersist} {outcome : PersistRiskCalculationResult × RiskLedger}
    (hclock : ∀ row ∈ ledger.calculations.rows,
      row.calculatedAt ≤ calculationTime reads command)
    (h : Inserts reads ledger command outcome) :
    Carries outcome.2 command ↔ LeavesCurrent reads ledger command := by
  obtain ⟨hnew, policyId, policyVersion, hrows⟩ := h
  have hmem : ∀ row, row ∈ outcome.2.calculations.ofFinding command.organizationId
      command.findingId ↔
        row ∈ ledger.calculations.ofFinding command.organizationId command.findingId ∨
          row = insertedRow reads command policyId policyVersion := by
    intro row
    rw [mem_ofFinding, mem_ofFinding, hrows, List.mem_append, List.mem_singleton]
    constructor
    · rintro ⟨hrow | rfl, hkey⟩
      · exact .inl ⟨hrow, hkey⟩
      · exact .inr rfl
    · rintro (⟨hrow, hkey⟩ | rfl)
      · exact ⟨.inl hrow, hkey⟩
      · exact ⟨.inr rfl, rfl, rfl⟩
  have hfresh : ∀ row ∈ ledger.calculations.rows, row.id ≠ reads.generatedId := by
    intro row hrow heq
    have hkey := outcome.2.calculations.primaryKey
    rw [hrows, List.map_append, List.nodup_append] at hkey
    exact hkey.2.2 row.id (List.mem_map_of_mem hrow) reads.generatedId (by simp [insertedRow])
      heq
  constructor
  · rintro ⟨current, hcurrent, hcarries⟩
    refine ⟨fun row hrow hfingerprint => absurd hfingerprint (hnew row hrow), ?_⟩
    intro _ row hrow htime
    have hinserted : current = insertedRow reads command policyId policyVersion := by
      rcases (hmem current).mp (queryCurrent_mem hcurrent) with hold | hinserted
      · exact absurd hcarries (hnew current hold)
      · exact hinserted
    have hle := (head?_sortBy newestFirst hcurrent).2 row ((hmem row).mpr (.inl hrow))
    have hrowRows := (mem_ofFinding.mp hrow).1
    rw [hinserted] at hle
    have hids : compareCodeUnits row.id reads.generatedId ≠ .eq :=
      fun heq => hfresh row hrowRows (Std.LawfulEqCmp.eq_of_compare heq)
    -- at the same time only the ids are compared
    unfold newestFirst compareLex comapCmp descending at hle
    change ((compare row.calculatedAt (calculationTime reads command)).then
      (compareCodeUnits row.id reads.generatedId)).isLE = true at hle
    rw [compare_eq_iff_eq.mpr htime] at hle
    cases hcompare : compareCodeUnits row.id reads.generatedId with
    | lt => rfl
    | eq => exact absurd hcompare hids
    | gt =>
        rw [hcompare] at hle
        cases hle
  · intro hleaves
    refine ⟨insertedRow reads command policyId policyVersion, ?_, rfl⟩
    refine head?_sortBy_eq newestFirst ((hmem _).mpr (.inr rfl)) ?_
    intro row hrow
    rcases (hmem row).mp hrow with hold | rfl
    · refine .inr (newestFirst_eq_lt.mpr ?_)
      rcases lt_or_eq_of_le (hclock row (mem_ofFinding.mp hold).1) with hlt | heq
      · exact .inl hlt
      · exact .inr ⟨heq, hleaves.new hnew row hold heq⟩
    · exact .inl rfl

/-- An accepted command leaves its row current exactly under `LeavesCurrent`. -/
theorem carries_iff {reads : TransactionReads} {ledger : RiskLedger}
    {command : NormalizedPersist}
    (hclock : ∀ row ∈ ledger.calculations.rows,
      row.calculatedAt ≤ calculationTime reads command)
    (haccepted : (persistRiskCalculation reads ledger command).1.accepted) :
    Carries (persistRiskCalculation reads ledger command).2 command ↔
      LeavesCurrent reads ledger command := by
  rcases persistRiskCalculation_cases reads ledger command with
    hreplays | hinserts | ⟨hrefused, -⟩
  · exact carries_iff_of_replays hreplays
  · exact carries_iff_of_inserts hclock hinserts
  · exact absurd haccepted hrefused

/-! ## Runs -/

/-- A command with what its transaction reads. -/
structure PersistInput where
  reads : TransactionReads
  command : NormalizedPersist

/-- The ledger and the time of the last command. -/
structure RiskHistory where
  ledger : RiskLedger
  clock : Int

/-- A finding's history before its first calculation. -/
def RiskHistory.start (clock : Int) : RiskHistory := ⟨⟨.empty, []⟩, clock⟩

/-- The result of a command in a history. -/
def RiskHistory.answer (history : RiskHistory) (input : PersistInput) :
    PersistRiskCalculationResult :=
  (persistRiskCalculation input.reads history.ledger input.command).1

/-- The history after a command. -/
def RiskHistory.commit (history : RiskHistory) (input : PersistInput) : RiskHistory :=
  ⟨(persistRiskCalculation input.reads history.ledger input.command).2,
    calculationTime input.reads input.command⟩

/-- The clock does not run backwards. -/
def ClockAdvances (history : RiskHistory) (input : PersistInput) : Prop :=
  history.clock ≤ calculationTime input.reads input.command

/-- An accepted command leaves a current calculation with its fingerprint. -/
def AnswersCurrent (history : RiskHistory) (input : PersistInput) : Prop :=
  (history.answer input).accepted → Carries (history.commit input).ledger input.command

/-- An accepted command finds its fingerprint on the current row or inserts the newest
row. -/
def KeepsCurrent (history : RiskHistory) (input : PersistInput) : Prop :=
  (history.answer input).accepted → LeavesCurrent input.reads history.ledger input.command

/-- No calculation is later than the clock. -/
def RiskHistory.Timely (history : RiskHistory) : Prop :=
  ∀ row ∈ history.ledger.calculations.rows, row.calculatedAt ≤ history.clock

theorem timely_commit {history : RiskHistory} {input : PersistInput}
    (h : history.Timely) (hclock : ClockAdvances history input) :
    (history.commit input).Timely := by
  intro row hrow
  rcases persistRiskCalculation_cases input.reads history.ledger input.command with
    ⟨hledger, -⟩ | ⟨-, policyId, policyVersion, hrows⟩ | ⟨-, hledger⟩
  · change row ∈ (persistRiskCalculation _ _ _).2.calculations.rows at hrow
    rw [hledger] at hrow
    exact le_trans (h row hrow) hclock
  · change row ∈ (persistRiskCalculation _ _ _).2.calculations.rows at hrow
    rw [hrows] at hrow
    rcases List.mem_append.mp hrow with hold | hinserted
    · exact le_trans (h row hold) hclock
    · rw [List.mem_singleton.mp hinserted]
      exact le_rfl
  · change row ∈ (persistRiskCalculation _ _ _).2.calculations.rows at hrow
    rw [hledger] at hrow
    exact le_trans (h row hrow) hclock

/-- In every run under a clock that does not run backwards, all accepted commands leave
current calculations with their fingerprints exactly when each of them finds its
fingerprint on the current row or inserts the newest row. -/
theorem persistRiskCalculation_current_iff (history : RiskHistory)
    (inputs : List PersistInput) (htimely : history.Timely)
    (hclock : EveryStep RiskHistory.commit ClockAdvances history inputs) :
    EveryStep RiskHistory.commit AnswersCurrent history inputs ↔
      EveryStep RiskHistory.commit KeepsCurrent history inputs := by
  refine everyStep_iff (fun s i => timely_commit) ?_ htimely hclock
  intro s i hs hi
  have hrows : ∀ row ∈ s.ledger.calculations.rows,
      row.calculatedAt ≤ calculationTime i.reads i.command :=
    fun row hrow => le_trans (hs row hrow) hi
  exact forall_congr' fun haccepted => carries_iff hrows haccepted

/-! ## An asset whose exposure changes and changes back -/

/-- The row of a factor of which nothing was observed. -/
def unavailableRow (factorId : FactorId) (weight : Nat)
    (explanationCode : FactorExplanationCode) : PriorityFactorRow :=
  ⟨factorId, factorOrdinal factorId, .unavailable, none, 0, weight, 0, .nonContributing,
    explanationCode⟩

/-- The row of an exposure under the built-in definition. -/
def exposureRow : InternetExposureToken → PriorityFactorRow
  | .internetFacing => ⟨.internetExposure, factorOrdinal .internetExposure, .observed,
      some (tokenValue InternetExposureToken.internetFacing), 100, 10, 1000, .contributing,
      .exposureInternetFacing⟩
  | .internal => ⟨.internetExposure, factorOrdinal .internetExposure, .observed,
      some (tokenValue InternetExposureToken.internal), 0, 10, 0, .nonContributing,
      .exposureInternal⟩

/-- The factors of a finding of five days under the built-in definition. -/
def exposureFactors (exposure : InternetExposureToken) : RiskCalculationFactors where
  factors := [
    unavailableRow .sourceSeverity 40 .severityUnavailable,
    unavailableRow .kevListed 20 .kevUnavailableNoActiveGeneration,
    unavailableRow .environmentSensitivity 10 .environmentUnavailable,
    exposureRow exposure,
    unavailableRow .businessCriticality 8 .criticalityUnavailable,
    unavailableRow .assetDataClassification 5 .dataUnavailable,
    unavailableRow .directDependency 3 .dependencyUnavailable,
    unavailableRow .fixAvailable 2 .fixUnavailable,
    ⟨.findingAgeDays, factorOrdinal .findingAgeDays, .observed, some (.days 5), 0, 2, 0,
      .nonContributing, .ageUnder30Days⟩,
    ⟨.advisoryWithdrawn, factorOrdinal .advisoryWithdrawn, .observed,
      some (tokenValue AdvisoryWithdrawnToken.notWithdrawn), 0, 0, 0, .informational,
      .advisoryNotWithdrawn⟩]
  rules := [⟨.kevMinimumBand, false, 0, .kevMinimumBandNotTriggered⟩,
    ⟨.kevEscalation, false, 0, .kevEscalationNotTriggered⟩]
  escalationReasons := []
  evidenceSummary := ⟨3, 0, 7⟩
  weightedScoreCenti := (exposureRow exposure).contributionCenti
  upliftCenti := 0
  sources := ⟨[], [], [], .unavailable .noActiveGeneration⟩

/-- A fingerprint for each exposure. -/
def exposureFingerprint : InternetExposureToken → JsString
  | .internetFacing => List.replicate 64 (unit 'a')
  | .internal => List.replicate 64 (unit 'b')

/-- A recalculation of one finding at a time, with the id that its row is given. -/
def exposureInput (exposure : InternetExposureToken) (reason : RiskCalculationReason)
    (time : Int) (generatedId : JsString) : PersistInput where
  reads := {
    memberships := [⟨js "11111111-1111-4111-8111-111111111111",
      js "22222222-2222-4222-8222-222222222222", js "33333333-3333-4333-8333-333333333333",
      true⟩]
    findings := [⟨js "11111111-1111-4111-8111-111111111111",
      js "44444444-4444-4444-8444-444444444444", .open, 1, none, none⟩]
    policies := [⟨js "55555555-5555-4555-8555-555555555502", none, builtinPriorityPolicyKey,
      builtinPriorityPolicyVersion, .published, priorityPolicySchemaVersion⟩]
    creationInsertEligible := fun _ _ => some true
    databaseNow := time
    generatedId }
  command := {
    organizationId := js "11111111-1111-4111-8111-111111111111"
    actorUserId := js "33333333-3333-4333-8333-333333333333"
    membershipId := js "22222222-2222-4222-8222-222222222222"
    findingId := js "44444444-4444-4444-8444-444444444444"
    riskPolicyId := js "55555555-5555-4555-8555-555555555502"
    policyDefinitionSha256 := admittedBuiltinSha256
    inputFingerprint := exposureFingerprint exposure
    calculationReason := reason
    factors := exposureFactors exposure
    result := ⟨((exposureRow exposure).contributionCenti + 50) / 100, .p4, 180, false⟩
    correlationId := js "66666666-6666-4666-8666-666666666666"
    calculatedAt := some time }

/-- The exposure is raised and taken back within one day. -/
def exposureInputs : List PersistInput :=
  [exposureInput .internal .initial 1000 (js "77777777-7777-4777-8777-777777777777"),
    exposureInput .internetFacing .assetChange 2000
      (js "88888888-8888-4888-8888-888888888888"),
    exposureInput .internal .assetChange 3000 (js "99999999-9999-4999-8999-999999999999")]

/-- Raising the exposure is persisted and becomes current. -/
theorem persistRiskCalculation_current_iff_sample :
    (RiskHistory.start 0).Timely ∧
      EveryStep RiskHistory.commit ClockAdvances (RiskHistory.start 0)
        (exposureInputs.take 2) ∧
      (EveryStep RiskHistory.commit AnswersCurrent (RiskHistory.start 0)
          (exposureInputs.take 2) ↔
        EveryStep RiskHistory.commit KeepsCurrent (RiskHistory.start 0)
          (exposureInputs.take 2)) := by
  have htimely : (RiskHistory.start 0).Timely := fun _ h => absurd h List.not_mem_nil
  have hclock : EveryStep RiskHistory.commit ClockAdvances (RiskHistory.start 0)
      (exposureInputs.take 2) := by
    refine ⟨?_, ?_, trivial⟩
    · change (0 : Int) ≤ 1000
      decide
    · change (1000 : Int) ≤ 2000
      decide
  exact ⟨htimely, hclock, persistRiskCalculation_current_iff (RiskHistory.start 0)
    (exposureInputs.take 2) htimely hclock⟩

/-- What the third command finds: the raised exposure is current. -/
def exposureRaised : RiskHistory :=
  ((RiskHistory.start 0).commit
    (exposureInput .internal .initial 1000
      (js "77777777-7777-4777-8777-777777777777"))).commit
    (exposureInput .internetFacing .assetChange 2000
      (js "88888888-8888-4888-8888-888888888888"))

/-- The exposure is taken back. -/
def exposureTakenBack : PersistInput :=
  exposureInput .internal .assetChange 3000 (js "99999999-9999-4999-8999-999999999999")

theorem exposureTakenBack_accepted :
    (exposureRaised.answer exposureTakenBack).accepted := by
  decide +kernel

theorem exposureTakenBack_current :
    (queryCurrentRiskCalculation (exposureRaised.commit exposureTakenBack).ledger.calculations
        exposureTakenBack.command.organizationId exposureTakenBack.command.findingId).map
      CalculationRow.inputFingerprint = some (exposureFingerprint .internetFacing) := by
  decide +kernel

/-- Taking the exposure back is answered with a replay and leaves the raised exposure
current. -/
theorem persistRiskCalculation_not_current :
    EveryStep RiskHistory.commit ClockAdvances (RiskHistory.start 0) exposureInputs ∧
      ¬ EveryStep RiskHistory.commit AnswersCurrent (RiskHistory.start 0) exposureInputs := by
  refine ⟨⟨?_, ?_, ?_, trivial⟩, ?_⟩
  · change (0 : Int) ≤ 1000
    decide
  · change (1000 : Int) ≤ 2000
    decide
  · change (2000 : Int) ≤ 3000
    decide
  · rintro ⟨-, -, hthird, -⟩
    have hcurrent : AnswersCurrent exposureRaised exposureTakenBack := hthird
    obtain ⟨row, hrow, hcarries⟩ := hcurrent exposureTakenBack_accepted
    have hother := exposureTakenBack_current
    rw [hrow, Option.map_some, hcarries] at hother
    exact absurd hother (by decide +kernel)

end PatchPilot.Risk
