import PatchPilot.Osv.Attempts.Failing

set_option autoImplicit false

/-!
# Osv: a reservation that is repeated

A reservation that finds its attempt compares itself with the stored columns.  All of them but
one stay as they were reserved.  The disposition is written again when the attempt ends, so
the repeated reservation may meet a disposition that it did not ask for.
-/

namespace PatchPilot.Osv

open PatchPilot.Foundation

/-! ## What stays of a reservation -/

theorem AttemptRow.SameReservation.refl (row : AttemptRow) : row.SameReservation row :=
  ⟨rfl, rfl, rfl, rfl, fun _ => rfl⟩

/-- A terminal attempt has the disposition of its state. -/
def AttemptTables.Settled (tables : AttemptTables) : Prop :=
  ∀ row ∈ tables.attempts, row.state.isTerminal = true →
    row.retryDisposition = dispositionOf row.state

/-- Attempts stay with what was reserved, and terminal ones as they are. -/
def AttemptTables.Preserved (tables tables' : AttemptTables) : Prop :=
  ∀ row ∈ tables.attempts, ∃ row' ∈ tables'.attempts, row'.id = row.id ∧ row'.entry = row.entry ∧
    (row.state.isTerminal = true → row' = row) ∧ row.SameReservation row'

section

variable {tables tables' tables'' : AttemptTables} {row : AttemptRow}

theorem AttemptTables.Preserved.refl (tables : AttemptTables) : tables.Preserved tables :=
  fun row hrow => ⟨row, hrow, rfl, rfl, fun _ => rfl, .refl row⟩

theorem AttemptTables.Preserved.trans (h : tables.Preserved tables')
    (h' : tables'.Preserved tables'') : tables.Preserved tables'' := by
  intro row hrow
  obtain ⟨row', hrow', hid, hentry, hsame, hreserved⟩ := h row hrow
  obtain ⟨row'', hrow'', hid', hentry', hsame', hreserved'⟩ := h' row' hrow'
  refine ⟨row'', hrow'', hid'.trans hid, hentry'.trans hentry, fun hterminal => ?_,
    hreserved'.fingerprint.trans hreserved.fingerprint,
    hreserved'.nominalDelay.trans hreserved.nominalDelay,
    hreserved'.selectedDelay.trans hreserved.selectedDelay,
    hreserved'.createdAt.trans hreserved.createdAt, fun hopen => ?_⟩
  · have heq := hsame hterminal
    rw [hsame' (by rw [heq]; exact hterminal), heq]
  · -- an attempt that is not terminal was not terminal before
    have hopen' : row'.state.isTerminal = false := by
      by_contra hterminal
      rw [hsame' (Bool.not_eq_false _ ▸ hterminal)] at hopen
      exact hterminal hopen
    exact (hreserved'.disposition hopen).trans (hreserved.disposition hopen')

theorem AttemptTables.Preserved.later (h : tables.Preserved tables') : tables.Later tables' := by
  intro row hrow
  obtain ⟨row', hrow', hid, hentry, hsame, -⟩ := h row hrow
  exact ⟨row', hrow', hid, hentry, hsame⟩

theorem settled_inserted (h : tables.Settled) (hplanned : row.state = .planned) :
    (AttemptTables.apply (.inserted row) tables).Settled := by
  intro other hother hterminal
  rcases mem_inserted.mp hother with hold | rfl
  · exact h other hold hterminal
  · rw [hplanned] at hterminal
    cases hterminal

theorem preserved_inserted : tables.Preserved (AttemptTables.apply (.inserted row) tables) :=
  fun other hother =>
    ⟨other, mem_inserted.mpr (.inl hother), rfl, rfl, fun _ => rfl, .refl other⟩

/-- The row of an attempt after an update. -/
theorem replaced_rewrites (hrewrites : ∀ old ∈ tables.attempts, old.id = row.id → old.Rewrites row)
    {other : AttemptRow} (hother : other ∈ tables.attempts) :
    replaced row other = other ∨ replaced row other = row ∧ other.Rewrites row := by
  unfold replaced
  split
  · rename_i hid
    exact .inr ⟨rfl, hrewrites other hother hid⟩
  · exact .inl rfl

theorem settled_updated (h : tables.Settled)
    (hrewrites : ∀ old ∈ tables.attempts, old.id = row.id → old.Rewrites row) :
    (AttemptTables.apply (.updated row) tables).Settled := by
  intro other hother hterminal
  obtain ⟨before, hbefore, rfl⟩ := mem_updated.mp hother
  rcases replaced_rewrites hrewrites hbefore with heq | ⟨heq, hrewritten⟩
  · rw [heq] at hterminal ⊢
    exact h before hbefore hterminal
  · rw [heq] at hterminal ⊢
    exact hrewritten.settled hterminal

theorem preserved_updated (hdense : tables.Dense) (hmay : tables.MayUpdate row)
    (hrewrites : ∀ old ∈ tables.attempts, old.id = row.id → old.Rewrites row) :
    tables.Preserved (AttemptTables.apply (.updated row) tables) := by
  intro other hother
  obtain ⟨hid, hentry, hsame⟩ := replaced_keeps hdense hmay hother
  refine ⟨replaced row other, mem_updated.mpr ⟨other, hother, rfl⟩, hid, hentry, hsame, ?_⟩
  rcases replaced_rewrites hrewrites hother with heq | ⟨heq, hrewritten⟩
  · rw [heq]
    exact .refl other
  · rw [heq]
    exact hrewritten.toSameReservation

end

/-- The discipline of the reservations. -/
def reservationDiscipline : Discipline attemptSchema where
  Good := fun tables => tables.Dense ∧ tables.Settled
  Later := AttemptTables.Preserved
  Same := AttemptKey.Same
  later_refl := AttemptTables.Preserved.refl
  later_trans := AttemptTables.Preserved.trans
  same_refl := attemptDiscipline.same_refl
  same_trans := attemptDiscipline.same_trans

instance : Fits reservationDiscipline where
  dense := And.left
  later := AttemptTables.Preserved.later
  same := Iff.rfl
  empty := fun runs => ⟨Fits.empty (d := attemptDiscipline) runs,
    fun _ hrow => absurd hrow List.not_mem_nil⟩
  setRuns := fun {tables} runs h =>
    ⟨⟨(Fits.setRuns (d := attemptDiscipline) runs h.1).1, h.2⟩,
      AttemptTables.Preserved.refl tables⟩
  inserted := fun h hmay hplanned =>
    ⟨⟨dense_inserted h.1 hmay, settled_inserted h.2 hplanned⟩, preserved_inserted⟩
  updated := fun h hmay hrewrites =>
    ⟨⟨dense_updated h.1 hmay, settled_updated h.2 hrewrites⟩,
      preserved_updated h.1 hmay hrewrites⟩

/-! ## The row of a reservation -/

/-- A row comes from the reservation of a command. -/
structure AttemptRow.StemsFrom (row : AttemptRow) (id : JsString) (createdAt : Timestamptz)
    (command : OsvRuntimeStageAttemptReserveCommand) : Prop where
  identifier : row.id = id
  entry : row.entry = (command.target, command.attemptOrdinal)
  reserved : (plannedRow id createdAt command).SameReservation row

/-- A row can be read back: its identifier is a UUID, and the years of its times have four
digits. -/
def AttemptRow.Readable (row : AttemptRow) : Prop :=
  isUuid row.id = true ∧ row.startedAt.all (isUtcTimestamp ∘ toIsoUtc) = true ∧
    row.terminalAt.all (isUtcTimestamp ∘ toIsoUtc) = true ∧
    row.retryNotBefore.all (isUtcTimestamp ∘ toIsoUtc) = true ∧
    isUtcTimestamp (toIsoUtc row.createdAt) = true

instance (row : AttemptRow) : Decidable row.Readable := inferInstanceAs (Decidable (_ ∧ _))

/-- A reservation that nothing comes between finds its attempt, and writes nothing. -/
def Replays (s : Transactions attemptSchema) (command : OsvRuntimeStageAttemptReserveCommand)
    (choice : AttemptChoice) (row : AttemptRow) : Prop :=
  ∃ mapped s', mapAttempt row = .ok mapped ∧
    (reserve command).alone choice s = some (.ok (.alreadyApplied, mapped), s') ∧
    s'.rows = s.rows

section

variable {command : OsvRuntimeStageAttemptReserveCommand} {row : AttemptRow} {id : JsString}
  {createdAt : Timestamptz}

/-- A failure that the constraints let in has a code that is one. -/
theorem failureCode_of_checks (h : row.satisfiesChecks = true) :
    row.failureCode.all isFailureCode = true := by
  have hstate := (attemptChecks_iff.mp h).2.2.2
  have hnamed : row.failureNamed = true → row.failureCode.all isFailureCode = true := by
    unfold AttemptRow.failureNamed
    cases row.failureCode with
    | none => exact fun _ => rfl
    | some code => exact fun h => (Bool.and_eq_true _ _ ▸ h).1
  have habsent : row.failureAbsent = true → row.failureCode.all isFailureCode = true := by
    unfold AttemptRow.failureAbsent
    cases row.failureCode with
    | none => exact fun _ => rfl
    | some code => exact fun h => Bool.noConfusion h
  unfold AttemptRow.stateCheck at hstate
  cases hcase : row.state <;> rw [hcase] at hstate <;>
    simp only [Bool.and_eq_true, Bool.or_eq_true] at hstate <;> grind

/-- What the constructor of a reservation knows of the ordinal. -/
theorem ordinal_of_command (command : OsvRuntimeStageAttemptReserveCommand) :
    command.attemptOrdinal ∈ [1, 2, 3] ∧
      (maxTotalAttemptsForStage command.target.stage = 0 → command.attemptOrdinal = 1) ∧
      (maxTotalAttemptsForStage command.target.stage ≠ 0 →
        command.attemptOrdinal ≤ maxTotalAttemptsForStage command.target.stage) := by
  have haccepted := command.accepted
  unfold acceptsAttempt at haccepted
  simp only [Bool.and_eq_true, decide_eq_true_eq] at haccepted
  have hordinal := haccepted.2
  refine ⟨hordinal, fun hzero => ?_, fun hne => ?_⟩
  · rcases command.ordinal with hle | ⟨-, hone⟩
    · simp only [List.mem_cons, List.not_mem_nil, or_false] at hordinal
      omega
    · exact hone
  · rcases command.ordinal with hle | ⟨hstage, -⟩
    · exact hle
    · rw [hstage] at hne
      exact absurd rfl hne

/-- What the constructor of a reservation knows of the target. -/
theorem target_of_command (command : OsvRuntimeStageAttemptReserveCommand) :
    isUuid command.target.runId = true ∧
      toLowerCase command.target.runId = command.target.runId ∧
      command.target.targetIdentityDigest.all isSha256 = true := by
  have haccepted := command.accepted
  unfold acceptsAttempt at haccepted
  simp only [Bool.and_eq_true, decide_eq_true_eq] at haccepted
  exact ⟨haccepted.1.1.1, haccepted.1.1.2, haccepted.1.2⟩

/-- The row of a reservation is mapped where it can be read back. -/
theorem mapAttempt_isOk_iff (hchecks : row.satisfiesChecks = true)
    (h : row.StemsFrom id createdAt command) :
    (∃ mapped, mapAttempt row = .ok mapped) ↔ row.Readable := by
  obtain ⟨htarget, hordinal⟩ := Prod.mk.inj h.entry
  obtain ⟨hone, hzero, hmaximum⟩ := ordinal_of_command command
  obtain ⟨hrun, -, hdigest⟩ := target_of_command command
  have hdelay : row.nominalDelayMs = nominalDelayMsForAttemptOrdinal row.attemptOrdinal := by
    rw [h.reserved.nominalDelay, hordinal]
    rfl
  have hselected : row.selectedDelayMs = command.selectedDelayMs := h.reserved.selectedDelay
  have hfingerprint : row.versionSetFingerprint = command.versionSetFingerprint :=
    h.reserved.fingerprint
  have hfailure := failureCode_of_checks hchecks
  constructor
  · rintro ⟨mapped, hmapped⟩
    unfold mapAttempt at hmapped
    dsimp only at hmapped
    split at hmapped
    · rename_i hall
      obtain ⟨hid, -, -, -, -, -, hstarted, hterminal, -, -, -, -, hretry, -, hcreated⟩ := hall
      rw [Option.all_map] at hstarted hterminal hretry
      exact ⟨hid, hstarted, hterminal, hretry, hcreated⟩
    · cases hmapped
  · rintro ⟨hid, hstarted, hterminal, hretry, hcreated⟩
    unfold mapAttempt
    dsimp only
    rw [Option.all_map, Option.all_map, Option.all_map, if_pos]
    · exact ⟨_, rfl⟩
    · rw [htarget, hordinal, hselected, hfingerprint, hdelay, hordinal]
      exact ⟨hid, hrun, hdigest, hone, hzero, hmaximum, hstarted, hterminal, hfailure, rfl,
        command.delay, command.firstDelay, hretry, command.fingerprint, hcreated⟩

/-- A reservation and its own row differ in the disposition at most. -/
theorem compareIdentity_eq {mapped : OsvRuntimePersistedStageAttempt}
    (hmapped : mapAttempt row = .ok mapped) (h : row.StemsFrom id createdAt command) :
    compareOsvRuntimePersistedAttemptIdentity mapped command =
      decide (row.retryDisposition = command.retryDisposition) := by
  obtain ⟨htarget, hordinal⟩ := Prod.mk.inj h.entry
  have hnominal : row.nominalDelayMs = nominalDelayMsForAttemptOrdinal command.attemptOrdinal :=
    h.reserved.nominalDelay
  have hselected : row.selectedDelayMs = command.selectedDelayMs := h.reserved.selectedDelay
  have hfingerprint : row.versionSetFingerprint = command.versionSetFingerprint :=
    h.reserved.fingerprint
  have hlower : { row.target with runId := toLowerCase row.target.runId } = command.target := by
    rw [htarget, (target_of_command command).2.1]
  unfold mapAttempt at hmapped
  dsimp only at hmapped
  split at hmapped
  · cases hmapped
    unfold compareOsvRuntimePersistedAttemptIdentity
    dsimp only
    rw [hlower, hordinal, hnominal, hselected, hfingerprint]
    simp only [decide_true, Bool.true_and]
  · cases hmapped

end

/-! ## The call -/

section

variable {s s' : Transactions attemptSchema} {number : Nat} {choice : AttemptChoice}
  {command : OsvRuntimeStageAttemptReserveCommand} {run : AttemptRun} {row : AttemptRow}
  {id : JsString} {createdAt : Timestamptz}

/-- The attempts of a target are as many as are looked at, at most. -/
theorem ofTarget_take (hdense : s.rows.Dense) (target : AttemptTarget) :
    (s.rows.ofTarget target).take 4 = s.rows.ofTarget target ∧
      (s.rows.ofTarget target).length ≤ 3 := by
  have hlength : (s.rows.ofTarget target).length = (s.rows.attemptsOf target).length := by
    unfold AttemptTables.ofTarget AttemptTables.attemptsOf
    exact List.length_insertionSort _ _
  have hlimited := (inOrder_of_dense hdense target).limited
  have hlimit : attemptLimit target.stage ≤ 3 := by
    cases target.stage <;> decide
  exact ⟨List.take_of_length_le (by omega), by omega⟩

/-- Among the attempts of its target an attempt is found by its ordinal. -/
theorem find?_ofTarget (hdense : s.rows.Dense) (hrow : row ∈ s.rows.attempts)
    (hentry : row.entry = (command.target, command.attemptOrdinal)) :
    (s.rows.ofTarget command.target).find?
      (fun row => row.attemptOrdinal = command.attemptOrdinal) = some row := by
  obtain ⟨htarget, hordinal⟩ := Prod.mk.inj hentry
  have hmem : ∀ other, other ∈ s.rows.ofTarget command.target ↔
      other ∈ s.rows.attemptsOf command.target := by
    intro other
    unfold AttemptTables.ofTarget AttemptTables.attemptsOf
    exact List.mem_insertionSort _
  have hown : row ∈ s.rows.attemptsOf command.target := mem_attemptsOf.mpr ⟨hrow, htarget⟩
  refine find?_eq_some_of_unique ((hmem row).mpr hown) (decide_eq_true hordinal)
    fun other hother hsame => ?_
  exact eq_of_ordinal hdense ((hmem other).mp hother) hown
    ((of_decide_eq_true hsame).trans hordinal.symm)

/-- A reservation whose attempt is there is answered from its row. -/
theorem gives_reserveIn (hactive : s.Active number) (hdense : s.rows.Dense)
    (hfound : s.rows.runs.find? (·.id = command.target.runId) = some run)
    (hopen : run.state.isTerminal = false)
    (hfingerprint : run.versionSetFingerprint = command.versionSetFingerprint)
    (hrow : row ∈ s.rows.attempts)
    (hentry : row.entry = (command.target, command.attemptOrdinal))
    {result : Except (Fault AttemptSqlError) AttemptOutcome}
    (h : Gives choice (answerReserved row command) s result s') :
    Gives choice (reserveIn command number choice) s result s' := by
  obtain ⟨-, hzero, hmaximum⟩ := ordinal_of_command command
  obtain ⟨htake, hlength⟩ := ofTarget_take hdense command.target
  refine Gives.andThen (gives_read hactive rfl (congrArg Except.ok hfound)) ?_
  dsimp only
  rw [if_neg (not_not.mpr hfingerprint), if_neg (by rw [hopen]; decide), if_neg, if_neg]
  · refine Gives.andThen (gives_read hactive rfl (congrArg Except.ok htake)) ?_
    unfold reserveAfter
    rw [if_neg (Nat.not_lt.mpr hlength), find?_ofTarget hdense hrow hentry]
    exact h
  · rintro ⟨hne, hlt⟩
    exact absurd (hmaximum hne) (Nat.not_le.mpr hlt)
  · rintro ⟨hstage, hne⟩
    refine hne (hzero ?_)
    rw [hstage]
    rfl

/-- A reservation for a run with another fingerprint is rejected. -/
theorem gives_reserveIn_rejected (hactive : s.Active number)
    (hfound : s.rows.runs.find? (·.id = command.target.runId) = some run)
    (hfingerprint : run.versionSetFingerprint ≠ command.versionSetFingerprint) :
    Gives choice (reserveIn command number choice) s
      (.ok (unwritten (.error .callerFingerprintRejected))) s := by
  refine Gives.andThen (gives_read hactive rfl (congrArg Except.ok hfound)) ?_
  dsimp only
  rw [if_pos hfingerprint]
  exact gives_pure _

/-- What the row of a reservation answers it. -/
theorem gives_answerReserved {mapped : OsvRuntimePersistedStageAttempt}
    (hmapped : mapAttempt row = .ok mapped) (hstems : row.StemsFrom id createdAt command) :
    Gives choice (answerReserved row command) s
      (.ok (unwritten (if row.retryDisposition = command.retryDisposition then
        .ok (.alreadyApplied, mapped) else .error .immutableConflict))) s := by
  unfold answerReserved
  rw [hmapped]
  refine gives_throwing ?_
  rw [compareIdentity_eq hmapped hstems]
  by_cases hsame : row.retryDisposition = command.retryDisposition
  · rw [if_pos hsame, if_neg (by rw [decide_eq_true hsame]; decide)]
    exact gives_pure _
  · rw [if_neg hsame, if_pos (decide_eq_false hsame)]
    exact gives_pure _

/-- A reservation whose callback writes nothing. -/
theorem alone_reserve {result : AttemptResult} (hnumbered : s.Numbered)
    (h : Gives choice (reserveIn command s.begun choice) s.start (.ok (unwritten result)) s.start) :
    ∃ s', (reserve command).alone choice s = some (result, s') ∧ s'.rows = s.rows := by
  refine ⟨_, Program.alone_andThen
    (alone_committed h (Transactions.active_start hnumbered)), rfl⟩

end

/-! ## Runs -/

section

variable {s : Transactions attemptSchema} {choice : AttemptChoice}
  {command : OsvRuntimeStageAttemptReserveCommand} {run : AttemptRun} {row : AttemptRow}
  {id : JsString} {createdAt : Timestamptz}

/-- A reservation finds its attempt if and only if the row has its disposition. -/
theorem replays_iff_disposition (hgood : s.rows.Dense) (hnumbered : s.Numbered)
    (hfound : s.rows.runs.find? (·.id = command.target.runId) = some run)
    (hopen : run.state.isTerminal = false) (hrow : row ∈ s.rows.attempts)
    (hstems : row.StemsFrom id createdAt command) :
    Replays s command choice row ↔
      run.versionSetFingerprint = command.versionSetFingerprint ∧ row.Readable ∧
        row.retryDisposition = command.retryDisposition := by
  have hactive := Transactions.active_start hnumbered
  have hreadable := mapAttempt_isOk_iff (hgood.checks row hrow) hstems
  by_cases hfingerprint : run.versionSetFingerprint = command.versionSetFingerprint
  · constructor
    · rintro ⟨mapped, s', hmapped, halone, -⟩
      refine ⟨hfingerprint, hreadable.mp ⟨mapped, hmapped⟩, ?_⟩
      by_contra hdiffers
      have hanswer := @gives_answerReserved s.start choice _ _ _ _ _ hmapped hstems
      rw [if_neg hdiffers] at hanswer
      obtain ⟨s'', halone', -⟩ := alone_reserve hnumbered
        (gives_reserveIn hactive hgood hfound hopen hfingerprint hrow hstems.entry hanswer)
      cases halone.symm.trans halone'
    · rintro ⟨-, hread, hsame⟩
      obtain ⟨mapped, hmapped⟩ := hreadable.mpr hread
      have hanswer := @gives_answerReserved s.start choice _ _ _ _ _ hmapped hstems
      rw [if_pos hsame] at hanswer
      obtain ⟨s', halone, hrows⟩ := alone_reserve hnumbered
        (gives_reserveIn hactive hgood hfound hopen hfingerprint hrow hstems.entry hanswer)
      exact ⟨mapped, s', hmapped, halone, hrows⟩
  · refine iff_of_false ?_ fun h => hfingerprint h.1
    rintro ⟨mapped, s', -, halone, -⟩
    obtain ⟨s'', halone', -⟩ := alone_reserve hnumbered
      (gives_reserveIn_rejected hactive hfound hfingerprint)
    cases halone.symm.trans halone'

/-- The disposition of a row that comes from a reservation. -/
theorem disposition_of_stems {tables : AttemptTables} (hsettled : tables.Settled)
    (hrow : row ∈ tables.attempts) (hstems : row.StemsFrom id createdAt command) :
    row.retryDisposition = command.retryDisposition ↔
      (row.state.isTerminal = true → dispositionOf row.state = command.retryDisposition) := by
  cases hterminal : row.state.isTerminal with
  | true =>
      rw [hsettled row hrow hterminal]
      exact ⟨fun h _ => h, fun h => h rfl⟩
  | false => exact iff_of_true (hstems.reserved.disposition hterminal) nofun

variable {happenings more : List (Happening AttemptChoice AttemptRequest AttemptEvent)}
  {middle final : attemptSystem.Pool}

/-- In every run a reservation that has created an attempt, and is repeated at any time
while the run of the attempt goes on, finds that attempt and writes nothing if and only if the
attempt has not ended, or has ended with the disposition that was reserved. -/
theorem replays_iff {runs : List AttemptRun}
    (hrun : (attemptSystem.idle (emptyAttempts runs)).run happenings = some middle)
    (hcreated : plannedRow id createdAt command ∈ middle.state.rows.attempts)
    (hmore : middle.run more = some final)
    (hfound : final.state.rows.runs.find? (·.id = command.target.runId) = some run)
    (hopen : run.state.isTerminal = false) (choice : AttemptChoice) :
    ∃ row ∈ final.state.rows.attempts, row.id = id ∧
      (Replays final.state command choice row ↔
        run.versionSetFingerprint = command.versionSetFingerprint ∧ row.Readable ∧
          (row.state.isTerminal = true →
            dispositionOf row.state = command.retryDisposition)) := by
  obtain ⟨-, hmiddle⟩ := sound_attemptRun (d := reservationDiscipline)
    (Interleaving.Pool.sound_idle (sound_emptyAttempts runs)) hrun
  obtain ⟨hprogress, hfinal⟩ := sound_attemptRun hmiddle hmore
  obtain ⟨row, hrow, hid, hentry, -, hreserved⟩ := hprogress.rows _ hcreated
  obtain ⟨hdense, hsettled⟩ := hfinal.inv.rows
  have hstems : row.StemsFrom id createdAt command := ⟨hid, hentry, hreserved⟩
  have hnumbered := numbered_attemptRun
    (numbered_attemptRun (Transactions.numbered_idle _) hrun) hmore
  refine ⟨row, hrow, hid, ?_⟩
  rw [← disposition_of_stems hsettled hrow hstems]
  exact replays_iff_disposition hdense hnumbered hfound hopen hrow hstems

end

namespace ReplaySamples

open AttemptSamples

/-- The first attempt is reserved. -/
def reserved : List (Happening AttemptChoice AttemptRequest AttemptEvent) :=
  undisturbed 0 (.reserve reservation) 5 'b'

/-- It is started, and ends. -/
def ended (last : AttemptRequest) : List (Happening AttemptChoice AttemptRequest AttemptEvent) :=
  undisturbed 1 startFirst 4 'c' ++ undisturbed 2 last 3 'd'

/-- The moment at which the reservation is repeated. -/
def repeated : AttemptChoice := ⟨3, identifier 'e'⟩

end ReplaySamples

open AttemptSamples ReplaySamples in
/-- The attempt has failed, and the reservation finds it. -/
theorem replays_iff_failed :
    ∃ middle ∈ (attemptSystem.idle (emptyAttempts [run])).run reserved,
      ∃ final ∈ middle.run (ended failFirst), ∃ row ∈ final.state.rows.attempts,
        row.state = .retryableFailed ∧ Replays final.state reservation repeated row := by
  obtain ⟨middle, hrun, hcreated, final, hmore, hfound, hall⟩ :
      ∃ middle ∈ (attemptSystem.idle (emptyAttempts [run])).run reserved,
        plannedRow (identifier 'b') 0 reservation ∈ middle.state.rows.attempts ∧
          ∃ final ∈ middle.run (ended failFirst),
            final.state.rows.runs.find? (·.id = reservation.target.runId) = some run ∧
              ∀ row ∈ final.state.rows.attempts, row.Readable ∧ row.state = .retryableFailed := by
    decide +kernel
  obtain ⟨row, hrow, -, hiff⟩ := replays_iff hrun hcreated hmore hfound (by decide) repeated
  obtain ⟨hreadable, hfailed⟩ := hall row hrow
  refine ⟨middle, hrun, final, hmore, row, hrow, hfailed, hiff.mpr ⟨rfl, hreadable, fun _ => ?_⟩⟩
  rw [hfailed]
  rfl

open AttemptSamples ReplaySamples in
/-- The attempt has succeeded, and the reservation is a conflict. -/
theorem not_replays_succeeded :
    ∃ middle ∈ (attemptSystem.idle (emptyAttempts [run])).run reserved,
      plannedRow (identifier 'b') 0 reservation ∈ middle.state.rows.attempts ∧
        ∃ final ∈ middle.run (ended succeedFirst),
          final.state.rows.runs.find? (·.id = reservation.target.runId) = some run ∧
            run.state.isTerminal = false ∧
            ((reserve reservation).alone repeated final.state).map Prod.fst =
              some (.error .immutableConflict) ∧
            ∀ row, ¬ Replays final.state reservation repeated row := by
  obtain ⟨middle, hrun, hcreated, final, hmore, hfound, hconflict⟩ :
      ∃ middle ∈ (attemptSystem.idle (emptyAttempts [run])).run reserved,
        plannedRow (identifier 'b') 0 reservation ∈ middle.state.rows.attempts ∧
          ∃ final ∈ middle.run (ended succeedFirst),
            final.state.rows.runs.find? (·.id = reservation.target.runId) = some run ∧
              ((reserve reservation).alone repeated final.state).map Prod.fst =
                some (.error .immutableConflict) := by
    decide +kernel
  refine ⟨middle, hrun, hcreated, final, hmore, hfound, by decide, hconflict, ?_⟩
  rintro row ⟨mapped, s', -, halone, -⟩
  rw [halone] at hconflict
  cases hconflict

end PatchPilot.Osv
