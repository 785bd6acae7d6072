import PatchPilot.Foundation.Fallible
import PatchPilot.Osv.Attempts.Dense

set_option autoImplicit false

/-!
# Osv: attempts at the same time

Reserve decides on attempts that it has read.  The one before the reserved ordinal is terminal,
so it is still there when the insertion is committed, and the lock of the index entry keeps
every other insertion of the ordinal away.  Start and recordTerminal update a row that they
have locked, which the trigger has found not to be terminal.
-/

namespace PatchPilot.Osv

open PatchPilot.Foundation

/-! ## Disciplines -/

/-- What an attempt keeps of its reservation. -/
structure AttemptRow.SameReservation (old new : AttemptRow) : Prop where
  fingerprint : new.versionSetFingerprint = old.versionSetFingerprint
  nominalDelay : new.nominalDelayMs = old.nominalDelayMs
  selectedDelay : new.selectedDelayMs = old.selectedDelayMs
  createdAt : new.createdAt = old.createdAt
  disposition : new.state.isTerminal = false → new.retryDisposition = old.retryDisposition

/-- What an update makes of an attempt: the disposition changes with a terminal state alone. -/
structure AttemptRow.Rewrites (old new : AttemptRow) : Prop
    extends old.SameReservation new where
  settled : new.state.isTerminal = true → new.retryDisposition = dispositionOf new.state

/-- A discipline of the attempts, which may say more than that they are dense. -/
class Fits (d : Discipline attemptSchema) : Prop where
  dense : ∀ {tables}, d.Good tables → tables.Dense
  later : ∀ {tables tables'}, d.Later tables tables' → tables.Later tables'
  same : ∀ {key : AttemptKey} {tables tables'}, d.Same key tables tables' ↔ key.Same tables tables'
  empty : ∀ runs, d.Good ⟨[], runs⟩
  setRuns : ∀ {tables} runs, d.Good tables →
    d.Good ⟨tables.attempts, runs⟩ ∧ d.Later tables ⟨tables.attempts, runs⟩
  inserted : ∀ {tables row}, d.Good tables → tables.MayInsert row → row.state = .planned →
    d.Good (AttemptTables.apply (.inserted row) tables) ∧
      d.Later tables (AttemptTables.apply (.inserted row) tables)
  updated : ∀ {tables row}, d.Good tables → tables.MayUpdate row →
    (∀ old ∈ tables.attempts, old.id = row.id → old.Rewrites row) →
    d.Good (AttemptTables.apply (.updated row) tables) ∧
      d.Later tables (AttemptTables.apply (.updated row) tables)

/-- Density alone. -/
instance : Fits attemptDiscipline where
  dense := id
  later := id
  same := Iff.rfl
  empty := fun _ => ⟨fun _ hrow => absurd hrow List.not_mem_nil, List.nodup_nil, List.nodup_nil,
    fun _ hrow => absurd hrow List.not_mem_nil⟩
  setRuns := fun {tables} _ h => ⟨⟨h.checks, h.ids, h.entries, h.reached⟩,
    AttemptTables.Later.refl tables⟩
  inserted := fun h hmay _ => ⟨dense_inserted h hmay, later_inserted⟩
  updated := fun h hmay _ => ⟨dense_updated h hmay, later_updated h hmay⟩

/-! ## What a transaction carries -/

/-- A row that a transaction has inserted. -/
structure Inserting (s : Transactions attemptSchema) (number : Nat) (row : AttemptRow) : Prop where
  entryHeld : @Holds _ attemptSchema s number (.entry row.target row.attemptOrdinal)
  idHeld : @Holds _ attemptSchema s number (.row row.id)
  may : number ∈ s.opened → s.rows.MayInsert row
  planned : row.state = .planned

/-- A row that a transaction has updated. -/
structure Updating (s : Transactions attemptSchema) (number : Nat) (row : AttemptRow) : Prop where
  held : @Holds _ attemptSchema s number (.row row.id)
  may : number ∈ s.opened → s.rows.MayUpdate row
  rewrites : number ∈ s.opened →
    ∀ old ∈ s.rows.attempts, old.id = row.id → old.Rewrites row

section

variable {d : Discipline attemptSchema} [Fits d] {s s' : Transactions attemptSchema} {number : Nat}
  {row : AttemptRow}

theorem Inserting.later (h : Inserting s number row)
    (hprogress : Progress d s s') : Inserting s' number row := by
  refine ⟨h.entryHeld.later hprogress, h.idHeld.later hprogress, fun hopen => ?_, h.planned⟩
  have hmay := h.may (hprogress.opened number h.idHeld.1 hopen)
  have hentry := Fits.same.mp (h.entryHeld.same hprogress hopen)
  have hid := Fits.same.mp (h.idHeld.same hprogress hopen)
  refine ⟨hmay.checks, fun other hother heq => ?_, hentry hmay.entry,
    hmay.reached.later (Fits.later hprogress.rows)⟩
  exact hmay.id other ((hid other heq).mpr hother) heq

theorem Updating.later (h : Updating s number row)
    (hprogress : Progress d s s') : Updating s' number row := by
  refine ⟨h.held.later hprogress, fun hopen => ?_, fun hopen old hold hid => ?_⟩
  · have hmay := h.may (hprogress.opened number h.held.1 hopen)
    have hsame := Fits.same.mp (h.held.same hprogress hopen)
    obtain ⟨old, hold, hid, hentry, hnot⟩ := hmay.old
    exact ⟨hmay.checks, old, (hsame old hid).mp hold, hid, hentry, hnot⟩
  · have hsame := Fits.same.mp (h.held.same hprogress hopen)
    exact h.rewrites (hprogress.opened number h.held.1 hopen) old ((hsame old hid).mpr hold) hid

/-- What a transaction on the attempts writes: nothing, or one row. -/
def MayWrite (s : Transactions attemptSchema) (number : Nat) : List AttemptWrite → Prop
  | [] => True
  | [.inserted row] => Inserting s number row
  | [.updated row] => Updating s number row
  | _ => False

/-- What a transaction writes may be committed. -/
theorem MayWrite.mayCommit {writes : List AttemptWrite} (h : MayWrite s number writes)
    (hsound : Sound d s) (hopen : number ∈ s.opened) :
    MayCommit d s number writes := by
  unfold MayWrite at h
  split at h
  · exact MayCommit.nothing hsound number
  · rename_i row
    obtain ⟨hgood, hlater⟩ := Fits.inserted hsound.rows (h.may hopen) h.planned
    refine ⟨hgood, hlater, fun key hkey => Fits.same.mpr ?_⟩
    refine same_inserted ?_ ?_
    · rintro rfl
      exact hkey (h.entryHeld.2 hopen)
    · rintro rfl
      exact hkey (h.idHeld.2 hopen)
  · rename_i row
    have hmay := h.may hopen
    obtain ⟨hgood, hlater⟩ := Fits.updated hsound.rows hmay (h.rewrites hopen)
    refine ⟨hgood, hlater, fun key hkey => Fits.same.mpr ?_⟩
    refine same_updated (Fits.dense hsound.rows) hmay ?_
    rintro rfl
    exact hkey (h.held.2 hopen)
  · exact h.elim

/-! ## Statements -/

/-- An attempt that was read: a terminal one is still as it was. -/
def WasStored (target : AttemptTarget) (row : AttemptRow) (s : Transactions attemptSchema) : Prop :=
  row.target = target ∧ (row.state.isTerminal = true → row ∈ s.rows.attempts)

omit [Fits d] in
/-- A read of which nothing is known. -/
theorem keeps_read {statement : AttemptStatement} :
    PartKeeps d (fun _ _ => True)
      (@query _ attemptSchema number statement) s :=
  keeps_query fun _ _ _ _ _ _ _ _ _ _ => trivial

theorem keeps_selectAttempts {target : AttemptTarget} :
    PartKeeps d (fun rows s => ∀ row ∈ rows, WasStored target row s)
      (selectAttempts number target) s := by
  refine keeps_query fun s' _ _ _ _ rows hanswer later hlater _ row hrow => ?_
  have hrows := Except.ok.inj hanswer
  subst hrows
  have hmem := List.mem_of_mem_take hrow
  unfold AttemptTables.ofTarget at hmem
  rw [List.mem_insertionSort, List.mem_filter, decide_eq_true_eq] at hmem
  exact ⟨hmem.2, (Fits.later hlater.rows).terminal hmem.1⟩

/-- A row that was inserted passes every check of the table. -/
theorem insert_eq_ok {tables : AttemptTables} {row row' : AttemptRow}
    (h : tables.insert row = .ok row') :
    row' = row ∧ row.satisfiesChecks = true ∧
      ∀ other ∈ tables.attempts, other.id ≠ row.id ∧ other.entry ≠ row.entry := by
  unfold AttemptTables.insert at h
  split at h
  · cases h
  · rename_i hchecks
    split at h
    · cases h
    · rename_i hunique
      split at h
      · cases h
      · refine ⟨(Except.ok.inj h).symm, by simpa using hchecks, fun other hother => ?_⟩
        have hnot := List.any_eq_false.mp (Bool.eq_false_iff.mpr hunique) other hother
        rw [Bool.or_eq_true, decide_eq_true_eq, decide_eq_true_eq, not_or] at hnot
        exact hnot

/-- An insertion of a reservation that is reached. -/
theorem keeps_insertAttempt {now : Timestamptz} {command : OsvRuntimeStageAttemptReserveCommand}
    (hnumber : number < s.begun)
    (hreached : s.rows.Reached command.target command.attemptOrdinal) :
    PartKeeps d (fun row s => Inserting s number row)
      (insertAttempt number now command) s := by
  refine keeps_query fun s' hprogress _ _ choice row hanswer later hlater _ => ?_
  obtain ⟨rfl, hchecks, hfresh⟩ := insert_eq_ok hanswer
  have hnumber' := Nat.lt_of_lt_of_le hnumber hprogress.begun
  have hkeys : ∀ key ∈ AttemptTables.keys (.insertAttempt now command) choice s'.rows,
      @Holds _ attemptSchema
        (s'.take number (AttemptTables.keys (.insertAttempt now command) choice s'.rows))
        number key :=
    fun key hkey => holds_of_take hnumber' (@Progress.refl _ _ d _) hkey
  have hinserting : Inserting
      (s'.take number (AttemptTables.keys (.insertAttempt now command) choice s'.rows)) number
      (plannedRow choice.generatedId now command) := by
    refine ⟨hkeys _ List.mem_cons_self, hkeys _ (List.mem_cons_of_mem _ List.mem_cons_self),
      fun _ => ⟨hchecks, fun other hother => (hfresh other hother).1,
        fun other hother => (hfresh other hother).2, ?_⟩, rfl⟩
    exact hreached.later (Fits.later hprogress.rows)
  exact hinserting.later hlater

/-- A row that was updated has passed the trigger and the checks. -/
theorem update_eq_ok {old new new' : AttemptRow} (h : AttemptTables.update old new = .ok new') :
    new' = new ∧ new.satisfiesChecks = true ∧ old.id = new.id ∧ old.entry = new.entry ∧
      old.state.isTerminal = false := by
  unfold AttemptTables.update at h
  split at h
  · cases h
  · rename_i htrigger
    split at h
    · cases h
    · rename_i hchecks
      have hpermits : old.triggerPermits new = true := by simpa using htrigger
      unfold AttemptRow.triggerPermits at hpermits
      simp only [Bool.and_eq_true, decide_eq_true_eq, Bool.not_eq_true'] at hpermits
      obtain ⟨⟨⟨⟨⟨⟨⟨⟨hid, htarget⟩, hordinal⟩, -⟩, -⟩, -⟩, -⟩, hnot⟩, -⟩ := hpermits
      refine ⟨(Except.ok.inj h).symm, by simpa using hchecks, hid.symm, ?_, hnot⟩
      unfold AttemptRow.entry
      rw [htarget, hordinal]

theorem keeps_updateAttempt {update : AttemptUpdate} (hnumber : number < s.begun)
    (hset : ∀ old : AttemptRow, old.Rewrites (update.set old)) :
    PartKeeps d (fun result s => ∀ row ∈ result, Updating s number row)
      (updateAttempt number update) s := by
  refine keeps_query fun s' hprogress hsound _ choice result hanswer later hlater _ row hrow => ?_
  change AttemptTables.answer (.updateAttempt update) choice s'.rows = .ok result at hanswer
  unfold AttemptTables.answer at hanswer
  dsimp only at hanswer
  split at hanswer
  · cases hanswer
    cases hrow
  · rename_i old hfind
    obtain ⟨new, hnew, rfl⟩ := map_eq_ok.mp hanswer
    cases hrow
    obtain ⟨rfl, hchecks, hid, hentry, hnot⟩ := update_eq_ok hnew
    have hkeys : AttemptTables.keys (.updateAttempt update) choice s'.rows = [.row old.id] := by
      unfold AttemptTables.keys
      dsimp only
      rw [hfind]
      rfl
    have hmem := List.mem_of_find?_eq_some hfind
    have hheld := holds_of_take (Nat.lt_of_lt_of_le hnumber hprogress.begun)
      (@Progress.refl _ _ d _)
      (show AttemptKey.row old.id ∈ AttemptTables.keys (.updateAttempt update) choice s'.rows by
        rw [hkeys]; exact List.mem_cons_self)
    rw [hid] at hheld
    have hupdating : Updating
        (s'.take number (AttemptTables.keys (.updateAttempt update) choice s'.rows)) number
        (update.set old) :=
      ⟨hheld, fun _ => ⟨hchecks, old, hmem, hid, hentry, hnot⟩, fun hopen other hother hsame => by
        have heq : other = old := List.inj_on_of_nodup_map
          (Fits.dense hsound.rows).ids hother hmem (hsame.trans hid.symm)
        rw [heq]
        exact hset old⟩
    exact hupdating.later hlater

/-! ## Calls -/

/-- What a callback returns may be written. -/
def OutcomeMayWrite {α : Type} (number : Nat) (outcome : α × List AttemptWrite)
    (s : Transactions attemptSchema) : Prop :=
  MayWrite s number outcome.2

theorem keeps_transaction {α : Type}
    {callback : Nat → AttemptChoice → AttemptSql (α × List AttemptWrite)}
    (h : ∀ number choice s', Progress d s s' → number < s'.begun →
      PartKeeps d (OutcomeMayWrite number) (callback number choice) s') :
    Keeps d (fun _ _ => True) (@runTransaction _ attemptSchema _ callback) s := by
  refine keeps_runTransaction (fun _ _ _ _ _ => trivial)
    fun number choice s' hprogress _ hnumber => ?_
  refine Safe.weaken ?_ (h number choice s' hprogress hnumber)
  intro result s'' _ hresult outcome houtcome later hlater hsound
  exact ⟨fun hopen => (hresult later hlater hsound outcome houtcome).mayCommit hsound hopen,
    trivial⟩

theorem keeps_runAttemptTransaction {callback : Nat → AttemptChoice → AttemptSql AttemptOutcome}
    (h : ∀ number choice s', Progress d s s' → number < s'.begun →
      PartKeeps d (OutcomeMayWrite number) (callback number choice) s') :
    Keeps d (fun _ _ => True) (runAttemptTransaction callback) s := by
  refine Safe.andThenFrom (keeps_transaction h) fun reply s' _ _ _ => ?_
  split
  · exact Safe.done fun _ _ _ => trivial
  · exact Safe.done fun _ _ _ => trivial

omit [Fits d] in
/-- A callback that writes nothing more. -/
theorem keeps_unwritten {result : AttemptResult} :
    PartKeeps d (OutcomeMayWrite number) (pure (unwritten result)) s :=
  PartKeeps.result fun _ _ _ => trivial

/-! ### Reserve -/

omit [Fits d] in
theorem keeps_answerReserved {command : OsvRuntimeStageAttemptReserveCommand} :
    PartKeeps d (OutcomeMayWrite number) (answerReserved row command) s := by
  refine PartKeeps.throwing fun mapped _ => ?_
  split
  · exact keeps_unwritten
  · exact keeps_unwritten

omit [Fits d] in
theorem keeps_reloadAttempt {command : OsvRuntimeStageAttemptReserveCommand} :
    PartKeeps d (OutcomeMayWrite number) (reloadAttempt number command) s := by
  refine PartKeeps.andThen keeps_read fun existing s' _ _ _ => ?_
  split
  · exact keeps_unwritten
  · exact keeps_answerReserved
  · exact keeps_unwritten

theorem keeps_createAttempt {now : Timestamptz} {command : OsvRuntimeStageAttemptReserveCommand}
    (hnumber : number < s.begun)
    (hreached : s.rows.Reached command.target command.attemptOrdinal) :
    PartKeeps d (OutcomeMayWrite number) (createAttempt number now command) s := by
  refine PartKeeps.caught (keeps_insertAttempt hnumber hreached)
    (fun row s' _ _ hinserting => ?_) fun fault s' _ _ => ?_
  · -- the row is written whether it can be mapped or not
    dsimp only
    split
    · exact PartKeeps.result fun _ hlater _ => hinserting.later hlater
    · exact PartKeeps.result fun _ hlater _ => hinserting.later hlater
  · split
    · contradiction
    · exact keeps_reloadAttempt
    · exact keeps_unwritten

/-- The expected ordinal is reached. -/
theorem reached_of_expected {target : AttemptTarget} {prior : List AttemptRow}
    {attemptOrdinal : Nat} (hprior : ∀ row ∈ prior, WasStored target row s)
    (h : expectedNextAttemptOrdinal prior = some attemptOrdinal) :
    s.rows.Reached target attemptOrdinal := by
  unfold expectedNextAttemptOrdinal at h
  split at h
  · cases h
    exact .inl rfl
  · rename_i latest hlatest
    split at h
    · cases h
    · split at h
      · cases h
      · rename_i hretried
        rw [not_or, not_not, not_not] at hretried
        dsimp only at h
        split at h
        · cases h
        · cases h
          obtain ⟨htarget, hstored⟩ := hprior latest (List.mem_of_getLast? hlatest)
          have hmem := hstored (AttemptRow.Retried.isTerminal hretried)
          exact .inr ⟨latest, hmem, htarget, rfl, hretried⟩

theorem keeps_reserveAfter {now : Timestamptz} {command : OsvRuntimeStageAttemptReserveCommand}
    {prior : List AttemptRow} (hnumber : number < s.begun)
    (hprior : ∀ row ∈ prior, WasStored command.target row s) :
    PartKeeps d (OutcomeMayWrite number)
      (reserveAfter number now command prior) s := by
  unfold reserveAfter
  split
  · exact keeps_unwritten
  · split
    · exact keeps_answerReserved
    · split
      · exact keeps_unwritten
      · split
        · exact keeps_unwritten
        · split
          · exact keeps_unwritten
          · split
            · exact keeps_unwritten
            · rename_i hexpected
              exact keeps_createAttempt hnumber (reached_of_expected hprior (not_not.mp hexpected))

theorem keeps_reserveIn {command : OsvRuntimeStageAttemptReserveCommand} {choice : AttemptChoice}
    (hnumber : number < s.begun) :
    PartKeeps d (OutcomeMayWrite number) (reserveIn command number choice) s := by
  refine PartKeeps.andThen keeps_read fun run s' hprogress _ _ => ?_
  have hnumber' := Nat.lt_of_lt_of_le hnumber hprogress.begun
  split
  · exact keeps_unwritten
  · dsimp only
    split
    · exact keeps_unwritten
    · split
      · exact keeps_unwritten
      · split
        · exact keeps_unwritten
        · split
          · exact keeps_unwritten
          · refine PartKeeps.andThen keeps_selectAttempts fun prior s'' hprogress' _ hprior => ?_
            exact keeps_reserveAfter (Nat.lt_of_lt_of_le hnumber' hprogress'.begun) hprior

/-! ### Start and recordTerminal -/

theorem rewrites_start (now : Timestamptz) (target : AttemptTarget) (attemptOrdinal : Nat)
    (expectedState : OsvRuntimeAttemptState) (old : AttemptRow) :
    old.Rewrites
      ((AttemptUpdate.mk now target attemptOrdinal expectedState .start).set old) where
  fingerprint := rfl
  nominalDelay := rfl
  selectedDelay := rfl
  createdAt := rfl
  disposition := fun _ => rfl
  settled := fun h => Bool.noConfusion h

theorem rewrites_terminalUpdate (command : OsvRuntimeStageAttemptTerminalCommand)
    {terminalState : OsvRuntimeAttemptState} (hterminal : terminalState.isTerminal = true)
    (now : Timestamptz) (old : AttemptRow) :
    old.Rewrites ((terminalUpdate command terminalState now).set old) where
  fingerprint := rfl
  nominalDelay := rfl
  selectedDelay := rfl
  createdAt := rfl
  disposition := fun h => Bool.noConfusion (hterminal.symm.trans h)
  settled := fun _ => rfl

omit [Fits d] in
theorem keeps_reloadStart {command : OsvRuntimeStageAttemptStartCommand} :
    PartKeeps d (OutcomeMayWrite number) (reloadStart number command) s := by
  refine PartKeeps.andThen keeps_read fun existing s' _ _ _ => ?_
  split
  · exact keeps_unwritten
  · refine PartKeeps.throwing fun mapped _ => ?_
    split
    · exact keeps_unwritten
    · exact keeps_unwritten
  · exact keeps_unwritten

theorem keeps_startIn {command : OsvRuntimeStageAttemptStartCommand} {choice : AttemptChoice}
    (hnumber : number < s.begun) :
    PartKeeps d (OutcomeMayWrite number) (startIn command number choice) s := by
  refine PartKeeps.andThen keeps_read fun run s' hprogress _ _ => ?_
  have hnumber' := Nat.lt_of_lt_of_le hnumber hprogress.begun
  split
  · exact keeps_unwritten
  · split
    · exact keeps_unwritten
    · refine PartKeeps.andThen (keeps_updateAttempt hnumber' (rewrites_start _ _ _ _))
        fun updated s'' _ _ hupdated => ?_
      split
      · rename_i row
        refine PartKeeps.throwing fun mapped _ => ?_
        exact PartKeeps.result fun _ hlater _ => (hupdated row rfl).later hlater
      · exact keeps_reloadStart

theorem keeps_recordTerminalIn {command : OsvRuntimeStageAttemptTerminalCommand}
    {terminalState : OsvRuntimeAttemptState} (hterminal : terminalState.isTerminal = true)
    {choice : AttemptChoice} (hnumber : number < s.begun) :
    PartKeeps d (OutcomeMayWrite number)
      (recordTerminalIn command terminalState number choice) s := by
  refine PartKeeps.andThen
    (keeps_updateAttempt hnumber (rewrites_terminalUpdate command hterminal choice.now))
    fun updated s' _ _ hupdated => ?_
  refine PartKeeps.result fun _ hlater _ => ?_
  cases updated with
  | none => trivial
  | some row => exact (hupdated row rfl).later hlater

theorem keeps_reloadTerminal {command : OsvRuntimeStageAttemptTerminalCommand}
    {expectedExhausted : Bool} :
    Keeps d (fun _ _ => True) (reloadTerminal command expectedExhausted) s := by
  refine keeps_runAttemptTransaction fun number choice s' _ _ => ?_
  refine PartKeeps.andThen keeps_read fun existing s'' _ _ _ => ?_
  split
  · exact keeps_unwritten
  · refine PartKeeps.throwing fun mapped _ => ?_
    split
    · exact keeps_unwritten
    · exact keeps_unwritten
  · exact keeps_unwritten

theorem keeps_recordTerminal {command : OsvRuntimeStageAttemptTerminalCommand} :
    Keeps d (fun _ _ => True) (recordTerminal command) s := by
  unfold recordTerminal
  extract_lets remaining exhaustRetryable terminalState
  have hterminal : terminalState.isTerminal = true := by
    unfold terminalState
    split
    · rfl
    · exact command.terminal
  split
  · exact Safe.done fun _ _ _ => trivial
  · refine Safe.andThenFrom
      (keeps_transaction fun number choice s' _ hnumber => keeps_recordTerminalIn hterminal hnumber)
      fun reply s' _ _ _ => ?_
    split
    · exact Safe.done fun _ _ _ => trivial
    · split
      · exact Safe.done fun _ _ _ => trivial
      · exact Safe.done fun _ _ _ => trivial
    · exact keeps_reloadTerminal

theorem keeps_program (request : AttemptRequest) :
    Keeps d (fun _ _ => True) request.program s := by
  cases request with
  | reserve command =>
      exact keeps_runAttemptTransaction fun _ _ _ _ hnumber => keeps_reserveIn hnumber
  | start command =>
      exact keeps_runAttemptTransaction fun _ _ _ _ hnumber => keeps_startIn hnumber
  | recordTerminal command => exact keeps_recordTerminal

end

/-! ## Runs -/

section

variable {d : Discipline attemptSchema} [Fits d] {s : Transactions attemptSchema}

theorem same_of_attempts {key : AttemptKey} {tables tables' : AttemptTables}
    (h : tables'.attempts = tables.attempts) : key.Same tables tables' := by
  cases key with
  | entry target attemptOrdinal => exact fun hnone row hrow => hnone row (h ▸ hrow)
  | row id =>
      intro row _
      rw [h]

/-- Other code keeps the contract. -/
theorem keeps_attemptEvent (h : Sound d s) (event : AttemptEvent) :
    Progress d s (event.apply s) ∧ Sound d (event.apply s) := by
  cases event with
  | setRuns runs =>
      obtain ⟨hgood, hlater⟩ := Fits.setRuns runs h.rows
      exact keeps_setRows h hgood hlater fun lock _ => Fits.same.mpr (same_of_attempts rfl)
  | lost number => exact keeps_close h number

variable {happenings : List (Happening AttemptChoice AttemptRequest AttemptEvent)}
  {pool final : attemptSystem.Pool}

/-- What every run of the calls keeps. -/
theorem sound_attemptRun
    (h : pool.Sound d.contract AnyCall fun _ _ _ => True)
    (hrun : pool.run happenings = some final) :
    Progress d pool.state final.state ∧
      final.Sound d.contract AnyCall fun _ _ _ => True :=
  h.run (fun request _ _ => keeps_program request)
    (fun event s s' hevent hsound => by
      cases hevent
      exact keeps_attemptEvent hsound event)
    (Interleaving.Pool.permitsAll_of_forall (fun _ _ => trivial) _) hrun

/-- A database without attempts. -/
def emptyAttempts (runs : List AttemptRun) : Transactions attemptSchema :=
  Transactions.idle attemptSchema ⟨[], runs⟩

theorem sound_emptyAttempts (runs : List AttemptRun) :
    Sound d (emptyAttempts runs) :=
  sound_idle (Fits.empty runs)

/-- In every run the attempts of every target are in order, and a terminal attempt is there,
as it is, in every state that is reached from then on. -/
theorem attempts_inOrder {runs : List AttemptRun}
    (hrun : (attemptSystem.idle (emptyAttempts runs)).run happenings = some final) :
    (∀ target, InOrder (final.state.rows.attemptsOf target) (attemptLimit target.stage)) ∧
      ∀ more last, final.run more = some last →
        ∀ row ∈ final.state.rows.attempts, row.state.isTerminal = true →
          row ∈ last.state.rows.attempts := by
  obtain ⟨-, hsound⟩ := sound_attemptRun (d := attemptDiscipline)
    (Interleaving.Pool.sound_idle (sound_emptyAttempts runs)) hrun
  refine ⟨inOrder_of_dense hsound.inv.rows, fun more last hmore row hrow hterminal => ?_⟩
  exact (sound_attemptRun hsound hmore).1.rows.terminal hrow hterminal

end

namespace AttemptSamples

/-- An identifier with one letter. -/
def identifier (letter : Char) : JsString :=
  List.replicate 8 (unit letter) ++ unit '-' :: List.replicate 4 (unit letter) ++
    js "-4" ++ List.replicate 3 (unit letter) ++ js "-8" ++ List.replicate 3 (unit letter) ++
    unit '-' :: List.replicate 12 (unit letter)

def fingerprint : JsString := List.replicate 64 (unit 'f')

/-- A stage without a target digest. -/
def target : AttemptTarget := ⟨identifier 'a', .listingPage, none⟩

def run : AttemptRun := ⟨identifier 'a', fingerprint, .running⟩

/-- The reservation of the first attempt. -/
def reservation : OsvRuntimeStageAttemptReserveCommand :=
  ⟨target, 1, fingerprint, 0, .durableRetry, by decide, by decide, by decide, by decide,
    by decide, by decide⟩

def reserveFirst : AttemptRequest := .reserve reservation

def startFirst : AttemptRequest := .start ⟨target, 1, by decide⟩

def failFirst : AttemptRequest :=
  .recordTerminal ⟨target, 1, .running, .retryableFailed, some (js "timeout"),
    some .listingTransport, some 1000, by decide, by decide, by decide, by decide, by decide,
    by decide, by decide⟩

def succeedFirst : AttemptRequest :=
  .recordTerminal ⟨target, 1, .running, .succeeded, none, none, none, by decide, by decide,
    by decide, by decide, by decide, by decide, by decide⟩

def reserveSecond : AttemptRequest :=
  .reserve ⟨target, 2, fingerprint, 1000, .durableRetry, by decide, by decide, by decide, by decide,
    by decide, by decide⟩

/-- A stage of a run, without a target digest. -/
def targetOf (stage : OsvRuntimeRetryableStage) : AttemptTarget := ⟨identifier 'a', stage, none⟩

def reserveOf (stage : OsvRuntimeRetryableStage) : AttemptRequest :=
  .reserve ⟨targetOf stage, 1, fingerprint, 0, .noRetry, by cases stage <;> decide,
    by cases stage <;> decide, by decide, by decide, by decide, .inl rfl⟩

def startOf (stage : OsvRuntimeRetryableStage) : AttemptRequest :=
  .start ⟨targetOf stage, 1, by cases stage <;> decide⟩

/-- The first attempt of a stage fails, and may be retried. -/
def failureOf (stage : OsvRuntimeRetryableStage) : OsvRuntimeStageAttemptTerminalCommand :=
  ⟨targetOf stage, 1, .running, .retryableFailed, some (js "timeout"), some .runtimeCoordination,
    some 1000, by cases stage <;> decide, by decide, by decide, by decide, by decide, by decide,
    by cases stage <;> decide⟩

/-- A call that nothing interrupts. -/
def undisturbed (process : Nat) (request : AttemptRequest) (steps : Nat) (letter : Char) :
    List (Happening AttemptChoice AttemptRequest AttemptEvent) :=
  .start process request ::
    List.replicate steps (.call process ⟨process, identifier letter⟩)

/-- The first attempt is reserved twice at the same time; it fails, and a second one is
reserved. -/
def retriedOnce : List (Happening AttemptChoice AttemptRequest AttemptEvent) :=
  undisturbed 0 reserveFirst 3 'b' ++ undisturbed 1 reserveFirst 3 'c' ++
    List.replicate 2 (.call 0 ⟨0, identifier 'b'⟩) ++
    List.replicate 3 (.call 1 ⟨1, identifier 'c'⟩) ++ undisturbed 2 startFirst 4 'd' ++
    undisturbed 3 failFirst 3 'd' ++ undisturbed 4 reserveSecond 5 'e'

end AttemptSamples

open AttemptSamples in
/-- Two attempts of a target, the first of which is retried. -/
theorem attempts_inOrder_sample :
    ∃ final ∈ (attemptSystem.idle (emptyAttempts [run])).run retriedOnce,
      final.state.rows.attempts.map (·.attemptOrdinal) = [1, 2] ∧
        InOrder (final.state.rows.attemptsOf target) 3 := by
  obtain ⟨final, hrun, hordinals⟩ :
      ∃ final ∈ (attemptSystem.idle (emptyAttempts [run])).run retriedOnce,
        final.state.rows.attempts.map (·.attemptOrdinal) = [1, 2] := by
    decide +kernel
  exact ⟨final, hrun, hordinals, (attempts_inOrder hrun).1 target⟩

end PatchPilot.Osv
