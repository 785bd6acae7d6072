import PatchPilot.Foundation.Steps
import PatchPilot.Foundation.Undisturbed
import PatchPilot.Osv.Attempts.Runs

set_option autoImplicit false

/-!
# Osv: an attempt that has failed

The constructor of a terminal command, the adapter and the constraints of the table each know
how often a stage is attempted.  For the convergence of the inventory they do not agree: it is
not attempted again, so the adapter makes an exhaustion of its failure, and no row of this
stage may be exhausted.
-/

namespace PatchPilot.Osv

open PatchPilot.Foundation

/-! ## What is asked for -/

/-- A command reports, with a code and a catalog, a failure of an attempt that may be
retried. -/
structure OsvRuntimeStageAttemptTerminalCommand.ReportsFailure
    (command : OsvRuntimeStageAttemptTerminalCommand) (row : AttemptRow) : Prop where
  entry : row.entry = (command.target, command.attemptOrdinal)
  state : command.terminalState = .retryableFailed
  code : command.failureCode.isSome = true
  catalog : command.failureCatalog.isSome = true

/-- The state in which a command leaves its attempt. -/
def OsvRuntimeStageAttemptTerminalCommand.recorded
    (command : OsvRuntimeStageAttemptTerminalCommand) : OsvRuntimeAttemptState :=
  recordedState command.terminalState command.attemptOrdinal command.target.stage

/-- The row that a command writes over an attempt at a time. -/
def OsvRuntimeStageAttemptTerminalCommand.written
    (command : OsvRuntimeStageAttemptTerminalCommand) (now : Timestamptz) (row : AttemptRow) :
    AttemptRow :=
  (terminalUpdate command command.recorded now).set row

/-- A call that nothing comes between stores the state of the command in the row of an
attempt, as the constraints allow it. -/
def RecordsFailure (s : Transactions attemptSchema)
    (command : OsvRuntimeStageAttemptTerminalCommand) (choice : AttemptChoice)
    (row : AttemptRow) : Prop :=
  ∃ result s', (recordTerminal command).alone choice s = some (result, s') ∧
    ∃ stored ∈ s'.rows.attempts, stored.id = row.id ∧ stored.state = command.recorded ∧
      stored.satisfiesChecks = true

/-- No transaction that is open has changed an attempt.  A statement waits for one that has. -/
def AttemptRow.Unlocked (row : AttemptRow) (s : Transactions attemptSchema) : Prop :=
  ∀ lock ∈ s.locks, lock.2 ≠ AttemptKey.row row.id

/-! ## The state that is recorded -/

section

variable {command : OsvRuntimeStageAttemptTerminalCommand} {row : AttemptRow}

theorem isTerminal_recordedState {terminalState : OsvRuntimeAttemptState}
    (h : terminalState.isTerminal = true) (attemptOrdinal : Nat)
    (stage : OsvRuntimeRetryableStage) :
    (recordedState terminalState attemptOrdinal stage).isTerminal = true := by
  unfold recordedState
  split
  · rfl
  · exact h

/-- The last attempt of a stage is exhausted by its failure, and any other one is retried. -/
theorem recorded_eq (h : command.ReportsFailure row) :
    command.recorded =
      if nextOsvRuntimeAttemptOrdinal row.attemptOrdinal row.target.stage = none then .exhausted
      else .retryableFailed := by
  obtain ⟨htarget, hordinal⟩ := Prod.mk.inj h.entry
  unfold OsvRuntimeStageAttemptTerminalCommand.recorded recordedState
  rw [h.state, htarget, hordinal]
  simp only [true_and]

/-- Only an attempt that is running fails. -/
theorem expectedState_eq (h : command.terminalState = .retryableFailed) :
    command.expectedState = .running := by
  refine command.expected.resolve_left fun hplanned => ?_
  have htransition := command.transition
  rw [hplanned, h] at htransition
  unfold recordedState at htransition
  split at htransition <;> cases htransition

/-- What the adapter computes is what the constructor has looked at. -/
theorem recordTerminal_eq (command : OsvRuntimeStageAttemptTerminalCommand) :
    recordTerminal command = (do
      let reply ← @runTransaction _ attemptSchema _ (recordTerminalIn command command.recorded)
      match reply.result with
      | .error fault => return .error (mapCaughtAttempt fault)
      | .ok (some row) =>
          match mapAttempt row with
          | .ok mapped => return .ok (.transitioned, mapped)
          | .error fault => return .error (mapCaughtAttempt fault)
      | .ok none =>
          reloadTerminal command (decide (command.terminalState = .retryableFailed) &&
            (nextOsvRuntimeAttemptOrdinal command.attemptOrdinal
              command.target.stage).isNone)) := by
  have hstate : (if (decide (command.terminalState = .retryableFailed) &&
      (nextOsvRuntimeAttemptOrdinal command.attemptOrdinal command.target.stage).isNone) = true
      then .exhausted else command.terminalState) = command.recorded := by
    unfold OsvRuntimeStageAttemptTerminalCommand.recorded recordedState
    simp only [Bool.and_eq_true, decide_eq_true_eq, Option.isNone_iff_eq_none]
  unfold recordTerminal
  dsimp only
  have hallowed : ¬ osvRuntimeAttemptTransitionAllowed command.expectedState command.recorded =
      false := by
    have htransition := command.transition
    intro hnot
    rw [OsvRuntimeStageAttemptTerminalCommand.recorded, htransition] at hnot
    cases hnot
  rw [hstate]
  exact (if_neg hallowed).trans rfl

/-! ## The row that is written -/

/-- The trigger lets a running attempt end. -/
theorem triggerPermits_written (hrunning : row.state = .running) (now : Timestamptz) :
    row.triggerPermits (command.written now row) = true := by
  have hterminal : command.recorded.isTerminal = true :=
    isTerminal_recordedState command.terminal _ _
  have hedge : command.recorded ∈ [OsvRuntimeAttemptState.running, .succeeded, .retryableFailed,
      .permanentFailed, .exhausted, .cancelled] := by
    unfold OsvRuntimeAttemptState.isTerminal at hterminal
    exact List.mem_cons_of_mem _ (of_decide_eq_true hterminal)
  unfold AttemptRow.triggerPermits
  rw [hrunning]
  simp only [Bool.and_eq_true, decide_eq_true_eq]
  exact ⟨⟨⟨⟨⟨⟨⟨⟨rfl, rfl⟩, rfl⟩, rfl⟩, rfl⟩, rfl⟩, rfl⟩, rfl⟩, hedge⟩

/-- The parts of the constraints. -/
theorem attemptChecks_iff :
    row.satisfiesChecks = true ↔ row.policyCheck = true ∧ row.ordinalCheck = true ∧
      row.delayCheck = true ∧ row.stateCheck = true := by
  unfold AttemptRow.satisfiesChecks
  simp only [Bool.and_eq_true, and_assoc]

/-- The last ordinal of a stage, which its constraint knows. -/
theorem nextOsvRuntimeAttemptOrdinal_eq_none (h : row.ordinalCheck = true) :
    nextOsvRuntimeAttemptOrdinal row.attemptOrdinal row.target.stage = none ↔
      row.target.stage = .inventoryConvergence ∨
        row.target.stage = .parserExecutionTimeout ∧ row.attemptOrdinal = 2 ∨
        row.target.stage ≠ .parserExecutionTimeout ∧ row.attemptOrdinal = 3 := by
  unfold AttemptRow.ordinalCheck at h
  simp only [Bool.and_eq_true, Bool.or_eq_true, decide_eq_true_eq, List.mem_cons,
    List.not_mem_nil, or_false] at h
  obtain ⟨⟨hany, htimeout⟩, hinventory⟩ := h
  unfold nextOsvRuntimeAttemptOrdinal
  cases hstage : row.target.stage <;> rw [hstage] at htimeout hinventory <;>
    rcases hany with hone | htwo | hthree <;> simp_all [maxTotalAttemptsForStage]

/-- What is known of a running attempt that satisfies its constraints. -/
theorem started_of_running (hchecks : row.satisfiesChecks = true)
    (hrunning : row.state = .running) : ∃ startedAt, row.startedAt = some startedAt := by
  have hstate := (attemptChecks_iff.mp hchecks).2.2.2
  unfold AttemptRow.stateCheck at hstate
  rw [hrunning] at hstate
  simp only [Bool.and_eq_true] at hstate
  exact Option.isSome_iff_exists.mp hstate.1.1.1.1.1

variable {now startedAt : Timestamptz}

/-- The row of a failure names it. -/
theorem failureNamed_written (h : command.ReportsFailure row) :
    (command.written now row).failureNamed = true := by
  obtain ⟨code, hcode⟩ := Option.isSome_iff_exists.mp h.code
  have hvalid := command.code
  rw [hcode] at hvalid
  change (command.failureCode.any isFailureCode && command.failureCatalog.isSome) = true
  rw [hcode, h.catalog, Bool.and_true]
  exact hvalid

/-- A failure that exhausts its attempt fits the constraints, unless the stage is the one
that is never exhausted. -/
theorem satisfiesChecks_exhausted (hchecks : row.satisfiesChecks = true)
    (hstarted : row.startedAt = some startedAt) (h : command.ReportsFailure row)
    (hexhausted : command.recorded = .exhausted)
    (hlast : nextOsvRuntimeAttemptOrdinal row.attemptOrdinal row.target.stage = none) :
    (command.written now row).satisfiesChecks = true ↔
      row.target.stage ≠ .inventoryConvergence ∧ startedAt ≤ now := by
  obtain ⟨hpolicy, hordinal, hdelay, -⟩ := attemptChecks_iff.mp hchecks
  have hnamed := @failureNamed_written _ _ now h
  have hdelay' : (command.written now row).delayCheck = true := by
    unfold AttemptRow.delayCheck at hdelay ⊢
    simp [OsvRuntimeStageAttemptTerminalCommand.written, AttemptUpdate.set, terminalUpdate,
      hexhausted, dispositionOf] at hdelay ⊢
    exact hdelay.1.1.1
  have hstate : (command.written now row).stateCheck = true ↔
      startedAt ≤ now ∧ row.target.stage ≠ .inventoryConvergence := by
    have hlast' := (nextOsvRuntimeAttemptOrdinal_eq_none hordinal).mp hlast
    unfold AttemptRow.stateCheck AttemptRow.endedAfterStart
    rw [hnamed]
    simp [OsvRuntimeStageAttemptTerminalCommand.written, AttemptUpdate.set, terminalUpdate,
      hexhausted, dispositionOf, hstarted]
    intro _
    constructor
    · rintro (⟨htimeout, -⟩ | ⟨⟨-, hne⟩, -⟩)
      · rw [htimeout]
        decide
      · exact hne
    · intro hne
      rcases hlast'.resolve_left hne with htimeout | ⟨hother, hthird⟩
      · exact .inl htimeout
      · exact .inr ⟨⟨hother, hne⟩, hthird⟩
  rw [attemptChecks_iff, hstate]
  exact ⟨fun hall => ⟨hall.2.2.2.2, hall.2.2.2.1⟩,
    fun hall => ⟨hpolicy, hordinal, hdelay', hall.2, hall.1⟩⟩

/-- A failure after which another attempt is left fits the constraints. -/
theorem satisfiesChecks_retryable (hchecks : row.satisfiesChecks = true)
    (hstarted : row.startedAt = some startedAt) (h : command.ReportsFailure row)
    (hretried : command.recorded = .retryableFailed)
    (hleft : nextOsvRuntimeAttemptOrdinal row.attemptOrdinal row.target.stage ≠ none) :
    (command.written now row).satisfiesChecks = true ↔ startedAt ≤ now := by
  obtain ⟨hpolicy, hordinal, hdelay, -⟩ := attemptChecks_iff.mp hchecks
  have hnamed := @failureNamed_written _ _ now h
  have hleft' := mt (nextOsvRuntimeAttemptOrdinal_eq_none hordinal).mpr hleft
  obtain ⟨delay, hcommandDelay⟩ := Option.isSome_iff_exists.mp (command.delayed.mpr h.state)
  have hlimit : delay ≤ osvRuntimeBackoffMaximumDelayMs := by
    have hall := command.delay
    rw [hcommandDelay] at hall
    exact of_decide_eq_true hall
  have hdelay' : (command.written now row).delayCheck = true := by
    unfold AttemptRow.delayCheck at hdelay ⊢
    simp [OsvRuntimeStageAttemptTerminalCommand.written, AttemptUpdate.set, terminalUpdate,
      hretried, dispositionOf, hcommandDelay] at hdelay ⊢
    rw [not_or, not_or] at hleft'
    obtain ⟨hinventory, htimeout, hthird⟩ := hleft'
    refine ⟨⟨⟨hdelay.1.1.1, fun heq => ?_⟩, not_and_or.mp htimeout⟩, hinventory⟩
    have hparser := not_not.mp fun hne => hthird ⟨hne, heq⟩
    -- the stage of the parser has no third attempt
    unfold AttemptRow.ordinalCheck at hordinal
    rw [hparser, heq] at hordinal
    simp at hordinal
  have hstate : (command.written now row).stateCheck = true ↔ startedAt ≤ now := by
    unfold AttemptRow.stateCheck AttemptRow.endedAfterStart
    rw [hnamed]
    simp [OsvRuntimeStageAttemptTerminalCommand.written, AttemptUpdate.set, terminalUpdate,
      hretried, dispositionOf, hstarted, hcommandDelay]
    intro _
    unfold retryNotBeforeLimit
    unfold osvRuntimeBackoffMaximumDelayMs at hlimit
    change (delay : Int) * 1000 ≤ 30000000
    omega
  rw [attemptChecks_iff, hstate]
  exact ⟨fun hall => hall.2.2.2, fun hall => ⟨hpolicy, hordinal, hdelay', hall⟩⟩

/-- When the row of a failure fits the constraints. -/
theorem satisfiesChecks_written (hchecks : row.satisfiesChecks = true)
    (hrunning : row.state = .running) (h : command.ReportsFailure row) :
    (command.written now row).satisfiesChecks = true ↔
      row.target.stage ≠ .inventoryConvergence ∧ row.startedAt.all (· ≤ now) = true := by
  obtain ⟨startedAt, hstarted⟩ := started_of_running hchecks hrunning
  have hordinal := (attemptChecks_iff.mp hchecks).2.1
  have hrecorded := recorded_eq h
  have hall : row.startedAt.all (· ≤ now) = true ↔ startedAt ≤ now := by
    rw [hstarted]
    exact decide_eq_true_iff
  rw [hall]
  split at hrecorded
  · rename_i hlast
    exact satisfiesChecks_exhausted hchecks hstarted h hrecorded hlast
  · rename_i hleft
    rw [satisfiesChecks_retryable hchecks hstarted h hrecorded hleft]
    have hne := not_or.mp (mt (nextOsvRuntimeAttemptOrdinal_eq_none hordinal).mpr hleft)
    exact (and_iff_right hne.1).symm

end

/-! ## The call -/

section

variable {s : Transactions attemptSchema} {command : OsvRuntimeStageAttemptTerminalCommand}
  {choice : AttemptChoice} {row : AttemptRow}

/-- The attempt of an entry is found by an update that is for it. -/
theorem find_of_mem {tables : AttemptTables} (h : tables.Dense) {update : AttemptUpdate}
    (hrow : row ∈ tables.attempts) (hfor : update.isFor row = true) :
    tables.find update = some row := by
  have hentry : ∀ other, update.isFor other = true →
      other.entry = (update.target, update.attemptOrdinal) := by
    intro other hother
    unfold AttemptUpdate.isFor at hother
    rw [Bool.and_eq_true, decide_eq_true_eq] at hother
    exact hother.1
  refine find?_eq_some_of_unique hrow hfor fun other hother hotherFor => ?_
  exact List.inj_on_of_nodup_map h.entries hother hrow
    ((hentry other hotherFor).trans (hentry row hfor).symm)

/-- The update of a command is for the running attempt that it names. -/
theorem isFor_terminalUpdate (hrunning : row.state = .running) (h : command.ReportsFailure row)
    (state : OsvRuntimeAttemptState) (now : Timestamptz) :
    (terminalUpdate command state now).isFor row = true := by
  change (decide (row.entry = (command.target, command.attemptOrdinal)) &&
    decide (row.state = command.expectedState)) = true
  rw [decide_eq_true h.entry, hrunning, expectedState_eq h.state]
  rfl

/-- The update stores the row of the failure if it fits the constraints, and else fails. -/
theorem answer_terminalUpdate {tables : AttemptTables} (hdense : tables.Dense)
    (hrow : row ∈ tables.attempts) (hrunning : row.state = .running)
    (h : command.ReportsFailure row) :
    AttemptTables.answer (.updateAttempt (terminalUpdate command command.recorded choice.now))
        choice tables =
      if (command.written choice.now row).satisfiesChecks = true then
        .ok (some (command.written choice.now row))
      else .error .checkViolation := by
  unfold AttemptTables.answer
  dsimp only
  rw [find_of_mem hdense hrow (isFor_terminalUpdate hrunning h command.recorded choice.now)]
  change (AttemptTables.update row (command.written choice.now row)).map some = _
  unfold AttemptTables.update
  rw [triggerPermits_written hrunning choice.now, if_neg (by decide)]
  cases (command.written choice.now row).satisfiesChecks with
  | true => rfl
  | false => rfl

/-- It takes the lock of the row, which is free. -/
theorem free_terminalUpdate (hdense : s.rows.Dense) (hrow : row ∈ s.rows.attempts)
    (hrunning : row.state = .running) (h : command.ReportsFailure row)
    (hunlocked : row.Unlocked s) :
    ∀ key ∈ AttemptTables.keys
        (.updateAttempt (terminalUpdate command command.recorded choice.now)) choice s.rows,
      s.start.isTaken s.begun key = false := by
  intro key hkey
  unfold AttemptTables.keys at hkey
  dsimp only at hkey
  rw [find_of_mem hdense hrow (isFor_terminalUpdate hrunning h command.recorded choice.now)] at hkey
  rw [List.mem_singleton.mp hkey]
  unfold Transactions.isTaken
  refine List.any_eq_false.mpr fun lock hlock htaken => ?_
  simp only [Bool.and_eq_true, decide_eq_true_eq] at htaken
  exact hunlocked lock hlock htaken.2

/-- A call whose row fits the constraints stores it. -/
theorem alone_recordTerminal_stored (hdense : s.rows.Dense) (hnumbered : s.Numbered)
    (hrow : row ∈ s.rows.attempts) (hrunning : row.state = .running)
    (h : command.ReportsFailure row) (hunlocked : row.Unlocked s)
    (hchecks : (command.written choice.now row).satisfiesChecks = true) :
    ∃ result s', (recordTerminal command).alone choice s = some (result, s') ∧
      s'.rows = AttemptTables.apply (.updated (command.written choice.now row)) s.rows := by
  have hanswer := @answer_terminalUpdate _ choice _ _ hdense hrow hrunning h
  rw [if_pos hchecks] at hanswer
  have hquery := @gives_query _ attemptSchema s.start s.begun choice
    (.updateAttempt (terminalUpdate command command.recorded choice.now)) _
    (Transactions.active_start hnumbered)
    (free_terminalUpdate hdense hrow hrunning h hunlocked) hanswer
  have hcallback : Gives choice (recordTerminalIn command command.recorded s.begun choice) s.start
      (.ok (some (command.written choice.now row),
        [.updated (command.written choice.now row)])) _ :=
    Gives.andThen hquery (gives_pure _)
  have hcommitted := alone_committed hcallback
    ((Transactions.active_start hnumbered).take _)
  rw [recordTerminal_eq, Program.alone_andThen hcommitted]
  dsimp only
  cases mapAttempt (command.written choice.now row) with
  | ok mapped => exact ⟨_, _, rfl, rfl⟩
  | error fault => exact ⟨_, _, rfl, rfl⟩

/-- A call whose row does not fit them leaves the attempt as it is. -/
theorem alone_recordTerminal_refused (hdense : s.rows.Dense) (hnumbered : s.Numbered)
    (hrow : row ∈ s.rows.attempts) (hrunning : row.state = .running)
    (h : command.ReportsFailure row) (hunlocked : row.Unlocked s)
    (hchecks : ¬ (command.written choice.now row).satisfiesChecks = true) :
    ∃ s', (recordTerminal command).alone choice s = some (.error .databaseUnavailable, s') ∧
      s'.rows = s.rows := by
  have hanswer := @answer_terminalUpdate _ choice _ _ hdense hrow hrunning h
  rw [if_neg hchecks] at hanswer
  have hquery := @gives_query_failed _ attemptSchema s.start s.begun choice
    (.updateAttempt (terminalUpdate command command.recorded choice.now)) _
    (Transactions.active_start hnumbered)
    (free_terminalUpdate hdense hrow hrunning h hunlocked) hanswer
  have hcallback : Gives choice (recordTerminalIn command command.recorded s.begun choice) s.start
      (.error (.sql .checkViolation)) _ :=
    Gives.failed hquery
  have hrolledBack := @alone_rolledBack _ attemptSchema _ _ _ _
    (recordTerminalIn command command.recorded) _ hcallback
  rw [recordTerminal_eq, Program.alone_andThen hrolledBack]
  exact ⟨_, rfl, rfl⟩

/-- A failure is recorded where its row fits the constraints, and nowhere else. -/
theorem recordsFailure_iff_checks (hdense : s.rows.Dense) (hnumbered : s.Numbered)
    (hrow : row ∈ s.rows.attempts) (hrunning : row.state = .running)
    (h : command.ReportsFailure row) (hunlocked : row.Unlocked s) :
    RecordsFailure s command choice row ↔
      (command.written choice.now row).satisfiesChecks = true := by
  constructor
  · rintro ⟨result, s', halone, stored, hstored, hid, hstate, -⟩
    by_contra hchecks
    obtain ⟨s'', halone', hrows⟩ :=
      alone_recordTerminal_refused hdense hnumbered hrow hrunning h hunlocked hchecks
    cases halone.symm.trans halone'
    rw [hrows] at hstored
    -- the attempt that is there is the one that was running
    have heq : stored = row := List.inj_on_of_nodup_map hdense.ids hstored hrow hid
    have hterminal : command.recorded.isTerminal = true :=
      isTerminal_recordedState command.terminal _ _
    rw [← hstate, heq, hrunning] at hterminal
    cases hterminal
  · intro hchecks
    obtain ⟨result, s', halone, hrows⟩ :=
      alone_recordTerminal_stored hdense hnumbered hrow hrunning h hunlocked hchecks
    refine ⟨result, s', halone, command.written choice.now row, ?_, rfl, rfl, hchecks⟩
    rw [hrows]
    exact mem_updated.mpr ⟨row, hrow, if_pos rfl⟩

end

/-! ## Runs -/

section

variable {happenings : List (Happening AttemptChoice AttemptRequest AttemptEvent)}
  {pool final : attemptSystem.Pool}

/-- In every run the numbers of transactions are new. -/
theorem numbered_attemptRun (h : pool.state.Numbered) (hrun : pool.run happenings = some final) :
    final.state.Numbered := by
  refine @Interleaving.Pool.run_keeps _ _ _ _ attemptSystem Transactions.Numbered
    (fun _ _ _ _ _ hexec => Transactions.numbered_exec hexec)
    (fun event s s' hevent hnumbered => ?_) _ _ _ h hrun
  cases hevent
  cases event with
  | setRuns runs => exact ⟨hnumbered.opened, hnumbered.failed, hnumbered.holders⟩
  | lost number => exact Transactions.numbered_close hnumbered number

/-- In every run a failure of a running attempt is recorded if and only if the stage is not the
convergence of the inventory, and the clock is not behind the start of the attempt. -/
theorem recordsFailure_iff {runs : List AttemptRun}
    (hrun : (attemptSystem.idle (emptyAttempts runs)).run happenings = some final)
    {row : AttemptRow} (hrow : row ∈ final.state.rows.attempts) (hrunning : row.state = .running)
    (hunlocked : row.Unlocked final.state) {command : OsvRuntimeStageAttemptTerminalCommand}
    (hcommand : command.ReportsFailure row) (choice : AttemptChoice) :
    RecordsFailure final.state command choice row ↔
      row.target.stage ≠ .inventoryConvergence ∧
        row.startedAt.all (· ≤ choice.now) = true := by
  obtain ⟨-, hsound⟩ := sound_attemptRun (d := attemptDiscipline)
    (Interleaving.Pool.sound_idle (sound_emptyAttempts runs)) hrun
  have hdense : final.state.rows.Dense := hsound.inv.rows
  have hnumbered := numbered_attemptRun (Transactions.numbered_idle _) hrun
  rw [recordsFailure_iff_checks hdense hnumbered hrow hrunning hcommand hunlocked]
  exact satisfiesChecks_written (hdense.checks row hrow) hrunning hcommand

end

namespace FailureSamples

open AttemptSamples

/-- The first attempt of a stage is reserved, and started. -/
def started (stage : OsvRuntimeRetryableStage) :
    List (Happening AttemptChoice AttemptRequest AttemptEvent) :=
  undisturbed 0 (reserveOf stage) 5 'b' ++ undisturbed 1 (startOf stage) 4 'c'

/-- The moment at which the failure is reported. -/
def reported : AttemptChoice := ⟨2, identifier 'd'⟩

end FailureSamples

open FailureSamples AttemptSamples in
/-- A failure is recorded. -/
theorem recordsFailure_iff_listingPage :
    ∃ final ∈ (attemptSystem.idle (emptyAttempts [run])).run (started .listingPage),
      ∃ row ∈ final.state.rows.attempts, RecordsFailure final.state (failureOf .listingPage)
        reported row := by
  obtain ⟨final, hrun, hlocks, row, hrow, hrunning, hentry, hstage, hstarted⟩ :
      ∃ final ∈ (attemptSystem.idle (emptyAttempts [run])).run (started .listingPage),
        final.state.locks = [] ∧ ∃ row ∈ final.state.rows.attempts, row.state = .running ∧
          row.entry = (targetOf .listingPage, 1) ∧ row.target.stage ≠ .inventoryConvergence ∧
            row.startedAt.all (· ≤ reported.now) = true := by
    decide +kernel
  have hunlocked : row.Unlocked final.state := by
    intro lock hlock
    rw [hlocks] at hlock
    exact absurd hlock List.not_mem_nil
  exact ⟨final, hrun, row, hrow,
    (recordsFailure_iff hrun hrow hrunning hunlocked ⟨hentry, rfl, rfl, rfl⟩ reported).mpr
      ⟨hstage, hstarted⟩⟩

open FailureSamples AttemptSamples in
/-- A failure of the convergence of the inventory is not recorded, and its attempt stays
running. -/
theorem not_recordsFailure_inventoryConvergence :
    ∃ final ∈ (attemptSystem.idle (emptyAttempts [run])).run (started .inventoryConvergence),
      ∃ row ∈ final.state.rows.attempts, row.state = .running ∧ row.Unlocked final.state ∧
        (failureOf .inventoryConvergence).ReportsFailure row ∧
        ¬ RecordsFailure final.state (failureOf .inventoryConvergence) reported row ∧
        ∃ s', (recordTerminal (failureOf .inventoryConvergence)).alone reported final.state =
            some (.error .databaseUnavailable, s') ∧ row ∈ s'.rows.attempts := by
  obtain ⟨final, hrun, hlocks, row, hrow, hrunning, hentry, hrefused⟩ :
      ∃ final ∈ (attemptSystem.idle (emptyAttempts [run])).run (started .inventoryConvergence),
        final.state.locks = [] ∧ ∃ row ∈ final.state.rows.attempts, row.state = .running ∧
          row.entry = (targetOf .inventoryConvergence, 1) ∧
            ((failureOf .inventoryConvergence).written reported.now row).satisfiesChecks =
              false := by
    decide +kernel
  have hunlocked : row.Unlocked final.state := by
    intro lock hlock
    rw [hlocks] at hlock
    exact absurd hlock List.not_mem_nil
  have hreports : (failureOf .inventoryConvergence).ReportsFailure row := ⟨hentry, rfl, rfl, rfl⟩
  have hchecks := Bool.eq_false_iff.mp hrefused
  obtain ⟨-, hsound⟩ := sound_attemptRun (d := attemptDiscipline)
    (Interleaving.Pool.sound_idle (sound_emptyAttempts [run])) hrun
  have hnumbered := numbered_attemptRun (Transactions.numbered_idle _) hrun
  refine ⟨final, hrun, row, hrow, hrunning, hunlocked, hreports, ?_, ?_⟩
  · rw [recordsFailure_iff_checks hsound.inv.rows hnumbered hrow hrunning hreports hunlocked]
    exact hchecks
  · obtain ⟨s', halone, hrows⟩ := @alone_recordTerminal_refused _ _ reported _
      hsound.inv.rows hnumbered hrow hrunning hreports hunlocked hchecks
    exact ⟨s', halone, hrows ▸ hrow⟩

end PatchPilot.Osv
