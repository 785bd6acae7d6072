import PatchPilot.Sbom.GraphAtomicity
import PatchPilot.Sbom.Ingest

set_option autoImplicit false

/-!
# Sbom: executions on one ingestion, at the same time

The terminal transaction and the retry transaction of an execution make three writes with
different guards: the transition needs the version that was loaded, the audit event nothing,
and the update of the job the identifier of its worker.  They agree as long as a terminal
transaction meets the ingestion as it was loaded.
-/

namespace PatchPilot.Sbom

open PatchPilot.Foundation
open PatchPilot.Jobs

/-! ## Snapshots -/

/-- What is known of every snapshot. -/
structure Session8IngestionSnapshot.Ok (snapshot : Session8IngestionSnapshot) : Prop where
  started : snapshot.state = .processing → snapshot.startedAt ≠ none
  stage : snapshot.stage.any SbomIngestionStage.isUnused = false
  /-- A failure is stored with a code of its kind. -/
  failure : ∀ command : TerminalCommand, snapshot.state = command.state →
    ∃ code, snapshot.failureCode = some code ∧
      TerminalCommand.ofOutcome code.outcome = command

theorem TerminalCommand.isTerminal (command : TerminalCommand) :
    command.state.isTerminal = true := by
  cases command with
  | reject => rfl
  | quarantine => rfl
  | fail => rfl

theorem TerminalCommand.state_inj {command command' : TerminalCommand}
    (h : command.state = command'.state) : command = command' := by
  cases command with
  | reject => cases command' <;> first | rfl | cases h
  | quarantine => cases command' <;> first | rfl | cases h
  | fail => cases command' <;> first | rfl | cases h

/-- A snapshot that is not terminal satisfies the condition on failures. -/
theorem ok_of_not_terminal {snapshot : Session8IngestionSnapshot}
    (hopen : snapshot.state.isTerminal = false)
    (hstarted : snapshot.state = .processing → snapshot.startedAt ≠ none)
    (hstage : snapshot.stage.any SbomIngestionStage.isUnused = false) : snapshot.Ok := by
  refine ⟨hstarted, hstage, fun command hstate => ?_⟩
  rw [hstate, command.isTerminal] at hopen
  cases hopen

theorem endProcessing_ok (command : TerminalCommand) {current next : Session8IngestionSnapshot}
    {expectedOutcome : SafeFailureOutcome}
    {completedAt : Timestamp} {failureCode : SafeFailureCode}
    (hcommand : TerminalCommand.ofOutcome expectedOutcome = command)
    (h : endProcessing (some current) expectedOutcome command.state completedAt failureCode =
      .ok next) : next.Ok := by
  unfold endProcessing at h
  obtain ⟨existing, hexisting, hrest⟩ := bind_eq_ok.mp h
  obtain ⟨hopen, rfl⟩ := requireCurrent_eq_ok.mp hexisting
  obtain ⟨processing, hprocessing, hend⟩ := bind_eq_ok.mp hrest
  obtain ⟨-, hstarted, rfl⟩ := requireProcessing_eq_ok.mp hprocessing
  split at hend
  · cases hend
  · rename_i hcode
    cases hend
    refine ⟨fun _ => hstarted, hopen.stage, fun command' hstate => ⟨failureCode, rfl, ?_⟩⟩
    rw [not_not.mp hcode, hcommand]
    exact TerminalCommand.state_inj hstate

/-- A transition leads to a snapshot of this kind. -/
theorem ok_of_transition {current next : Session8IngestionSnapshot}
    {command : Session8IngestionCommand}
    (h : applySession8IngestionTransition (some current) command = .ok next) : next.Ok := by
  have htransitioned := transitioned_of_eq_ok h
  cases command with
  | createAccepted => cases h
  | queue =>
      refine ok_of_not_terminal ?_ ?_ htransitioned.stage
      · rw [htransitioned.state]
        rfl
      · rw [htransitioned.state]
        nofun
  | startProcessing startedAt stage =>
      refine ok_of_not_terminal ?_ ?_ htransitioned.stage
      · rw [htransitioned.state]
        rfl
      · intro _
        obtain ⟨existing, -, hrest⟩ := bind_eq_ok.mp h
        split at hrest
        · cases hrest
        · split at hrest
          · cases hrest
          · cases hrest
            exact nofun
  | releaseForRetry failureCode =>
      refine ok_of_not_terminal ?_ ?_ htransitioned.stage
      · rw [htransitioned.state]
        rfl
      · rw [htransitioned.state]
        nofun
  | complete completedAt graphCompleteness componentCount dependencyEdgeCount warningCount =>
      refine ⟨?_, htransitioned.stage, fun command hstate => ?_⟩
      · rw [htransitioned.state]
        nofun
      · rw [htransitioned.state] at hstate
        cases command <;> cases hstate
  | reject completedAt failureCode => exact endProcessing_ok .reject rfl h
  | quarantine completedAt failureCode => exact endProcessing_ok .quarantine rfl h
  | fail completedAt failureCode => exact endProcessing_ok .fail rfl h

/-- A terminal command with a code of its kind ends the processing of an ingestion. -/
theorem terminal_transition {current : Session8IngestionSnapshot} (hok : current.Ok)
    (hstate : current.state = .processing) (completedAt : Timestamp) {code : SafeFailureCode}
    (hcode : code.outcome ≠ .retryableInfrastructure) :
    ∃ next, applySession8IngestionTransition (some current)
        ((TerminalCommand.ofOutcome code.outcome).command completedAt code) = .ok next ∧
      next.state = (TerminalCommand.ofOutcome code.outcome).state := by
  have hopen : current.Open := ⟨by rw [hstate]; decide, by rw [hstate]; rfl, hok.stage⟩
  have hend : ∀ state, endProcessing (some current) code.outcome state completedAt code =
      .ok { current with
        state, completedAt := some completedAt, failureCode := some code } := by
    intro state
    refine bind_eq_ok.mpr ⟨current, requireCurrent_eq_ok.mpr ⟨hopen, rfl⟩, ?_⟩
    refine bind_eq_ok.mpr ⟨current,
      requireProcessing_eq_ok.mpr ⟨hstate, hok.started hstate, rfl⟩, ?_⟩
    exact if_neg (not_not.mpr rfl)
  cases houtcome : code.outcome with
  | retryableInfrastructure => exact absurd houtcome hcode
  | rejected =>
      have hrejected := hend .rejected
      rw [houtcome] at hrejected
      exact ⟨_, hrejected, rfl⟩
  | quarantined =>
      have hquarantined := hend .quarantined
      rw [houtcome] at hquarantined
      exact ⟨_, hquarantined, rfl⟩
  | terminalInternal =>
      have hfailed := hend .failed
      rw [houtcome] at hfailed
      exact ⟨_, hfailed, rfl⟩

/-! ## The invariant -/

section

variable (payload : SbomIngestJobPayload)

/-- The invariant of executions on one ingestion. -/
structure IngestInv (s : IngestState) : Prop where
  owner : ∀ row, s.ingestion = some row →
    row.organizationId = payload.organizationId ∧ row.id = payload.aggregateId
  snapshot : ∀ row, s.ingestion = some row → row.snapshot.Ok
  /-- The job fails only with the ingestion. -/
  job : ∀ job, s.job = some job → job.status = .failed →
    ∃ state, s.state payload = some state ∧ state.isTerminal = true
  /-- An audit event reports the state to which its transaction moved the ingestion. -/
  audits : ∀ audit ∈ s.audits, audit.after = some audit.action.state ∧
    audit.before ≠ some audit.action.state ∧ s.state payload = some audit.action.state
  once : s.audits.length ≤ 1

/-- An ingestion as an execution loaded it: it is still there, and unless its version went
up it is as it was. -/
def Loaded (row : SbomIngestionRow) (s : IngestState) : Prop :=
  ∃ current, s.ingestion = some current ∧ row.version ≤ current.version ∧
    (current.version = row.version → current.snapshot = row.snapshot) ∧
      (row.snapshot.state.isTerminal = true → current = row)

/-- What may happen between two statements of an execution. -/
def IngestRely (s s' : IngestState) : Prop :=
  ∀ row, s.ingestion = some row → Loaded row s'

/-- The contract of executions on one ingestion. -/
def ingestContract : Contract IngestState where
  Inv := IngestInv payload
  Rely := IngestRely
  refl := fun _ row hrow => ⟨row, hrow, Nat.le_refl _, fun _ => rfl, fun _ => rfl⟩
  trans := by
    intro s s' s'' h h' row hrow
    obtain ⟨middle, hmiddle, hversion, hsame, hterminal⟩ := h row hrow
    obtain ⟨current, hcurrent, hversion', hsame', hterminal'⟩ := h' middle hmiddle
    refine ⟨current, hcurrent, Nat.le_trans hversion hversion', ?_, ?_⟩
    · intro hend
      rw [hsame' (by omega), hsame (by omega)]
    · intro hstate
      have hmiddle := hterminal hstate
      subst hmiddle
      exact hterminal' hstate

/-- When an operation is allowed: a terminal transaction meets the ingestion still being
processed, at the version that was loaded, and a job that ended without success is found
only when its ingestion failed. -/
def Allowed : IngestOp → IngestState → Prop
  | .findByOutboxEventId, s =>
      ∀ job ∈ s.job, job.organizationId = some payload.organizationId →
        job.jobType = js "sbom.ingest" → Ingest.endedWithoutSuccess job.status →
          s.state payload = some .failed
  | .finalize ingestionVersion _ _ _ _, s =>
      ∃ row ∈ s.findById payload, row.version = ingestionVersion ∧
        row.snapshot.state = .processing
  | _, _ => True

/-- An outcome `rejected`, `quarantined` or `failed` is the state of the ingestion. -/
def OutcomeHolds : ProcessSbomIngestionOutcome → IngestState → Prop
  | .rejected _, s => s.state payload = some .rejected
  | .quarantined _, s => s.state payload = some .quarantined
  | .failed _, s => s.state payload = some .failed
  | _, _ => True

variable {payload} {s s' : IngestState}

theorem IngestInv.findById (h : IngestInv payload s) : s.findById payload = s.ingestion := by
  unfold IngestState.findById
  cases hrow : s.ingestion with
  | none => rfl
  | some row => exact Option.filter_some_pos (decide_eq_true (h.owner row hrow))

theorem IngestInv.state_eq (h : IngestInv payload s) :
    s.state payload = s.ingestion.map (·.snapshot.state) := by
  unfold IngestState.state
  rw [h.findById]

/-- A terminal state stays. -/
theorem IngestRely.terminal (h : IngestRely s s') (hinv : IngestInv payload s)
    (hinv' : IngestInv payload s') {state : SbomIngestionState}
    (hstate : s.state payload = some state) (hterminal : state.isTerminal = true) :
    s'.state payload = some state := by
  rw [hinv.state_eq] at hstate
  obtain ⟨row, hrow, rfl⟩ := Option.map_eq_some_iff.mp hstate
  obtain ⟨current, hcurrent, -, -, hsame⟩ := h row hrow
  rw [hinv'.state_eq, hcurrent, hsame hterminal]
  rfl

theorem Loaded.later {row : SbomIngestionRow} (h : Loaded row s) (hrely : IngestRely s s') :
    Loaded row s' := by
  obtain ⟨middle, hmiddle, hversion, hsame, hterminal⟩ := h
  obtain ⟨current, hcurrent, hversion', hsame', hterminal'⟩ := hrely middle hmiddle
  refine ⟨current, hcurrent, Nat.le_trans hversion hversion', ?_, ?_⟩
  · intro hend
    rw [hsame' (by omega), hsame (by omega)]
  · intro hstate
    have hmiddle := hterminal hstate
    subst hmiddle
    exact hterminal' hstate

/-- While the ingestion is open there is no audit event, and the job has not failed. -/
theorem IngestInv.open (h : IngestInv payload s) {row : SbomIngestionRow}
    (hrow : s.ingestion = some row) (hopen : row.snapshot.state.isTerminal = false) :
    s.audits = [] ∧ ∀ job, s.job = some job → job.status ≠ .failed := by
  have hstate : s.state payload = some row.snapshot.state := by
    rw [h.state_eq, hrow]
    rfl
  constructor
  · refine List.eq_nil_iff_forall_not_mem.mpr fun audit haudit => ?_
    obtain ⟨-, -, hreported⟩ := h.audits audit haudit
    rw [hstate] at hreported
    rw [Option.some.inj hreported, audit.action.isTerminal] at hopen
    cases hopen
  · intro job hjob hfailed
    obtain ⟨state, hsame, hterminal⟩ := h.job job hjob hfailed
    rw [hstate] at hsame
    rw [Option.some.inj hsame, hterminal] at hopen
    cases hopen

/-- A job that is updated, and does not fail unless the ingestion is terminal. -/
theorem IngestInv.withJob (h : IngestInv payload s) (job : Option (BackgroundJob SafeFailureCode))
    (hfailed : ∀ job', job = some job' → job'.status = .failed →
      (∃ job'', s.job = some job'' ∧ job''.status = .failed) ∨
        ∃ state, s.state payload = some state ∧ state.isTerminal = true) :
    IngestRely s { s with job } ∧ IngestInv payload { s with job } := by
  refine ⟨fun row hrow => ⟨row, hrow, Nat.le_refl _, fun _ => rfl, fun _ => rfl⟩,
    { h with job := fun job' hjob hstatus => ?_ }⟩
  rcases hfailed job' hjob hstatus with ⟨job'', hjob'', hstatus''⟩ | hterminal
  · exact h.job job'' hjob'' hstatus''
  · exact hterminal

/-- The ingestion, with the next snapshot. -/
def IngestState.put (s : IngestState) (row : SbomIngestionRow)
    (next : Session8IngestionSnapshot) : IngestState :=
  { s with ingestion := some { row with snapshot := next, version := row.version + 1 } }

/-- An open ingestion whose snapshot is replaced, at the next version. -/
theorem IngestInv.advance (h : IngestInv payload s) {row : SbomIngestionRow}
    (hrow : s.ingestion = some row) (hopen : row.snapshot.state.isTerminal = false)
    {next : Session8IngestionSnapshot} (hnext : next.Ok) :
    IngestRely s (s.put row next) ∧ IngestInv payload (s.put row next) := by
  obtain ⟨hnone, hjob⟩ := h.open hrow hopen
  constructor
  · intro found hfound
    rw [hrow] at hfound
    cases hfound
    refine ⟨_, rfl, Nat.le_succ _, ?_, ?_⟩
    · intro hversion
      exact absurd hversion (Nat.succ_ne_self _)
    · intro hterminal
      rw [hterminal] at hopen
      cases hopen
  · refine ⟨?_, ?_, ?_, ?_, h.once⟩
    · intro found hfound
      cases hfound
      exact h.owner row hrow
    · intro found hfound
      cases hfound
      exact hnext
    · intro job hfound hfailed
      exact absurd hfailed (hjob job hfound)
    · intro audit haudit
      rw [show (s.put row next).audits = [] from hnone] at haudit
      exact (List.not_mem_nil haudit).elim

/-! ## Transactions -/

/-- A plan that was made on an open row, and what it leads to. -/
theorem planTransition_eq_ok {row : SbomIngestionRow} {expectedVersion : Nat}
    {command : Session8IngestionCommand} {update : PreparedUpdate}
    (h : planTransition (some row) expectedVersion command = .ok (some update)) :
    row.snapshot.state.isTerminal = false ∧ update.current = row ∧
      update.expectedVersion = expectedVersion ∧
        applySession8IngestionTransition (some row.snapshot) command = .ok update.next := by
  change (if row.snapshot.state.isTerminal = true then _ else _ : Except _ _) = _ at h
  split at h
  · split at h
    · cases h
    · cases h
  · rename_i hopen
    obtain ⟨next, hnext, h⟩ := bind_eq_ok.mp h
    cases h
    exact ⟨Bool.eq_false_iff.mpr hopen, rfl, rfl, hnext⟩

/-- A transition within a transaction does nothing, or it moves an open row at the version
that was expected. -/
theorem IngestInv.transition_cases (h : IngestInv payload s) (expectedVersion : Nat)
    (command : Session8IngestionCommand) :
    s.transition payload expectedVersion command = s ∨
      ∃ row next, s.ingestion = some row ∧ row.snapshot.state.isTerminal = false ∧
        applySession8IngestionTransition (some row.snapshot) command = .ok next ∧
          s.transition payload expectedVersion command = s.put row next := by
  unfold IngestState.transition
  rw [h.findById]
  cases hrow : s.ingestion with
  | none => exact .inl rfl
  | some row =>
      split
      · rename_i update hplan
        obtain ⟨hopen, hcurrent, hexpected, hnext⟩ := planTransition_eq_ok hplan
        have honRow : update.onIngestion row = row ∨ update.onIngestion row =
            { row with snapshot := update.next, version := row.version + 1 } := by
          unfold PreparedUpdate.onIngestion
          split
          · exact .inr rfl
          · exact .inl rfl
        rcases honRow with honRow | honRow
        · refine .inl ?_
          change { s with ingestion := some (update.onIngestion row) } = s
          rw [honRow, ← hrow]
        · refine .inr ⟨row, update.next, rfl, hopen, hnext, ?_⟩
          change { s with ingestion := some (update.onIngestion row) } = s.put row update.next
          rw [honRow]
          rfl
      · exact .inl rfl

/-- A transition within a transaction keeps the contract. -/
theorem IngestInv.transition (h : IngestInv payload s) (expectedVersion : Nat)
    (command : Session8IngestionCommand) :
    IngestRely s (s.transition payload expectedVersion command) ∧
      IngestInv payload (s.transition payload expectedVersion command) := by
  rcases h.transition_cases expectedVersion command with heq | ⟨row, next, hrow, hopen, hnext, heq⟩
  · rw [heq]
    exact ⟨(ingestContract payload).refl s, h⟩
  · rw [heq]
    exact h.advance hrow hopen (ok_of_transition hnext)

/-- The retry transaction keeps the contract. -/
theorem IngestInv.release (h : IngestInv payload s) (expectedVersion : Nat)
    (workerIdentifier : JsString) (code : SafeFailureCode) :
    IngestRely s (s.release payload expectedVersion workerIdentifier code) ∧
      IngestInv payload (s.release payload expectedVersion workerIdentifier code) := by
  obtain ⟨hrely, hinv⟩ := h.transition expectedVersion (.releaseForRetry code)
  have hjob : (s.transition payload expectedVersion (.releaseForRetry code)).job = s.job := by
    rcases h.transition_cases expectedVersion (.releaseForRetry code) with
      heq | ⟨row, next, -, -, -, heq⟩
    · rw [heq]
    · rw [heq]
      rfl
  obtain ⟨hrely', hinv'⟩ := hinv.withJob
    (s.job.map (·.markRetry workerIdentifier code)) fun job' hmapped hfailed => by
      obtain ⟨job, hstored, rfl⟩ := Option.map_eq_some_iff.mp hmapped
      exact .inl ⟨job, hjob.trans hstored, BackgroundJob.markRetry_failed hfailed⟩
  exact ⟨(ingestContract payload).trans hrely hrely', hinv'⟩

/-- A terminal transaction that meets the ingestion as it was loaded ends it. -/
theorem IngestInv.finalize (h : IngestInv payload s) {expectedVersion : Nat}
    (workerIdentifier : JsString) {code : SafeFailureCode} (completedAt : Timestamp)
    (hcode : code.outcome ≠ .retryableInfrastructure)
    (hallowed : ∃ row ∈ s.findById payload, row.version = expectedVersion ∧
      row.snapshot.state = .processing) :
    let command := TerminalCommand.ofOutcome code.outcome
    let after := s.finalize payload expectedVersion workerIdentifier command code completedAt
    IngestRely s after ∧ IngestInv payload after ∧
      after.state payload = some command.state := by
  intro command after
  obtain ⟨row, hfound, hversion, hstate⟩ := hallowed
  rw [h.findById] at hfound
  have hrow : s.ingestion = some row := hfound
  have hopen : row.snapshot.state.isTerminal = false := by
    rw [hstate]
    rfl
  obtain ⟨next, hnext, hreached⟩ :=
    terminal_transition (h.snapshot row hrow) hstate completedAt hcode
  have hmoved : s.transition payload expectedVersion (command.command completedAt code) =
      s.put row next := by
    have hplan : planTransition (some row) expectedVersion (command.command completedAt code) =
        .ok (some ⟨row, expectedVersion, next⟩) := by
      change (if row.snapshot.state.isTerminal = true then _ else _ : Except _ _) = _
      rw [hopen, if_neg Bool.false_ne_true]
      exact bind_eq_ok.mpr ⟨next, hnext, rfl⟩
    unfold IngestState.transition
    rw [h.findById, hrow, hplan]
    change { s with ingestion := some (PreparedUpdate.onIngestion ⟨row, _, next⟩ row) } = _
    unfold PreparedUpdate.onIngestion
    rw [if_pos ⟨rfl, rfl, hversion⟩]
    rfl
  obtain ⟨hrely, hinv⟩ := h.advance hrow hopen (ok_of_transition hnext)
  obtain ⟨hnone, hjob⟩ := h.open hrow hopen
  have hafter : (s.put row next).state payload = some command.state := by
    rw [hinv.state_eq]
    exact congrArg some hreached
  have hbefore : s.state payload = some .processing := by
    rw [h.state_eq, hrow]
    exact congrArg some hstate
  have hresult : after = { s.put row next with
      audits := [⟨command, code, some .processing, some command.state⟩]
      job := s.job.map (·.markTerminalFailure workerIdentifier code completedAt) } := by
    change IngestState.finalize payload expectedVersion workerIdentifier command code
      completedAt s = _
    unfold IngestState.finalize
    dsimp only
    rw [hmoved, hafter, hbefore, hnone]
    rfl
  have hstateAfter : after.state payload = some command.state := by
    rw [hresult]
    exact hafter
  have hingestion : after.ingestion = (s.put row next).ingestion := by
    rw [hresult]
  refine ⟨?_, ⟨?_, ?_, ?_, ?_, ?_⟩, hstateAfter⟩
  · intro found hfound
    obtain ⟨current, hcurrent, hrest⟩ := hrely found hfound
    exact ⟨current, hingestion.trans hcurrent, hrest⟩
  · intro found hfound
    exact hinv.owner found (hingestion ▸ hfound)
  · intro found hfound
    exact hinv.snapshot found (hingestion ▸ hfound)
  · intro _ _ _
    exact ⟨command.state, hstateAfter, command.isTerminal⟩
  · intro audit haudit
    rw [hresult] at haudit
    rw [List.mem_singleton.mp haudit]
    refine ⟨rfl, fun hsame => ?_, hstateAfter⟩
    have hterminal := command.isTerminal
    rw [← Option.some.inj hsame] at hterminal
    cases hterminal
  · rw [hresult]
    exact Nat.le_refl 1

theorem succeedOwned_failed {owned : Option OwnedJob} {completedAt : Timestamp}
    {job : BackgroundJob SafeFailureCode}
    (h : (succeedOwned owned completedAt job).status = .failed) : job.status = .failed := by
  unfold succeedOwned at h
  split at h
  · exact h
  · split at h
    · cases h
    · exact h

/-- A completion leads to the completed state. -/
theorem completeWith_ok {row : SbomIngestionRow} {graph : NormalizedComponentGraph}
    {completedAt : Timestamp} {next : Session8IngestionSnapshot}
    (h : completedSnapshot row graph completedAt = .ok next) :
    (row.completeWith next).snapshot.Ok := by
  have hnext := mapError_eq_ok.mp h
  have htransitioned := transitioned_of_eq_ok hnext
  have hstate : next.state = .completed := htransitioned.state
  refine ⟨fun hprocessing => ?_, htransitioned.stage, fun command hfailed => ?_⟩
  · rw [show (row.completeWith next).snapshot.state = next.state from rfl, hstate]
      at hprocessing
    cases hprocessing
  · rw [show (row.completeWith next).snapshot.state = next.state from rfl, hstate] at hfailed
    cases command <;> cases hfailed

/-- What `persistOnceForIngestion` does to the ingestion and its job keeps the contract. -/
theorem IngestInv.persist (h : IngestInv payload s) {input : PersistComponentGraphInput}
    {completedAt : Timestamp} {result : Except SbomError Unit}
    (hpersist : s.persist payload input completedAt = some (result, s')) :
    IngestRely s s' ∧ IngestInv payload s' := by
  unfold IngestState.persist at hpersist
  have hsame : ∀ {result'}, some (result', s) = some (result, s') →
      IngestRely s s' ∧ IngestInv payload s' := by
    intro result' heq
    cases heq
    exact ⟨(ingestContract payload).refl s, h⟩
  split at hpersist
  · exact hsame hpersist
  · split at hpersist
    · exact hsame hpersist
    · exact hsame hpersist
    · rename_i ingestion hadmitted
      split at hpersist
      · exact hsame hpersist
      · cases hpersist
      · rename_i next hnext
        cases hpersist
        obtain ⟨hfound, -, -, hstate, -⟩ := decideAdmission_eq_admitted hadmitted
        have hrow : s.ingestion = some ingestion := h.findById ▸ hfound
        have hopen : ingestion.snapshot.state.isTerminal = false := by
          rw [hstate]
          rfl
        have hjob : ∀ {after : IngestState}, after.job = s.job →
            ∀ job', s.job.map (succeedOwned input.ownedJob completedAt) = some job' →
              job'.status = .failed →
                ∃ job, after.job = some job ∧ job.status = .failed := by
          intro after hsameJob job' hmapped hfailed
          obtain ⟨job, hstored, rfl⟩ := Option.map_eq_some_iff.mp hmapped
          exact ⟨job, hsameJob.trans hstored, succeedOwned_failed hfailed⟩
        rw [hrow]
        dsimp only [Option.map_some]
        split
        · obtain ⟨hrely, hinv⟩ := h.advance hrow hopen (completeWith_ok hnext)
          obtain ⟨hrely', hinv'⟩ := hinv.withJob _ fun job' hmapped hfailed =>
            .inl (hjob rfl job' hmapped hfailed)
          have htrans := (ingestContract payload).trans hrely hrely'
          exact ⟨htrans, hinv'⟩
        · obtain ⟨hrely, hinv⟩ := h.withJob _ fun job' hmapped hfailed =>
            .inl (hjob rfl job' hmapped hfailed)
          rw [← hrow]
          exact ⟨hrely, hinv⟩

end

/-! ## Parts of an execution -/

section

variable {payload : SbomIngestJobPayload} {α : Type}

/-- A part of an execution keeps the contract. -/
abbrev IngestSafe (payload : SbomIngestJobPayload) {α : Type} (post : α → IngestState → Prop)
    (part : Ingest.Part payload α) (s : IngestState) : Prop :=
  @Safe _ (ingestOps payload) _ (ingestContract payload) (Allowed payload) post part s

/-- An operation that changes no row. -/
def IngestOp.reads : IngestOp → Bool
  | .clock | .findByOutboxEventId | .findById | .findSbom | .getObject | .readVerified
  | .parse => true
  | _ => false

theorem exec_of_reads {op : IngestOp} (hreads : op.reads = true) {choice : IngestChoice}
    {s s' : IngestState} {answer : op.Answer}
    (h : op.exec payload choice s = some (answer, s')) : s' = s := by
  cases op <;> first | (cases hreads; done) | skip
  all_goals cases choice <;> cases h
  all_goals rfl

theorem safe_call {op : IngestOp} {next : op.Answer → Ingest.Part payload α}
    {post : α → IngestState → Prop} {s : IngestState}
    (h : ∀ s', IngestRely s s' → IngestInv payload s' → Allowed payload op s' →
      ∀ choice answer s'', op.exec payload choice s' = some (answer, s'') →
        IngestRely s' s'' ∧ IngestInv payload s'' ∧ IngestSafe payload post (next answer) s'') :
    IngestSafe payload post (Ingest.call payload op >>= next) s :=
  h

/-- A part that reads, and goes on in the state that it read. -/
theorem safe_read {op : IngestOp} (hreads : op.reads = true)
    {next : op.Answer → Ingest.Part payload α} {post : α → IngestState → Prop}
    {s : IngestState}
    (h : ∀ s', IngestRely s s' → IngestInv payload s' → Allowed payload op s' →
      ∀ choice answer, op.exec payload choice s' = some (answer, s') →
        IngestSafe payload post (next answer) s') :
    IngestSafe payload post (Ingest.call payload op >>= next) s := by
  refine safe_call fun s' hrely hinv hallowed choice answer s'' hexec => ?_
  have hsame := exec_of_reads hreads hexec
  subst hsame
  exact ⟨(ingestContract payload).refl _, hinv, h _ hrely hinv hallowed choice answer hexec⟩

/-- A part that returns. -/
theorem safe_pure {post : α → IngestState → Prop} {result : α} {s : IngestState}
    (h : ∀ s', IngestRely s s' → IngestInv payload s' → post result s') :
    IngestSafe payload post (pure result) s :=
  h

variable (options : ProcessSbomIngestionOptions)

/-- What was found by its id is loaded. -/
theorem loaded_of_findById {s : IngestState} (hinv : IngestInv payload s)
    {row : SbomIngestionRow} (h : s.findById payload = some row) : Loaded row s :=
  ⟨row, hinv.findById ▸ h, Nat.le_refl _, fun _ => rfl, fun _ => rfl⟩

theorem outcomeHolds_outcome {command : TerminalCommand} {code : SafeFailureCode}
    {s : IngestState} :
    OutcomeHolds payload (command.outcome code) s ↔ s.state payload = some command.state := by
  cases command with
  | reject => exact Iff.rfl
  | quarantine => exact Iff.rfl
  | fail => exact Iff.rfl

theorem releaseForRetry_safe (ingestionVersion : Nat) (code : SafeFailureCode)
    (s : IngestState) :
    IngestSafe payload (OutcomeHolds payload)
      (Ingest.releaseForRetry payload options ingestionVersion code) s := by
  refine safe_read rfl fun s' _ _ _ _ _ _ => ?_
  refine safe_call fun s'' _ hinv _ choice answer after hexec => ?_
  cases choice <;> cases hexec
  obtain ⟨hrely, hinv'⟩ := hinv.release ingestionVersion options.workerIdentifier code
  exact ⟨hrely, hinv', safe_pure fun _ _ _ => trivial⟩

theorem finalizeTerminal_safe (ingestionVersion : Nat) {code : SafeFailureCode}
    (hcode : code.outcome ≠ .retryableInfrastructure) (s : IngestState) :
    IngestSafe payload (OutcomeHolds payload)
      (Ingest.finalizeTerminal payload options ingestionVersion code) s := by
  refine safe_read rfl fun s' _ _ _ _ now _ => ?_
  refine safe_call fun s'' _ hinv hallowed choice answer after hexec => ?_
  cases choice <;> cases hexec
  obtain ⟨hrely, hinv', hstate⟩ :=
    hinv.finalize options.workerIdentifier now hcode hallowed
  refine ⟨hrely, hinv', safe_pure fun final hlater hfinal => ?_⟩
  exact outcomeHolds_outcome.mpr
    (hlater.terminal hinv' hfinal hstate (TerminalCommand.isTerminal _))

theorem finalizeByCode_safe (ingestionVersion : Nat) (code : SafeFailureCode)
    (s : IngestState) :
    IngestSafe payload (OutcomeHolds payload)
      (Ingest.finalizeByCode payload options ingestionVersion code) s := by
  unfold Ingest.finalizeByCode
  split
  · exact releaseForRetry_safe options ingestionVersion code s
  · rename_i hcode
    exact finalizeTerminal_safe options ingestionVersion hcode s

/-- A row in a terminal state other than completed has a code of that kind. -/
theorem state_of_terminal {s : IngestState} (hinv : IngestInv payload s)
    {row : SbomIngestionRow} (hfound : s.findById payload = some row)
    (hcompleted : row.snapshot.state ≠ .completed)
    (hterminal : row.snapshot.state.isTerminal = true) :
    s.state payload = some (TerminalCommand.ofOutcome
      (Ingest.asSafeCode row.snapshot.failureCode).outcome).state := by
  have hrow : s.ingestion = some row := hinv.findById ▸ hfound
  have hcommand : ∃ command : TerminalCommand, row.snapshot.state = command.state := by
    cases hstate : row.snapshot.state with
    | rejected => exact ⟨.reject, rfl⟩
    | quarantined => exact ⟨.quarantine, rfl⟩
    | failed => exact ⟨.fail, rfl⟩
    | completed => exact absurd hstate hcompleted
    | accepted | queued | processing | duplicate =>
        rw [hstate] at hterminal
        cases hterminal
  obtain ⟨command, hstate⟩ := hcommand
  obtain ⟨code, hcode, hkind⟩ := (hinv.snapshot row hrow).failure command hstate
  have hsafe : Ingest.asSafeCode row.snapshot.failureCode = code := by
    rw [hcode]
    rfl
  rw [hinv.state_eq, hrow, hsafe, hkind, ← hstate]
  rfl

theorem alignTerminalJob_safe {code : SafeFailureCode} {s : IngestState}
    (hinv : IngestInv payload s)
    (hstate : s.state payload = some (TerminalCommand.ofOutcome code.outcome).state) :
    IngestSafe payload (OutcomeHolds payload)
      (Ingest.alignTerminalJob payload options code) s := by
  refine safe_read rfl fun s₁ hrely₁ hinv₁ _ _ now _ => ?_
  have hstate₁ := hrely₁.terminal hinv hinv₁ hstate (TerminalCommand.isTerminal _)
  refine safe_call fun s₂ hrely₂ hinv₂ _ choice answer after hexec => ?_
  have hstate₂ := hrely₂.terminal hinv₁ hinv₂ hstate₁ (TerminalCommand.isTerminal _)
  cases choice <;> cases hexec
  obtain ⟨hkept, hinv₃⟩ := hinv₂.withJob
    (s₂.job.map (·.markTerminalFailure options.workerIdentifier code now))
    fun _ _ _ => .inr ⟨_, hstate₂, TerminalCommand.isTerminal _⟩
  refine ⟨hkept, hinv₃, safe_pure fun final hlater hfinal => ?_⟩
  exact outcomeHolds_outcome.mpr
    (hlater.terminal hinv₃ hfinal hstate₂ (TerminalCommand.isTerminal _))

/-- A retry of the job. -/
theorem markRetry_safe {next : Unit → Ingest.Part payload α} {post : α → IngestState → Prop}
    (code : SafeFailureCode) {s : IngestState}
    (h : ∀ s', IngestInv payload s' → IngestSafe payload post (next ()) s') :
    IngestSafe payload post
      (Ingest.markRetry payload options.workerIdentifier code >>= next) s := by
  refine safe_call fun s₁ _ hinv₁ _ choice answer after hexec => ?_
  cases choice <;> cases hexec
  obtain ⟨hrely, hinv⟩ := hinv₁.withJob
    (s₁.job.map (·.markRetry options.workerIdentifier code)) fun job' hmapped hfailed => by
      obtain ⟨job, hstored, rfl⟩ := Option.map_eq_some_iff.mp hmapped
      exact .inl ⟨job, hstored, BackgroundJob.markRetry_failed hfailed⟩
  exact ⟨hrely, hinv, h _ hinv⟩

/-- A success of the job. -/
theorem markSucceeded_safe {next : Unit → Ingest.Part payload α}
    {post : α → IngestState → Prop} (completedAt : Timestamp) {s : IngestState}
    (h : ∀ s', IngestInv payload s' → IngestSafe payload post (next ()) s') :
    IngestSafe payload post
      (Ingest.markSucceeded payload options.workerIdentifier completedAt >>= next) s := by
  refine safe_call fun s₁ _ hinv₁ _ choice answer after hexec => ?_
  cases choice <;> cases hexec
  obtain ⟨hrely, hinv⟩ := hinv₁.withJob
    (s₁.job.map (·.markSucceeded options.workerIdentifier completedAt))
    fun job' hmapped hfailed => by
      obtain ⟨job, hstored, rfl⟩ := Option.map_eq_some_iff.mp hmapped
      exact .inl ⟨job, hstored, BackgroundJob.markSucceeded_failed hfailed⟩
  exact ⟨hrely, hinv, h _ hinv⟩

/-- The update of `applyTransition`, planned on the row as it was read, keeps the contract:
a row that still has the expected version still has the snapshot that was read. -/
theorem IngestInv.update {s : IngestState} (h : IngestInv payload s)
    {row : SbomIngestionRow} (hloaded : Loaded row s) {command : Session8IngestionCommand}
    {update : PreparedUpdate} {expectedVersion : Nat} (hversion : expectedVersion ≤ row.version)
    (hplan : planTransition (some row) expectedVersion command = .ok (some update)) :
    IngestRely s { s with ingestion := s.ingestion.map update.onIngestion } ∧
      IngestInv payload { s with ingestion := s.ingestion.map update.onIngestion } := by
  obtain ⟨hopen, hcurrent, hexpected, hnext⟩ := planTransition_eq_ok hplan
  obtain ⟨current, hstored, hgrown, hsame, -⟩ := hloaded
  rw [hstored]
  dsimp only [Option.map_some]
  unfold PreparedUpdate.onIngestion
  split
  · rename_i hmet
    have hcurrentVersion : current.version = row.version := by
      have := hmet.2.2
      omega
    have hopen' : current.snapshot.state.isTerminal = false := by
      rw [hsame hcurrentVersion]
      exact hopen
    exact h.advance hstored hopen' (ok_of_transition hnext)
  · rw [← hstored]
    exact ⟨(ingestContract payload).refl s, h⟩

theorem applyTransition_safe {expectedVersion : Nat} {command : Session8IngestionCommand}
    {s : IngestState}
    (hversion : ∀ s' row, IngestRely s s' → IngestInv payload s' →
      s'.findById payload = some row → expectedVersion ≤ row.version) :
    IngestSafe payload (fun _ _ => True)
      (Ingest.applyTransition payload expectedVersion command) s := by
  refine safe_read rfl fun s₁ hrely₁ hinv₁ _ choice current hexec => ?_
  cases choice <;> cases hexec
  split
  · exact safe_pure fun _ _ _ => trivial
  · exact safe_pure fun _ _ _ => trivial
  · rename_i update hplan
    refine safe_call fun s₂ hrely₂ hinv₂ _ choice updated after hexec => ?_
    cases choice <;> cases hexec
    cases hfound : s₁.findById payload with
    | none =>
        rw [hfound] at hplan
        cases hplan
    | some row =>
        rw [hfound] at hplan
        have hloaded := (loaded_of_findById hinv₁ hfound).later hrely₂
        obtain ⟨hrely, hinv⟩ :=
          hinv₂.update hloaded (hversion s₁ row hrely₁ hinv₁ hfound) hplan
        refine ⟨hrely, hinv, ?_⟩
        split
        · refine safe_read rfl fun _ _ _ _ _ _ _ => ?_
          exact safe_pure fun _ _ _ => trivial
        · exact safe_pure fun _ _ _ => trivial

/-- An outcome that is returned instead of a record holds. -/
theorem loadProcessingIngestion_safe {ingestion : SbomIngestionRow} (now : Timestamp)
    {s : IngestState} (hloaded : Loaded ingestion s) :
    IngestSafe payload (fun loaded s' => ∀ outcome, loaded = .error outcome →
        OutcomeHolds payload outcome s')
      (Ingest.loadProcessingIngestion payload options ingestion now) s := by
  unfold Ingest.loadProcessingIngestion
  split
  · exact safe_pure fun _ _ _ => nofun
  · have hstarted : IngestSafe payload (fun _ _ => True)
        (Ingest.applyTransition payload ingestion.version (.startProcessing now .validate)) s := by
      refine applyTransition_safe fun s' row hrely hinv hfound => ?_
      obtain ⟨current, hcurrent, hversion, -, -⟩ := hloaded.later hrely
      rw [hinv.findById, hcurrent] at hfound
      cases hfound
      exact hversion
    refine Safe.andThen (fun started s₁ _ => ?_) hstarted
    cases started with
    | ok record => exact safe_pure fun _ _ _ => nofun
    | error error =>
        refine safe_read rfl fun s₂ _ hinv₂ _ choice reloaded hexec => ?_
        cases choice <;> cases hexec
        have hretry : ∀ {s₃ : IngestState}, IngestSafe payload
            (fun (loaded : Except ProcessSbomIngestionOutcome SbomIngestionRow) s' =>
              ∀ outcome, loaded = .error outcome → OutcomeHolds payload outcome s')
            (do
              Ingest.markRetry payload options.workerIdentifier .queueUnavailable
              pure (.error (.retry .queueUnavailable))) s₃ := by
          intro s₃
          refine markRetry_safe options _ fun s₄ _ => safe_pure fun _ _ _ outcome houtcome => ?_
          cases houtcome
          exact trivial
        split
        · exact hretry
        · rename_i reloaded hfound
          split
          · exact safe_pure fun _ _ _ => nofun
          · split
            · refine markSucceeded_safe options _ fun s₄ _ =>
                safe_pure fun _ _ _ outcome houtcome => ?_
              cases houtcome
              exact trivial
            · rename_i hcompleted
              split
              · rename_i hterminal
                have haligned := alignTerminalJob_safe options hinv₂
                  (state_of_terminal hinv₂ hfound hcompleted hterminal)
                refine Safe.map (fun outcome s₄ hholds outcome' houtcome => ?_) haligned
                cases houtcome
                exact hholds
              · exact hretry

theorem handlePersistFailure_safe (ingestion : SbomIngestionRow) (error : SbomError)
    (s : IngestState) :
    IngestSafe payload (OutcomeHolds payload)
      (Ingest.handlePersistFailure payload options ingestion error) s := by
  unfold Ingest.handlePersistFailure
  split
  · exact finalizeByCode_safe options _ _ s
  · refine safe_read rfl fun s₁ _ hinv₁ _ choice latest hexec => ?_
    cases choice <;> cases hexec
    split
    · exact releaseForRetry_safe options _ _ s₁
    · rename_i latest hfound
      split
      · refine safe_read rfl fun s₂ _ _ _ _ now _ => ?_
        exact markSucceeded_safe options now fun _ _ => safe_pure fun _ _ _ => trivial
      · rename_i hcompleted
        split
        · rename_i hterminal
          exact alignTerminalJob_safe options hinv₁
            (state_of_terminal hinv₁ hfound hcompleted hterminal)
        · exact releaseForRetry_safe options _ _ s₁

theorem persistDocument_safe (jobId : Uuid) (current : SbomIngestionRow) (sbomId : Uuid)
    (graph : NormalizedComponentGraph) (s : IngestState) :
    IngestSafe payload (OutcomeHolds payload)
      (Ingest.persistDocument payload options jobId current sbomId graph) s := by
  refine safe_read rfl fun s₁ _ _ _ _ now _ => ?_
  refine safe_call fun s₂ _ hinv₂ _ choice persisted after hexec => ?_
  cases choice with
  | time completedAt =>
      obtain ⟨hrely, hinv⟩ := hinv₂.persist hexec
      refine ⟨hrely, hinv, ?_⟩
      cases persisted with
      | error error => exact handlePersistFailure_safe options current error after
      | ok _ => exact safe_pure fun _ _ _ => trivial
  | _ => cases hexec

theorem readDocument_safe (jobId : Uuid) (current : SbomIngestionRow) (sbomId : Uuid)
    (s : IngestState) :
    IngestSafe payload (OutcomeHolds payload)
      (Ingest.readDocument payload options jobId current sbomId) s := by
  refine safe_read rfl fun s₁ _ _ _ _ downloaded _ => ?_
  cases downloaded with
  | error category => exact finalizeByCode_safe options _ _ s₁
  | ok _ =>
      refine safe_read rfl fun s₂ _ _ _ _ verified _ => ?_
      cases verified with
      | error code => exact finalizeByCode_safe options _ code s₂
      | ok _ =>
          refine safe_read rfl fun s₃ _ _ _ _ parsedDocument _ => ?_
          cases parsedDocument with
          | error code => exact finalizeByCode_safe options _ code s₃
          | ok graph => exact persistDocument_safe options jobId current sbomId graph s₃

theorem processDocument_safe (jobId : Uuid) (current : SbomIngestionRow) (s : IngestState) :
    IngestSafe payload (OutcomeHolds payload)
      (Ingest.processDocument payload options jobId current) s := by
  refine safe_read rfl fun s₁ _ _ _ _ sbom _ => ?_
  cases sbom with
  | none => exact finalizeByCode_safe options _ _ s₁
  | some sbom =>
      dsimp only
      split
      · exact finalizeByCode_safe options _ _ s₁
      · split
        · exact finalizeByCode_safe options _ _ s₁
        · exact readDocument_safe options jobId current sbom.id s₁

theorem processClaimed_safe (jobId : Uuid) (now : Timestamp) (s : IngestState) :
    IngestSafe payload (OutcomeHolds payload)
      (Ingest.processClaimed payload options jobId now) s := by
  refine safe_read rfl fun s₁ _ hinv₁ _ choice ingestion hexec => ?_
  cases choice <;> cases hexec
  split
  · exact finalizeByCode_safe options _ _ s₁
  · rename_i ingestion hfound
    split
    · exact markSucceeded_safe options now fun _ _ => safe_pure fun _ _ _ => trivial
    · rename_i hcompleted
      split
      · rename_i hterminal
        exact alignTerminalJob_safe options hinv₁
          (state_of_terminal hinv₁ hfound hcompleted hterminal)
      · refine Safe.andThen (fun current s₂ hholds => ?_)
          (loadProcessingIngestion_safe options now (loaded_of_findById hinv₁ hfound))
        cases current with
        | error outcome =>
            exact safe_pure fun s₃ hrely hinv => hholds s₃ hrely hinv outcome rfl
        | ok current => exact processDocument_safe options jobId current s₂

/-- An execution keeps the contract, and its outcome is the state of the ingestion. -/
theorem processSbomIngestion_safe (s : IngestState) :
    IngestSafe payload (OutcomeHolds payload)
      (Ingest.processSbomIngestion payload options) s := by
  refine safe_read rfl fun s₁ _ hinv₁ hallowed choice job hexec => ?_
  cases choice <;> cases hexec
  cases hjob : s₁.job.filter fun job => decide (job.organizationId = some payload.organizationId)
  case none => exact safe_pure fun _ _ _ => trivial
  case some job =>
      obtain ⟨hstored, horganization⟩ := Option.filter_eq_some_iff.mp hjob
      dsimp only
      split
      · exact safe_pure fun _ _ _ => trivial
      · rename_i htype
        split
        · exact safe_pure fun _ _ _ => trivial
        · split
          · rename_i hended
            have hstate := hallowed job hstored (of_decide_eq_true horganization)
              (not_not.mp htype) hended
            exact safe_pure fun s₂ hrely hinv₂ => hrely.terminal hinv₁ hinv₂ hstate rfl
          · refine safe_read rfl fun s₂ _ _ _ _ (now : Timestamp) _ => ?_
            refine safe_call fun s₃ _ hinv₃ _ choice claim after hexec => ?_
            cases choice <;> try cases hexec
            unfold IngestOp.exec at hexec
            dsimp only at hexec
            split at hexec
            · rename_i claimed hclaim
              cases hexec
              obtain ⟨stored, -, hclaimed⟩ := Option.bind_eq_some_iff.mp hclaim
              obtain ⟨-, hrunning, -⟩ := BackgroundJob.status_of_claimExecution hclaimed
              obtain ⟨hrely, hinv⟩ := hinv₃.withJob (some claimed) fun job' hjob' hfailed => by
                cases hjob'
                rw [hrunning] at hfailed
                cases hfailed
              exact ⟨hrely, hinv, processClaimed_safe options job.id now _⟩
            · cases hexec
              exact ⟨(ingestContract payload).refl _, hinv₃, safe_pure fun _ _ _ => trivial⟩

end

/-! ## Runs -/

/-- An ingestion as the upload created it, with its job in the queue. -/
structure IngestState.Fresh (payload : SbomIngestJobPayload) (s : IngestState) : Prop where
  job : ∀ job ∈ s.job, job.status = .queued
  ingestion : ∀ row ∈ s.ingestion, row.organizationId = payload.organizationId ∧
    row.id = payload.aggregateId ∧ row.snapshot = acceptedSnapshot
  audits : s.audits = []

instance (payload : SbomIngestJobPayload) (s : IngestState) : Decidable (s.Fresh payload) :=
  decidable_of_iff ((∀ job ∈ s.job, job.status = .queued) ∧
      (∀ row ∈ s.ingestion, row.organizationId = payload.organizationId ∧
        row.id = payload.aggregateId ∧ row.snapshot = acceptedSnapshot) ∧ s.audits = [])
    ⟨fun ⟨hjob, hingestion, haudits⟩ => ⟨hjob, hingestion, haudits⟩,
      fun h => ⟨h.job, h.ingestion, h.audits⟩⟩

theorem acceptedSnapshot_ok : acceptedSnapshot.Ok :=
  ok_of_not_terminal rfl nofun rfl

theorem IngestState.Fresh.inv {payload : SbomIngestJobPayload} {s : IngestState}
    (h : s.Fresh payload) : IngestInv payload s := by
  refine ⟨fun row hrow => ?_, fun row hrow => ?_, fun job hjob hfailed => ?_, ?_, ?_⟩
  · exact ⟨(h.ingestion row hrow).1, (h.ingestion row hrow).2.1⟩
  · rw [(h.ingestion row hrow).2.2]
    exact acceptedSnapshot_ok
  · rw [h.job job hjob] at hfailed
    cases hfailed
  · rw [h.audits]
    exact fun audit haudit => (List.not_mem_nil haudit).elim
  · rw [h.audits]
    exact Nat.zero_le 1

instance (payload : SbomIngestJobPayload) (op : IngestOp) (s : IngestState) :
    Decidable (Allowed payload op s) := by
  cases op <;> unfold Allowed <;> infer_instance

instance (payload : SbomIngestJobPayload) (pool : (ingestion payload).Pool)
    (happenings : List (Happening IngestChoice ProcessSbomIngestionOptions Empty)) :
    Decidable (pool.PermitsAll (Allowed payload) happenings) :=
  @Interleaving.decidablePermitsAll _ _ _ _ (ingestion payload) (Allowed payload)
    (fun (op : IngestOp) s => inferInstanceAs (Decidable (Allowed payload op s))) happenings pool

/-- In a run whose terminal transactions meet the ingestion as it was loaded, the job fails
only with the ingestion, an audit event of a failure is appended once and by the transaction
that moves the ingestion into its state, and an outcome is returned only with its state. -/
theorem executions_agree {payload : SbomIngestJobPayload} {s : IngestState}
    {happenings : List (Happening IngestChoice ProcessSbomIngestionOptions Empty)}
    {pool : (ingestion payload).Pool} (hfresh : s.Fresh payload)
    (hallowed : ((ingestion payload).idle s).PermitsAll (Allowed payload) happenings)
    (hrun : ((ingestion payload).idle s).run happenings = some pool) :
    (∀ job, pool.state.job = some job → job.status = .failed →
      ∃ state, pool.state.state payload = some state ∧ state.isTerminal = true) ∧
    (∀ audit ∈ pool.state.audits, audit.after = some audit.action.state ∧
      audit.before ≠ some audit.action.state) ∧
    pool.state.audits.length ≤ 1 ∧
    ∀ process options outcome, pool.Returned process options outcome →
      OutcomeHolds payload outcome pool.state := by
  have hidle : ((ingestion payload).idle s).Sound (ingestContract payload) (Allowed payload)
      fun _ => OutcomeHolds payload := Interleaving.Pool.sound_idle hfresh.inv
  obtain ⟨-, hsound⟩ := hidle.run (fun options s' _ => processSbomIngestion_safe options s')
    (fun event => nomatch event) hallowed hrun
  refine ⟨hsound.inv.job, fun audit haudit => ?_, hsound.inv.once, ?_⟩
  · exact ⟨(hsound.inv.audits audit haudit).1, (hsound.inv.audits audit haudit).2.1⟩
  · intro process options outcome hreturned
    exact hsound.returned hreturned

/-! ## Two workers -/

namespace TwoWorkers

/-- The ingestion that both workers process. -/
def payload : SbomIngestJobPayload := ⟨1, js "event", 7⟩

/-- Its rows before they start. -/
def fresh : IngestState where
  job := some ⟨3, some 1, js "sbom.ingest", .queued, 0, none, none, none, none, none⟩
  ingestion := some ⟨7, 1, 5, 2, acceptedSnapshot, 0, 0⟩
  audits := []

/-- The row of the uploaded document. -/
def document : IngestChoice := .sbom (some ⟨5, 1, .final 1 2 (js "sha"), js "sha", 10⟩)

/-- Happenings of executions. -/
abbrev Happenings := List (Happening IngestChoice ProcessSbomIngestionOptions Empty)

/-- A worker claims the job at a time, for ten milliseconds, and finds the ingestion. -/
def claims (process : Nat) (name : String) (now : Timestamp) : Happenings :=
  [.start process ⟨js name, 10⟩, .call process .proceed, .call process (.time now),
    .call process .proceed, .call process .proceed]

/-- A worker starts the processing. -/
def starts (process : Nat) : Happenings :=
  [.call process .proceed, .call process .proceed, .call process .proceed]

/-- A worker finds that the document is no JSON, and rejects the ingestion next. -/
def refuses (process : Nat) (now : Timestamp) : Happenings :=
  [.call process document, .call process (.object (.ok ())), .call process (.bytes (.ok ())),
    .call process (.document (.error .jsonSyntax)), .call process (.time now)]

/-- A worker cannot read the document, and releases the ingestion next. -/
def givesUp (process : Nat) (now : Timestamp) : Happenings :=
  [.call process document, .call process (.object (.error .storageUnavailable)),
    .call process (.time now)]

end TwoWorkers

open TwoWorkers in
/-- One worker rejects the ingestion that it loaded. -/
theorem executions_agree_rejected :
    let happenings := claims 0 "a" 0 ++ starts 0 ++ refuses 0 9 ++ [.call 0 .proceed]
    ∃ pool, ((ingestion payload).idle fresh).run happenings = some pool ∧
      pool.result 0 = some (.rejected .jsonSyntax) ∧
      ∀ process options outcome, pool.Returned process options outcome →
        OutcomeHolds payload outcome pool.state := by
  intro happenings
  obtain ⟨pool, hrun, hresult⟩ : ∃ pool ∈ ((ingestion payload).idle fresh).run happenings,
      pool.result 0 = some (.rejected .jsonSyntax) := by
    decide +kernel
  obtain ⟨-, -, -, hholds⟩ :=
    executions_agree (by decide +kernel) (by decide +kernel) hrun
  exact ⟨pool, hrun, hresult, hholds⟩

open TwoWorkers in
/-- The lease of a worker that is about to release the ingestion expires, a second worker
goes on with it, the first one releases it, and the second one rejects it: the job fails and
the outcome is returned for an ingestion in the queue, which the audit event did not move. -/
theorem stale_release_rejects :
    ∃ pool, fresh.Fresh payload ∧
      ((ingestion payload).idle fresh).run (claims 0 "a" 0 ++ starts 0 ++ givesUp 0 9 ++
        claims 1 "b" 20 ++ refuses 1 21 ++ [.call 0 .proceed, .call 1 .proceed]) = some pool ∧
      pool.state.job.map (·.status) = some .failed ∧
      pool.state.state payload = some .queued ∧
      pool.state.audits = [⟨.reject, .jsonSyntax, some .queued, some .queued⟩] ∧
      ∃ options, pool.Returned 1 options (.rejected .jsonSyntax) := by
  obtain ⟨pool, hrun, hjob, hstate, haudits, hresult⟩ :
      ∃ pool ∈ ((ingestion payload).idle fresh).run (claims 0 "a" 0 ++ starts 0 ++
          givesUp 0 9 ++ claims 1 "b" 20 ++ refuses 1 21 ++
            [.call 0 .proceed, .call 1 .proceed]),
        pool.state.job.map (·.status) = some .failed ∧
          pool.state.state payload = some .queued ∧
          pool.state.audits = [⟨.reject, .jsonSyntax, some .queued, some .queued⟩] ∧
          pool.result 1 = some (.rejected .jsonSyntax) := by
    decide +kernel
  exact ⟨pool, by decide +kernel, hrun, hjob, hstate, haudits,
    Interleaving.Pool.returned_of_result hresult⟩

end PatchPilot.Sbom
