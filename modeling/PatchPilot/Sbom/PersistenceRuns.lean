import Mathlib.Logic.Function.Basic
import PatchPilot.Sbom.GraphPersistence

set_option autoImplicit false

/-!
# Sbom: runs of graph persistence and of ingestion transitions

Any number of calls of `persistOnceForIngestion` and of `applyTransition` run at the same
time.  A transaction sees what is committed and what it wrote itself.  It holds the row of
its ingestion from its first statement and the row of its asset from the statement that
reads the pointer, both until it ends; whatever fails on the way ends it without a trace.
-/

namespace PatchPilot.Sbom

open PatchPilot.Foundation

/-! ## Transitions of an ingestion (`sbom-ingestion-persistence.ts`) -/

/-- An update that `applyTransition` is about to make: the record it read, the version
that its caller expects and the snapshot it computed. -/
structure PreparedUpdate where
  current : SbomIngestionRow
  expectedVersion : Nat
  next : Session8IngestionSnapshot
  deriving DecidableEq

/-- A command that completes an ingestion. -/
def Session8IngestionCommand.completes : Session8IngestionCommand → Bool
  | .complete _ _ _ _ _ => true
  | _ => false

/-- `applyTransition` before its update; `none` is the replay of a completion. -/
def planTransition (current : Option SbomIngestionRow) (expectedVersion : Nat)
    (command : Session8IngestionCommand) : Except SbomError (Option PreparedUpdate) :=
  match current with
  | none => .error .invalidTransition
  | some current =>
      if current.snapshot.state.isTerminal then
        if current.snapshot.state = .completed ∧ command.completes = true then .ok none
        else .error .terminalState
      else do
        let next ← applySession8IngestionTransition (some current.snapshot) command
        .ok (some ⟨current, expectedVersion, next⟩)

/-- The update of `applyTransition`, on a row. -/
def PreparedUpdate.onIngestion (update : PreparedUpdate) (row : SbomIngestionRow) :
    SbomIngestionRow :=
  if row.organizationId = update.current.organizationId ∧ row.id = update.current.id ∧
      row.version = update.expectedVersion then
    { row with snapshot := update.next, version := row.version + 1 }
  else row

/-- The update of `applyTransition`. -/
def PreparedUpdate.apply (update : PreparedUpdate) (db : Database) : Database :=
  { db with ingestions := db.ingestions.map update.onIngestion }

/-! ## Open transactions -/

/-- How far an open transaction of `persistOnceForIngestion` is. -/
inductive Phase
  | locked | written | pointed
  deriving DecidableEq

/-- An open transaction, with the row that it read under its lock and what it wrote. -/
structure OpenTransaction where
  input : PersistComponentGraphInput
  ingestion : SbomIngestionRow
  phase : Phase
  completedAt : Timestamp
  writes : List Write

/-- What is committed, the transactions that are open and the updates that are prepared. -/
structure System where
  db : Database
  transactions : Nat → Option OpenTransaction
  updates : List PreparedUpdate

/-- Nobody holds the row of an ingestion. -/
def System.IngestionFree (system : System) (id : Uuid) : Prop :=
  ∀ tx transaction, system.transactions tx = some transaction →
    transaction.input.sbomIngestionId ≠ id

/-- Nobody holds the row of an asset. -/
def System.AssetFree (system : System) (organizationId assetId : Uuid) : Prop :=
  ∀ tx transaction, system.transactions tx = some transaction → transaction.phase = .pointed →
    ¬(transaction.input.organizationId = organizationId ∧
      transaction.input.assetId = assetId)

/-- The components that an open transaction has created. -/
def OpenTransaction.created (transaction : OpenTransaction) : List ComponentRow :=
  transaction.writes.flatMap Write.components

/-- Ids from `id` on are not in use. -/
def System.Unused (system : System) (id : Uuid) : Prop :=
  (∀ row ∈ system.db.components, row.id < id) ∧
    (∀ row ∈ system.db.occurrences, row.id < id) ∧
      ∀ tx transaction, system.transactions tx = some transaction →
        (∀ row ∈ transaction.created, row.id < id) ∧
          ∀ row ∈ transaction.writes.flatMap Write.occurrences, row.id < id

/-- No open transaction has created a component with the key of a new one: the creation
of such a component waits for it. -/
def System.NoConflict (system : System) (writes : List Write) : Prop :=
  ∀ tx transaction, system.transactions tx = some transaction →
    ∀ row ∈ transaction.created, ∀ row' ∈ writes.flatMap Write.components,
      ¬(row.organizationId = row'.organizationId ∧ row.identityKey = row'.identityKey)

/-- The system with a transaction that is opened, moved on or closed. -/
def System.setTransaction (system : System) (tx : Nat) (transaction : Option OpenTransaction) :
    System :=
  { system with transactions := Function.update system.transactions tx transaction }

theorem setTransaction_of_ne {system : System} {tx tx' : Nat}
    {transaction : Option OpenTransaction} (h : tx' ≠ tx) :
    (system.setTransaction tx transaction).transactions tx' = system.transactions tx' := by
  change Function.update system.transactions tx transaction tx' = _
  exact Function.update_of_ne h _ _

theorem setTransaction_self {system : System} {tx : Nat}
    {transaction : Option OpenTransaction} :
    (system.setTransaction tx transaction).transactions tx = transaction := by
  change Function.update system.transactions tx transaction tx = _
  exact Function.update_self _ _ _

theorem setTransaction_setTransaction (system : System) (tx : Nat)
    (first second : Option OpenTransaction) :
    (system.setTransaction tx first).setTransaction tx second =
      system.setTransaction tx second := by
  unfold System.setTransaction
  rw [Function.update_idem]

/-- The system with other tables. -/
def System.withDb (system : System) (db : Database) : System := { system with db := db }

/-! ## Steps -/

/-- What a step shows: nothing, or that a call of `persistOnceForIngestion` returned. -/
inductive Event
  | silent
  | returned (input : PersistComponentGraphInput) (result : Except SbomError Unit)

/-- One step of the system. -/
inductive System.Step : System → Event → System → Prop
  /-- An asset is created. -/
  | createAsset (system : System) (row : AssetRow)
      (hnew : ∀ other ∈ system.db.assets, other.id ≠ row.id)
      (hpointer : row.lastSuccessfulSbomIngestionId = none) :
      Step system .silent (system.withDb { system.db with assets := system.db.assets ++ [row] })
  /-- An SBOM is received. -/
  | receive (system : System) (row : SbomRow)
      (hnew : ∀ other ∈ system.db.sboms, other.id ≠ row.id)
      (hasset : ∃ asset ∈ system.db.assets, asset.organizationId = row.organizationId ∧
        asset.id = row.assetId) :
      Step system .silent (system.withDb { system.db with sboms := system.db.sboms ++ [row] })
  /-- `createAccepted`. -/
  | accept (system : System) (row : SbomIngestionRow)
      (hnew : ∀ other ∈ system.db.ingestions, other.id ≠ row.id)
      (hsnapshot : applySession8IngestionTransition none .createAccepted = .ok row.snapshot)
      (hsbom : ∃ sbom ∈ system.db.sboms, sbom.organizationId = row.organizationId ∧
        sbom.id = row.sbomId ∧ sbom.assetId = row.assetId) :
      Step system .silent
        (system.withDb { system.db with ingestions := system.db.ingestions ++ [row] })
  /-- Other code changes jobs and audit events. -/
  | others (system : System) (jobs : List BackgroundJobRow) (audits : List CompletedAuditRow) :
      Step system .silent (system.withDb { system.db with jobs := jobs, audits := audits })
  /-- `applyTransition` reads.  The version that the caller expects is that of a record that
  it loaded before; a completion is left to `persistOnceForIngestion`. -/
  | prepare (system : System) (organizationId id : Uuid) (expectedVersion : Nat)
      (command : Session8IngestionCommand) (update : PreparedUpdate)
      (hcommand : command.completes = false)
      (hplan : planTransition (system.db.ingestion organizationId id) expectedVersion command =
        .ok (some update))
      (hversion : expectedVersion ≤ update.current.version) :
      Step system .silent { system with updates := update :: system.updates }
  /-- `applyTransition` updates. -/
  | update (system : System) (update : PreparedUpdate) (hupdate : update ∈ system.updates)
      (hfree : system.IngestionFree update.current.id) :
      Step system .silent (system.withDb (update.apply system.db))
  /-- A call with a graph that is not valid. -/
  | invalid (system : System) (input : PersistComponentGraphInput)
      (hinvalid : validateNormalizedComponentGraph input.graph = none) :
      Step system (.returned input (.error .validation)) system
  /-- A call whose ingestion is refused under its lock. -/
  | refuse (system : System) (input : PersistComponentGraphInput) (error : SbomError)
      (hfree : system.IngestionFree input.sbomIngestionId)
      (hrefused : decideAdmission input
        (system.db.ingestion input.organizationId input.sbomIngestionId) =
        .refused error) :
      Step system (.returned input (.error error)) system
  /-- A call whose ingestion is completed. -/
  | replay (system : System) (input : PersistComponentGraphInput)
      (hfree : system.IngestionFree input.sbomIngestionId)
      (hreplayed : decideAdmission input
        (system.db.ingestion input.organizationId input.sbomIngestionId) = .replayed) :
      Step system (.returned input (.ok ())) system
  /-- A call that locks its ingestion and goes on. -/
  | lock (system : System) (tx : Nat) (input : PersistComponentGraphInput)
      (ingestion : SbomIngestionRow) (hclosed : system.transactions tx = none)
      (hvalid : validateNormalizedComponentGraph input.graph ≠ none)
      (hfree : system.IngestionFree input.sbomIngestionId)
      (hadmitted : decideAdmission input
        (system.db.ingestion input.organizationId input.sbomIngestionId) =
          .admitted ingestion) :
      Step system .silent
        (system.setTransaction tx (some ⟨input, ingestion, .locked, 0, []⟩))
  /-- A transaction writes its graph. -/
  | write (system : System) (tx : Nat) (transaction : OpenTransaction) (id : Uuid)
      (completedAt : Timestamp) (writes : List Write)
      (hopen : system.transactions tx = some transaction)
      (hphase : transaction.phase = .locked) (hunused : system.Unused id)
      (hrun : writeGraph id completedAt transaction.input transaction.ingestion system.db =
        (.ok (), writes))
      (hconflict : system.NoConflict writes) :
      Step system .silent (system.setTransaction tx
        (some { transaction with phase := .written, completedAt, writes }))
  /-- A transaction returns an error: what it wrote before is committed. -/
  | writeError (system : System) (tx : Nat) (transaction : OpenTransaction) (id : Uuid)
      (completedAt : Timestamp) (error : SbomError) (writes : List Write)
      (hopen : system.transactions tx = some transaction)
      (hphase : transaction.phase = .locked) (hunused : system.Unused id)
      (hrun : writeGraph id completedAt transaction.input transaction.ingestion system.db =
        (.error (.returned error), writes)) :
      Step system (.returned transaction.input (.error error))
        ((system.withDb (applyAll writes system.db)).setTransaction tx none)
  /-- A transaction locks its asset, ranks its ingestion and writes the rest. -/
  | point (system : System) (tx : Nat) (transaction : OpenTransaction) (writes : List Write)
      (hopen : system.transactions tx = some transaction)
      (hphase : transaction.phase = .written)
      (hfree : system.AssetFree transaction.input.organizationId transaction.input.assetId)
      (hrun : finishGraph transaction.completedAt transaction.input
        (applyAll transaction.writes system.db) = (.ok (), writes)) :
      Step system .silent (system.setTransaction tx
        (some { transaction with phase := .pointed, writes := transaction.writes ++ writes }))
  /-- A transaction returns an error after it locked its asset. -/
  | pointError (system : System) (tx : Nat) (transaction : OpenTransaction) (error : SbomError)
      (writes : List Write) (hopen : system.transactions tx = some transaction)
      (hphase : transaction.phase = .written)
      (hfree : system.AssetFree transaction.input.organizationId transaction.input.assetId)
      (hrun : finishGraph transaction.completedAt transaction.input
        (applyAll transaction.writes system.db) = (.error (.returned error), writes)) :
      Step system (.returned transaction.input (.error error))
        ((system.withDb (applyAll (transaction.writes ++ writes) system.db)).setTransaction tx
          none)
  /-- A transaction commits. -/
  | commit (system : System) (tx : Nat) (transaction : OpenTransaction)
      (hopen : system.transactions tx = some transaction)
      (hphase : transaction.phase = .pointed) :
      Step system (.returned transaction.input (.ok ()))
        ((system.withDb (applyAll transaction.writes system.db)).setTransaction tx none)
  /-- A transaction is rolled back: something was thrown, or its process is gone. -/
  | rollback (system : System) (tx : Nat) :
      Step system .silent (system.setTransaction tx none)

/-- A system before anything was uploaded. -/
structure System.Initial (system : System) : Prop where
  assets : system.db.assets = []
  sboms : system.db.sboms = []
  ingestions : system.db.ingestions = []
  components : system.db.components = []
  occurrences : system.db.occurrences = []
  edges : system.db.edges = []
  transactions : ∀ tx, system.transactions tx = none
  updates : system.updates = []

/-- The systems that runs reach. -/
inductive System.Reachable : System → Prop
  | initial (system : System) (h : system.Initial) : Reachable system
  | step (system : System) (event : Event) (system' : System) (h : Reachable system)
      (hstep : System.Step system event system') : Reachable system'

/-! ## Calls that run one after the other -/

/-- What is done to a system in which nothing else happens at the same time. -/
inductive Action
  | createAsset (row : AssetRow)
  | receive (row : SbomRow)
  | accept (row : SbomIngestionRow)
  | transition (organizationId id : Uuid) (expectedVersion : Nat)
      (command : Session8IngestionCommand)
  | persist (input : PersistComponentGraphInput) (id : Uuid) (completedAt : Timestamp)
  deriving DecidableEq

/-- A call of `persistOnceForIngestion` that is alone and completes its ingestion. -/
def Database.persist (db : Database) (input : PersistComponentGraphInput) (id : Uuid)
    (completedAt : Timestamp) : Option Database :=
  match decideAdmission input (db.ingestion input.organizationId input.sbomIngestionId) with
  | .admitted ingestion =>
      match writeGraph id completedAt input ingestion db with
      | (.ok (), writes) =>
          match finishGraph completedAt input (applyAll writes db) with
          | (.ok (), writes') => some (applyAll (writes ++ writes') db)
          | _ => none
      | _ => none
  | _ => none

/-- A transition of an ingestion that is alone. -/
def Database.transition (db : Database) (organizationId id : Uuid) (expectedVersion : Nat)
    (command : Session8IngestionCommand) : Option Database :=
  match planTransition (db.ingestion organizationId id) expectedVersion command with
  | .ok (some update) =>
      if expectedVersion ≤ update.current.version then some (update.apply db) else none
  | _ => none

/-- The tables after an action; `none` when it is not one that succeeds. -/
def Database.perform (db : Database) : Action → Option Database
  | .createAsset row =>
      if (∀ other ∈ db.assets, other.id ≠ row.id) ∧
          row.lastSuccessfulSbomIngestionId = none then
        some { db with assets := db.assets ++ [row] }
      else none
  | .receive row =>
      if (∀ other ∈ db.sboms, other.id ≠ row.id) ∧
          ∃ asset ∈ db.assets, asset.organizationId = row.organizationId ∧
            asset.id = row.assetId then
        some { db with sboms := db.sboms ++ [row] }
      else none
  | .accept row =>
      if (∀ other ∈ db.ingestions, other.id ≠ row.id) ∧ row.snapshot = acceptedSnapshot ∧
          ∃ sbom ∈ db.sboms, sbom.organizationId = row.organizationId ∧ sbom.id = row.sbomId ∧
            sbom.assetId = row.assetId then
        some { db with ingestions := db.ingestions ++ [row] }
      else none
  | .transition organizationId id expectedVersion command =>
      if command.completes = false then
        db.transition organizationId id expectedVersion command
      else none
  | .persist input id completedAt =>
      if validateNormalizedComponentGraph input.graph ≠ none ∧
          (∀ row ∈ db.components, row.id < id) ∧ ∀ row ∈ db.occurrences, row.id < id then
        db.persist input id completedAt
      else none

/-- The tables after actions that run one after the other. -/
def Database.performAll (db : Database) : List Action → Option Database
  | [] => some db
  | action :: rest => (db.perform action).bind (·.performAll rest)

/-- Tables that a run reaches, with no transaction open. -/
def Attained (db : Database) : Prop :=
  ∃ system : System, system.Reachable ∧ system.db = db ∧ ∀ tx, system.transactions tx = none

theorem attained_empty : Attained ⟨[], [], [], [], [], [], [], []⟩ :=
  ⟨⟨⟨[], [], [], [], [], [], [], []⟩, fun _ => none, []⟩,
    .initial _ ⟨rfl, rfl, rfl, rfl, rfl, rfl, fun _ => rfl, rfl⟩, rfl, fun _ => rfl⟩

/-- The transaction that is alone in a system. -/
theorem eq_of_alone {system : System} (hclosed : ∀ tx, system.transactions tx = none)
    {tx tx' : Nat} {transaction other : OpenTransaction}
    (hopen : (system.setTransaction tx (some transaction)).transactions tx' = some other) :
    other = transaction := by
  by_cases hsame : tx' = tx
  · rw [hsame, setTransaction_self] at hopen
    exact (Option.some_inj.mp hopen).symm
  · rw [setTransaction_of_ne hsame, hclosed] at hopen
    cases hopen

theorem Attained.persist {db db' : Database} {input : PersistComponentGraphInput} {id : Uuid}
    {completedAt : Timestamp} (h : Attained db)
    (hvalid : validateNormalizedComponentGraph input.graph ≠ none)
    (hcomponents : ∀ row ∈ db.components, row.id < id)
    (hoccurrences : ∀ row ∈ db.occurrences, row.id < id)
    (hpersist : db.persist input id completedAt = some db') : Attained db' := by
  obtain ⟨system, hreachable, rfl, hclosed⟩ := h
  unfold Database.persist at hpersist
  split at hpersist
  · rename_i ingestion hadmitted
    split at hpersist
    · rename_i writes hwrite
      split at hpersist
      · rename_i writes' hfinish
        cases hpersist
        have hfree : system.IngestionFree input.sbomIngestionId := by
          intro tx transaction hopen
          rw [hclosed tx] at hopen
          cases hopen
        have hlocked := hreachable.step _ _ _
          (.lock system 0 input ingestion (hclosed 0) hvalid hfree hadmitted)
        have hunused : (system.setTransaction 0
            (some ⟨input, ingestion, .locked, 0, []⟩)).Unused id := by
          refine ⟨hcomponents, hoccurrences, fun tx transaction hopen => ?_⟩
          rw [eq_of_alone hclosed hopen]
          exact ⟨fun _ hrow => (List.not_mem_nil hrow).elim,
            fun _ hrow => (List.not_mem_nil hrow).elim⟩
        have hconflict : (system.setTransaction 0
            (some ⟨input, ingestion, .locked, 0, []⟩)).NoConflict writes := by
          intro tx transaction hopen row hrow
          rw [eq_of_alone hclosed hopen] at hrow
          exact (List.not_mem_nil hrow).elim
        have hwritten := hlocked.step _ _ _
          (.write _ 0 _ id completedAt writes setTransaction_self rfl hunused hwrite hconflict)
        rw [setTransaction_setTransaction] at hwritten
        have hasset : (system.setTransaction 0
            (some ⟨input, ingestion, .written, completedAt, writes⟩)).AssetFree
              input.organizationId input.assetId := by
          intro tx transaction hopen hphase
          rw [eq_of_alone hclosed hopen] at hphase
          cases hphase
        have hpointed := hwritten.step _ _ _
          (.point _ 0 _ writes' setTransaction_self rfl hasset hfinish)
        rw [setTransaction_setTransaction] at hpointed
        have hcommitted := hpointed.step _ _ _ (.commit _ 0 _ setTransaction_self rfl)
        refine ⟨_, hcommitted, rfl, fun tx => ?_⟩
        by_cases hsame : tx = 0
        · rw [hsame]
          exact setTransaction_self
        · rw [setTransaction_of_ne hsame]
          exact (setTransaction_of_ne hsame).trans (hclosed tx)
      · cases hpersist
    · cases hpersist
  · cases hpersist

theorem Attained.transition {db db' : Database} {organizationId id : Uuid}
    {expectedVersion : Nat} {command : Session8IngestionCommand} (h : Attained db)
    (hcommand : command.completes = false)
    (htransition : db.transition organizationId id expectedVersion command = some db') :
    Attained db' := by
  obtain ⟨system, hreachable, rfl, hclosed⟩ := h
  unfold Database.transition at htransition
  split at htransition
  · rename_i update hplan
    split at htransition
    · rename_i hversion
      cases htransition
      have hprepared := hreachable.step _ _ _
        (.prepare system organizationId id expectedVersion command update hcommand hplan hversion)
      have hupdated := hprepared.step _ _ _ (.update _ update List.mem_cons_self
        (fun tx transaction hopen => by rw [hclosed tx] at hopen; cases hopen))
      exact ⟨_, hupdated, rfl, hclosed⟩
    · cases htransition
  · cases htransition

theorem Attained.perform {db db' : Database} {action : Action} (h : Attained db)
    (hperform : db.perform action = some db') : Attained db' := by
  unfold Database.perform at hperform
  cases action with
  | createAsset row =>
      obtain ⟨system, hreachable, rfl, hclosed⟩ := h
      change (if _ then _ else _ : Option Database) = _ at hperform
      split at hperform
      · rename_i hfields
        cases hperform
        exact ⟨_, hreachable.step _ _ _ (.createAsset system row hfields.1 hfields.2), rfl,
          hclosed⟩
      · cases hperform
  | receive row =>
      obtain ⟨system, hreachable, rfl, hclosed⟩ := h
      change (if _ then _ else _ : Option Database) = _ at hperform
      split at hperform
      · rename_i hfields
        cases hperform
        exact ⟨_, hreachable.step _ _ _ (.receive system row hfields.1 hfields.2), rfl, hclosed⟩
      · cases hperform
  | accept row =>
      obtain ⟨system, hreachable, rfl, hclosed⟩ := h
      change (if _ then _ else _ : Option Database) = _ at hperform
      split at hperform
      · rename_i hfields
        cases hperform
        exact ⟨_, hreachable.step _ _ _ (.accept system row hfields.1
          (congrArg Except.ok hfields.2.1.symm) hfields.2.2), rfl, hclosed⟩
      · cases hperform
  | transition organizationId id expectedVersion command =>
      change (if _ then _ else _ : Option Database) = _ at hperform
      split at hperform
      · rename_i hcommand
        exact h.transition hcommand hperform
      · cases hperform
  | persist input id completedAt =>
      change (if _ then _ else _ : Option Database) = _ at hperform
      split at hperform
      · rename_i hfields
        exact h.persist hfields.1 hfields.2.1 hfields.2.2 hperform
      · cases hperform

/-- What actions reach one after the other, runs reach. -/
theorem Attained.performAll {actions : List Action} :
    ∀ {db db' : Database}, Attained db → db.performAll actions = some db' → Attained db' := by
  induction actions with
  | nil =>
      intro db db' h hperform
      cases hperform
      exact h
  | cons action rest ih =>
      intro db db' h hperform
      obtain ⟨between, hfirst, hrest⟩ := Option.bind_eq_some_iff.mp hperform
      exact ih (h.perform hfirst) hrest

end PatchPilot.Sbom
