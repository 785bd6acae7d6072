import PatchPilot.Foundation.ReadCommitted
import PatchPilot.Foundation.Refinement
import PatchPilot.Osv.LeaseStatements

set_option autoImplicit false

/-!
# Osv: the lease database as read-committed transactions

The statements of the lease adapter are those of a schema with two kinds of locks, on the lease
row and on a run, and the lease database is a database of that schema: whatever a statement
answers and leaves there, transactions answer and leave as well.  A statement that a constraint
refuses answers with the error, and its transaction keeps its locks until the code that gets the
error rolls it back.  So a lock of the lease database has one holder, which is open.
-/

namespace PatchPilot.Osv

open PatchPilot.Foundation

/-! ## The schema -/

/-- The committed rows. -/
structure LeaseRows where
  lease : Option LeaseRow
  runs : List RunRow

/-- The rows of a database. -/
def LeaseDatabase.rows (s : LeaseDatabase) : LeaseRows := ⟨s.lease, s.runs⟩

/-- A statement, with the time at which its transaction began. -/
inductive LeaseStatement
  | selectRun (runId : JsString)
  | selectLease (own : Option LeaseRow)
  | insertLease (now : Timestamptz) (runId digest : JsString)
  | updateLease (now : Timestamptz) (own : Option LeaseRow) (update : LeaseUpdate)
  | updateRun (now : Timestamptz) (command : OsvRuntimeRunTransitionCommand)

/-- What a statement answers. -/
def LeaseStatement.Answer : LeaseStatement → Type
  | .selectRun _ => Except SqlError (Option RunRow)
  | .selectLease _ => Except SqlError (Option LeaseRow)
  | .insertLease _ _ _ => Except SqlError (Option LeaseRow)
  | .updateLease _ _ _ => Except SqlError (Option LeaseRow)
  | .updateRun _ _ => Except SqlError (Option RunRow)

/-- A row that is written. -/
inductive LeaseWrite
  | lease (row : LeaseRow)
  | run (row : RunRow)

/-- A row that is locked. -/
inductive LeaseKey
  | lease
  | run (id : JsString)
  deriving DecidableEq

namespace LeaseRows

/-- The row that an update of a run is for. -/
def runFor (rows : LeaseRows) (command : OsvRuntimeRunTransitionCommand) : Option RunRow :=
  rows.runs.find? fun row => row.id = command.runId && row.state = command.expectedState

/-- The row that an update of the lease is for. -/
def leaseFor (rows : LeaseRows) (now : Timestamptz) (own : Option LeaseRow)
    (update : LeaseUpdate) : Option LeaseRow :=
  (own.or rows.lease).filter (update.isFor now)

/-- The locks that a statement takes. -/
def keys (rows : LeaseRows) : LeaseStatement → List LeaseKey
  | .selectRun _ => []
  | .selectLease _ => []
  | .insertLease _ _ _ => if rows.lease.isNone then [.lease] else []
  | .updateLease now own update =>
      if (rows.leaseFor now own update).isSome then [.lease] else []
  | .updateRun now command =>
      (((rows.runFor command).filter fun row =>
        (row.transitioned now command).satisfiesChecks).map fun row => .run row.id).toList

/-- The constraints look at the rows alone. -/
def database (rows : LeaseRows) : LeaseDatabase :=
  { (default : LeaseDatabase) with lease := rows.lease, runs := rows.runs }

/-- What a statement answers. -/
def answer (rows : LeaseRows) : (statement : LeaseStatement) → statement.Answer
  | .selectRun runId => .ok (rows.runs.find? (·.id = runId))
  | .selectLease own => .ok (own.or rows.lease)
  | .insertLease now runId digest =>
      if rows.lease.isNone then rows.database.written (heldLeaseRow now runId digest) else .ok none
  | .updateLease now own update =>
      match rows.leaseFor now own update with
      | none => .ok none
      | some row => rows.database.updated row (update.set now row)
  | .updateRun now command =>
      match rows.runFor command with
      | none => .ok none
      | some row =>
          if (row.transitioned now command).satisfiesChecks then
            .ok (some (row.transitioned now command))
          else .error .checkViolation

/-- A row is written. -/
def write (rows : LeaseRows) : LeaseWrite → LeaseRows
  | .lease row => { rows with lease := some row }
  | .run row =>
      { rows with runs := rows.runs.map fun other => if other.id = row.id then row else other }

end LeaseRows

/-- The schema.  No statement ends its transaction by itself. -/
abbrev leaseSchema : Schema LeaseRows where
  Statement := LeaseStatement
  Answer := LeaseStatement.Answer
  Error := Empty
  Write := LeaseWrite
  Key := LeaseKey
  Choice := Timestamptz
  keys statement _ rows := rows.keys statement
  answer statement _ rows := .ok (rows.answer statement)
  apply write rows := rows.write write
  decidableKey := inferInstance

/-! ## Calls -/

/-- The writes of a commit. -/
def leaseWrites (lease : Option LeaseRow) (run : Option (RunRow × OsvRuntimeRunTransitionCommand)) :
    List LeaseWrite :=
  (lease.map .lease).toList ++ (run.map fun entry => .run entry.1).toList

/-- The call that a statement is. -/
def Statement.call : Statement → Call leaseSchema
  | .begin_ => .begin_
  | .selectRun transaction runId => .statement transaction.number (.selectRun runId)
  | .selectLease transaction own _ => .statement transaction.number (.selectLease own)
  | .insertLease transaction runId digest =>
      .statement transaction.number (.insertLease transaction.now runId digest)
  | .updateLease transaction own update =>
      .statement transaction.number (.updateLease transaction.now own update)
  | .updateRun transaction command =>
      .statement transaction.number (.updateRun transaction.now command)
  | .commit transaction lease run => .commit transaction.number (leaseWrites lease run)
  | .rollback transaction => .rollback transaction.number

/-- The replies to a statement are one: the transaction is not open, or the answer is the
same. -/
def SameReply {α : Type} (answer : Except SqlError α)
    (reply : Except (Fault Empty) (Except SqlError α)) : Prop :=
  (answer = .error .aborted ∧ reply = .error .closed) ∨ reply = .ok answer

/-- The answers to a statement and to its call are one. -/
def Statement.Agrees : (statement : Statement) → statement.Answer → statement.call.Answer → Prop
  | .begin_, transaction, (number, now) => transaction.number = number ∧ transaction.now = now
  | .selectRun _ _, answer, reply => SameReply answer reply
  | .selectLease _ _ _, answer, reply => SameReply answer reply
  | .insertLease _ _ _, answer, reply => SameReply answer reply
  | .updateLease _ _ _, answer, reply => SameReply answer reply
  | .updateRun _ _, answer, reply => SameReply answer reply
  | .commit _ _ _, answer, reply => reply = answer.mapError fun _ => .closed
  | .rollback _, _, _ => True

/-- What a database shows of its rows, its transactions and their locks. -/
structure Shows (s : LeaseDatabase) (t : Transactions leaseSchema) : Prop where
  rows : t.rows = s.rows
  begun : t.begun = s.begun
  opened : t.opened = s.opened
  failed : t.failed = []
  leaseLock : ∀ number, (number, LeaseKey.lease) ∈ t.locks ↔ s.leaseLock = some number
  runLocks : ∀ number id, (number, LeaseKey.run id) ∈ t.locks ↔ (number, id) ∈ s.runLocks

/-! ## What is shown -/

section

variable {s : LeaseDatabase} {t : Transactions leaseSchema} {transaction : Transaction}

theorem Shows.take_nil (h : Shows s t) (number : Nat) : Shows s (t.take number []) := h

/-- The lock of the lease row is free. -/
theorem Shows.lease_free (h : Shows s t) (hfree : s.leaseLocked transaction = false) :
    t.isTaken transaction.number LeaseKey.lease = false := by
  refine Transactions.isTaken_eq_false.mpr ?_
  rintro ⟨number, key⟩ hlock rfl
  rw [LeaseDatabase.leaseLocked, (h.leaseLock number).mp hlock, Option.any_some] at hfree
  exact not_not.mp (of_decide_eq_false hfree)

/-- The lock of a run is free. -/
theorem Shows.run_free (h : Shows s t) {id : JsString}
    (hfree : s.runLocked transaction id = false) :
    t.isTaken transaction.number (LeaseKey.run id) = false := by
  refine Transactions.isTaken_eq_false.mpr ?_
  rintro ⟨number, key⟩ hlock rfl
  by_contra hne
  refine List.any_eq_false.mp hfree _ ((h.runLocks number id).mp hlock) ?_
  exact (Bool.and_eq_true _ _).mpr ⟨decide_eq_true hne, decide_eq_true rfl⟩

/-- The lock of the lease row is taken. -/
theorem Shows.lockLease (h : Shows s t) (hfree : s.leaseLocked transaction = false) :
    Shows (s.lockLease transaction) (t.take transaction.number [LeaseKey.lease]) where
  rows := h.rows
  begun := h.begun
  opened := h.opened
  failed := h.failed
  leaseLock := by
    intro number
    constructor
    · intro hlock
      rcases List.mem_cons.mp hlock with hnew | hold
      · cases hnew
        rfl
      · have hmine : number = transaction.number := by
          rw [LeaseDatabase.leaseLocked, (h.leaseLock number).mp hold, Option.any_some] at hfree
          exact not_not.mp (of_decide_eq_false hfree)
        rw [hmine]
        rfl
    · intro hlock
      cases hlock
      exact List.mem_cons_self
  runLocks := by
    intro number id
    refine Iff.trans ⟨fun hlock => ?_, List.mem_cons_of_mem _⟩ (h.runLocks number id)
    rcases List.mem_cons.mp hlock with hnew | hold
    · cases hnew
    · exact hold

/-- The lock of a run is taken. -/
theorem Shows.lockRun (h : Shows s t) (number : Nat) (id : JsString) :
    Shows { s with runLocks := (number, id) :: s.runLocks } (t.take number [LeaseKey.run id]) where
  rows := h.rows
  begun := h.begun
  opened := h.opened
  failed := h.failed
  leaseLock := by
    intro other
    refine Iff.trans ⟨fun hlock => ?_, List.mem_cons_of_mem _⟩ (h.leaseLock other)
    rcases List.mem_cons.mp hlock with hnew | hold
    · cases hnew
    · exact hold
  runLocks := by
    intro other run
    have hnew : (other, LeaseKey.run run) = (number, LeaseKey.run id) ↔
        (other, run) = (number, id) := by
      rw [Prod.mk.injEq, Prod.mk.injEq, LeaseKey.run.injEq]
    exact List.mem_cons.trans ((or_congr hnew (h.runLocks other run)).trans List.mem_cons.symm)

/-- A transaction begins. -/
theorem Shows.start (h : Shows s t) (now : Timestamptz) :
    Shows { s with clock := now, begun := s.begun + 1, opened := s.begun :: s.opened } t.start where
  rows := h.rows
  begun := congrArg (· + 1) h.begun
  opened := by
    change t.begun :: t.opened = s.begun :: s.opened
    rw [h.begun, h.opened]
  failed := h.failed
  leaseLock := h.leaseLock
  runLocks := h.runLocks

/-- A transaction ends. -/
theorem Shows.close (h : Shows s t) (number : Nat) : Shows (s.close number) (t.close number) where
  rows := h.rows
  begun := h.begun
  opened := congrArg (List.filter (· ≠ number)) h.opened
  failed := congrArg (List.filter (· ≠ number)) h.failed
  leaseLock := by
    intro other
    unfold LeaseDatabase.close
    rw [mem_close, h.leaseLock other, Option.filter_eq_some_iff, decide_eq_true_iff]
  runLocks := by
    intro other id
    unfold LeaseDatabase.close
    rw [mem_close, h.runLocks other id, List.mem_filter, decide_eq_true_iff]

/-- The writes of a commit. -/
theorem applyAll_leaseWrites (s : LeaseDatabase) (transaction : Transaction)
    (lease : Option LeaseRow) (run : Option (RunRow × OsvRuntimeRunTransitionCommand)) :
    @Transactions.applyAll _ leaseSchema (leaseWrites lease run) s.rows =
      ((s.putLease lease).putRun transaction run).rows := by
  cases lease <;> cases run <;> rfl

/-- A commit. -/
theorem Shows.commit (h : Shows s t) (lease : Option LeaseRow)
    (run : Option (RunRow × OsvRuntimeRunTransitionCommand)) :
    Shows (((s.putLease lease).putRun transaction run).close transaction.number)
      (t.commit transaction.number (leaseWrites lease run)) where
  rows := by
    unfold Transactions.commit
    rw [h.rows]
    exact applyAll_leaseWrites s transaction lease run
  begun := by cases lease <;> cases run <;> exact h.begun
  opened := by cases lease <;> cases run <;> exact (h.close transaction.number).opened
  failed := (h.close transaction.number).failed
  leaseLock := by cases lease <;> cases run <;> exact (h.close transaction.number).leaseLock
  runLocks := by cases lease <;> cases run <;> exact (h.close transaction.number).runLocks

end

/-! ## Steps -/

section

variable {s s' : LeaseDatabase} {t : Transactions leaseSchema} {transaction : Transaction}
  {now : Timestamptz}

theorem Shows.mem_opened (h : Shows s t) :
    transaction.number ∈ t.opened ↔ s.isOpen transaction = true := by
  rw [h.opened, LeaseDatabase.isOpen, List.contains_iff_mem]

/-- A transaction that is not open gets no answer. -/
theorem Shows.refused (h : Shows s t) (hclosed : s.isOpen transaction = false)
    (statement : LeaseStatement) :
    Transactions.exec (.statement transaction.number statement) now t =
      some (.error .closed, t) := by
  have hfailed : transaction.number ∉ t.failed := h.failed ▸ List.not_mem_nil
  have hnot : transaction.number ∉ t.opened := fun hopen =>
    Bool.false_ne_true (hclosed.symm.trans (h.mem_opened.mp hopen))
  unfold Transactions.exec
  dsimp only
  rw [if_neg hfailed, if_pos hnot]

/-- An open transaction whose locks are free is answered. -/
theorem Shows.answered (h : Shows s t) (hopen : s.isOpen transaction = true)
    {statement : LeaseStatement}
    (hfree : ∀ key ∈ s.rows.keys statement, t.isTaken transaction.number key = false) :
    Transactions.exec (.statement transaction.number statement) now t =
      some (.ok (s.rows.answer statement), t.take transaction.number (s.rows.keys statement)) := by
  have hfailed : transaction.number ∉ t.failed := h.failed ▸ List.not_mem_nil
  have hnone : (s.rows.keys statement).any (t.isTaken transaction.number) = false :=
    List.any_eq_false.mpr fun key hkey => Bool.eq_false_iff.mp (hfree key hkey)
  unfold Transactions.exec
  dsimp only
  rw [if_neg hfailed, if_neg (not_not.mpr (h.mem_opened.mpr hopen)), h.rows, hnone]
  rfl

/-- A statement of an open transaction that takes no lock. -/
theorem Shows.read (h : Shows s t) (hopen : s.isOpen transaction = true) (now : Timestamptz)
    (statement : LeaseStatement) (hkeys : s.rows.keys statement = []) :
    ∃ reply t', Transactions.exec (.statement transaction.number statement) now t =
        some (reply, t') ∧ reply = .ok (s.rows.answer statement) ∧ Shows s t' := by
  have hfree : ∀ key ∈ s.rows.keys statement, t.isTaken transaction.number key = false :=
    fun key hkey => absurd (hkeys ▸ hkey) List.not_mem_nil
  refine ⟨_, _, h.answered hopen hfree, rfl, ?_⟩
  rw [hkeys]
  exact h.take_nil _

/-- A statement of an open transaction that locks one row. -/
theorem Shows.locking (h : Shows s t) (hopen : s.isOpen transaction = true) (now : Timestamptz)
    (statement : LeaseStatement) {key : LeaseKey} (hkeys : s.rows.keys statement = [key])
    (hfree : t.isTaken transaction.number key = false)
    (hlocked : Shows s' (t.take transaction.number [key])) :
    ∃ reply t', Transactions.exec (.statement transaction.number statement) now t =
        some (reply, t') ∧ reply = .ok (s.rows.answer statement) ∧ Shows s' t' := by
  have hfree : ∀ other ∈ s.rows.keys statement, t.isTaken transaction.number other = false := by
    intro other hother
    rw [hkeys] at hother
    rw [List.mem_singleton.mp hother]
    exact hfree
  refine ⟨_, _, h.answered hopen hfree, rfl, ?_⟩
  rw [hkeys]
  exact hlocked

/-- An insertion of the lease row. -/
theorem Shows.insertLease (h : Shows s t) {runId digest : JsString}
    {answer : Except SqlError (Option LeaseRow)}
    (hexec : LeaseDatabase.exec (.insertLease transaction runId digest) now s = some (answer, s')) :
    ∃ reply t', Transactions.exec
        (Statement.insertLease transaction runId digest).call now t = some (reply, t') ∧
      SameReply answer reply ∧ Shows s' t' := by
  unfold LeaseDatabase.exec at hexec
  dsimp only at hexec
  split at hexec
  · rename_i hclosed
    cases hexec
    exact ⟨_, _, h.refused hclosed _, .inl ⟨rfl, rfl⟩, h⟩
  · rename_i hopen
    have hopen := eq_true_of_ne_false hopen
    split at hexec
    · rename_i row hlease
      cases hexec
      have hpresent : s.rows.lease.isNone = false := congrArg Option.isNone hlease
      obtain ⟨reply, t', hreply, rfl, hshows⟩ := h.read hopen now
        (.insertLease transaction.now runId digest)
        (if_neg (Bool.eq_false_iff.mp hpresent))
      refine ⟨_, t', hreply, .inr (congrArg _ ?_), hshows⟩
      exact if_neg (Bool.eq_false_iff.mp hpresent)
    · rename_i hlease
      have habsent : s.rows.lease.isNone = true := congrArg Option.isNone hlease
      split at hexec
      · cases hexec
      · rename_i hlocked
        cases hexec
        have hlocked := Bool.eq_false_iff.mpr hlocked
        obtain ⟨reply, t', hreply, rfl, hshows⟩ := h.locking hopen now
          (.insertLease transaction.now runId digest) (if_pos habsent)
          (h.lease_free hlocked) (h.lockLease hlocked)
        exact ⟨_, t', hreply, .inr (congrArg _ (if_pos habsent)), hshows⟩

/-- An update of the lease row. -/
theorem Shows.updateLease (h : Shows s t) {own : Option LeaseRow} {update : LeaseUpdate}
    {answer : Except SqlError (Option LeaseRow)}
    (hexec : LeaseDatabase.exec (.updateLease transaction own update) now s = some (answer, s')) :
    ∃ reply t', Transactions.exec
        (Statement.updateLease transaction own update).call now t = some (reply, t') ∧
      SameReply answer reply ∧ Shows s' t' := by
  unfold LeaseDatabase.exec at hexec
  dsimp only at hexec
  split at hexec
  · rename_i hclosed
    cases hexec
    exact ⟨_, _, h.refused hclosed _, .inl ⟨rfl, rfl⟩, h⟩
  · rename_i hopen
    have hopen := eq_true_of_ne_false hopen
    have hunmet : s.rows.leaseFor transaction.now own update = none →
        ∃ reply t', Transactions.exec
            (Statement.updateLease transaction own update).call now t = some (reply, t') ∧
          SameReply (.ok none) reply ∧ Shows s t' := by
      intro hnone
      obtain ⟨reply, t', hreply, rfl, hshows⟩ := h.read hopen now
        (.updateLease transaction.now own update)
        (by rw [LeaseRows.keys, hnone]; rfl)
      refine ⟨_, t', hreply, .inr ?_, hshows⟩
      rw [LeaseRows.answer, hnone]
      rfl
    split at hexec
    · rename_i hnone
      cases hexec
      refine hunmet ?_
      change (own.or s.lease).filter _ = none
      rw [hnone]
      rfl
    · rename_i row hsome
      have hfilter : s.rows.leaseFor transaction.now own update =
          if update.isFor transaction.now row then some row else none := by
        change (own.or s.lease).filter _ = _
        rw [hsome]
        rfl
      split at hexec
      · rename_i hfor
        cases hexec
        exact hunmet (hfilter.trans (if_neg (Bool.eq_false_iff.mp hfor)))
      · rename_i hfor
        have hfor := hfilter.trans (if_pos (eq_true_of_ne_false hfor))
        split at hexec
        · cases hexec
        · rename_i hlocked
          cases hexec
          have hlocked := Bool.eq_false_iff.mpr hlocked
          obtain ⟨reply, t', hreply, rfl, hshows⟩ := h.locking hopen now
            (.updateLease transaction.now own update)
            (by rw [LeaseRows.keys, hfor]; rfl) (h.lease_free hlocked) (h.lockLease hlocked)
          refine ⟨_, t', hreply, .inr ?_, hshows⟩
          rw [LeaseRows.answer, hfor]
          rfl

/-- An update of a run. -/
theorem Shows.updateRun (h : Shows s t) {command : OsvRuntimeRunTransitionCommand}
    {answer : Except SqlError (Option RunRow)}
    (hexec : LeaseDatabase.exec (.updateRun transaction command) now s = some (answer, s')) :
    ∃ reply t', Transactions.exec (Statement.updateRun transaction command).call now t =
        some (reply, t') ∧ SameReply answer reply ∧ Shows s' t' := by
  unfold LeaseDatabase.exec at hexec
  dsimp only at hexec
  split at hexec
  · rename_i hclosed
    cases hexec
    exact ⟨_, _, h.refused hclosed _, .inl ⟨rfl, rfl⟩, h⟩
  · rename_i hopen
    have hopen := eq_true_of_ne_false hopen
    split at hexec
    · rename_i hnone
      cases hexec
      have hrow : s.rows.runFor command = none := hnone
      obtain ⟨reply, t', hreply, rfl, hshows⟩ := h.read hopen now
        (.updateRun transaction.now command) (by rw [LeaseRows.keys, hrow]; rfl)
      refine ⟨_, t', hreply, .inr ?_, hshows⟩
      rw [LeaseRows.answer, hrow]
      rfl
    · rename_i row hsome
      have hrow : s.rows.runFor command = some row := hsome
      split at hexec
      · cases hexec
      · rename_i hlocked
        have hlocked := Bool.eq_false_iff.mpr hlocked
        split at hexec
        · rename_i hchecks
          cases hexec
          have hkeys : s.rows.keys (.updateRun transaction.now command) = [.run row.id] := by
            rw [LeaseRows.keys, hrow, Option.filter_some, if_pos hchecks]
            rfl
          obtain ⟨reply, t', hreply, rfl, hshows⟩ := h.locking hopen now _ hkeys
            (h.run_free hlocked) (h.lockRun transaction.number row.id)
          refine ⟨_, t', hreply, .inr ?_, hshows⟩
          rw [LeaseRows.answer, hrow]
          exact congrArg _ (if_pos hchecks)
        · rename_i hchecks
          cases hexec
          have hkeys : s.rows.keys (.updateRun transaction.now command) = [] := by
            rw [LeaseRows.keys, hrow, Option.filter_some, if_neg hchecks]
            rfl
          obtain ⟨reply, t', hreply, rfl, hshows⟩ := h.read hopen now _ hkeys
          refine ⟨_, t', hreply, .inr ?_, hshows⟩
          rw [LeaseRows.answer, hrow]
          exact congrArg _ (if_neg hchecks)

/-- Whatever a statement answers and leaves, its call answers and leaves. -/
theorem Shows.exec (h : Shows s t) {statement : Statement} {answer : statement.Answer}
    (hexec : LeaseDatabase.exec statement now s = some (answer, s')) :
    ∃ reply t', Transactions.exec statement.call now t = some (reply, t') ∧
      statement.Agrees answer reply ∧ Shows s' t' := by
  cases statement with
  | insertLease transaction runId digest => exact h.insertLease hexec
  | updateLease transaction own update => exact h.updateLease hexec
  | updateRun transaction command => exact h.updateRun hexec
  | begin_ =>
      unfold LeaseDatabase.exec at hexec
      dsimp only at hexec
      split at hexec
      · cases hexec
      · cases hexec
        exact ⟨_, _, rfl, ⟨h.begun.symm, rfl⟩, h.start now⟩
  | selectRun transaction runId =>
      unfold LeaseDatabase.exec at hexec
      dsimp only at hexec
      split at hexec
      · rename_i hclosed
        cases hexec
        exact ⟨_, _, h.refused hclosed _, .inl ⟨rfl, rfl⟩, h⟩
      · rename_i hopen
        cases hexec
        obtain ⟨reply, t', hreply, rfl, hshows⟩ := h.read (eq_true_of_ne_false hopen) now
          (.selectRun runId) rfl
        exact ⟨_, t', hreply, .inr rfl, hshows⟩
  | selectLease transaction own site =>
      unfold LeaseDatabase.exec at hexec
      dsimp only at hexec
      split at hexec
      · rename_i hclosed
        cases hexec
        exact ⟨_, _, h.refused hclosed _, .inl ⟨rfl, rfl⟩, h⟩
      · rename_i hopen
        cases hexec
        obtain ⟨reply, t', hreply, rfl, hshows⟩ := h.read (eq_true_of_ne_false hopen) now
          (.selectLease own) rfl
        exact ⟨_, t', hreply, .inr rfl, hshows⟩
  | commit transaction lease run =>
      have hfailed : transaction.number ∉ t.failed := h.failed ▸ List.not_mem_nil
      unfold LeaseDatabase.exec at hexec
      dsimp only at hexec
      split at hexec
      · rename_i hclosed
        cases hexec
        have hnot : transaction.number ∉ t.opened := fun hopen =>
          Bool.false_ne_true (hclosed.symm.trans (h.mem_opened.mp hopen))
        exact ⟨_, _, (if_neg hfailed).trans (if_pos hnot), rfl, h⟩
      · rename_i hopen
        cases hexec
        have hopen := h.mem_opened.mpr (eq_true_of_ne_false hopen)
        exact ⟨_, _, (if_neg hfailed).trans (if_neg (not_not.mpr hopen)), rfl,
          h.commit lease run⟩
  | rollback transaction =>
      cases hexec
      exact ⟨_, _, rfl, trivial, h.close transaction.number⟩

end

/-- The lease database is a database of the schema. -/
def leaseRefinement : Refinement leaseOperations leaseSchema.operations where
  Shows := Shows
  other := Statement.call
  choice := id
  Agrees := Statement.Agrees
  exec := fun h => h.exec

/-! ## Locks -/

/-- No transaction is open. -/
structure LeaseDatabase.Idle (s : LeaseDatabase) : Prop where
  opened : s.opened = []
  leaseLock : s.leaseLock = none
  runLocks : s.runLocks = []

/-- Only open transactions hold locks, and the lock of a run has one holder. -/
structure LeaseDatabase.LocksOrdered (s : LeaseDatabase) : Prop where
  lease : ∀ number, s.leaseLock = some number → number ∈ s.opened
  runs : ∀ lock ∈ s.runLocks, lock.1 ∈ s.opened
  exclusive : ∀ left ∈ s.runLocks, ∀ right ∈ s.runLocks, left.2 = right.2 → left.1 = right.1

theorem LeaseDatabase.Idle.shows {s : LeaseDatabase} (h : s.Idle) :
    Shows s ⟨s.rows, s.begun, [], [], [], []⟩ where
  rows := rfl
  begun := rfl
  opened := h.opened.symm
  failed := rfl
  leaseLock := by
    intro number
    rw [h.leaseLock]
    exact iff_of_false List.not_mem_nil (by rintro ⟨⟩)
  runLocks := by
    intro number id
    rw [h.runLocks]
    exact iff_of_false List.not_mem_nil List.not_mem_nil

theorem Shows.locksOrdered {s : LeaseDatabase} {t : Transactions leaseSchema} (h : Shows s t)
    (hordered : t.Ordered) : s.LocksOrdered where
  lease := fun number hlock =>
    h.opened ▸ hordered.holders _ ((h.leaseLock number).mpr hlock)
  runs := fun lock hlock => h.opened ▸ hordered.holders _ ((h.runLocks lock.1 lock.2).mpr hlock)
  exclusive := fun left hleft right hright heq =>
    hordered.exclusive _ ((h.runLocks left.1 left.2).mpr hleft) _
      ((h.runLocks right.1 right.2).mpr hright) (congrArg LeaseKey.run heq)

/-- Wherever the statements of any programs lead, transactions lead as well, and the locks are
in order. -/
theorem leaseDatabase_locksOrdered {s s' : LeaseDatabase} (hidle : s.Idle)
    (h : Leads leaseOperations s s') :
    (∃ t, Leads leaseSchema.operations ⟨s.rows, s.begun, [], [], [], []⟩ t ∧ Shows s' t) ∧
      s'.LocksOrdered := by
  obtain ⟨t, hleads, hshows⟩ := leaseRefinement.leads hidle.shows h
  refine ⟨⟨t, hleads, hshows⟩, hshows.locksOrdered ?_⟩
  refine hleads.keeps ?_ ?_
  · exact fun _ _ _ _ _ hordered hexec => hordered.exec hexec
  · exact ⟨nofun, nofun, nofun, nofun⟩

end PatchPilot.Osv
