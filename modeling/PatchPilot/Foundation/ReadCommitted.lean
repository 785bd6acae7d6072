/-
  Foundation/ReadCommitted.lean --- transactions that see what was committed.

  A transaction is begun, performs statements, and commits what they wrote or takes it back.
  A statement looks at the committed rows of its moment.  What a transaction has written is
  seen by it alone, so its program carries it until the commit; the database keeps the locks.
  A statement that meets the lock of another transaction waits.  A statement that fails takes
  the whole transaction with it, and then a commit commits nothing.

  The locks of a transaction that has failed are gone at once.  A database may keep them until
  the transaction is closed, which only lets less happen.
-/
import PatchPilot.Foundation.Interleaving
import Mathlib.Data.List.Infix

set_option autoImplicit false

namespace PatchPilot.Foundation

/-! ## Statements -/

/-- The statements on the rows of a database, and what transactions write. -/
structure Schema (σ : Type) where
  Statement : Type
  Answer : Statement → Type
  Error : Type
  Write : Type
  Key : Type
  /-- What no program decides: the time, a number that is generated. -/
  Choice : Type
  /-- The locks that a statement takes. -/
  keys : Statement → Choice → σ → List Key
  answer : (statement : Statement) → Choice → σ → Except Error (Answer statement)
  apply : Write → σ → σ
  decidableKey : DecidableEq Key

/-- Why a statement has no answer. -/
inductive Fault (ε : Type)
  /-- The transaction is no longer there. -/
  | closed
  /-- A statement of the transaction has failed before. -/
  | aborted
  | sql (error : ε)
  deriving DecidableEq

section

variable {σ : Type}

/-- The committed rows, the transactions, and who holds which lock.  The commits are kept as
a record of what happened; no statement reads them. -/
structure Transactions (schema : Schema σ) where
  rows : σ
  begun : Nat
  opened : List Nat
  failed : List Nat
  locks : List (Nat × schema.Key)
  history : List (Nat × List schema.Write)

/-- What a program asks of the database. -/
inductive Call (schema : Schema σ)
  | begin_
  | statement (number : Nat) (statement : schema.Statement)
  | commit (number : Nat) (writes : List schema.Write)
  | rollback (number : Nat)

/-- What it is answered. -/
def Call.Answer {schema : Schema σ} : Call schema → Type
  | .begin_ => Nat × schema.Choice
  | .statement _ asked => Except (Fault schema.Error) (schema.Answer asked)
  | .commit _ _ => Except (Fault schema.Error) Unit
  | .rollback _ => Unit

end

namespace Transactions

variable {σ : Type} {schema : Schema σ}

/-- The rows after writes, one after the other. -/
def applyAll (writes : List schema.Write) (rows : σ) : σ :=
  writes.foldl (fun rows write => schema.apply write rows) rows

/-- A database with no transaction. -/
def idle (schema : Schema σ) (rows : σ) : Transactions schema := ⟨rows, 0, [], [], [], []⟩

/-- A transaction begins. -/
def start (s : Transactions schema) : Transactions schema :=
  { s with begun := s.begun + 1, opened := s.begun :: s.opened }

/-- Another transaction has the lock. -/
def isTaken (s : Transactions schema) (number : Nat) (key : schema.Key) : Bool :=
  have := schema.decidableKey
  s.locks.any fun lock => decide (lock.1 ≠ number) && decide (lock.2 = key)

theorem isTaken_eq_false {s : Transactions schema} {number : Nat} {key : schema.Key} :
    s.isTaken number key = false ↔ ∀ lock ∈ s.locks, lock.2 = key → lock.1 = number := by
  unfold isTaken
  rw [List.any_eq_false]
  refine forall₂_congr fun lock _ => ?_
  rw [Bool.and_eq_true, decide_eq_true_iff, @decide_eq_true_iff _ (schema.decidableKey _ _)]
  exact ⟨fun h hkey => by_contra fun hne => h ⟨hne, hkey⟩, fun h hboth => hboth.1 (h hboth.2)⟩

/-- A transaction takes locks. -/
def take (s : Transactions schema) (number : Nat) (keys : List schema.Key) :
    Transactions schema :=
  { s with locks := keys.map (fun key => (number, key)) ++ s.locks }

/-- A transaction ends, and its locks are gone. -/
def close (s : Transactions schema) (number : Nat) : Transactions schema :=
  { s with
    opened := s.opened.filter (· ≠ number)
    failed := s.failed.filter (· ≠ number)
    locks := s.locks.filter (·.1 ≠ number) }

/-- A statement of a transaction has failed. -/
def fail (s : Transactions schema) (number : Nat) : Transactions schema :=
  { s.close number with failed := number :: s.failed }

/-- The writes of a transaction are committed. -/
def commit (s : Transactions schema) (number : Nat) (writes : List schema.Write) :
    Transactions schema :=
  { s.close number with
    rows := applyAll writes s.rows, history := s.history ++ [(number, writes)] }

/-- Other code has changed rows. -/
def setRows (s : Transactions schema) (rows : σ) : Transactions schema := { s with rows }

/-- What is answered, unless a statement waits for a lock. -/
def exec : (call : Call schema) → schema.Choice → Transactions schema →
    Option (call.Answer × Transactions schema)
  | .begin_, choice, s => some ((s.begun, choice), s.start)
  | .statement number statement, choice, s =>
      if number ∈ s.failed then some (.error .aborted, s)
      else if number ∉ s.opened then some (.error .closed, s)
      else
        let keys := schema.keys statement choice s.rows
        if keys.any (s.isTaken number) then none
        else
          match schema.answer statement choice s.rows with
          | .ok answer => some (.ok answer, s.take number keys)
          | .error error => some (.error (.sql error), s.fail number)
  | .commit number writes, _, s =>
      if number ∈ s.failed then some (.ok (), s.close number)
      else if number ∉ s.opened then some (.error .closed, s)
      else some (.ok (), s.commit number writes)
  | .rollback number, _, s => some ((), s.close number)

end Transactions

/-- The operations on a database. -/
def Schema.operations {σ : Type} (schema : Schema σ) : Operations (Transactions schema) where
  Op := Call schema
  Answer := Call.Answer
  Choice := schema.Choice
  exec := Transactions.exec

/-! ## Programs -/

section

variable {σ : Type} (schema : Schema σ)

/-- A part of a transaction, which a fault ends. -/
abbrev InTransaction (α : Type) := ExceptT (Fault schema.Error) (Program schema.operations) α

variable {schema} {α : Type}

/-- A call of the database. -/
def ask (call : Call schema) : Program schema.operations call.Answer :=
  @Program.perform _ schema.operations call

/-- A statement of a transaction. -/
def query (number : Nat) (statement : schema.Statement) :
    InTransaction schema (schema.Answer statement) :=
  ask (.statement number statement)

/-- What may throw, in a transaction. -/
def throwing (result : Except (Fault schema.Error) α) : InTransaction schema α :=
  ExceptT.mk (pure result)

/-- What a transaction returns, with its number. -/
structure Reply (schema : Schema σ) (α : Type) where
  number : Nat
  result : Except (Fault schema.Error) α

/-- A transaction: what the callback returns without a fault is committed with what it wrote,
and a fault takes everything back. -/
def runTransaction (callback : Nat → schema.Choice → InTransaction schema (α × List schema.Write)) :
    Program schema.operations (Reply schema α) := do
  let (number, choice) : Nat × schema.Choice ← ask .begin_
  let outcome ← (callback number choice).run
  match outcome with
  | .error fault => do
      let _ ← ask (.rollback number)
      return ⟨number, .error fault⟩
  | .ok (value, writes) => do
      let committed : Except (Fault schema.Error) Unit ← ask (.commit number writes)
      return ⟨number, committed.map fun _ => value⟩

end

/-! ## What locks protect -/

/-- What holds of the rows, how they may change, and what a lock keeps as it is. -/
structure Discipline {σ : Type} (schema : Schema σ) where
  Good : σ → Prop
  Later : σ → σ → Prop
  Same : schema.Key → σ → σ → Prop
  later_refl : ∀ rows, Later rows rows
  later_trans : ∀ {rows rows' rows''}, Later rows rows' → Later rows' rows'' → Later rows rows''
  same_refl : ∀ key rows, Same key rows rows
  same_trans : ∀ {key rows rows' rows''}, Same key rows rows' → Same key rows' rows'' →
    Same key rows rows''

section

variable {σ : Type} {schema : Schema σ}

/-- Transactions are numbered, only open ones hold locks, a lock has one holder, and a
transaction that has committed is not open. -/
structure Transactions.Ordered (s : Transactions schema) : Prop where
  opened : ∀ number ∈ s.opened, number < s.begun
  holders : ∀ lock ∈ s.locks, lock.1 ∈ s.opened
  exclusive : ∀ left ∈ s.locks, ∀ right ∈ s.locks, left.2 = right.2 → left.1 = right.1
  history : ∀ entry ∈ s.history, entry.1 < s.begun ∧ entry.1 ∉ s.opened

variable (discipline : Discipline schema)

/-- How the database may change. -/
structure Progress (s s' : Transactions schema) : Prop where
  rows : discipline.Later s.rows s'.rows
  begun : s.begun ≤ s'.begun
  opened : ∀ number < s.begun, number ∈ s'.opened → number ∈ s.opened
  locks : ∀ number < s.begun, number ∈ s'.opened → ∀ key, (number, key) ∈ s.locks →
    (number, key) ∈ s'.locks ∧ discipline.Same key s.rows s'.rows
  history : s.history <+: s'.history

variable {discipline} {s s' s'' : Transactions schema}

theorem Progress.refl (s : Transactions schema) : Progress discipline s s where
  rows := discipline.later_refl _
  begun := Nat.le_refl _
  opened := fun _ _ hopen => hopen
  locks := fun _ _ _ key hlock => ⟨hlock, discipline.same_refl key _⟩
  history := List.prefix_rfl

theorem Progress.trans (h : Progress discipline s s') (h' : Progress discipline s' s'') :
    Progress discipline s s'' where
  rows := discipline.later_trans h.rows h'.rows
  begun := Nat.le_trans h.begun h'.begun
  opened := fun number hlt hopen =>
    h.opened number hlt (h'.opened number (Nat.lt_of_lt_of_le hlt h.begun) hopen)
  locks := by
    intro number hlt hopen key hlock
    have hlt' := Nat.lt_of_lt_of_le hlt h.begun
    have hopen' := h'.opened number hlt' hopen
    obtain ⟨hheld, hsame⟩ := h.locks number hlt hopen' key hlock
    obtain ⟨hheld', hsame'⟩ := h'.locks number hlt' hopen key hheld
    exact ⟨hheld', discipline.same_trans hsame hsame'⟩
  history := h.history.trans h'.history

/-- The database between calls. -/
structure Sound (discipline : Discipline schema) (s : Transactions schema) : Prop where
  ordered : s.Ordered
  rows : discipline.Good s.rows

/-- The contract of the database. -/
def Discipline.contract (discipline : Discipline schema) : Contract (Transactions schema) where
  Inv := Sound discipline
  Rely := Progress discipline
  refl := Progress.refl
  trans := Progress.trans

/-- A transaction has begun, and has a lock as long as it is open. -/
def Holds (s : Transactions schema) (number : Nat) (key : schema.Key) : Prop :=
  number < s.begun ∧ (number ∈ s.opened → (number, key) ∈ s.locks)

theorem Holds.later {number : Nat} {key : schema.Key} (h : Holds s number key)
    (hprogress : Progress discipline s s') : Holds s' number key := by
  refine ⟨Nat.lt_of_lt_of_le h.1 hprogress.begun, fun hopen => ?_⟩
  have hlock := h.2 (hprogress.opened number h.1 hopen)
  exact (hprogress.locks number h.1 hopen key hlock).1

/-- What a lock protects stays as it is while its transaction is open. -/
theorem Holds.same {number : Nat} {key : schema.Key} (h : Holds s number key)
    (hprogress : Progress discipline s s') (hopen : number ∈ s'.opened) :
    discipline.Same key s.rows s'.rows := by
  have hlock := h.2 (hprogress.opened number h.1 hopen)
  exact (hprogress.locks number h.1 hopen key hlock).2

/-! ## What a call keeps -/

theorem sound_idle {rows : σ} (h : discipline.Good rows) :
    Sound discipline (Transactions.idle schema rows) where
  ordered := ⟨nofun, nofun, nofun, nofun⟩
  rows := h

theorem keeps_start (h : Sound discipline s) :
    Progress discipline s s.start ∧ Sound discipline s.start := by
  refine ⟨⟨discipline.later_refl _, Nat.le_succ _, ?_, ?_, List.prefix_rfl⟩,
    ⟨⟨?_, ?_, h.ordered.exclusive, ?_⟩, h.rows⟩⟩
  · intro number hlt hopen
    rcases List.mem_cons.mp hopen with heq | hopen
    · omega
    · exact hopen
  · exact fun _ _ _ key hlock => ⟨hlock, discipline.same_refl key _⟩
  · intro number hnumber
    rcases List.mem_cons.mp hnumber with rfl | hnumber
    · exact Nat.lt_succ_self _
    · exact Nat.lt_succ_of_lt (h.ordered.opened number hnumber)
  · exact fun lock hlock => List.mem_cons_of_mem _ (h.ordered.holders lock hlock)
  · intro entry hentry
    obtain ⟨hlt, hclosed⟩ := h.ordered.history entry hentry
    refine ⟨Nat.lt_succ_of_lt hlt, fun hopen => ?_⟩
    rcases List.mem_cons.mp hopen with heq | hopen
    · omega
    · exact hclosed hopen

theorem mem_close {number : Nat} {lock : Nat × schema.Key} :
    lock ∈ (s.close number).locks ↔ lock ∈ s.locks ∧ lock.1 ≠ number := by
  unfold Transactions.close
  rw [List.mem_filter, decide_eq_true_eq]

theorem mem_opened_close {number other : Nat} :
    other ∈ (s.close number).opened ↔ other ∈ s.opened ∧ other ≠ number := by
  unfold Transactions.close
  rw [List.mem_filter, decide_eq_true_eq]

theorem ordered_close (h : s.Ordered) (number : Nat) : (s.close number).Ordered where
  opened := fun other hother => h.opened other (mem_opened_close.mp hother).1
  holders := fun lock hlock => by
    obtain ⟨hlock, hne⟩ := mem_close.mp hlock
    exact mem_opened_close.mpr ⟨h.holders lock hlock, hne⟩
  exclusive := fun left hleft right hright =>
    h.exclusive left (mem_close.mp hleft).1 right (mem_close.mp hright).1
  history := fun entry hentry => by
    obtain ⟨hlt, hclosed⟩ := h.history entry hentry
    exact ⟨hlt, fun hopen => hclosed (mem_opened_close.mp hopen).1⟩

theorem keeps_close (h : Sound discipline s) (number : Nat) :
    Progress discipline s (s.close number) ∧ Sound discipline (s.close number) := by
  refine ⟨⟨discipline.later_refl _, Nat.le_refl _, ?_, ?_, List.prefix_rfl⟩,
    ⟨ordered_close h.ordered number, h.rows⟩⟩
  · exact fun other _ hopen => (mem_opened_close.mp hopen).1
  · intro other _ hopen key hlock
    have hne := (mem_opened_close.mp hopen).2
    exact ⟨mem_close.mpr ⟨hlock, hne⟩, discipline.same_refl key _⟩

theorem keeps_fail (h : Sound discipline s) (number : Nat) :
    Progress discipline s (s.fail number) ∧ Sound discipline (s.fail number) := by
  obtain ⟨hprogress, hsound⟩ := keeps_close h number
  exact ⟨⟨hprogress.rows, hprogress.begun, hprogress.opened, hprogress.locks, hprogress.history⟩,
    ⟨⟨hsound.ordered.opened, hsound.ordered.holders, hsound.ordered.exclusive,
      hsound.ordered.history⟩, hsound.rows⟩⟩

/-- Locks that no other transaction has may be taken. -/
theorem keeps_take (h : Sound discipline s) {number : Nat} (hopen : number ∈ s.opened)
    {keys : List schema.Key} (hfree : ∀ key ∈ keys, s.isTaken number key = false) :
    Progress discipline s (s.take number keys) ∧ Sound discipline (s.take number keys) := by
  have hown : ∀ lock ∈ s.locks, ∀ key ∈ keys, lock.2 = key → lock.1 = number :=
    fun lock hlock key hkey => Transactions.isTaken_eq_false.mp (hfree key hkey) lock hlock
  have hmem : ∀ lock ∈ (s.take number keys).locks,
      (lock.1 = number ∧ lock.2 ∈ keys) ∨ lock ∈ s.locks := by
    intro lock hlock
    rcases List.mem_append.mp hlock with hnew | hold
    · obtain ⟨key, hkey, rfl⟩ := List.mem_map.mp hnew
      exact .inl ⟨rfl, hkey⟩
    · exact .inr hold
  refine ⟨⟨discipline.later_refl _, Nat.le_refl _, fun _ _ hopen => hopen, ?_, List.prefix_rfl⟩,
    ⟨⟨h.ordered.opened, ?_, ?_, h.ordered.history⟩, h.rows⟩⟩
  · intro other _ _ key hlock
    exact ⟨List.mem_append_right _ hlock, discipline.same_refl key _⟩
  · intro lock hlock
    rcases hmem lock hlock with ⟨heq, -⟩ | hold
    · rw [heq]
      exact hopen
    · exact h.ordered.holders lock hold
  · intro left hleft right hright heq
    rcases hmem left hleft with ⟨hl, hlkey⟩ | hl <;> rcases hmem right hright with ⟨hr, hrkey⟩ | hr
    · rw [hl, hr]
    · rw [hl, hown right hr left.2 hlkey heq.symm]
    · rw [hr, hown left hl right.2 hrkey heq]
    · exact h.ordered.exclusive left hl right hr heq

/-- What a transaction may commit: the rows stay good, and it changes nothing that it has not
locked. -/
structure MayCommit (discipline : Discipline schema) (s : Transactions schema) (number : Nat)
    (writes : List schema.Write) : Prop where
  good : discipline.Good (Transactions.applyAll writes s.rows)
  later : discipline.Later s.rows (Transactions.applyAll writes s.rows)
  same : ∀ key, (number, key) ∉ s.locks →
    discipline.Same key s.rows (Transactions.applyAll writes s.rows)

/-- A transaction that wrote nothing may commit. -/
theorem MayCommit.nothing (h : Sound discipline s) (number : Nat) :
    MayCommit discipline s number [] where
  good := h.rows
  later := discipline.later_refl _
  same := fun key _ => discipline.same_refl key _

theorem keeps_commit (h : Sound discipline s) {number : Nat} (hopen : number ∈ s.opened)
    {writes : List schema.Write} (hmay : MayCommit discipline s number writes) :
    Progress discipline s (s.commit number writes) ∧
      Sound discipline (s.commit number writes) := by
  obtain ⟨hprogress, hsound⟩ := keeps_close h number
  refine ⟨⟨hmay.later, hprogress.begun, hprogress.opened, ?_, List.prefix_append _ _⟩,
    ⟨⟨hsound.ordered.opened, hsound.ordered.holders, hsound.ordered.exclusive, ?_⟩, hmay.good⟩⟩
  · intro other hlt hother key hlock
    refine ⟨(hprogress.locks other hlt hother key hlock).1, hmay.same key fun hmine => ?_⟩
    have heq := h.ordered.exclusive _ hlock _ hmine rfl
    exact (mem_opened_close.mp hother).2 heq
  · intro entry hentry
    rcases List.mem_append.mp hentry with hold | hnew
    · exact hsound.ordered.history entry hold
    · rw [List.mem_singleton.mp hnew]
      exact ⟨h.ordered.opened number hopen, fun hmem => (mem_opened_close.mp hmem).2 rfl⟩

/-- Other code may change what no transaction has locked. -/
theorem keeps_setRows (h : Sound discipline s) {rows : σ} (hgood : discipline.Good rows)
    (hlater : discipline.Later s.rows rows)
    (hsame : ∀ lock ∈ s.locks, discipline.Same lock.2 s.rows rows) :
    Progress discipline s (s.setRows rows) ∧ Sound discipline (s.setRows rows) :=
  ⟨⟨hlater, Nat.le_refl _, fun _ _ hopen => hopen, fun _ _ _ _ hlock => ⟨hlock, hsame _ hlock⟩,
    List.prefix_rfl⟩, ⟨⟨h.ordered.opened, h.ordered.holders, h.ordered.exclusive,
      h.ordered.history⟩, hgood⟩⟩

/-- Nothing is asked of the rows. -/
def Discipline.none (schema : Schema σ) : Discipline schema where
  Good := fun _ => True
  Later := fun _ _ => True
  Same := fun _ _ _ => True
  later_refl := fun _ => trivial
  later_trans := fun _ _ => trivial
  same_refl := fun _ _ => trivial
  same_trans := fun _ _ => trivial

/-- Every call keeps the transactions and their locks in order. -/
theorem Transactions.Ordered.exec (h : s.Ordered) {call : Call schema} {choice : schema.Choice}
    {answer : call.Answer} (hexec : Transactions.exec call choice s = some (answer, s')) :
    s'.Ordered := by
  have hsound : Sound (Discipline.none schema) s := ⟨h, trivial⟩
  cases call with
  | begin_ =>
      cases hexec
      exact (keeps_start hsound).2.ordered
  | rollback number =>
      cases hexec
      exact ordered_close h number
  | commit number writes =>
      unfold Transactions.exec at hexec
      dsimp only at hexec
      split at hexec
      · cases hexec
        exact ordered_close h number
      · split at hexec
        · cases hexec
          exact h
        · rename_i hopen
          cases hexec
          have hmay : MayCommit (Discipline.none schema) s number writes :=
            ⟨trivial, trivial, fun _ _ => trivial⟩
          exact (keeps_commit hsound (not_not.mp hopen) hmay).2.ordered
  | statement number asked =>
      unfold Transactions.exec at hexec
      dsimp only at hexec
      split at hexec
      · cases hexec
        exact h
      · split at hexec
        · cases hexec
          exact h
        · rename_i hopen
          split at hexec
          · cases hexec
          · rename_i hfree
            have hfree := List.any_eq_false.mp (Bool.eq_false_iff.mpr hfree)
            split at hexec
            · cases hexec
              exact (keeps_take hsound (not_not.mp hopen) fun key hkey =>
                Bool.eq_false_iff.mpr (hfree key hkey)).2.ordered
            · cases hexec
              exact (keeps_fail hsound number).2.ordered

end

/-! ## Safe programs -/

section

variable {σ : Type} {schema : Schema σ} {α β : Type}

/-- Every call of the database is allowed. -/
def AnyCall (_ : Call schema) (_ : Transactions schema) : Prop := True

/-- A program keeps the contract of the database, and what it returns is as `post` says. -/
abbrev Keeps (discipline : Discipline schema) (post : α → Transactions schema → Prop)
    (program : Program schema.operations α) (s : Transactions schema) : Prop :=
  @Safe _ schema.operations _ discipline.contract AnyCall post program s

/-- A part of a transaction keeps the contract, and what it gives is as `post` says.  Nothing
is asked of a fault. -/
def PartKeeps (discipline : Discipline schema) (post : α → Transactions schema → Prop)
    (part : InTransaction schema α) (s : Transactions schema) : Prop :=
  Keeps discipline (fun result s => ∀ value, result = .ok value → post value s) part.run s

variable {discipline : Discipline schema} {s : Transactions schema} {number : Nat}
  {post : α → Transactions schema → Prop}

theorem PartKeeps.result {value : α}
    (h : ∀ s', Progress discipline s s' → Sound discipline s' → post value s') :
    PartKeeps discipline post (pure value) s := by
  intro s' hprogress hsound value' hvalue
  cases hvalue
  exact h s' hprogress hsound

theorem PartKeeps.andThen {q : β → Transactions schema → Prop} {part : InTransaction schema β}
    {next : β → InTransaction schema α} (hpart : PartKeeps discipline q part s)
    (hnext : ∀ value s', Progress discipline s s' → Sound discipline s' → q value s' →
      PartKeeps discipline post (next value) s') :
    PartKeeps discipline post (part >>= next) s := by
  refine Safe.andThenFrom hpart fun result s' hprogress hsound hresult => ?_
  cases result with
  | ok value => exact hnext value s' hprogress hsound (hresult value rfl)
  | error fault =>
      intro s'' _ _ value hvalue
      cases hvalue

/-- What may throw. -/
theorem PartKeeps.throwing {result : Except (Fault schema.Error) β}
    {next : β → InTransaction schema α}
    (h : ∀ value, result = .ok value → PartKeeps discipline post (next value) s) :
    PartKeeps discipline post (Foundation.throwing result >>= next) s := by
  cases result with
  | ok value => exact h value rfl
  | error fault =>
      intro s' _ _ value hvalue
      cases hvalue

/-- A part whose fault is caught goes on in either case. -/
theorem PartKeeps.caught {part : InTransaction schema β}
    {next : Except (Fault schema.Error) β → InTransaction schema α}
    {post' : β → Transactions schema → Prop} (hpart : PartKeeps discipline post' part s)
    (hok : ∀ value s', Progress discipline s s' → Sound discipline s' → post' value s' →
      PartKeeps discipline post (next (.ok value)) s')
    (herror : ∀ fault s', Progress discipline s s' → Sound discipline s' →
      PartKeeps discipline post (next (.error fault)) s') :
    PartKeeps discipline post (ExceptT.lift part.run >>= next) s := by
  refine PartKeeps.andThen (q := fun result s => ∀ value, result = .ok value → post' value s)
    ?_ fun result s' hprogress hsound hresult => ?_
  · refine Safe.map (fun result s' h value hvalue => ?_) hpart
    cases hvalue
    exact h
  · cases result with
    | ok value => exact hok value s' hprogress hsound (hresult value rfl)
    | error fault => exact herror fault s' hprogress hsound

/-- What a statement answers holds from the moment on at which it was performed, with the
locks that it took. -/
theorem keeps_query {statement : schema.Statement}
    {post : schema.Answer statement → Transactions schema → Prop}
    (h : ∀ s', Progress discipline s s' → Sound discipline s' → number ∈ s'.opened →
      ∀ choice answer, schema.answer statement choice s'.rows = .ok answer →
        ∀ later, Progress discipline (s'.take number (schema.keys statement choice s'.rows)) later →
          Sound discipline later → post answer later) :
    PartKeeps discipline post (query number statement) s := by
  intro s' hprogress hsound _ choice answer s'' hexec
  change Transactions.exec (.statement number statement) choice s' = some (answer, s'') at hexec
  unfold Transactions.exec at hexec
  dsimp only at hexec
  split at hexec
  · cases hexec
    exact ⟨Progress.refl _, hsound, fun _ _ _ _ hvalue => by cases hvalue⟩
  · split at hexec
    · cases hexec
      exact ⟨Progress.refl _, hsound, fun _ _ _ _ hvalue => by cases hvalue⟩
    · rename_i hopen
      have hopen' : number ∈ s'.opened := not_not.mp hopen
      split at hexec
      · cases hexec
      · rename_i hfree
        split at hexec
        · rename_i value hvalue
          cases hexec
          have hfree' : ∀ key ∈ schema.keys statement choice s'.rows,
              s'.isTaken number key = false := by
            intro key hkey
            by_contra htaken
            exact hfree (List.any_eq_true.mpr ⟨key, hkey, by simpa using htaken⟩)
          obtain ⟨hstep, hsound'⟩ := keeps_take hsound hopen' hfree'
          refine ⟨hstep, hsound', fun later hlater hsoundLater value' heq => ?_⟩
          cases heq
          exact h s' hprogress hsound hopen' choice value hvalue later hlater hsoundLater
        · cases hexec
          obtain ⟨hstep, hsound'⟩ := keeps_fail hsound number
          exact ⟨hstep, hsound', fun _ _ _ _ hvalue => by cases hvalue⟩

/-- The locks that a statement took are held. -/
theorem holds_of_take {s' later : Transactions schema} {keys : List schema.Key}
    (hnumber : number < s'.begun) (hlater : Progress discipline (s'.take number keys) later)
    {key : schema.Key} (hkey : key ∈ keys) : Holds later number key := by
  have hheld : Holds (s'.take number keys) number key :=
    ⟨hnumber, fun _ => List.mem_append_left _ (List.mem_map.mpr ⟨key, hkey, rfl⟩)⟩
  exact hheld.later hlater

theorem keeps_begin :
    Keeps discipline (fun (answer : Nat × schema.Choice) s' => answer.1 < s'.begun)
      (ask .begin_ : Program schema.operations (Call.Answer .begin_)) s := by
  intro s' _ hsound _ choice answer s'' hexec
  obtain ⟨hanswer, hs''⟩ := Prod.mk.inj (Option.some.inj hexec)
  subst hanswer hs''
  obtain ⟨hstart, hsound'⟩ := keeps_start hsound
  refine ⟨hstart, hsound', fun later hlater _ => ?_⟩
  exact Nat.lt_of_lt_of_le (Nat.lt_succ_self s'.begun) hlater.begun

theorem keeps_rollback :
    Keeps discipline (fun _ _ => True)
      (ask (.rollback number) : Program schema.operations (Call.Answer (.rollback number))) s := by
  intro s' _ hsound _ choice answer s'' hexec
  obtain ⟨-, hs''⟩ := Prod.mk.inj (Option.some.inj hexec)
  subst hs''
  obtain ⟨hclose, hsound'⟩ := keeps_close hsound number
  exact ⟨hclose, hsound', fun _ _ _ => trivial⟩

/-- A commit of what may be committed, whenever it comes to it. -/
theorem keeps_commitCall {writes : List schema.Write}
    (h : ∀ s', Progress discipline s s' → Sound discipline s' → number ∈ s'.opened →
      MayCommit discipline s' number writes) :
    Keeps discipline (fun _ _ => True)
      (ask (.commit number writes) :
        Program schema.operations (Call.Answer (.commit number writes))) s := by
  intro s' hprogress hsound _ choice answer s'' hexec
  change Transactions.exec (.commit number writes) choice s' = some (answer, s'') at hexec
  unfold Transactions.exec at hexec
  dsimp only at hexec
  split at hexec
  · cases hexec
    obtain ⟨hclose, hsound'⟩ := keeps_close hsound number
    exact ⟨hclose, hsound', fun _ _ _ => trivial⟩
  · split at hexec
    · cases hexec
      exact ⟨Progress.refl _, hsound, fun _ _ _ => trivial⟩
    · rename_i hopen
      have hopen' : number ∈ s'.opened := not_not.mp hopen
      cases hexec
      obtain ⟨hcommit, hsound'⟩ :=
        keeps_commit hsound hopen' (h s' hprogress hsound hopen')
      exact ⟨hcommit, hsound', fun _ _ _ => trivial⟩

/-- A transaction keeps the contract when its callback does, and may commit what it wrote
whenever it comes to it. -/
theorem keeps_runTransaction
    {callback : Nat → schema.Choice → InTransaction schema (α × List schema.Write)}
    {post : Reply schema α → Transactions schema → Prop}
    (hfault : ∀ number fault s', Progress discipline s s' → Sound discipline s' →
      post ⟨number, .error fault⟩ s')
    (h : ∀ number choice s', Progress discipline s s' → Sound discipline s' →
      number < s'.begun → PartKeeps discipline (fun outcome s'' => ∀ later,
        Progress discipline s'' later → Sound discipline later →
          (number ∈ later.opened → MayCommit discipline later number outcome.2) ∧
            post ⟨number, .ok outcome.1⟩ later) (callback number choice) s') :
    Keeps discipline post (runTransaction callback) s := by
  refine Safe.andThenFrom keeps_begin fun answer s₁ hprogress₁ hsound₁ hnumber => ?_
  obtain ⟨number, choice⟩ := answer
  refine Safe.andThenFrom (h number choice s₁ hprogress₁ hsound₁ hnumber)
    fun outcome s₂ hprogress₂ hsound₂ houtcome => ?_
  have hprogress := Progress.trans hprogress₁ hprogress₂
  cases outcome with
  | error fault =>
      refine Safe.andThenFrom keeps_rollback fun _ s₃ hprogress₃ _ _ => ?_
      refine Safe.done fun s₄ hprogress₄ hsound₄ => ?_
      exact hfault number fault s₄
        (Progress.trans hprogress (Progress.trans hprogress₃ hprogress₄)) hsound₄
  | ok outcome =>
      have hpromised := houtcome outcome rfl
      refine Safe.andThenFrom
        (keeps_commitCall fun s₃ hprogress₃ hsound₃ => (hpromised s₃ hprogress₃ hsound₃).1)
        fun committed s₃ hprogress₃ _ _ => ?_
      refine Safe.done fun s₄ hprogress₄ hsound₄ => ?_
      have hlast := Progress.trans hprogress₃ hprogress₄
      cases committed with
      | ok done => exact (hpromised s₄ hlast hsound₄).2
      | error fault => exact hfault number fault s₄ (Progress.trans hprogress hlast) hsound₄

end

end PatchPilot.Foundation
