/-
  Foundation/Undisturbed.lean --- a transaction that nothing comes between.

  A transaction that performs its calls one after the other is alone with the rows as they
  were when it began: it waits only for a lock that was there before, and what it returns and
  leaves is decided by its callback.  This rests on a number being new when a transaction
  begins, which no program has to promise, as only an open transaction can fail or take locks.
-/
import PatchPilot.Foundation.ReadCommitted

set_option autoImplicit false

namespace PatchPilot.Foundation

section

variable {σ : Type} {schema : Schema σ}

/-! ## Numbers -/

/-- Every transaction of which the database keeps something has begun. -/
structure Transactions.Numbered (s : Transactions schema) : Prop where
  opened : ∀ number ∈ s.opened, number < s.begun
  failed : ∀ number ∈ s.failed, number < s.begun
  holders : ∀ lock ∈ s.locks, lock.1 < s.begun

namespace Transactions

theorem numbered_idle (rows : σ) : (idle schema rows).Numbered where
  opened := fun _ h => absurd h List.not_mem_nil
  failed := fun _ h => absurd h List.not_mem_nil
  holders := fun _ h => absurd h List.not_mem_nil

variable {s s' : Transactions schema} {number : Nat}

theorem numbered_close (h : s.Numbered) (number : Nat) : (s.close number).Numbered where
  opened := fun other hother => h.opened other (List.mem_of_mem_filter hother)
  failed := fun other hother => h.failed other (List.mem_of_mem_filter hother)
  holders := fun lock hlock => h.holders lock (List.mem_of_mem_filter hlock)

theorem numbered_start (h : s.Numbered) : s.start.Numbered where
  opened := by
    intro other hother
    rcases List.mem_cons.mp hother with rfl | hold
    · exact Nat.lt_succ_self _
    · exact Nat.lt_succ_of_lt (h.opened other hold)
  failed := fun other hother => Nat.lt_succ_of_lt (h.failed other hother)
  holders := fun lock hlock => Nat.lt_succ_of_lt (h.holders lock hlock)

theorem numbered_take (h : s.Numbered) (hopen : number ∈ s.opened) (keys : List schema.Key) :
    (s.take number keys).Numbered where
  opened := h.opened
  failed := h.failed
  holders := by
    intro lock hlock
    rcases List.mem_append.mp hlock with hnew | hold
    · obtain ⟨key, -, rfl⟩ := List.mem_map.mp hnew
      exact h.opened number hopen
    · exact h.holders lock hold

theorem numbered_fail (h : s.Numbered) (hopen : number ∈ s.opened) :
    (s.fail number).Numbered where
  opened := (numbered_close h number).opened
  failed := by
    intro other hother
    rcases List.mem_cons.mp hother with rfl | hold
    · exact h.opened other hopen
    · exact h.failed other hold
  holders := (numbered_close h number).holders

/-- No call lets a number be used before its transaction begins. -/
theorem numbered_exec {call : Call schema} {choice : schema.Choice} {answer : call.Answer}
    (hexec : exec call choice s = some (answer, s')) (h : s.Numbered) : s'.Numbered := by
  cases call with
  | begin_ =>
      cases hexec
      exact numbered_start h
  | statement number statement =>
      unfold exec at hexec
      dsimp only at hexec
      split at hexec
      · cases hexec
        exact h
      · split at hexec
        · cases hexec
          exact h
        · rename_i hopen
          have hopen' : number ∈ s.opened := not_not.mp hopen
          split at hexec
          · cases hexec
          · split at hexec
            · cases hexec
              exact numbered_take h hopen' _
            · cases hexec
              exact numbered_fail h hopen'
  | commit number writes =>
      unfold exec at hexec
      dsimp only at hexec
      split at hexec
      · cases hexec
        exact numbered_close h number
      · split at hexec
        · cases hexec
          exact h
        · cases hexec
          exact ⟨(numbered_close h number).opened, (numbered_close h number).failed,
            (numbered_close h number).holders⟩
  | rollback number =>
      cases hexec
      exact numbered_close h number

/-! ## A transaction on its own -/

/-- A transaction is open, and none of its statements has failed. -/
structure Active (s : Transactions schema) (number : Nat) : Prop where
  opened : number ∈ s.opened
  unfailed : number ∉ s.failed

theorem active_start (h : s.Numbered) : s.start.Active s.begun where
  opened := List.mem_cons_self
  unfailed := fun hfailed => Nat.lt_irrefl _ (h.failed _ hfailed)

theorem Active.take (h : s.Active number) (keys : List schema.Key) :
    (s.take number keys).Active number := ⟨h.opened, h.unfailed⟩

end Transactions

variable {α β : Type}

/-- What a part of a transaction gives when nothing comes between its statements, and what
it leaves. -/
def Gives (choice : schema.Choice) (part : InTransaction schema α) (s : Transactions schema)
    (result : Except (Fault schema.Error) α) (s' : Transactions schema) : Prop :=
  part.run.alone choice s = some (result, s')

variable {s s' s'' : Transactions schema} {number : Nat} {choice : schema.Choice}

theorem gives_pure (value : α) : Gives choice (pure value) s (.ok value) s := rfl

theorem Gives.andThen {part : InTransaction schema β} {next : β → InTransaction schema α}
    {value : β} {result : Except (Fault schema.Error) α} (h : Gives choice part s (.ok value) s')
    (hnext : Gives choice (next value) s' result s'') :
    Gives choice (part >>= next) s result s'' :=
  (Program.alone_andThen h).trans hnext

/-- Nothing follows on a fault. -/
theorem Gives.failed {part : InTransaction schema β} {next : β → InTransaction schema α}
    {fault : Fault schema.Error} (h : Gives choice part s (.error fault) s') :
    Gives choice (part >>= next) s (.error fault) s' :=
  Program.alone_andThen h

/-- What may throw. -/
theorem gives_throwing {value : β} {next : β → InTransaction schema α}
    {result : Except (Fault schema.Error) α} (hnext : Gives choice (next value) s result s') :
    Gives choice (throwing (.ok value) >>= next) s result s' := hnext

/-- A statement that finds its locks free and is answered. -/
theorem gives_query {statement : schema.Statement} {answer : schema.Answer statement}
    (hactive : s.Active number)
    (hfree : ∀ key ∈ schema.keys statement choice s.rows, s.isTaken number key = false)
    (hanswer : schema.answer statement choice s.rows = .ok answer) :
    Gives choice (query number statement) s (.ok answer)
      (s.take number (schema.keys statement choice s.rows)) := by
  have hany : (schema.keys statement choice s.rows).any (s.isTaken number) = false :=
    List.any_eq_false.mpr fun key hkey => by simp [hfree key hkey]
  change (Transactions.exec (.statement number statement) choice s).bind _ = _
  unfold Transactions.exec
  dsimp only
  rw [if_neg hactive.unfailed, if_neg (not_not.mpr hactive.opened), hany, if_neg Bool.false_ne_true,
    hanswer]
  rfl

/-- A statement that takes no lock and is answered leaves the database as it is. -/
theorem gives_read {statement : schema.Statement} {answer : schema.Answer statement}
    (hactive : s.Active number) (hkeys : schema.keys statement choice s.rows = [])
    (hanswer : schema.answer statement choice s.rows = .ok answer) :
    Gives choice (query number statement) s (.ok answer) s := by
  have hquery := gives_query hactive
    (fun key hkey => absurd (hkeys ▸ hkey) List.not_mem_nil) hanswer
  rw [hkeys] at hquery
  exact hquery

/-- A statement that finds its locks free and fails. -/
theorem gives_query_failed {statement : schema.Statement} {error : schema.Error}
    (hactive : s.Active number)
    (hfree : ∀ key ∈ schema.keys statement choice s.rows, s.isTaken number key = false)
    (hanswer : schema.answer statement choice s.rows = .error error) :
    Gives choice (query number statement) s (.error (.sql error)) (s.fail number) := by
  have hany : (schema.keys statement choice s.rows).any (s.isTaken number) = false :=
    List.any_eq_false.mpr fun key hkey => by simp [hfree key hkey]
  change (Transactions.exec (.statement number statement) choice s).bind _ = _
  unfold Transactions.exec
  dsimp only
  rw [if_neg hactive.unfailed, if_neg (not_not.mpr hactive.opened), hany, if_neg Bool.false_ne_true,
    hanswer]
  rfl

theorem alone_begin :
    (ask .begin_ : Program schema.operations (Call.Answer .begin_)).alone choice s =
      some ((s.begun, choice), s.start) := rfl

variable {callback : Nat → schema.Choice → InTransaction schema (α × List schema.Write)}

/-- A transaction whose callback returns while it is open is committed. -/
theorem alone_committed {value : α} {writes : List schema.Write}
    (h : Gives choice (callback s.begun choice) s.start (.ok (value, writes)) s')
    (hactive : s'.Active s.begun) :
    (runTransaction callback).alone choice s =
      some (⟨s.begun, .ok value⟩, s'.commit s.begun writes) := by
  refine (Program.alone_andThen alone_begin).trans ((Program.alone_andThen h).trans ?_)
  change (Transactions.exec (.commit s.begun writes) choice s').bind _ = _
  unfold Transactions.exec
  dsimp only
  rw [if_neg hactive.unfailed, if_neg (not_not.mpr hactive.opened)]
  rfl

/-- A transaction whose callback ends with a fault is taken back. -/
theorem alone_rolledBack {fault : Fault schema.Error}
    (h : Gives choice (callback s.begun choice) s.start (.error fault) s') :
    (runTransaction callback).alone choice s =
      some (⟨s.begun, .error fault⟩, s'.close s.begun) :=
  (Program.alone_andThen alone_begin).trans ((Program.alone_andThen h).trans rfl)

end

end PatchPilot.Foundation
