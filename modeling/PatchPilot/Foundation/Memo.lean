/-
  Foundation/Memo.lean --- memo tables and computations that use one.

  A memo table of `f` is a finite map in which every stored answer is the answer
  `f` gives.  The soundness of the entries is a field of the table, so an
  unsound table cannot be built and no caller has to carry the fact along.

  A program that consults a table is written once, over an arbitrary monad and a
  `remember` operation.  Read in the state monad over `Memo f` it is the program
  with the table; read in `Id` with `f` itself it is the program without one.
  `Returns` is the rule by which the two readings are compared, one bind at a
  time, for every table the program can be started with.
-/
import Mathlib.Data.List.Basic

set_option autoImplicit false

namespace PatchPilot.Foundation

variable {α β γ σ : Type}

/-- A memo table of `f`: stored pairs, each of which is a pair of the graph of
`f`. -/
structure Memo (f : α → β) where
  entries : List (α × β)
  sound : ∀ e ∈ entries, e.2 = f e.1

namespace Memo

variable {f : α → β}

/-- The table with nothing stored. -/
def empty : Memo f where
  entries := []
  sound := by simp

/-- Store the answer for `a`. -/
def store (t : Memo f) (a : α) : Memo f where
  entries := (a, f a) :: t.entries
  sound := by
    intro e he
    rcases List.mem_cons.mp he with rfl | he
    · rfl
    · exact t.sound e he

variable [DecidableEq α]

/-- The stored answer for `a`, if there is one. -/
def get (t : Memo f) (a : α) : Option β :=
  (t.entries.find? (fun e => e.1 = a)).map Prod.snd

theorem get_eq_some {t : Memo f} {a : α} {b : β} (h : t.get a = some b) : b = f a := by
  obtain ⟨e, he, rfl⟩ := Option.map_eq_some_iff.mp h
  have hkey : e.1 = a := by simpa using List.find?_some he
  rw [t.sound e (List.mem_of_find?_eq_some he), hkey]

/-- Answer `a` from the table, computing and storing the answer when it is
missing. -/
def remember (a : α) : StateM (Memo f) β := fun t =>
  match t.get a with
  | some b => (b, t)
  | none => (f a, t.store a)

end Memo

/-! ## Computations whose result does not depend on the state -/

/-- From every initial state the computation returns `a`. -/
def Returns (x : StateM σ α) (a : α) : Prop := ∀ s : σ, (x s).1 = a

namespace Returns

theorem pure (a : α) : Returns (σ := σ) (Pure.pure a) a := fun _ => rfl

theorem bind {x : StateM σ α} {k : α → StateM σ β} {a : α} {b : β}
    (hx : Returns x a) (hk : Returns (k a) b) : Returns (x >>= k) b := by
  intro s
  change (k (x s).1 (x s).2).1 = b
  rw [hx s]
  exact hk (x s).2

/-- Two readings of one program agree on a bind when they agree on its parts. -/
theorem bind_id {x : StateM σ α} {y : Id α} {k : α → StateM σ β} {k' : α → Id β}
    (hx : Returns x y) (hk : ∀ a, Returns (k a) (k' a)) : Returns (x >>= k) (y >>= k') :=
  Returns.bind hx (hk y)

theorem eq {x : StateM σ α} {a : α} (hx : Returns x a) (s : σ) : (x s).1 = a := hx s

end Returns

/-- A bind in the reading without a table, once its first part is known. -/
theorem id_bind {x : Id α} {a : α} (h : x = a) (k : α → Id β) : (x >>= k) = k a := by
  subst h
  rfl

/-- Consulting a memo table of `f` returns what `f` returns. -/
theorem Memo.remember_returns [DecidableEq α] {f : α → β} (a : α) :
    Returns (Memo.remember (f := f) a) (f a) := by
  intro t
  unfold Memo.remember
  cases h : t.get a with
  | none => rfl
  | some b => exact Memo.get_eq_some h

end PatchPilot.Foundation
