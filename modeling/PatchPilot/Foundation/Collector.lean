/-
  Foundation/Collector.lean --- computations that collect issues.

  A validator that reports everything that is wrong does not stop at the first
  issue.  It keeps a list, appends to it, and compares its length before and
  after a section to decide whether the section produced a value.  An issue that
  is already in the list is not added again.

  A `Collect` computation carries the fact that it only ever appends.  This is
  what makes acceptance compositional: a run that starts with no issue and ends
  with none never had one, so every part of it ran clean as well, although each
  part is free to look at the list it was given.
-/
import Mathlib.Data.List.Basic
import Mathlib.Data.List.Forall2
import Mathlib.Data.List.Infix
import Mathlib.Tactic.Common

set_option autoImplicit false

namespace PatchPilot.Foundation

/-- A computation over a growing list of issues. -/
structure Collect (ι α : Type) where
  run : List ι → α × List ι
  grows : ∀ issues, issues <+: (run issues).2

namespace Collect

variable {ι α β : Type}

/-- Add nothing. -/
protected def pure (a : α) : Collect ι α where
  run issues := (a, issues)
  grows _ := List.prefix_rfl

/-- Collect the issues of both parts. -/
protected def bind (x : Collect ι α) (k : α → Collect ι β) : Collect ι β where
  run issues := (k (x.run issues).1).run (x.run issues).2
  grows issues := (x.grows issues).trans ((k _).grows _)

instance : Monad (Collect ι) where
  pure := Collect.pure
  bind := Collect.bind

instance : LawfulMonad (Collect ι) :=
  LawfulMonad.mk' (Collect ι) (fun _ => rfl) (fun _ _ => rfl) (fun _ _ _ => rfl)

/-- Add an issue, unless it has been added before. -/
def add [DecidableEq ι] (issue : ι) : Collect ι Unit where
  run issues := ((), if issue ∈ issues then issues else issues ++ [issue])
  grows issues := by
    split
    · exact List.prefix_rfl
    · exact List.prefix_append _ _

/-- The number of issues so far. -/
def count : Collect ι Nat where
  run issues := (issues.length, issues)
  grows _ := List.prefix_rfl

/-- Run a section and give its value up when it added an issue. -/
def guarded (x : Collect ι α) : Collect ι (Option α) := do
  let before ← count
  let a ← x
  let after ← count
  pure (if after > before then none else some a)

/-! ## Clean runs -/

/-- Started with no issue, the computation returns `a` and adds none. -/
def Clean (x : Collect ι α) (a : α) : Prop := x.run [] = (a, [])

theorem clean_pure {a b : α} : (pure a : Collect ι α).Clean b ↔ a = b := by
  constructor
  · intro h
    exact congrArg Prod.fst h
  · rintro rfl
    rfl

/-- A clean run of a sequence is a clean run of its parts. -/
theorem clean_bind {x : Collect ι α} {k : α → Collect ι β} {b : β} :
    (x >>= k).Clean b ↔ ∃ a, x.Clean a ∧ (k a).Clean b := by
  constructor
  · intro h
    have hrun : (k (x.run []).1).run (x.run []).2 = (b, []) := h
    -- the second part only appends, so the first one left nothing behind
    have hgrows := (k (x.run []).1).grows (x.run []).2
    rw [hrun] at hgrows
    have hnil : (x.run []).2 = [] := List.prefix_nil.mp hgrows
    refine ⟨(x.run []).1, Prod.ext rfl hnil, ?_⟩
    rw [hnil] at hrun
    exact hrun
  · rintro ⟨a, hx, hk⟩
    have hrun : (x >>= k).run [] = (k (x.run []).1).run (x.run []).2 := rfl
    unfold Clean
    rw [hrun, hx]
    exact hk

theorem not_clean_add [DecidableEq ι] {issue : ι} {u : Unit} : ¬ (add issue).Clean u := by
  intro h
  have hissues := congrArg Prod.snd h
  simp [add] at hissues

theorem clean_count {n : Nat} : (count : Collect ι Nat).Clean n ↔ n = 0 := by
  constructor
  · intro h
    exact (congrArg Prod.fst h).symm
  · rintro rfl
    rfl

/-- A section that is clean keeps its value. -/
theorem clean_guarded {x : Collect ι α} {result : Option α} :
    x.guarded.Clean result ↔ ∃ a, x.Clean a ∧ result = some a := by
  unfold guarded
  simp only [clean_bind, clean_count, clean_pure]
  constructor
  · rintro ⟨before, rfl, a, ha, after, rfl, rfl⟩
    exact ⟨a, ha, by simp⟩
  · rintro ⟨a, ha, rfl⟩
    exact ⟨0, rfl, a, ha, 0, rfl, by simp⟩

/-- A conditional issue is not added when its condition fails. -/
theorem clean_addWhen [DecidableEq ι] {p : Prop} [Decidable p] {issue : ι} {u : Unit} :
    (if p then add issue else pure ()).Clean u ↔ ¬ p := by
  split
  · rename_i hp
    exact iff_of_false not_clean_add (not_not.mpr hp)
  · rename_i hp
    exact iff_of_true rfl hp

theorem clean_mapM {f : α → Collect ι β} :
    ∀ {l : List α} {bs : List β},
      (l.mapM f).Clean bs ↔ List.Forall₂ (fun a b => (f a).Clean b) l bs := by
  intro l
  induction l with
  | nil =>
      intro bs
      rw [List.mapM_nil, clean_pure, List.forall₂_nil_left_iff, eq_comm]
  | cons a rest ih =>
      intro bs
      simp only [List.mapM_cons, clean_bind, clean_pure, ih, List.forall₂_cons_left_iff]
      constructor
      · rintro ⟨b, hb, tail, htail, rfl⟩
        exact ⟨b, tail, hb, htail, rfl⟩
      · rintro ⟨b, tail, hb, htail, rfl⟩
        exact ⟨b, hb, tail, htail, rfl⟩

/-- Items that are read one by one, each at its own index. -/
theorem clean_mapM_zipIdx {γ : Type} {f : α × Nat → Collect ι β} {write : γ → α} {read : γ → β} :
    ∀ {l : List γ} {k : Nat}, (∀ i c, l[i]? = some c → (f (write c, k + i)).Clean (read c)) →
      (((l.map write).zipIdx k).mapM f).Clean (l.map read) := by
  intro l
  induction l with
  | nil => exact fun _ => rfl
  | cons c rest ih =>
      intro k h
      rw [List.map_cons, List.zipIdx_cons, List.mapM_cons, clean_bind]
      refine ⟨read c, h 0 c rfl, ?_⟩
      rw [clean_bind]
      refine ⟨rest.map read, ih fun i d hd => ?_, rfl⟩
      rw [show k + 1 + i = k + (i + 1) by omega]
      exact h (i + 1) d hd

theorem clean_foldlM_cons {f : β → α → Collect ι β} {a : α} {l : List α} {b c : β} :
    ((a :: l).foldlM f b).Clean c ↔ ∃ b', (f b a).Clean b' ∧ (l.foldlM f b').Clean c := by
  rw [List.foldlM_cons, clean_bind]

theorem clean_forM {f : α → Collect ι PUnit} {u : PUnit} :
    ∀ {l : List α}, (l.forM f).Clean u ↔ ∀ a ∈ l, (f a).Clean ⟨⟩ := by
  intro l
  induction l with
  | nil => exact iff_of_true rfl (by simp)
  | cons a rest ih =>
      rw [List.forM_eq_forM, List.forM_cons, clean_bind, List.forall_mem_cons]
      constructor
      · rintro ⟨_, ha, hrest⟩
        exact ⟨ha, ih.mp hrest⟩
      · rintro ⟨ha, hrest⟩
        exact ⟨_, ha, ih.mpr hrest⟩

end Collect

end PatchPilot.Foundation
