/-
  Foundation/Keyset.lean --- paging by the key of the last row.

  A reader that answers with the first rows after a key and with the key of the last of
  them is asked again and again until it names no key.  If every answer is the next
  stretch of one sorted list, then the answers together are the list: the key of a row
  stands for the rows behind it, and the order leaves no two rows at one place.
-/
import Mathlib.Data.List.Forall2
import PatchPilot.Foundation.Comparator
import PatchPilot.Foundation.Fallible

set_option autoImplicit false

namespace PatchPilot.Foundation

variable {α β κ : Type}

/-! ## The rows after a row -/

/-- The order tells the rows of a list apart. -/
def Separates (cmp : α → α → Ordering) (l : List α) : Prop :=
  ∀ a ∈ l, ∀ b ∈ l, cmp a b = .eq → a = b

/-- Selecting rows and sorting them can be done in either order. -/
theorem sortBy_filter {cmp : α → α → Ordering} [Std.TransCmp cmp] {l : List α}
    (hseparates : Separates cmp l) (p : α → Bool) :
    sortBy cmp (l.filter p) = (sortBy cmp l).filter p := by
  have hperm : (sortBy cmp (l.filter p)).Perm ((sortBy cmp l).filter p) :=
    (sortBy_perm cmp (l.filter p)).trans ((sortBy_perm cmp l).filter p).symm
  refine hperm.eq_of_pairwise ?_ (sortBy_pairwise cmp _)
    ((sortBy_pairwise cmp l).sublist List.filter_sublist)
  intro a b ha hb hab hba
  have hmem : a ∈ l ∧ b ∈ l := by
    have hb' := (sortBy_perm cmp l).mem_iff.mp (List.mem_filter.mp hb).1
    exact ⟨(List.mem_filter.mp ((sortBy_perm cmp _).mem_iff.mp ha)).1, hb'⟩
  refine hseparates a hmem.1 b hmem.2 ?_
  rw [@Std.OrientedCmp.eq_swap α cmp _ b a] at hba
  revert hab hba
  cases cmp a b <;> decide

/-- Rows that are told apart are sorted strictly. -/
theorem sortBy_pairwise_lt {cmp : α → α → Ordering} [Std.TransCmp cmp] {l : List α}
    (hseparates : Separates cmp l) (hnodup : l.Nodup) :
    (sortBy cmp l).Pairwise fun a b => cmp a b = .lt := by
  have hnodup' : (sortBy cmp l).Pairwise (· ≠ ·) := (sortBy_perm cmp l).nodup_iff.mpr hnodup
  refine ((sortBy_pairwise cmp l).and hnodup').imp_of_mem ?_
  rintro a b ha hb ⟨hle, hne⟩
  have ha' := (sortBy_perm cmp l).mem_iff.mp ha
  have hb' := (sortBy_perm cmp l).mem_iff.mp hb
  cases hab : cmp a b with
  | lt => rfl
  | eq => exact absurd (hseparates a ha' b hb' hab) hne
  | gt => rw [hab] at hle; cases hle

/-- In a strictly sorted list the rows after a row are those behind it. -/
theorem filter_after {cmp : α → α → Ordering} [Std.TransCmp cmp] {before behind : List α}
    {a : α} (hsorted : (before ++ a :: behind).Pairwise fun a b => cmp a b = .lt)
    {after : α → Bool}
    (hafter : ∀ b ∈ before ++ a :: behind, after b = true ↔ cmp a b = .lt) :
    (before ++ a :: behind).filter after = behind := by
  obtain ⟨-, hrest, hcross⟩ := List.pairwise_append.mp hsorted
  obtain ⟨hbehind, -⟩ := List.pairwise_cons.mp hrest
  have hnone : before.filter after = [] := by
    refine List.filter_eq_nil_iff.mpr fun b hb htrue => ?_
    have hlt := (hafter b (List.mem_append_left _ hb)).mp htrue
    have hgt := hcross b hb a List.mem_cons_self
    rw [@Std.OrientedCmp.eq_swap α cmp _ a b, hgt] at hlt
    cases hlt
  have hself : after a = false := by
    rw [Bool.eq_false_iff]
    intro htrue
    have hlt := (hafter a (by simp)).mp htrue
    rw [@Std.ReflCmp.compare_self α cmp _ a] at hlt
    cases hlt
  have hall : behind.filter after = behind := by
    refine List.filter_eq_self.mpr fun b hb => ?_
    exact (hafter b (by simp [hb])).mpr (hbehind b hb)
  rw [List.filter_append, hnone, List.nil_append, List.filter_cons_of_neg (by simp [hself]), hall]

/-! ## Asking again and again -/

section

variable {π : Type}

/-- The pages of a reader from a key on, until it names no key; `none` when a page fails or
the requests run out.  The reader is told the number of the request. -/
def followPages (read : Nat → Option κ → Option (π × Option κ)) :
    Nat → Nat → Option κ → Option (List π)
  | 0, _, _ => none
  | fuel + 1, request, key =>
      match read request key with
      | none => none
      | some (page, none) => some [page]
      | some (page, some next) =>
          (followPages read fuel (request + 1) (some next)).map fun pages => page :: pages

/-- A reader answers with a page about the first items of what a key stands for: about all
of them, or about one of them at least and with a key that stands for the others. -/
def Covers (read : Nat → Option κ → Option (π × Option κ)) (about : List α → π → Prop)
    (standsFor : Option κ → List α → Prop) : Prop :=
  ∀ request key items, standsFor key items →
    ∃ page next count, read request key = some (page, next) ∧ about (items.take count) page ∧
      (next = none ∧ items.length ≤ count ∨
        ∃ key', next = some key' ∧ 0 < count ∧ count ≤ items.length ∧
          standsFor (some key') (items.drop count))

/-- The pages of a reader that covers what its keys stand for split it into stretches, in
as many requests as there are items and one more at most. -/
theorem followPages_covers {read : Nat → Option κ → Option (π × Option κ)}
    {about : List α → π → Prop} {standsFor : Option κ → List α → Prop}
    (hcovers : Covers read about standsFor) :
    ∀ fuel request key items, standsFor key items → items.length < fuel →
      ∃ stretches pages, followPages read fuel request key = some pages ∧
        stretches.flatten = items ∧ List.Forall₂ about stretches pages := by
  intro fuel
  induction fuel with
  | zero =>
      intro request key items _ hfuel
      exact absurd hfuel (Nat.not_lt_zero _)
  | succ fuel ih =>
      intro request key items hkey hfuel
      obtain ⟨page, next, count, hread, habout, hnext⟩ := hcovers request key items hkey
      rcases hnext with ⟨rfl, hlast⟩ | ⟨key', rfl, hpos, hcount, hkey'⟩
      · refine ⟨[items.take count], [page], ?_, ?_, .cons habout .nil⟩
        · rw [followPages, hread]
        · rw [List.take_of_length_le hlast]
          simp
      · obtain ⟨stretches, pages, hpages, hflatten, hall⟩ := ih (request + 1) (some key')
          (items.drop count) hkey' (by rw [List.length_drop]; omega)
        refine ⟨items.take count :: stretches, page :: pages, ?_, ?_, .cons habout hall⟩
        · rw [followPages, hread]
          simp only [hpages, Option.map_some]
        · rw [List.flatten_cons, hflatten, List.take_append_drop]

end

/-! ## Pages of a fixed size -/

/-- The answers of a reader from a key on, until it names no key; `none` when an answer
fails or the requests run out.  The reader is told the number of the request. -/
def followKeys (read : Nat → Option κ → Option (List β × Option κ)) :
    Nat → Nat → Option κ → Option (List (List β))
  | 0, _, _ => none
  | fuel + 1, request, key =>
      match read request key with
      | none => none
      | some (rows, none) => some [rows]
      | some (rows, some next) =>
          (followKeys read fuel (request + 1) (some next)).map fun pages => rows :: pages

/-- A reader answers with the next stretch of what a key stands for. -/
def Serves (read : Nat → Option κ → Option (List β × Option κ)) (R : α → β → Prop)
    (limit : Nat) (standsFor : Option κ → List α → Prop) : Prop :=
  ∀ request key rows, standsFor key rows →
    ∃ answers next, read request key = some (answers, next) ∧
      List.Forall₂ R (rows.take limit) answers ∧
      if rows.length ≤ limit then next = none
      else ∃ key', next = some key' ∧ standsFor (some key') (rows.drop limit)

theorem followKeys_eq_followPages (read : Nat → Option κ → Option (List β × Option κ)) :
    ∀ fuel request key, followKeys read fuel request key = followPages read fuel request key := by
  intro fuel
  induction fuel with
  | zero =>
      intro request key
      rfl
  | succ fuel ih =>
      intro request key
      rw [followKeys, followPages]
      split <;> simp [*]

/-- A reader that serves stretches of a fixed size covers what its keys stand for. -/
theorem covers_of_serves {read : Nat → Option κ → Option (List β × Option κ)}
    {R : α → β → Prop} {limit : Nat} {standsFor : Option κ → List α → Prop}
    (hlimit : 1 ≤ limit) (hserves : Serves read R limit standsFor) :
    Covers read (fun rows answers => List.Forall₂ R rows answers ∧ answers.length ≤ limit)
      standsFor := by
  intro request key rows hkey
  obtain ⟨answers, next, hread, hanswers, hnext⟩ := hserves request key rows hkey
  have hlength : answers.length ≤ limit := by
    rw [← hanswers.length_eq, List.length_take]
    exact Nat.min_le_left _ _
  refine ⟨answers, next, limit, hread, ⟨hanswers, hlength⟩, ?_⟩
  split at hnext
  · rename_i hlast
    exact .inl ⟨hnext, hlast⟩
  · rename_i hmore
    obtain ⟨key', hkey', hrest⟩ := hnext
    exact .inr ⟨key', hkey', hlimit, by omega, hrest⟩

theorem forall₂_flatten {R : α → β → Prop} {rows : List (List α)} {answers : List (List β)}
    (h : List.Forall₂ (List.Forall₂ R) rows answers) :
    List.Forall₂ R rows.flatten answers.flatten := by
  induction h with
  | nil => exact .nil
  | cons hfirst _ ih => exact List.rel_append hfirst ih

/-- A reader that serves the next stretch every time enumerates what a key stands for, in
as many requests as there are rows and one more at most. -/
theorem followKeys_enumerates {read : Nat → Option κ → Option (List β × Option κ)}
    {R : α → β → Prop} {limit : Nat} {standsFor : Option κ → List α → Prop}
    (hlimit : 1 ≤ limit) (hserves : Serves read R limit standsFor) :
    ∀ fuel request key rows, standsFor key rows → rows.length < fuel →
      ∃ pages, followKeys read fuel request key = some pages ∧
        List.Forall₂ R rows pages.flatten ∧ ∀ page ∈ pages, page.length ≤ limit := by
  intro fuel request key rows hkey hfuel
  obtain ⟨stretches, pages, hpages, rfl, hall⟩ :=
    followPages_covers (covers_of_serves hlimit hserves) fuel request key rows hkey hfuel
  refine ⟨pages, ?_, forall₂_flatten (hall.imp fun _ _ h => h.1), ?_⟩
  · rw [followKeys_eq_followPages, hpages]
  · intro page hpage
    obtain ⟨stretch, -, hstretch⟩ := mem_of_forall₂ hall.flip hpage
    exact hstretch.2

end PatchPilot.Foundation
