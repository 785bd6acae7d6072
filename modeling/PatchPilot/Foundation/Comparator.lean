import Mathlib.Order.Compare
import Mathlib.Data.List.Sort

set_option autoImplicit false

/-!
# Foundation: comparators and the orders they define

Source programs order things with three-way comparators.  A comparator that is
transitive and separates distinct values *is* a linear order; this module makes
that order available, so that proofs about the program can use `≤`, `<` and the
order lemmas of the library.

It also says what sorting by such a comparator does to the order in which the
elements were supplied: nothing of it is left.
-/

namespace PatchPilot.Foundation

variable {α β : Type}

/-! ## Pulling a comparator back along a function -/

/-- Comparison of images. -/
def comapCmp (cmp : β → β → Ordering) (f : α → β) (a b : α) : Ordering := cmp (f a) (f b)

instance comapCmp_trans (cmp : β → β → Ordering) (f : α → β) [Std.TransCmp cmp] :
    Std.TransCmp (comapCmp cmp f) where
  eq_swap {a b} := @Std.OrientedCmp.eq_swap β cmp _ (f a) (f b)
  isLE_trans {a b c} := @Std.TransCmp.isLE_trans β cmp _ (f a) (f b) (f c)

/-- Comparison of images under an injection still separates distinct values. -/
theorem comapCmp_lawfulEq (cmp : β → β → Ordering) {f : α → β} (hf : Function.Injective f)
    [Std.LawfulEqCmp cmp] : Std.LawfulEqCmp (comapCmp cmp f) where
  compare_self {a} := @Std.ReflCmp.compare_self β cmp _ (f a)
  eq_of_compare {a b} h := hf (@Std.LawfulEqCmp.eq_of_compare β cmp _ (f a) (f b) h)

/-- The reversed comparator. -/
def descending (cmp : α → α → Ordering) (a b : α) : Ordering := cmp b a

instance descending_trans (cmp : α → α → Ordering) [Std.TransCmp cmp] :
    Std.TransCmp (descending cmp) where
  eq_swap {a b} := @Std.OrientedCmp.eq_swap α cmp _ b a
  isLE_trans {a b c} hab hbc := @Std.TransCmp.isLE_trans α cmp _ c b a hbc hab

/-- Comparison of columns, with `NULL` after every value. -/
def nullsLast (cmp : α → α → Ordering) : Option α → Option α → Ordering
  | some a, some b => cmp a b
  | some _, none => .lt
  | none, some _ => .gt
  | none, none => .eq

instance nullsLast_trans (cmp : α → α → Ordering) [Std.TransCmp cmp] :
    Std.TransCmp (nullsLast cmp) where
  eq_swap {a b} := by
    cases a with
    | none => cases b <;> rfl
    | some a =>
        cases b with
        | none => rfl
        | some b => exact @Std.OrientedCmp.eq_swap α cmp _ a b
  isLE_trans {a b c} hab hbc := by
    cases a with
    | none =>
        cases b with
        | none => exact hbc
        | some b => cases hab
    | some a =>
        cases c with
        | none => rfl
        | some c =>
            cases b with
            | none => cases hbc
            | some b => exact @Std.TransCmp.isLE_trans α cmp _ a b c hab hbc

/-- A lexicographic comparator separates distinct values when equality under
both parts does. -/
theorem compareLex_lawfulEq {cmp₁ cmp₂ : α → α → Ordering} [Std.ReflCmp cmp₁]
    [Std.ReflCmp cmp₂] (h : ∀ a b, cmp₁ a b = .eq → cmp₂ a b = .eq → a = b) :
    Std.LawfulEqCmp (compareLex cmp₁ cmp₂) where
  compare_self := Std.ReflCmp.compare_self
  eq_of_compare := by
    intro a b hab
    obtain ⟨h₁, h₂⟩ := compareLex_eq_eq.mp hab
    exact h a b h₁ h₂

/-! ## The linear order of a comparator -/

/-- The linear order in which `a ≤ b` means that the comparator does not put `a`
after `b`. -/
@[reducible] def linearOrderOfCmp [DecidableEq α] (cmp : α → α → Ordering)
    [Std.TransCmp cmp] [Std.LawfulEqCmp cmp] : LinearOrder α where
  le a b := (cmp a b).isLE
  lt a b := cmp a b = .lt
  le_refl a := by
    rw [@Std.ReflCmp.compare_self α cmp _ a]
    rfl
  le_trans _ _ _ := Std.TransCmp.isLE_trans
  lt_iff_le_not_ge a b := by
    rw [@Std.OrientedCmp.eq_swap α cmp _ b a]
    cases cmp a b <;> decide
  le_antisymm a b hab hba := by
    refine @Std.LawfulEqCmp.eq_of_compare α cmp _ a b ?_
    change (cmp a b).isLE = true at hab
    change (cmp b a).isLE = true at hba
    rw [@Std.OrientedCmp.eq_swap α cmp _ b a] at hba
    revert hab hba
    cases cmp a b <;> decide
  le_total a b := by
    rw [@Std.OrientedCmp.eq_swap α cmp _ b a]
    cases cmp a b <;> decide
  toDecidableLE a b := inferInstanceAs (Decidable ((cmp a b).isLE = true))
  toDecidableLT a b := inferInstanceAs (Decidable (cmp a b = .lt))
  toDecidableEq := inferInstance
  compare a b := cmp a b
  compare_eq_compareOfLessAndEq a b := by
    change cmp a b = if cmp a b = .lt then .lt else if a = b then .eq else .gt
    cases h : cmp a b with
    | lt => simp
    | eq => simp [Std.LawfulEqCmp.eq_of_compare h]
    | gt =>
        have hne : a ≠ b := by
          intro hab
          rw [hab, @Std.ReflCmp.compare_self α cmp _ b] at h
          cases h
        simp [hne]

/-! ## Sorting by a comparator -/

/-- `Array.prototype.sort` with a comparator: a stable sort. -/
def sortBy (cmp : α → α → Ordering) (l : List α) : List α :=
  l.insertionSort (fun a b => (cmp a b).isLE = true)

theorem sortBy_perm (cmp : α → α → Ordering) (l : List α) : (sortBy cmp l).Perm l :=
  List.perm_insertionSort _ l

theorem sortBy_pairwise (cmp : α → α → Ordering) [Std.TransCmp cmp] (l : List α) :
    (sortBy cmp l).Pairwise (fun a b => (cmp a b).isLE) := by
  have htotal : Std.Total fun a b : α => (cmp a b).isLE = true := by
    refine ⟨fun a b => ?_⟩
    rw [@Std.OrientedCmp.eq_swap α cmp _ b a]
    cases cmp a b <;> decide
  have htrans : IsTrans α fun a b => (cmp a b).isLE = true :=
    ⟨fun _ _ _ => Std.TransCmp.isLE_trans⟩
  exact List.pairwise_insertionSort _ l

/-- Sorting forgets the order in which the elements were supplied. -/
theorem sortBy_eq_of_perm (cmp : α → α → Ordering) [Std.TransCmp cmp]
    [Std.LawfulEqCmp cmp] {l₁ l₂ : List α} (h : l₁.Perm l₂) :
    sortBy cmp l₁ = sortBy cmp l₂ := by
  have hperm : (sortBy cmp l₁).Perm (sortBy cmp l₂) :=
    (sortBy_perm cmp l₁).trans (h.trans (sortBy_perm cmp l₂).symm)
  refine hperm.eq_of_pairwise ?_ (sortBy_pairwise cmp l₁) (sortBy_pairwise cmp l₂)
  intro a b _ _ hab hba
  refine @Std.LawfulEqCmp.eq_of_compare α cmp _ a b ?_
  rw [@Std.OrientedCmp.eq_swap α cmp _ b a] at hba
  revert hab hba
  cases cmp a b <;> decide

/-- Sorting a duplicate-free list gives a strictly increasing one. -/
theorem sortBy_strict (cmp : α → α → Ordering) [Std.TransCmp cmp] [Std.LawfulEqCmp cmp]
    {l : List α} (h : l.Nodup) : (sortBy cmp l).Pairwise (fun a b => cmp a b = .lt) := by
  have hnodup : (sortBy cmp l).Pairwise (· ≠ ·) := (sortBy_perm cmp l).nodup_iff.mpr h
  refine ((sortBy_pairwise cmp l).and hnodup).imp ?_
  rintro a b ⟨hle, hne⟩
  cases hab : cmp a b with
  | lt => rfl
  | eq => exact absurd (Std.LawfulEqCmp.eq_of_compare hab) hne
  | gt => rw [hab] at hle; cases hle

/-- The first element of a sorted list is one that no other precedes. -/
theorem head?_sortBy (cmp : α → α → Ordering) [Std.TransCmp cmp] {l : List α} {a : α}
    (h : (sortBy cmp l).head? = some a) : a ∈ l ∧ ∀ b ∈ l, (cmp a b).isLE := by
  obtain ⟨rest, hrest⟩ := List.head?_eq_some_iff.mp h
  have hperm := sortBy_perm cmp l
  have hsorted := sortBy_pairwise cmp l
  rw [hrest] at hperm hsorted
  refine ⟨hperm.mem_iff.mp (by simp), ?_⟩
  intro b hb
  rcases List.mem_cons.mp (hperm.mem_iff.mpr hb) with rfl | hb
  · rw [@Std.ReflCmp.compare_self α cmp _ b]
    rfl
  · exact (List.pairwise_cons.mp hsorted).1 b hb

/-- An element that precedes all others comes first. -/
theorem head?_sortBy_eq (cmp : α → α → Ordering) [Std.TransCmp cmp] {l : List α} {a : α}
    (ha : a ∈ l) (hfirst : ∀ b ∈ l, b = a ∨ cmp a b = .lt) :
    (sortBy cmp l).head? = some a := by
  cases hhead : (sortBy cmp l).head? with
  | none =>
      have hempty : sortBy cmp l = [] := List.head?_eq_none_iff.mp hhead
      have hmem := (sortBy_perm cmp l).mem_iff.mpr ha
      rw [hempty] at hmem
      cases hmem
  | some b =>
      obtain ⟨hb, hle⟩ := head?_sortBy cmp hhead
      rcases hfirst b hb with rfl | hlt
      · rfl
      · have hba := hle a ha
        rw [@Std.OrientedCmp.eq_swap α cmp _ b a, hlt] at hba
        cases hba

/-! ## The least element -/

/-- The first least element, by one pass. -/
def leastBy (cmp : α → α → Ordering) : List α → Option α
  | [] => none
  | a :: rest =>
      some (rest.foldl (fun selected b => if cmp b selected = .lt then b else selected) a)

/-- What one pass selects is one of the elements, and no other precedes it. -/
theorem foldl_least (cmp : α → α → Ordering) [Std.TransCmp cmp] (rest : List α) :
    ∀ a, ∃ least, rest.foldl (fun selected b => if cmp b selected = .lt then b else selected)
        a = least ∧ least ∈ a :: rest ∧ ∀ b ∈ a :: rest, (cmp least b).isLE := by
  induction rest with
  | nil =>
      intro a
      refine ⟨a, rfl, List.mem_cons_self, ?_⟩
      intro b hb
      rw [List.mem_singleton.mp hb, @Std.ReflCmp.compare_self α cmp _ a]
      rfl
  | cons c rest ih =>
      intro a
      rw [List.foldl_cons]
      obtain ⟨least, hleast, hmem, hle⟩ := ih (if cmp c a = .lt then c else a)
      refine ⟨least, hleast, ?_, ?_⟩
      · rcases List.mem_cons.mp hmem with heq | hmem
        · rw [heq]
          split
          · exact List.mem_cons_of_mem _ List.mem_cons_self
          · exact List.mem_cons_self
        · exact List.mem_cons_of_mem _ (List.mem_cons_of_mem _ hmem)
      · have hselected := hle _ List.mem_cons_self
        intro b hb
        by_cases hlt : cmp c a = .lt
        · rw [if_pos hlt] at hselected
          rcases List.mem_cons.mp hb with rfl | hb
          · refine Std.TransCmp.isLE_trans hselected ?_
            rw [hlt]
            rfl
          · rcases List.mem_cons.mp hb with rfl | hb
            · exact hselected
            · exact hle b (List.mem_cons_of_mem _ hb)
        · rw [if_neg hlt] at hselected
          rcases List.mem_cons.mp hb with rfl | hb
          · exact hselected
          · rcases List.mem_cons.mp hb with rfl | hb
            · refine Std.TransCmp.isLE_trans hselected ?_
              rw [@Std.OrientedCmp.eq_swap α cmp _ a b]
              cases hcmp : cmp b a with
              | lt => exact absurd hcmp hlt
              | eq => rfl
              | gt => rfl
            · exact hle b (List.mem_cons_of_mem _ hb)

theorem leastBy_eq_some_iff (cmp : α → α → Ordering) [Std.TransCmp cmp]
    [Std.LawfulEqCmp cmp] {l : List α} {a : α} :
    leastBy cmp l = some a ↔ a ∈ l ∧ ∀ b ∈ l, (cmp a b).isLE := by
  cases l with
  | nil => exact iff_of_false nofun fun h => List.not_mem_nil h.1
  | cons c rest =>
      obtain ⟨least, hleast, hmem, hle⟩ := foldl_least cmp rest c
      have hselected : leastBy cmp (c :: rest) = some least := congrArg some hleast
      rw [hselected]
      constructor
      · intro h
        cases h
        exact ⟨hmem, hle⟩
      · rintro ⟨ha, hfirst⟩
        have hleft := hle a ha
        have hright := hfirst least hmem
        rw [@Std.OrientedCmp.eq_swap α cmp _ a least] at hright
        cases hcmp : cmp least a with
        | lt =>
            rw [hcmp] at hright
            cases hright
        | eq => rw [@Std.LawfulEqCmp.eq_of_compare α cmp _ least a hcmp]
        | gt =>
            rw [hcmp] at hleft
            cases hleft

theorem leastBy_eq_none_iff (cmp : α → α → Ordering) {l : List α} :
    leastBy cmp l = none ↔ l = [] := by
  cases l with
  | nil => exact iff_of_true rfl rfl
  | cons a rest => exact iff_of_false nofun nofun

theorem foldl_least_mem (cmp : α → α → Ordering) (rest : List α) :
    ∀ a, rest.foldl (fun selected b => if cmp b selected = .lt then b else selected) a ∈
      a :: rest := by
  induction rest with
  | nil => exact fun a => List.mem_cons_self
  | cons b rest ih =>
      intro a
      rw [List.foldl_cons]
      split
      · exact List.mem_cons_of_mem a (ih b)
      · rcases List.mem_cons.mp (ih a) with heq | hmem
        · rw [heq]
          exact List.mem_cons_self
        · exact List.mem_cons_of_mem a (List.mem_cons_of_mem b hmem)

/-- What one pass selects is one of the elements, whatever the comparison is. -/
theorem mem_of_leastBy (cmp : α → α → Ordering) {l : List α} {a : α}
    (h : leastBy cmp l = some a) : a ∈ l := by
  cases l with
  | nil => cases h
  | cons c rest =>
      cases h
      exact foldl_least_mem cmp rest c

/-- The least element does not depend on the order in which the elements were supplied. -/
theorem leastBy_eq_of_perm (cmp : α → α → Ordering) [Std.TransCmp cmp]
    [Std.LawfulEqCmp cmp] {l l' : List α} (h : l.Perm l') : leastBy cmp l = leastBy cmp l' := by
  refine Option.ext fun a => ?_
  rw [leastBy_eq_some_iff, leastBy_eq_some_iff, h.mem_iff]
  exact and_congr_right fun _ => forall_congr' fun b => by rw [h.mem_iff]

/-- A fallible map over permuted lists succeeds on both or on neither, with
permuted results. -/
theorem exists_mapM_of_perm {f : α → Option β} {l l' : List α} (h : l.Perm l') :
    ∀ ys : List β, l.mapM f = some ys → ∃ ys', l'.mapM f = some ys' ∧ ys.Perm ys' := by
  induction h with
  | nil => exact fun ys hys => ⟨ys, hys, .refl _⟩
  | @cons a l l' _ ih =>
      intro ys hys
      rw [List.mapM_cons] at hys
      obtain ⟨y, hy, hys⟩ := Option.bind_eq_some_iff.mp hys
      obtain ⟨tail, htail, hys⟩ := Option.bind_eq_some_iff.mp hys
      cases hys
      obtain ⟨tail', htail', hperm⟩ := ih tail htail
      refine ⟨y :: tail', ?_, hperm.cons y⟩
      rw [List.mapM_cons, hy, htail']
      rfl
  | swap a b l =>
      intro ys hys
      rw [List.mapM_cons, List.mapM_cons] at hys
      obtain ⟨y, hy, hys⟩ := Option.bind_eq_some_iff.mp hys
      obtain ⟨rest, hrest, hys⟩ := Option.bind_eq_some_iff.mp hys
      obtain ⟨x, hx, hrest⟩ := Option.bind_eq_some_iff.mp hrest
      obtain ⟨tail, htail, hrest⟩ := Option.bind_eq_some_iff.mp hrest
      cases hrest
      cases hys
      refine ⟨x :: y :: tail, ?_, .swap x y tail⟩
      rw [List.mapM_cons, List.mapM_cons, hx, hy, htail]
      rfl
  | trans _ _ ih₁ ih₂ =>
      intro ys hys
      obtain ⟨ys₁, hys₁, hperm₁⟩ := ih₁ ys hys
      obtain ⟨ys₂, hys₂, hperm₂⟩ := ih₂ ys₁ hys₁
      exact ⟨ys₂, hys₂, hperm₁.trans hperm₂⟩

end PatchPilot.Foundation
