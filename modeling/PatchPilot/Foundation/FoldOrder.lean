/-
  Foundation/FoldOrder.lean --- what does not depend on an order.

  A loop that may stop with an error is a fold in `Except`.  Where any two items that
  follow each other can change places without a difference in the outcome, permuted items
  have the same outcome.  Outcomes are compared up to a relation of the loop's states.

  A loop that compares every item with the first one finds out whether the items are all
  the same, in any order.

  A source states a fact or is silent.  Facts agree when no two of them differ, and
  then the first fact that is stated does not depend on the order of the sources.
-/
import Mathlib.Data.List.Basic
import Mathlib.Data.List.Perm.Basic

set_option autoImplicit false

namespace PatchPilot.Foundation

section

variable {α β γ ε : Type}

/-! ## Outcomes -/

/-- Both fail with the same error, or both succeed with related values. -/
def Alike (R : β → β → Prop) : Except ε β → Except ε β → Prop
  | .ok b, .ok b' => R b b'
  | .error e, .error e' => e = e'
  | _, _ => False

theorem alike_eq {x y : Except ε β} : Alike (· = ·) x y ↔ x = y := by
  cases x <;> cases y <;> simp [Alike]

theorem Alike.refl {R : β → β → Prop} (hrefl : ∀ b, R b b) (x : Except ε β) :
    Alike R x x := by
  cases x with
  | error e => exact rfl
  | ok b => exact hrefl b

theorem Alike.trans {R : β → β → Prop} (htrans : ∀ a b c, R a b → R b c → R a c)
    {x y z : Except ε β} (hxy : Alike R x y) (hyz : Alike R y z) : Alike R x z := by
  cases x with
  | error e =>
      cases y with
      | error e' =>
          cases hxy
          exact hyz
      | ok b => cases hxy
  | ok a =>
      cases y with
      | error e => cases hxy
      | ok b =>
          cases z with
          | error e => cases hyz
          | ok c => exact htrans a b c hxy hyz

theorem Alike.bind {R : β → β → Prop} {S : γ → γ → Prop} {x y : Except ε β}
    {f g : β → Except ε γ} (h : Alike R x y) (hfg : ∀ {b b'}, R b b' → Alike S (f b) (g b')) :
    Alike S (x >>= f) (y >>= g) := by
  cases x with
  | error e =>
      cases y with
      | error e' => exact h
      | ok b => cases h
  | ok b =>
      cases y with
      | error e => cases h
      | ok b' => exact hfg h

/-- A success has a success beside it. -/
theorem Alike.ok {R : β → β → Prop} {x y : Except ε β} (h : Alike R x y) {b : β}
    (hx : x = .ok b) : ∃ b', y = .ok b' ∧ R b b' := by
  cases hx
  cases y with
  | error e => cases h
  | ok b' => exact ⟨b', rfl, h⟩

/-! ## Folds -/

section

variable {R : β → β → Prop} {step : β → α → Except ε β}

theorem foldlM_alike (hstep : ∀ {s s'} a, R s s' → Alike R (step s a) (step s' a)) :
    ∀ (items : List α) {s s' : β}, R s s' →
      Alike R (items.foldlM step s) (items.foldlM step s') := by
  intro items
  induction items with
  | nil => exact fun h => h
  | cons a rest ih =>
      intro s s' h
      rw [List.foldlM_cons, List.foldlM_cons]
      exact (hstep a h).bind ih

/-- Permuted items have the same outcome when two items can change places. -/
theorem foldlM_perm (hrefl : ∀ b, R b b) (htrans : ∀ a b c, R a b → R b c → R a c)
    (hstep : ∀ {s s'} a, R s s' → Alike R (step s a) (step s' a))
    (hswap : ∀ s a b, Alike R (step s a >>= (step · b)) (step s b >>= (step · a)))
    {items items' : List α} (h : items.Perm items') :
    ∀ s, Alike R (items.foldlM step s) (items'.foldlM step s) := by
  induction h with
  | nil => exact fun s => hrefl s
  | @cons a rest rest' _ ih =>
      intro s
      rw [List.foldlM_cons, List.foldlM_cons]
      cases step s a with
      | error e => exact rfl
      | ok t => exact ih t
  | swap a b rest =>
      intro s
      have hpair : Alike R ((step s b >>= (step · a)) >>= fun t => rest.foldlM step t)
          ((step s a >>= (step · b)) >>= fun t => rest.foldlM step t) :=
        (hswap s b a).bind (foldlM_alike hstep rest)
      rw [bind_assoc, bind_assoc] at hpair
      simp only [List.foldlM_cons]
      exact hpair
  | trans _ _ ih₁ ih₂ => exact fun s => Alike.trans htrans (ih₁ s) (ih₂ s)

end

/-! ## Comparing with the first item -/

theorem all_eq_head_iff [DecidableEq β] {f : α → β} {first : α} {rest : List α} :
    (first :: rest).all (fun a => f a = f first) = true ↔
      ∀ a ∈ first :: rest, ∀ b ∈ first :: rest, f a = f b := by
  rw [List.all_eq_true]
  constructor
  · intro h a ha b hb
    exact (of_decide_eq_true (h a ha)).trans (of_decide_eq_true (h b hb)).symm
  · intro h a ha
    exact decide_eq_true (h a ha first List.mem_cons_self)

/-- Whether the items are all the same does not depend on the first one. -/
theorem all_eq_head_perm [DecidableEq β] {f : α → β} {first first' : α} {rest rest' : List α}
    (h : (first :: rest).Perm (first' :: rest')) :
    (first :: rest).all (fun a => f a = f first) =
      (first' :: rest').all (fun a => f a = f first') := by
  rw [Bool.eq_iff_iff, all_eq_head_iff, all_eq_head_iff]
  constructor
  · intro hall a ha b hb
    exact hall a (h.mem_iff.mpr ha) b (h.mem_iff.mpr hb)
  · intro hall a ha b hb
    exact hall a (h.mem_iff.mp ha) b (h.mem_iff.mp hb)

/-- When they are, both first items are the same. -/
theorem head_eq_of_all_eq [DecidableEq β] {f : α → β} {first first' : α} {rest rest' : List α}
    (h : (first :: rest).Perm (first' :: rest'))
    (hall : (first :: rest).all (fun a => f a = f first) = true) : f first' = f first :=
  all_eq_head_iff.mp hall first' (h.mem_iff.mpr List.mem_cons_self) first List.mem_cons_self

end

/-! ## Facts that several sources may state -/

section

variable {α : Type}

/-- No two facts that are stated differ. -/
def Agree (facts : List (Option α)) : Prop :=
  ∀ x y, some x ∈ facts → some y ∈ facts → x = y

/-- The first fact that is stated. -/
def firstStated (facts : List (Option α)) : Option α := facts.foldl Option.or none

theorem foldl_or (facts : List (Option α)) (kept : Option α) :
    facts.foldl Option.or kept = kept.or (firstStated facts) := by
  induction facts generalizing kept with
  | nil =>
      change kept = kept.or none
      rw [Option.or_none]
  | cons fact rest ih =>
      unfold firstStated
      rw [List.foldl_cons, List.foldl_cons, ih, ih (none.or fact), Option.none_or,
        Option.or_assoc]

theorem firstStated_cons (fact : Option α) (rest : List (Option α)) :
    firstStated (fact :: rest) = fact.or (firstStated rest) := by
  unfold firstStated
  rw [List.foldl_cons, Option.none_or]
  exact foldl_or rest fact

theorem mem_of_firstStated {facts : List (Option α)} {x : α}
    (h : firstStated facts = some x) : some x ∈ facts := by
  induction facts with
  | nil => cases h
  | cons fact rest ih =>
      rw [firstStated_cons] at h
      cases fact with
      | some y =>
          rw [Option.some_or] at h
          rw [← h]
          exact List.mem_cons_self
      | none =>
          rw [Option.none_or] at h
          exact List.mem_cons_of_mem _ (ih h)

theorem firstStated_isSome {facts : List (Option α)} {x : α} (h : some x ∈ facts) :
    ∃ y, firstStated facts = some y := by
  induction facts with
  | nil => cases h
  | cons fact rest ih =>
      rw [firstStated_cons]
      cases fact with
      | some y => exact ⟨y, rfl⟩
      | none =>
          rcases List.mem_cons.mp h with heq | hmem
          · cases heq
          · exact ih hmem

/-- Under agreement, what is stated first is what is stated. -/
theorem firstStated_eq_some_iff {facts : List (Option α)} (h : Agree facts) {x : α} :
    firstStated facts = some x ↔ some x ∈ facts := by
  refine ⟨mem_of_firstStated, ?_⟩
  intro hx
  obtain ⟨y, hy⟩ := firstStated_isSome hx
  rw [hy, h x y hx (mem_of_firstStated hy)]

theorem agree_congr {facts facts' : List (Option α)}
    (h : ∀ x, some x ∈ facts ↔ some x ∈ facts') : Agree facts ↔ Agree facts' := by
  unfold Agree
  constructor
  · intro hagree x y hx hy
    exact hagree x y ((h x).mpr hx) ((h y).mpr hy)
  · intro hagree x y hx hy
    exact hagree x y ((h x).mp hx) ((h y).mp hy)

theorem firstStated_congr {facts facts' : List (Option α)} (hagree : Agree facts)
    (h : ∀ x, some x ∈ facts ↔ some x ∈ facts') : firstStated facts = firstStated facts' := by
  refine Option.ext fun x => ?_
  rw [firstStated_eq_some_iff hagree, firstStated_eq_some_iff ((agree_congr h).mp hagree), h x]

/-- Two sources, one after the other, are one source that states what either does. -/
theorem agree_cons_cons {fact fact' : Option α} {rest : List (Option α)} :
    Agree (fact :: fact' :: rest) ↔
      Agree [fact, fact'] ∧ Agree (fact.or fact' :: rest) := by
  constructor
  · intro h
    refine ⟨?_, ?_⟩
    · intro x y hx hy
      exact h x y (by simp only [List.mem_cons, List.not_mem_nil, or_false] at hx ⊢; tauto)
        (by simp only [List.mem_cons, List.not_mem_nil, or_false] at hy ⊢; tauto)
    · have hsub : ∀ x, some x ∈ fact.or fact' :: rest → some x ∈ fact :: fact' :: rest := by
        intro x hx
        rcases List.mem_cons.mp hx with heq | hmem
        · cases fact with
          | some y =>
              rw [heq, Option.some_or]
              exact List.mem_cons_self
          | none =>
              rw [heq, Option.none_or]
              exact List.mem_cons_of_mem _ List.mem_cons_self
        · exact List.mem_cons_of_mem _ (List.mem_cons_of_mem _ hmem)
      intro x y hx hy
      exact h x y (hsub x hx) (hsub y hy)
  · rintro ⟨hpair, hrest⟩
    have hsub : ∀ x, some x ∈ fact :: fact' :: rest → some x ∈ fact.or fact' :: rest := by
      intro x hx
      rcases List.mem_cons.mp hx with heq | hmem
      · rw [← heq]
        exact List.mem_cons_self
      · rcases List.mem_cons.mp hmem with heq | hmem
        · cases fact with
          | none =>
              rw [← heq]
              exact List.mem_cons_self
          | some y =>
              have hxy : y = x := hpair y x List.mem_cons_self
                (List.mem_cons_of_mem _ (by rw [← heq]; exact List.mem_cons_self))
              rw [hxy]
              exact List.mem_cons_self
        · exact List.mem_cons_of_mem _ hmem
    intro x y hx hy
    exact hrest x y (hsub x hx) (hsub y hy)

end

end PatchPilot.Foundation
