/-
  Foundation/Steps.lean --- looking a value up in a list of steps.

  A list of steps is read in two ways.  One takes the first step that a test
  accepts, the other the last one and a default when there is none.  When the
  test becomes more permissive, the first accepted step can only move towards the
  front and the last one only towards the back; so a list that is ordered along
  its length turns a monotone test into a monotone lookup.  Nothing is asked of
  where the steps start.
-/
import Mathlib.Data.List.Basic
import Mathlib.Data.List.Nodup
import Mathlib.Data.List.Pairwise
import Mathlib.Order.MinMax

set_option autoImplicit false

namespace PatchPilot.Foundation

variable {α β : Type}

/-! ## The first accepted step -/

/-- A more permissive test finds the same step or an earlier one. -/
theorem find?_of_imp {R : α → α → Prop} (hrefl : ∀ a, R a a) {p q : α → Bool} :
    ∀ {l : List α} {a : α}, l.Pairwise R → (∀ b ∈ l, p b = true → q b = true) →
      l.find? p = some a → ∃ b, l.find? q = some b ∧ R b a := by
  intro l
  induction l with
  | nil =>
      intro a _ _ h
      cases h
  | cons head rest ih =>
      intro a hordered himp h
      obtain ⟨hhead, hrest⟩ := List.pairwise_cons.mp hordered
      have hmem : a ∈ head :: rest := List.mem_of_find?_eq_some h
      have ha : p a = true := List.find?_some h
      cases hq : q head with
      | true =>
          refine ⟨head, by simp [hq], ?_⟩
          rcases List.mem_cons.mp hmem with rfl | hmem
          · exact hrefl _
          · exact hhead a hmem
      | false =>
          have hp : p head = false := by
            cases hp : p head with
            | false => rfl
            | true =>
                have htrue := himp head (by simp) hp
                rw [hq] at htrue
                cases htrue
          rw [List.find?_cons_of_neg (by simp [hp])] at h
          rw [List.find?_cons_of_neg (by simp [hq])]
          exact ih hrest (fun b hb => himp b (List.mem_cons_of_mem _ hb)) h

/-- The first accepted step of a list that is ordered along its length: the steps
that are not after it are rejected. -/
theorem find?_eq_some_of_pairwise {R : α → α → Prop} {p : α → Bool} {l : List α} {a : α}
    (hordered : l.Pairwise R) (h : l.find? p = some a) :
    ∀ b ∈ l, b = a ∨ p b = false ∨ R a b := by
  obtain ⟨-, before, after, rfl, hbefore⟩ := List.find?_eq_some_iff_append.mp h
  intro b hb
  rcases List.mem_append.mp hb with hb | hb
  · exact .inr (.inl (by simpa using hbefore b hb))
  · rcases List.mem_cons.mp hb with rfl | hb
    · exact .inl rfl
    · have htail := (List.pairwise_append.mp hordered).2.1
      exact .inr (.inr ((List.pairwise_cons.mp htail).1 b hb))

/-- The only step that a test accepts is the first one. -/
theorem find?_eq_some_of_unique {p : α → Bool} {l : List α} {a : α} (hmem : a ∈ l)
    (hp : p a = true) (hunique : ∀ b ∈ l, p b = true → b = a) : l.find? p = some a := by
  obtain ⟨b, hb⟩ := Option.isSome_iff_exists.mp (List.find?_isSome.mpr ⟨a, hmem, hp⟩)
  rw [hb, hunique b (List.mem_of_find?_eq_some hb) (List.find?_some hb)]

/-- Where keys are distinct, a key finds its step. -/
theorem find?_key_eq_some {κ : Type} [DecidableEq κ] {key : α → κ} {l : List α} {a : α}
    (hkeys : (l.map key).Nodup) (hmem : a ∈ l) :
    l.find? (fun b => key b = key a) = some a :=
  find?_eq_some_of_unique hmem (decide_eq_true rfl) fun _ hb hkey =>
    List.inj_on_of_nodup_map hkeys hb hmem (of_decide_eq_true hkey)

/-! ## The last accepted step -/

/-- The value of the last step that the test accepts. -/
def lastAccepted (accepts : α → Bool) (value : α → β) (default : β) (steps : List α) : β :=
  steps.foldl (fun current step => if accepts step then value step else current) default

theorem lastAccepted_mem (accepts : α → Bool) (value : α → β) :
    ∀ (steps : List α) (default : β), lastAccepted accepts value default steps = default ∨
      ∃ step ∈ steps, lastAccepted accepts value default steps = value step := by
  intro steps
  induction steps with
  | nil =>
      intro default
      exact .inl rfl
  | cons step rest ih =>
      intro default
      change lastAccepted accepts value (if accepts step then value step else default) rest =
        default ∨ _
      rcases ih (if accepts step then value step else default) with h | ⟨s, hs, h⟩
      · cases haccepts : accepts step with
        | false =>
            left
            rw [haccepts] at h
            exact h
        | true =>
            right
            refine ⟨step, by simp, ?_⟩
            change lastAccepted accepts value (if accepts step then value step else default)
              rest = _
            rw [haccepts] at h ⊢
            exact h
      · exact .inr ⟨s, List.mem_cons_of_mem _ hs, h⟩

/-- A more permissive test gives a value at least as large, when the values rise
along the list. -/
theorem lastAccepted_mono [Preorder β] {p q : α → Bool} {value : α → β} :
    ∀ {steps : List α} {low high : β}, low ≤ high → (∀ s ∈ steps, high ≤ value s) →
      steps.Pairwise (fun s t => value s ≤ value t) →
      (∀ s ∈ steps, p s = true → q s = true) →
      lastAccepted p value low steps ≤ lastAccepted q value high steps := by
  intro steps
  induction steps with
  | nil =>
      intro low high hle _ _ _
      exact hle
  | cons step rest ih =>
      intro low high hle hhigh hrising himp
      obtain ⟨hstep, hrest⟩ := List.pairwise_cons.mp hrising
      have himp' : ∀ s ∈ rest, p s = true → q s = true :=
        fun s hs => himp s (List.mem_cons_of_mem _ hs)
      have hhigh' : ∀ s ∈ rest, high ≤ value s :=
        fun s hs => hhigh s (List.mem_cons_of_mem _ hs)
      change lastAccepted p value (if p step then value step else low) rest ≤
        lastAccepted q value (if q step then value step else high) rest
      cases hq : q step with
      | true =>
          refine ih ?_ hstep hrest himp'
          cases p step with
          | true => exact le_refl _
          | false => exact le_trans hle (hhigh step (by simp))
      | false =>
          have hp : p step = false := by
            cases hp : p step with
            | false => rfl
            | true =>
                have htrue := himp step (by simp) hp
                rw [hq] at htrue
                cases htrue
          rw [hp]
          exact ih hle hhigh' hrest himp'

/-! ## The least of a list -/

theorem foldl_min_le_iff {f : α → Nat} {k : Nat} :
    ∀ (l : List α) (start : Nat),
      l.foldl (fun least a => min least (f a)) start ≤ k ↔ start ≤ k ∨ ∃ a ∈ l, f a ≤ k := by
  intro l
  induction l with
  | nil =>
      intro start
      simp
  | cons a rest ih =>
      intro start
      rw [List.foldl_cons, ih, min_le_iff, or_assoc]
      simp

end PatchPilot.Foundation
