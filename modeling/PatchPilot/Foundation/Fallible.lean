/-
  Foundation/Fallible.lean --- when a computation that may fail succeeds.

  A computation in `Except` that succeeded has succeeded in each of its parts.
-/
import Mathlib.Data.List.Forall2

set_option autoImplicit false

namespace PatchPilot.Foundation

theorem bind_eq_ok {ε α β : Type} {x : Except ε α} {f : α → Except ε β} {b : β} :
    x >>= f = .ok b ↔ ∃ a, x = .ok a ∧ f a = .ok b := by
  cases x with
  | error e => exact iff_of_false (by rintro ⟨⟩) (by rintro ⟨_, ⟨⟩, _⟩)
  | ok a => exact ⟨fun h => ⟨a, rfl, h⟩, by rintro ⟨_, ⟨⟩, h⟩; exact h⟩

theorem map_eq_ok {ε α β : Type} {x : Except ε α} {f : α → β} {b : β} :
    x.map f = .ok b ↔ ∃ a, x = .ok a ∧ f a = b := by
  cases x with
  | error e => exact iff_of_false (by rintro ⟨⟩) (by rintro ⟨_, ⟨⟩, _⟩)
  | ok a => exact ⟨by rintro ⟨⟩; exact ⟨a, rfl, rfl⟩, by rintro ⟨_, ⟨⟩, rfl⟩; rfl⟩

theorem mapError_eq_ok {ε ε' α : Type} {x : Except ε α} {f : ε → ε'} {a : α} :
    x.mapError f = .ok a ↔ x = .ok a := by
  cases x with
  | error e => exact iff_of_false (by rintro ⟨⟩) (by rintro ⟨⟩)
  | ok b => exact ⟨by rintro ⟨⟩; rfl, by rintro ⟨⟩; rfl⟩

/-- A computation behind a check succeeds exactly when the check lets it through. -/
theorem guard_eq_ok {ε α : Type} {c : Prop} [Decidable c] {e : ε} {x : Except ε α} {a : α} :
    (if c then .error e else x) = .ok a ↔ ¬ c ∧ x = .ok a := by
  by_cases hc : c
  · rw [if_pos hc]
    exact iff_of_false (by rintro ⟨⟩) fun h => h.1 hc
  · rw [if_neg hc]
    exact (and_iff_right hc).symm

theorem ok_of_toOption {ε α : Type} {x : Except ε α} {a : α} (h : x.toOption = some a) :
    x = .ok a := by
  cases x with
  | error e => cases h
  | ok b =>
      cases h
      rfl

theorem toOption_of_ok {ε α : Type} {x : Except ε α} {a : α} (h : x = .ok a) :
    x.toOption = some a := by
  rw [h]
  rfl

theorem mem_of_forall₂ {α β : Type} {R : α → β → Prop} {l : List α} {l' : List β}
    (h : List.Forall₂ R l l') {a : α} (ha : a ∈ l) : ∃ b ∈ l', R a b := by
  induction h with
  | nil => exact (List.not_mem_nil ha).elim
  | cons hab _ ih =>
      rcases List.mem_cons.mp ha with rfl | ha
      · exact ⟨_, List.mem_cons_self, hab⟩
      · obtain ⟨b, hb, hR⟩ := ih ha
        exact ⟨b, List.mem_cons_of_mem _ hb, hR⟩

theorem filterMap_of_forall₂ {α β γ : Type} {f : α → Option γ} {g : β → γ} {l : List α}
    {l' : List β} (h : List.Forall₂ (fun a b => f a = some (g b)) l l') :
    l.filterMap f = l'.map g := by
  induction h with
  | nil => rfl
  | cons hab _ ih => rw [List.filterMap_cons_some hab, List.map_cons, ih]

/-- A fallible map succeeds when it does on every item. -/
theorem mapM_eq_ok {ε α β : Type} {f : α → Except ε β} {l : List α} :
    ∀ {ys : List β}, l.mapM f = .ok ys ↔ List.Forall₂ (fun a b => f a = .ok b) l ys := by
  induction l with
  | nil =>
      intro ys
      rw [List.mapM_nil]
      constructor
      · intro h
        cases h
        exact .nil
      · intro h
        cases h
        rfl
  | cons a rest ih =>
      intro ys
      rw [List.mapM_cons, bind_eq_ok]
      constructor
      · rintro ⟨b, hb, h⟩
        obtain ⟨others, hothers, h⟩ := bind_eq_ok.mp h
        cases h
        exact .cons hb (ih.mp hothers)
      · intro h
        cases h with
        | cons hb hrest => exact ⟨_, hb, bind_eq_ok.mpr ⟨_, ih.mpr hrest, rfl⟩⟩

/-- A partial map that is defined on every item gives a list of results. -/
theorem exists_mapM {α β : Type} {f : α → Option β} {l : List α}
    (h : ∀ a ∈ l, ∃ b, f a = some b) :
    ∃ bs, l.mapM f = some bs ∧ List.Forall₂ (fun a b => f a = some b) l bs := by
  induction l with
  | nil => exact ⟨[], rfl, .nil⟩
  | cons a l ih =>
      obtain ⟨b, hb⟩ := h a List.mem_cons_self
      obtain ⟨bs, hbs, hall⟩ := ih fun a ha => h a (List.mem_cons_of_mem _ ha)
      refine ⟨b :: bs, ?_, .cons hb hall⟩
      rw [List.mapM_cons, hb, hbs]
      rfl

/-- A partial map is defined on a list when it is on every item. -/
theorem mapM_eq_some {α β : Type} {f : α → Option β} {l : List α} :
    ∀ {bs : List β}, l.mapM f = some bs ↔ List.Forall₂ (fun a b => f a = some b) l bs := by
  induction l with
  | nil =>
      intro bs
      rw [List.mapM_nil]
      constructor
      · intro h
        cases h
        exact .nil
      · intro h
        cases h
        rfl
  | cons a l ih =>
      intro bs
      rw [List.mapM_cons]
      simp only [Option.bind_eq_bind, Option.bind_eq_some_iff]
      constructor
      · rintro ⟨b, hb, rest, hrest, h⟩
        cases h
        exact .cons hb (ih.mp hrest)
      · intro h
        cases h with
        | cons hb hrest => exact ⟨_, hb, _, ih.mpr hrest, rfl⟩

theorem exists_of_mapM_eq_some {α β : Type} {f : α → Option β} {l : List α} {ys : List β}
    (h : l.mapM f = some ys) {a : α} (ha : a ∈ l) : ∃ b, f a = some b := by
  obtain ⟨b, -, hb⟩ := mem_of_forall₂ (mapM_eq_some.mp h) ha
  exact ⟨b, hb⟩

/-- A partial map before which items are changed is one after which results are. -/
theorem mapM_map_of_eq {α β γ δ : Type} {f : α → Option β} {g : γ → Option δ} {a : α → γ}
    {b : β → δ} (h : ∀ x, g (a x) = (f x).map b) (l : List α) :
    (l.map a).mapM g = (l.mapM f).map (List.map b) := by
  induction l with
  | nil => rfl
  | cons x rest ih =>
      rw [List.map_cons, List.mapM_cons, List.mapM_cons, h x, ih]
      cases f x with
      | none => rfl
      | some y => cases rest.mapM f <;> rfl

/-- What exists for every pair of two lists exists as a list. -/
theorem exists_list_of_forall₂ {α β γ : Type} {R : α → β → Prop} {S : α → β → γ → Prop}
    {l : List α} {l' : List β} (hR : List.Forall₂ R l l')
    (hS : ∀ a ∈ l, ∀ b, R a b → ∃ c, S a b c) :
    ∃ cs : List γ, l.length = cs.length ∧
      ∀ (i : Nat) (h : i < l.length) (h' : i < l'.length) (h'' : i < cs.length),
        S l[i] l'[i] cs[i] := by
  induction hR with
  | nil => exact ⟨[], rfl, fun _ h => absurd h (Nat.not_lt_zero _)⟩
  | @cons a b l l' hab _ ih =>
      obtain ⟨c, hc⟩ := hS a List.mem_cons_self b hab
      obtain ⟨cs, hlength, hall⟩ := ih fun a ha => hS a (List.mem_cons_of_mem _ ha)
      refine ⟨c :: cs, by rw [List.length_cons, List.length_cons, hlength], ?_⟩
      intro i h h' h''
      cases i with
      | zero => exact hc
      | succ i =>
          exact hall i (Nat.lt_of_succ_lt_succ h) (Nat.lt_of_succ_lt_succ h')
            (Nat.lt_of_succ_lt_succ h'')

/-- The results of a partial map keep the relation of its items to a third list. -/
theorem exists_mapM_of_forall₂ {α β γ : Type} {R : α → β → Prop} {g : β → Option γ}
    {l : List α} {bs : List β} (hR : List.Forall₂ R l bs)
    (hg : ∀ a b, R a b → ∃ c, g b = some c) :
    ∃ cs, bs.mapM g = some cs ∧ List.Forall₂ (fun a c => ∃ b, R a b ∧ g b = some c) l cs := by
  induction hR with
  | nil => exact ⟨[], rfl, .nil⟩
  | @cons a b l bs hab _ ih =>
      obtain ⟨c, hc⟩ := hg a b hab
      obtain ⟨cs, hcs, hall⟩ := ih
      refine ⟨c :: cs, ?_, .cons ⟨b, hab, hc⟩ hall⟩
      rw [List.mapM_cons, hc, hcs]
      rfl

theorem toOption_bind {ε α β : Type} (x : Except ε α) (f : α → Except ε β) :
    (x >>= f).toOption = x.toOption >>= fun a => (f a).toOption := by
  cases x <;> rfl

theorem toOption_mapM {ε α β : Type} (f : α → Except ε β) (l : List α) :
    (l.mapM f).toOption = l.mapM fun a => (f a).toOption := by
  induction l with
  | nil => rfl
  | cons a rest ih =>
      rw [List.mapM_cons, List.mapM_cons, ← ih]
      cases f a with
      | error e => rfl
      | ok b => cases rest.mapM f <;> rfl

end PatchPilot.Foundation
