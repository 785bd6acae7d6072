/-
  Foundation/Grouping.lean --- grouping a list by key while it is read.

  Items are read from left to right.  The first item of a key opens an entry, every
  later item of that key is merged into it, and a merge may fail.  Entries keep the
  order in which they were opened.

  Where an item is only compared with the entry of its key, and counted, agreement passes
  from the item that opened the entry to all others: reading succeeds exactly when any two
  items of one key agree, in whatever order they come.
-/
import Mathlib.Algebra.BigOperators.Group.List.Lemmas
import Mathlib.Algebra.GroupWithZero.Nat
import Mathlib.Data.List.Induction
import Mathlib.Data.List.Nodup
import PatchPilot.Foundation.Fallible

set_option autoImplicit false

namespace PatchPilot.Foundation

/-- How items are grouped: their keys, and what an entry is made of. -/
structure Grouping (α ε κ δ : Type) where
  keyOf : α → κ
  key : ε → κ
  create : α → ε
  merge : ε → α → Except δ ε
  key_create : ∀ a, key (create a) = keyOf a
  key_merge : ∀ e a e', merge e a = .ok e' → key e' = key e

namespace Grouping

variable {α ε κ δ : Type} [DecidableEq κ] (g : Grouping α ε κ δ)

/-- An entry with one more item, in its place. -/
def replace (kept : List ε) (merged : ε) : List ε :=
  kept.map fun e => if g.key e = g.key merged then merged else e

/-- One item. -/
def absorb (kept : List ε) (a : α) : Except δ (List ε) :=
  match kept.find? fun e => g.key e = g.keyOf a with
  | none => .ok (kept ++ [g.create a])
  | some existing => do
      let merged ← g.merge existing a
      .ok (g.replace kept merged)

/-- All items. -/
def run (items : List α) : Except δ (List ε) := items.foldlM g.absorb []

/-! ## One item -/

theorem run_append_singleton {items : List α} {a : α} {kept : List ε}
    (h : g.run (items ++ [a]) = .ok kept) :
    ∃ before, g.run items = .ok before ∧ g.absorb before a = .ok kept := by
  unfold run at h
  rw [List.foldlM_append] at h
  obtain ⟨before, hbefore, h⟩ := bind_eq_ok.mp h
  rw [List.foldlM_cons] at h
  obtain ⟨after, hafter, h⟩ := bind_eq_ok.mp h
  cases h
  exact ⟨before, hbefore, hafter⟩

/-- An item opens an entry, or is merged into the entry of its key. -/
theorem absorb_cases {kept : List ε} {a : α} {after : List ε}
    (h : g.absorb kept a = .ok after) :
    (kept.find? (fun e => g.key e = g.keyOf a) = none ∧ after = kept ++ [g.create a]) ∨
      ∃ existing merged, kept.find? (fun e => g.key e = g.keyOf a) = some existing ∧
        g.merge existing a = .ok merged ∧ after = g.replace kept merged := by
  unfold absorb at h
  split at h
  · rename_i hnone
    cases h
    exact .inl ⟨hnone, rfl⟩
  · rename_i existing hfound
    obtain ⟨merged, hmerged, h⟩ := bind_eq_ok.mp h
    cases h
    exact .inr ⟨existing, merged, hfound, hmerged, rfl⟩

theorem key_of_find? {kept : List ε} {k : κ} {e : ε}
    (h : kept.find? (fun e => g.key e = k) = some e) : g.key e = k := by
  have hfound := List.find?_some h
  exact of_decide_eq_true hfound

theorem find?_congr_of_mem {p q : ε → Bool} {l : List ε} (h : ∀ e ∈ l, p e = q e) :
    l.find? p = l.find? q := by
  induction l with
  | nil => rfl
  | cons e rest ih =>
      rw [List.find?_cons, List.find?_cons, h e List.mem_cons_self,
        ih fun e he => h e (List.mem_cons_of_mem _ he)]

/-- A property that a merge leaves alone selects the same entries, up to their keys. -/
theorem find?_replace (q : ε → Bool) {kept : List ε} {merged : ε}
    (hq : ∀ e ∈ kept, g.key e = g.key merged → q merged = q e) :
    (g.replace kept merged).find? q =
      (kept.find? q).map fun e => if g.key e = g.key merged then merged else e := by
  unfold replace
  rw [List.find?_map]
  have hagree : ∀ e ∈ kept,
      (q ∘ fun e => if g.key e = g.key merged then merged else e) e = q e := by
    intro e he
    change q (if g.key e = g.key merged then merged else e) = q e
    split
    · rename_i hkey
      exact hq e he hkey
    · rfl
  rw [find?_congr_of_mem hagree]

theorem map_key_replace {kept : List ε} {merged : ε} :
    (g.replace kept merged).map g.key = kept.map g.key := by
  unfold replace
  rw [List.map_map]
  refine List.map_congr_left ?_
  intro e _
  change g.key (if g.key e = g.key merged then merged else e) = g.key e
  split
  · rename_i hkey
    exact hkey.symm
  · rfl

/-! ## The keys -/

/-- Every key that was read has one entry. -/
theorem run_keys {items : List α} : ∀ {kept : List ε}, g.run items = .ok kept →
    (kept.map g.key).Nodup ∧ ∀ k, k ∈ kept.map g.key ↔ k ∈ items.map g.keyOf := by
  induction items using List.reverseRecOn with
  | nil =>
      intro kept h
      cases h
      exact ⟨List.nodup_nil, fun _ => Iff.rfl⟩
  | append_singleton items a ih =>
      intro kept h
      obtain ⟨before, hbefore, h⟩ := g.run_append_singleton h
      obtain ⟨hnodup, hmem⟩ := ih hbefore
      rcases g.absorb_cases h with ⟨hnone, rfl⟩ | ⟨existing, merged, hfound, hmerged, rfl⟩
      · have hnew : g.keyOf a ∉ before.map g.key := by
          intro hkey
          obtain ⟨e, he, hkey⟩ := List.mem_map.mp hkey
          have hne := List.find?_eq_none.mp hnone e he
          exact hne (decide_eq_true hkey)
        rw [List.map_append, List.map_append]
        refine ⟨?_, ?_⟩
        · rw [List.nodup_append]
          refine ⟨hnodup, List.nodup_singleton _, ?_⟩
          intro k hk other hother heq
          rw [List.map_singleton, List.mem_singleton, g.key_create] at hother
          exact hnew (by rwa [← hother, ← heq])
        · intro k
          rw [List.mem_append, List.mem_append, hmem k, List.map_singleton,
            List.map_singleton, g.key_create]
      · rw [map_key_replace]
        refine ⟨hnodup, ?_⟩
        intro k
        rw [hmem k, List.map_append, List.mem_append]
        constructor
        · exact .inl
        · rintro (hk | hk)
          · exact hk
          · rw [List.map_singleton, List.mem_singleton] at hk
            rw [← hmem k, hk, ← g.key_of_find? hfound]
            exact List.mem_map_of_mem (List.mem_of_find?_eq_some hfound)

theorem eq_of_key {items : List α} {kept : List ε} (h : g.run items = .ok kept) {e e' : ε}
    (he : e ∈ kept) (he' : e' ∈ kept) (hkey : g.key e = g.key e') : e = e' :=
  List.inj_on_of_nodup_map (g.run_keys h).1 he he' hkey

/-! ## The entries -/

/-- The entry that a group is folded into. -/
def Built (group : List α) (entry : Option ε) : Prop :=
  match group, entry with
  | [], none => True
  | a :: rest, some e => rest.foldlM g.merge (g.create a) = .ok e
  | _, _ => False

omit [DecidableEq κ] in
theorem built_append {group : List α} {entry : Option ε} (h : g.Built group entry) {a : α}
    {e e' : ε} (hentry : entry = some e) (hmerge : g.merge e a = .ok e') :
    g.Built (group ++ [a]) (some e') := by
  cases group with
  | nil =>
      rw [hentry] at h
      exact h.elim
  | cons first rest =>
      rw [hentry] at h
      change (rest ++ [a]).foldlM g.merge (g.create first) = .ok e'
      rw [List.foldlM_append, show rest.foldlM g.merge (g.create first) = .ok e from h]
      change [a].foldlM g.merge e = .ok e'
      rw [List.foldlM_cons, hmerge]
      rfl

/-- An entry is its items, folded in the order in which they were read. -/
theorem run_built {items : List α} (k : κ) : ∀ {kept : List ε}, g.run items = .ok kept →
    g.Built (items.filter fun a => g.keyOf a = k) (kept.find? fun e => g.key e = k) := by
  induction items using List.reverseRecOn with
  | nil =>
      intro kept h
      cases h
      trivial
  | append_singleton items a ih =>
      intro kept h
      obtain ⟨before, hbefore, h⟩ := g.run_append_singleton h
      have hbuilt := ih hbefore
      rw [List.filter_append, List.filter_singleton]
      rcases g.absorb_cases h with ⟨hnone, rfl⟩ | ⟨existing, merged, hfound, hmerged, rfl⟩
      · rw [List.find?_append, List.find?_singleton, g.key_create]
        by_cases hkey : g.keyOf a = k
        · rw [hkey] at hnone
          rw [hnone] at hbuilt ⊢
          rw [decide_eq_true hkey, cond_true, if_pos rfl]
          cases hgroup : items.filter fun a => g.keyOf a = k with
          | nil => rfl
          | cons first rest =>
              rw [hgroup] at hbuilt
              exact hbuilt.elim
        · rw [decide_eq_false hkey, cond_false, if_neg Bool.false_ne_true, List.append_nil,
            Option.or_none]
          exact hbuilt
      · have hexisting := g.key_of_find? hfound
        have hmergedKey := (g.key_merge existing a merged hmerged).trans hexisting
        rw [find?_replace g (fun e => decide (g.key e = k)) (by
          intro e _ hkey
          rw [← hkey])]
        by_cases hkey : g.keyOf a = k
        · rw [hkey] at hfound hmergedKey
          rw [hfound] at hbuilt ⊢
          rw [decide_eq_true hkey, cond_true, Option.map_some,
            if_pos ((g.key_of_find? hfound).trans hmergedKey.symm)]
          exact g.built_append hbuilt rfl hmerged
        · rw [decide_eq_false hkey, cond_false, List.append_nil]
          cases hentry : before.find? fun e => g.key e = k with
          | none =>
              rw [hentry] at hbuilt
              exact hbuilt
          | some e =>
              have hother : g.key e ≠ g.key merged := by
                rw [g.key_of_find? hentry, hmergedKey]
                exact Ne.symm hkey
              rw [hentry] at hbuilt
              rw [Option.map_some, if_neg hother]
              exact hbuilt

omit [DecidableEq κ] in
theorem built_append_inv {group : List α} {a : α} {entry : Option ε}
    (h : g.Built (group ++ [a]) entry) :
    (group = [] ∧ entry = some (g.create a)) ∨
      ∃ e e', g.Built group (some e) ∧ g.merge e a = .ok e' ∧ entry = some e' := by
  cases group with
  | nil =>
      cases entry with
      | none => exact h.elim
      | some e =>
          cases h
          exact .inl ⟨rfl, rfl⟩
  | cons first rest =>
      cases entry with
      | none => exact h.elim
      | some e' =>
          have hfold : (rest ++ [a]).foldlM g.merge (g.create first) = .ok e' := h
          rw [List.foldlM_append] at hfold
          obtain ⟨e, he, hlast⟩ := bind_eq_ok.mp hfold
          rw [List.foldlM_cons] at hlast
          obtain ⟨merged, hmerged, hlast⟩ := bind_eq_ok.mp hlast
          cases hlast
          exact .inr ⟨e, e', he, hmerged, rfl⟩

omit [DecidableEq κ] in
theorem built_unique {group : List α} {entry entry' : Option ε} (h : g.Built group entry)
    (h' : g.Built group entry') : entry = entry' := by
  cases group with
  | nil =>
      cases entry with
      | some e => exact h.elim
      | none =>
          cases entry' with
          | some e => exact h'.elim
          | none => rfl
  | cons first rest =>
      cases entry with
      | none => exact h.elim
      | some e =>
          cases entry' with
          | none => exact h'.elim
          | some e' =>
              have heq : Except.ok (ε := δ) e = .ok e' := h.symm.trans h'
              cases heq
              rfl

/-- Reading succeeds exactly when every group can be folded. -/
theorem run_isOk_iff {items : List α} : (∃ kept, g.run items = .ok kept) ↔
    ∀ k, ∃ entry, g.Built (items.filter fun a => g.keyOf a = k) entry := by
  constructor
  · rintro ⟨kept, h⟩ k
    exact ⟨_, g.run_built k h⟩
  · intro h
    induction items using List.reverseRecOn with
    | nil => exact ⟨[], rfl⟩
    | append_singleton items a ih =>
        have hearlier : ∀ k, ∃ entry, g.Built (items.filter fun b => g.keyOf b = k) entry := by
          intro k
          obtain ⟨entry, hentry⟩ := h k
          rw [List.filter_append, List.filter_singleton] at hentry
          by_cases hkey : g.keyOf a = k
          · rw [decide_eq_true hkey, cond_true] at hentry
            rcases g.built_append_inv hentry with ⟨hgroup, -⟩ | ⟨e, -, he, -, -⟩
            · rw [hgroup]
              exact ⟨none, trivial⟩
            · exact ⟨some e, he⟩
          · rw [decide_eq_false hkey, cond_false, List.append_nil] at hentry
            exact ⟨entry, hentry⟩
        obtain ⟨before, hbefore⟩ := ih hearlier
        have hstep : ∃ after, g.absorb before a = .ok after := by
          unfold absorb
          cases hfound : before.find? fun e => g.key e = g.keyOf a with
          | none => exact ⟨_, rfl⟩
          | some existing =>
              have hbuilt := g.run_built (g.keyOf a) hbefore
              obtain ⟨entry, hentry⟩ := h (g.keyOf a)
              rw [List.filter_append, List.filter_singleton, decide_eq_true rfl,
                cond_true] at hentry
              rw [hfound] at hbuilt
              rcases g.built_append_inv hentry with ⟨hgroup, -⟩ | ⟨e, merged, he, hmerged, -⟩
              · rw [hgroup] at hbuilt
                exact hbuilt.elim
              · have heq := Option.some.inj (g.built_unique he hbuilt)
                rw [heq] at hmerged
                exact ⟨g.replace before merged, bind_eq_ok.mpr ⟨merged, hmerged, rfl⟩⟩
        obtain ⟨after, hafter⟩ := hstep
        refine ⟨after, ?_⟩
        unfold run at hbefore ⊢
        rw [List.foldlM_append, hbefore]
        change [a].foldlM g.absorb before = .ok after
        rw [List.foldlM_cons, hafter]
        rfl

/-- Under a property that items of one key share, the first entry is the one that the
first item opened. -/
theorem run_find? {p : α → Bool} {q : ε → Bool} (hcreate : ∀ a, q (g.create a) = p a)
    (hmerge : ∀ e a e', g.merge e a = .ok e' → q e' = q e) {items : List α}
    (hshared : ∀ a ∈ items, ∀ b ∈ items, g.keyOf a = g.keyOf b → p a = p b) :
    ∀ {kept : List ε}, g.run items = .ok kept →
      (kept.find? q).map g.key = (items.find? p).map g.keyOf := by
  induction items using List.reverseRecOn with
  | nil =>
      intro kept h
      cases h
      rfl
  | append_singleton items a ih =>
      intro kept h
      obtain ⟨before, hbefore, h⟩ := g.run_append_singleton h
      have hearlier := ih (fun a ha b hb => hshared a (List.mem_append_left _ ha) b
        (List.mem_append_left _ hb)) hbefore
      rcases g.absorb_cases h with ⟨-, rfl⟩ | ⟨existing, merged, hfound, hmerged, rfl⟩
      · rw [List.find?_append, List.find?_append, List.find?_singleton,
          List.find?_singleton, hcreate]
        cases hentry : before.find? q with
        | some e =>
            rw [hentry] at hearlier
            cases hitem : items.find? p with
            | none =>
                rw [hitem] at hearlier
                cases hearlier
            | some b =>
                rw [hitem] at hearlier
                exact hearlier
        | none =>
            rw [hentry] at hearlier
            cases hitem : items.find? p with
            | some b =>
                rw [hitem] at hearlier
                cases hearlier
            | none =>
                rw [Option.none_or, Option.none_or]
                split
                · rw [Option.map_some, Option.map_some, g.key_create]
                · rfl
      · have hexisting := g.key_of_find? hfound
        have hmem := List.mem_of_find?_eq_some hfound
        have hmergedKey := g.key_merge existing a merged hmerged
        have hquiet : ∀ e ∈ before, g.key e = g.key merged → q merged = q e := by
          intro e he hkey
          rw [g.eq_of_key hbefore he hmem (hkey.trans hmergedKey)]
          exact hmerge existing a merged hmerged
        have hkeys : ((g.replace before merged).find? q).map g.key =
            (before.find? q).map g.key := by
          rw [g.find?_replace q hquiet, Option.map_map]
          refine Option.map_congr ?_
          intro e _
          change g.key (if g.key e = g.key merged then merged else e) = g.key e
          split
          · rename_i hkey
            exact hkey.symm
          · rfl
        rw [hkeys, hearlier, List.find?_append, List.find?_singleton]
        cases hitem : items.find? p with
        | some b => rfl
        | none =>
            -- an item of the same key came before, and did not have the property
            have hread := (g.run_keys hbefore).2 (g.keyOf a)
            rw [← hexisting] at hread
            obtain ⟨b, hb, hkey⟩ := List.mem_map.mp
              (hread.mp (List.mem_map_of_mem hmem))
            have hsame := hshared b (List.mem_append_left _ hb) a
              (List.mem_append_right _ List.mem_cons_self) (hkey.trans hexisting)
            have hfalse : p a = false := by
              rw [← hsame]
              exact Bool.eq_false_iff.mpr (List.find?_eq_none.mp hitem b hb)
            rw [Option.none_or, hfalse, if_neg Bool.false_ne_true]

end Grouping

namespace Grouping

variable {α ε κ δ τ : Type}

/-- An item is merged exactly when its tag is the tag of the entry. -/
structure Agreeing (g : Grouping α ε κ δ) (tag : α → τ) (tagOf : ε → τ) : Prop where
  create : ∀ a, tagOf (g.create a) = tag a
  merged : ∀ e a e', g.merge e a = .ok e' → tagOf e = tag a ∧ tagOf e' = tagOf e
  accepts : ∀ e a, tagOf e = tag a → ∃ e', g.merge e a = .ok e'

/-- An entry keeps the item that opened it, and the number of its items. -/
structure Counting (g : Grouping α ε κ δ) (first : ε → α) (count : ε → Nat) : Prop where
  create : ∀ a, first (g.create a) = a ∧ count (g.create a) = 1
  merged : ∀ e a e', g.merge e a = .ok e' → first e' = first e ∧ count e' = count e + 1

variable {g : Grouping α ε κ δ} {tag : α → τ} {tagOf : ε → τ} {first : ε → α} {count : ε → Nat}

/-! ## Collapsing one group -/

theorem Agreeing.foldlM_isOk_iff (h : g.Agreeing tag tagOf) {rest : List α} : ∀ {e : ε},
    (∃ e', rest.foldlM g.merge e = .ok e') ↔ ∀ a ∈ rest, tagOf e = tag a := by
  induction rest with
  | nil => exact fun {e} => ⟨fun _ _ ha => absurd ha List.not_mem_nil, fun _ => ⟨e, rfl⟩⟩
  | cons a rest ih =>
      intro e
      rw [List.forall_mem_cons]
      constructor
      · rintro ⟨e', hfold⟩
        obtain ⟨merged, hmerged, hfold⟩ := bind_eq_ok.mp hfold
        obtain ⟨hagree, hsame⟩ := h.merged e a merged hmerged
        refine ⟨hagree, fun b hb => ?_⟩
        rw [← hsame]
        exact ih.mp ⟨e', hfold⟩ b hb
      · rintro ⟨hagree, hrest⟩
        obtain ⟨merged, hmerged⟩ := h.accepts e a hagree
        have hsame := (h.merged e a merged hmerged).2
        obtain ⟨e', hfold⟩ := ih.mpr fun b hb => hsame.trans (hrest b hb)
        exact ⟨e', bind_eq_ok.mpr ⟨merged, hmerged, hfold⟩⟩

/-- A group collapses exactly when its items agree. -/
theorem Agreeing.built_iff (h : g.Agreeing tag tagOf) {group : List α} :
    (∃ entry, g.Built group entry) ↔ ∀ a ∈ group, ∀ b ∈ group, tag a = tag b := by
  cases group with
  | nil => exact ⟨fun _ _ ha => absurd ha List.not_mem_nil, fun _ => ⟨none, trivial⟩⟩
  | cons opening rest =>
      have hbuilt : (∃ entry, g.Built (opening :: rest) entry) ↔
          ∃ e, rest.foldlM g.merge (g.create opening) = .ok e := by
        constructor
        · rintro ⟨entry, hentry⟩
          cases entry with
          | none => exact hentry.elim
          | some e => exact ⟨e, hentry⟩
        · rintro ⟨e, he⟩
          exact ⟨some e, he⟩
      rw [hbuilt, h.foldlM_isOk_iff, h.create]
      constructor
      · intro hrest
        have hall : ∀ a ∈ opening :: rest, tag opening = tag a :=
          List.forall_mem_cons.mpr ⟨rfl, hrest⟩
        exact fun a ha b hb => (hall a ha).symm.trans (hall b hb)
      · intro hall a ha
        exact hall opening List.mem_cons_self a (List.mem_cons_of_mem _ ha)

theorem Counting.foldlM (h : g.Counting first count) {rest : List α} : ∀ {e e' : ε},
    rest.foldlM g.merge e = .ok e' → first e' = first e ∧ count e' = count e + rest.length := by
  induction rest with
  | nil =>
      intro e e' hfold
      cases hfold
      exact ⟨rfl, rfl⟩
  | cons a rest ih =>
      intro e e' hfold
      obtain ⟨merged, hmerged, hfold⟩ := bind_eq_ok.mp hfold
      obtain ⟨hfirst, hcount⟩ := h.merged e a merged hmerged
      obtain ⟨hfirst', hcount'⟩ := ih hfold
      refine ⟨hfirst'.trans hfirst, ?_⟩
      rw [hcount', hcount, List.length_cons]
      omega

/-- An entry stands for the first item of its group, and counts the group. -/
theorem Counting.built (h : g.Counting first count) {group : List α} {e : ε}
    (hbuilt : g.Built group (some e)) : first e ∈ group ∧ count e = group.length := by
  cases group with
  | nil => exact hbuilt.elim
  | cons opening rest =>
      obtain ⟨hfirst, hcount⟩ := h.foldlM hbuilt
      obtain ⟨hopening, hone⟩ := h.create opening
      rw [hfirst, hcount, hopening, hone, List.length_cons]
      exact ⟨List.mem_cons_self, Nat.add_comm 1 rest.length⟩

/-! ## Collapsing all groups -/

variable [DecidableEq κ]

/-- Reading succeeds exactly when any two items of one key agree. -/
theorem Agreeing.run_isOk_iff (h : g.Agreeing tag tagOf) {items : List α} :
    (∃ kept, g.run items = .ok kept) ↔
      ∀ a ∈ items, ∀ b ∈ items, g.keyOf a = g.keyOf b → tag a = tag b := by
  have hgroup : ∀ k a, (a ∈ items.filter fun a => g.keyOf a = k) ↔ a ∈ items ∧ g.keyOf a = k := by
    intro k a
    rw [List.mem_filter, decide_eq_true_eq]
  rw [Grouping.run_isOk_iff]
  constructor
  · intro hbuilt a ha b hb hkey
    exact h.built_iff.mp (hbuilt (g.keyOf b)) a ((hgroup _ a).mpr ⟨ha, hkey⟩) b
      ((hgroup _ b).mpr ⟨hb, rfl⟩)
  · intro hall k
    refine h.built_iff.mpr fun a ha b hb => ?_
    obtain ⟨ha, hkey⟩ := (hgroup k a).mp ha
    obtain ⟨hb, hkey'⟩ := (hgroup k b).mp hb
    exact hall a ha b hb (hkey.trans hkey'.symm)

/-- An entry stands for an item of its key, and counts the items of that key. -/
theorem Counting.entry (h : g.Counting first count) {items : List α} {kept : List ε}
    (hrun : g.run items = .ok kept) {e : ε} (he : e ∈ kept) :
    first e ∈ items ∧ g.keyOf (first e) = g.key e ∧
      count e = items.countP fun a => g.keyOf a = g.key e := by
  have hfound : kept.find? (fun e' => g.key e' = g.key e) = some e := by
    have hsome : (kept.find? fun e' => g.key e' = g.key e).isSome :=
      List.find?_isSome.mpr ⟨e, he, decide_eq_true rfl⟩
    obtain ⟨e', he'⟩ := Option.isSome_iff_exists.mp hsome
    rw [he', g.eq_of_key hrun (List.mem_of_find?_eq_some he') he (g.key_of_find? he')]
  have hbuilt := g.run_built (g.key e) hrun
  rw [hfound] at hbuilt
  obtain ⟨hfirst, hcount⟩ := h.built hbuilt
  rw [List.mem_filter, decide_eq_true_eq] at hfirst
  refine ⟨hfirst.1, hfirst.2, ?_⟩
  rw [hcount, ← List.countP_eq_length_filter]

/-- Every item is counted once. -/
theorem Counting.sum_count (h : g.Counting first count) {items : List α} {kept : List ε}
    (hrun : g.run items = .ok kept) : (kept.map count).sum = items.length := by
  obtain ⟨hnodup, hmem⟩ := g.run_keys hrun
  have hperm : (kept.map g.key).Perm (items.map g.keyOf).dedup := by
    refine (List.perm_ext_iff_of_nodup hnodup (List.nodup_dedup _)).mpr fun k => ?_
    rw [hmem k, List.mem_dedup]
  have hcounts : kept.map count =
      (kept.map g.key).map fun k => (items.map g.keyOf).count k := by
    rw [List.map_map]
    refine List.map_congr_left fun e he => (h.entry hrun he).2.2.trans ?_
    rw [Function.comp_apply, List.count, List.countP_map]
    refine List.countP_congr fun a _ => ?_
    rw [decide_eq_true_eq, Function.comp_apply, beq_iff_eq]
  rw [hcounts, (hperm.map _).sum_eq, List.sum_map_count_dedup_eq_length, List.length_map]

end Grouping

/-! ## Members -/

theorem eq_of_filterMap_nodup {α β : Type} {f : α → Option β} {l : List α}
    (h : (l.filterMap f).Nodup) {a b : α} {x : β} (ha : a ∈ l) (hb : b ∈ l)
    (hfa : f a = some x) (hfb : f b = some x) : a = b := by
  induction l with
  | nil => exact (List.not_mem_nil ha).elim
  | cons c rest ih =>
      have hmem : ∀ {d : α}, d ∈ rest → f d = some x → x ∈ rest.filterMap f := by
        intro d hd hfd
        exact List.mem_filterMap.mpr ⟨d, hd, hfd⟩
      rw [List.filterMap_cons] at h
      rcases List.mem_cons.mp ha with rfl | hrest
      · rcases List.mem_cons.mp hb with rfl | hrest
        · rfl
        · rw [hfa] at h
          exact absurd (hmem hrest hfb) (List.nodup_cons.mp h).1
      · rcases List.mem_cons.mp hb with rfl | hrest'
        · rw [hfb] at h
          exact absurd (hmem hrest hfa) (List.nodup_cons.mp h).1
        · refine ih ?_ hrest hrest'
          cases hfc : f c with
          | none =>
              rw [hfc] at h
              exact h
          | some y =>
              rw [hfc] at h
              exact (List.nodup_cons.mp h).2

/-! ## Keeping the first of each key -/

section

variable {α κ : Type} [DecidableEq κ] (key : α → κ)

/-- An item is kept unless one of its key was. -/
def keep (kept : List α) (a : α) : List α :=
  if key a ∈ kept.map key then kept else kept ++ [a]

/-- The first item of each key. -/
def keepFirst (items : List α) : List α := items.foldl (keep key) []

theorem keepFirst_append_singleton {items : List α} {a : α} :
    keepFirst key (items ++ [a]) = keep key (keepFirst key items) a := by
  unfold keepFirst
  rw [List.foldl_append]
  rfl

theorem keepFirst_keys_nodup {items : List α} : ((keepFirst key items).map key).Nodup := by
  induction items using List.reverseRecOn with
  | nil => exact List.nodup_nil
  | append_singleton items a ih =>
      rw [keepFirst_append_singleton]
      unfold keep
      split
      · exact ih
      · rename_i hnew
        rw [List.map_append, List.nodup_append]
        refine ⟨ih, List.nodup_singleton _, ?_⟩
        intro k hk other hother heq
        rw [List.map_singleton, List.mem_singleton] at hother
        exact hnew (by rwa [← hother, ← heq])

theorem find?_keepFirst {items : List α} (k : κ) :
    (keepFirst key items).find? (fun b => key b = k) = items.find? fun b => key b = k := by
  induction items using List.reverseRecOn with
  | nil => rfl
  | append_singleton items b ih =>
      rw [keepFirst_append_singleton, List.find?_append, ← ih]
      unfold keep
      split
      · rename_i hseen
        rw [List.find?_singleton]
        by_cases hkey : key b = k
        · obtain ⟨c, hc, hsame⟩ := List.mem_map.mp hseen
          have hsome : ((keepFirst key items).find? fun b => key b = k).isSome :=
            List.find?_isSome.mpr ⟨c, hc, decide_eq_true (hsame.trans hkey)⟩
          rw [Option.or_of_isSome hsome]
        · rw [decide_eq_false hkey, if_neg Bool.false_ne_true, Option.or_none]
      · rw [List.find?_append]

/-- What is kept is the first item of its key. -/
theorem mem_keepFirst {items : List α} {a : α} :
    a ∈ keepFirst key items ↔ items.find? (fun b => key b = key a) = some a := by
  rw [← find?_keepFirst]
  constructor
  · intro hmem
    have hsome : ((keepFirst key items).find? fun b => key b = key a).isSome :=
      List.find?_isSome.mpr ⟨a, hmem, decide_eq_true rfl⟩
    obtain ⟨b, hb⟩ := Option.isSome_iff_exists.mp hsome
    have hkey := List.find?_some hb
    rw [hb, List.inj_on_of_nodup_map (keepFirst_keys_nodup key)
      (List.mem_of_find?_eq_some hb) hmem (of_decide_eq_true hkey)]
  · intro hfound
    exact List.mem_of_find?_eq_some hfound

theorem mem_keys_keepFirst {items : List α} {k : κ} :
    k ∈ (keepFirst key items).map key ↔ k ∈ items.map key := by
  have hread : ∀ l : List α, k ∈ l.map key ↔ (l.find? fun b => key b = k).isSome := by
    intro l
    rw [List.mem_map, List.find?_isSome]
    exact exists_congr fun b => and_congr_right fun _ => decide_eq_true_iff.symm
  rw [hread, hread, find?_keepFirst]

/-- The same items are kept exactly when the first item of each key is the same. -/
theorem keepFirst_congr_iff {items items' : List α} :
    (∀ a, a ∈ keepFirst key items ↔ a ∈ keepFirst key items') ↔
      ∀ k, items.find? (fun b => key b = k) = items'.find? fun b => key b = k := by
  constructor
  · intro h k
    refine Option.ext fun a => ?_
    constructor
    · intro hfound
      have hkey := List.find?_some hfound
      rw [← of_decide_eq_true hkey] at hfound ⊢
      exact (mem_keepFirst key).mp ((h a).mp ((mem_keepFirst key).mpr hfound))
    · intro hfound
      have hkey := List.find?_some hfound
      rw [← of_decide_eq_true hkey] at hfound ⊢
      exact (mem_keepFirst key).mp ((h a).mpr ((mem_keepFirst key).mpr hfound))
  · intro h a
    rw [mem_keepFirst, mem_keepFirst, h]

/-- How many items are kept does not depend on their order. -/
theorem length_keepFirst_of_perm {items items' : List α} (h : items.Perm items') :
    (keepFirst key items).length = (keepFirst key items').length := by
  have hperm : ((keepFirst key items).map key).Perm ((keepFirst key items').map key) := by
    refine (List.perm_ext_iff_of_nodup (keepFirst_keys_nodup key)
      (keepFirst_keys_nodup key)).mpr fun k => ?_
    rw [mem_keys_keepFirst, mem_keys_keepFirst, (h.map key).mem_iff]
  have hlength := hperm.length_eq
  rwa [List.length_map, List.length_map] at hlength

end

end PatchPilot.Foundation
