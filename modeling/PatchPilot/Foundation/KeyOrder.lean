/-
  Foundation/KeyOrder.lean --- plain values that differ in the order of their keys.

  Two literals with the same members in another order are the same data, but
  `Object.getOwnPropertyNames` lists their keys differently.  `SameData` relates such values
  at every depth.  A reader of untrusted values is independent of the order of keys when it
  takes related values to one result.
-/
import Mathlib.Data.List.Forall2
import Mathlib.Data.List.Nodup
import PatchPilot.Foundation.Collector
import PatchPilot.Foundation.JsValue

set_option autoImplicit false

namespace PatchPilot.Foundation

/-- Values that are equal up to the order of the keys of plain objects, at every depth. -/
inductive SameData : JsValue → JsValue → Prop
  | refl (value : JsValue) : SameData value value
  | object (header : ObjectHeader) {entries entries' : List (JsString × JsValue)}
      (distinct : (entries.map Prod.fst).Nodup)
      (keys : (entries.map Prod.fst).Perm (entries'.map Prod.fst))
      (each : ∀ key value value', (key, value) ∈ entries → (key, value') ∈ entries' →
        SameData value value') :
      SameData (.object header (entries.map fun entry => (entry.1, .data true entry.2)))
        (.object header (entries'.map fun entry => (entry.1, .data true entry.2)))
  | array (header : ObjectHeader) {items items' : List JsValue}
      (properties : List (JsString × JsProperty)) (length : items.length = items'.length)
      (each : ∀ (i : Nat) (h : i < items.length) (h' : i < items'.length),
        SameData items[i] items'[i]) :
      SameData (.array header (items.map fun item => some (.data true item)) properties)
        (.array header (items'.map fun item => some (.data true item)) properties)

/-- Literals with the same members in another order. -/
theorem SameData.record_perm {entries entries' : List (JsString × JsValue)}
    (distinct : (entries.map Prod.fst).Nodup) (h : entries.Perm entries') :
    SameData (.record entries) (.record entries') := by
  refine .object .literal distinct (h.map Prod.fst) fun key value value' hvalue hvalue' => ?_
  have hsame := List.inj_on_of_nodup_map distinct hvalue (h.mem_iff.mpr hvalue') rfl
  rw [(Prod.mk.inj hsame).2]
  exact .refl value'

theorem SameData.string? {a b : JsValue} (h : SameData a b) : a.string? = b.string? := by
  cases h with
  | refl => rfl
  | object => rfl
  | array => rfl

/-! ## Loops over related values -/

section

variable {ι α β σ : Type} {R : α → α → Prop}

/-- A loop whose body does not tell related values apart. -/
theorem foldlM_congr {f : σ → α × Nat → Collect ι σ}
    (hf : ∀ a b i s, R a b → f s (a, i) = f s (b, i)) {l l' : List α} (h : List.Forall₂ R l l') :
    ∀ (k : Nat) (s : σ), (l.zipIdx k).foldlM f s = (l'.zipIdx k).foldlM f s := by
  induction h with
  | nil => exact fun _ _ => rfl
  | cons hab _ ih =>
      intro k s
      rw [List.zipIdx_cons, List.zipIdx_cons, List.foldlM_cons, List.foldlM_cons,
        hf _ _ k s hab]
      exact congrArg _ (funext fun s => ih (k + 1) s)

theorem mapM_congr {f : α × Nat → Collect ι β} (hf : ∀ a b i, R a b → f (a, i) = f (b, i))
    {l l' : List α} (h : List.Forall₂ R l l') :
    ∀ k : Nat, (l.zipIdx k).mapM f = (l'.zipIdx k).mapM f := by
  induction h with
  | nil => exact fun _ => rfl
  | cons hab _ ih =>
      intro k
      rw [List.zipIdx_cons, List.zipIdx_cons, List.mapM_cons, List.mapM_cons, hf _ _ k hab,
        ih (k + 1)]

/-- One issue for some members of a list is there once, wherever the members stand. -/
theorem forM_add_perm [DecidableEq ι] {issue : ι} {p : α → Prop} [DecidablePred p] {l l' : List α}
    (h : l.Perm l') :
    (l.forM fun a => if p a then Collect.add issue else pure ()) =
      l'.forM fun a => if p a then Collect.add issue else pure () := by
  induction h with
  | nil => rfl
  | cons a _ ih =>
      simp only [List.forM_eq_forM, List.forM_cons] at ih ⊢
      rw [ih]
  | swap a b l =>
      simp only [List.forM_eq_forM, List.forM_cons]
      by_cases ha : p a
      · by_cases hb : p b
        · rw [if_pos ha, if_pos hb]
        · rw [if_pos ha, if_neg hb]
          simp only [pure_bind]
      · by_cases hb : p b
        · rw [if_neg ha, if_pos hb]
          simp only [pure_bind]
        · rw [if_neg ha, if_neg hb]
  | trans _ _ ih ih' => exact ih.trans ih'

end

end PatchPilot.Foundation
