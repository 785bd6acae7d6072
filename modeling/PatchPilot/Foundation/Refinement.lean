/-
  Foundation/Refinement.lean --- operations that stand for other operations.

  Operations on one state refine operations on another: each of the first stands for one of
  the second, and whatever it answers and leaves is what the other one answers and leaves, as
  far as a relation between the two states shows.  So wherever the first operations lead, the
  second ones lead to a state that is shown.
-/
import Mathlib.Logic.Relation
import PatchPilot.Foundation.Interleaving

set_option autoImplicit false

namespace PatchPilot.Foundation

/-- Operations lead from one state to another. -/
def Leads {σ : Type} (ops : Operations σ) : σ → σ → Prop :=
  Relation.ReflTransGen fun s s' => ∃ op choice answer, ops.exec op choice s = some (answer, s')

/-- What every operation keeps holds wherever operations lead. -/
theorem Leads.keeps {σ : Type} {ops : Operations σ} {inv : σ → Prop}
    (hstep : ∀ op choice s answer s', inv s → ops.exec op choice s = some (answer, s') → inv s')
    {s s' : σ} (h : Leads ops s s') (hinv : inv s) : inv s' := by
  induction h with
  | refl => exact hinv
  | tail _ hexec ih =>
      obtain ⟨op, choice, answer, hexec⟩ := hexec
      exact hstep op choice _ answer _ ih hexec

/-- Operations that stand for others. -/
structure Refinement {σ τ : Type} (ops : Operations σ) (others : Operations τ) where
  Shows : σ → τ → Prop
  other : ops.Op → others.Op
  choice : ops.Choice → others.Choice
  Agrees : (op : ops.Op) → ops.Answer op → others.Answer (other op) → Prop
  exec : ∀ {s t}, Shows s t → ∀ {op c answer s'}, ops.exec op c s = some (answer, s') →
    ∃ reply t', others.exec (other op) (choice c) t = some (reply, t') ∧ Agrees op answer reply ∧
      Shows s' t'

/-- Where the first operations lead, the second ones lead. -/
theorem Refinement.leads {σ τ : Type} {ops : Operations σ} {others : Operations τ}
    (refinement : Refinement ops others) {s s' : σ} {t : τ} (hshows : refinement.Shows s t)
    (h : Leads ops s s') : ∃ t', Leads others t t' ∧ refinement.Shows s' t' := by
  induction h with
  | refl => exact ⟨t, .refl, hshows⟩
  | tail _ hexec ih =>
      obtain ⟨op, choice, answer, hexec⟩ := hexec
      obtain ⟨t', hleads, hshows'⟩ := ih
      obtain ⟨reply, t'', hother, -, hshows''⟩ := refinement.exec hshows' hexec
      exact ⟨t'', hleads.tail ⟨_, _, reply, hother⟩, hshows''⟩

end PatchPilot.Foundation
