/-
  Foundation/Transcript.lean --- what a program asks, and what it is answered.

  A program is a tree of operations, and a path in the tree is a transcript: the operations
  that were performed, each with its answer.  Nothing is assumed of the answers, so what holds
  along every transcript holds whatever the surroundings of the program do.

  A program satisfies a condition along its transcripts and a condition on its results.  There
  is one rule for each way to build a program.
-/
import PatchPilot.Foundation.Interleaving

set_option autoImplicit false

namespace PatchPilot.Foundation

/-- An operation, and what it answered. -/
structure Exchange {σ : Type} (ops : Operations σ) where
  op : ops.Op
  answer : ops.Answer op

namespace Program

variable {σ : Type} {ops : Operations σ} {α β : Type}

/-! ## Transcripts -/

/-- A program has come to another by a transcript. -/
inductive Performs : Program ops α → List (Exchange ops) → Program ops α → Prop
  | stop (program : Program ops α) : Performs program [] program
  | call {op : ops.Op} {next : ops.Answer op → Program ops α} (answer : ops.Answer op)
      {t : List (Exchange ops)} {rest : Program ops α} (h : Performs (next answer) t rest) :
      Performs (.call op next) (⟨op, answer⟩ :: t) rest

/-- A transcript of a program that goes on is one of its parts, or two. -/
theorem performs_andThen {next : α → Program ops β} {rest : Program ops β}
    {t : List (Exchange ops)} :
    ∀ {program : Program ops α}, (program >>= next).Performs t rest →
      (∃ middle, program.Performs t middle ∧ rest = middle >>= next) ∨
        ∃ result u v, t = u ++ v ∧ program.Performs u (.done result) ∧
          (next result).Performs v rest := by
  intro program
  induction program generalizing t with
  | done result =>
      intro h
      exact .inr ⟨result, [], t, rfl, .stop _, h⟩
  | call op rest' ih =>
      intro h
      cases h with
      | stop => exact .inl ⟨.call op rest', .stop _, rfl⟩
      | call answer h =>
          rcases ih answer h with ⟨middle, hmiddle, heq⟩ | ⟨result, u, v, heq, hfirst, hsecond⟩
          · exact .inl ⟨middle, .call answer hmiddle, heq⟩
          · refine .inr ⟨result, _, v, ?_, .call answer hfirst, hsecond⟩
            rw [heq]
            rfl

/-- From a history on, one condition holds along every transcript of the program, and another
when it is done. -/
def Satisfies (during : List (Exchange ops) → Prop) (post : List (Exchange ops) → α → Prop)
    (program : Program ops α) (history : List (Exchange ops)) : Prop :=
  ∀ t rest, program.Performs t rest →
    during (history ++ t) ∧ ∀ result, rest = .done result → post (history ++ t) result

variable {during : List (Exchange ops) → Prop} {post : List (Exchange ops) → α → Prop}
  {history : List (Exchange ops)}

theorem Satisfies.done {result : α} (h : during history) (h' : post history result) :
    Satisfies during post (pure result : Program ops α) history := by
  intro t rest hperforms
  cases hperforms
  rw [List.append_nil]
  refine ⟨h, fun result' heq => ?_⟩
  cases heq
  exact h'

/-- A program that performs an operation and goes on. -/
theorem Satisfies.perform {op : ops.Op} {next : ops.Answer op → Program ops α}
    (h : during history)
    (hnext : ∀ answer, Satisfies during post (next answer) (history ++ [⟨op, answer⟩])) :
    Satisfies during post (Program.perform op >>= next) history := by
  intro t rest hperforms
  change (Program.call op next).Performs t rest at hperforms
  cases hperforms with
  | stop =>
      rw [List.append_nil]
      exact ⟨h, fun result heq => by cases heq⟩
  | call answer hrest =>
      have hafter := hnext answer _ _ hrest
      rw [List.append_assoc] at hafter
      exact hafter

theorem Satisfies.andThen {next : α → Program ops β} {middle : List (Exchange ops) → α → Prop}
    {post : List (Exchange ops) → β → Prop} {program : Program ops α}
    (h : Satisfies during middle program history)
    (hnext : ∀ t result, during t → middle t result → Satisfies during post (next result) t) :
    Satisfies during post (program >>= next) history := by
  intro t rest hperforms
  rcases performs_andThen hperforms with ⟨before, hbefore, heq⟩ | ⟨result, u, v, heq, hu, hv⟩
  · refine ⟨(h t before hbefore).1, fun result hresult => ?_⟩
    cases before with
    | done value =>
        -- the program is done, and what follows is done at once
        obtain ⟨hduring, hmiddle⟩ := h t _ hbefore
        have hrest := hnext _ value hduring (hmiddle value rfl) [] rest (by
          rw [heq]
          exact .stop _)
        rw [List.append_nil] at hrest
        exact hrest.2 result hresult
    | call op after =>
        rw [heq] at hresult
        cases hresult
  · obtain ⟨hduring, hmiddle⟩ := h u _ hu
    rw [heq, ← List.append_assoc]
    exact hnext _ result hduring (hmiddle result rfl) v rest hv

end Program

end PatchPilot.Foundation
