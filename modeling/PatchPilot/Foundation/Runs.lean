/-
  Foundation/Runs.lean --- properties of the steps of a run.

  A system that takes one input after the other is a function from a state and
  an input to the next state, and a run is a list of inputs.  A property of a
  step speaks of the state before it and of its input, and so, through the step
  function, of the state after it.

  The rules of this file turn a fact about one step into a fact about runs: under
  an invariant that admissible steps preserve, two properties that agree on
  admissible steps agree on every admissible run.

  An object that commands create and change is such a system: a command is accepted or refused
  in the state that it meets, and a command that is refused changes nothing.  There is no state
  before the first command that creates one.  A property of all that was accepted, and of the
  state that it led to, holds after any commands when it holds before the first and every
  accepted command keeps it.

  A system that also answers its inputs is a function from an input and a state to the answer
  and the next state.
-/
import Mathlib.Data.List.Basic

set_option autoImplicit false

namespace PatchPilot.Foundation

/-! ## Steps of a run -/

section

variable {σ ι : Type} {step : σ → ι → σ}

/-- Every step of the run satisfies the property. -/
def EveryStep (step : σ → ι → σ) (P : σ → ι → Prop) : σ → List ι → Prop
  | _, [] => True
  | s, i :: rest => P s i ∧ EveryStep step P (step s i) rest

/-- Properties that agree on admissible steps agree on admissible runs. -/
theorem everyStep_iff {Inv : σ → Prop} {Admissible P Q : σ → ι → Prop}
    (hstep : ∀ s i, Inv s → Admissible s i → Inv (step s i))
    (hagree : ∀ s i, Inv s → Admissible s i → (P s i ↔ Q s i)) :
    ∀ {inputs : List ι} {s : σ}, Inv s → EveryStep step Admissible s inputs →
      (EveryStep step P s inputs ↔ EveryStep step Q s inputs) := by
  intro inputs
  induction inputs with
  | nil =>
      intro s _ _
      exact Iff.rfl
  | cons i rest ih =>
      intro s hinv hadmissible
      obtain ⟨hhead, htail⟩ := hadmissible
      exact and_congr (hagree s i hinv hhead) (ih (hstep s i hinv hhead) htail)

end

/-! ## Answers -/

/-- The state after inputs that were answered, one after the other. -/
def stateAfter {σ ι ω : Type} (act : ι → σ → ω × σ) : List ι → σ → σ
  | [], s => s
  | input :: rest, s => stateAfter act rest (act input s).2

/-! ## Commands -/

section

variable {σ κ ε : Type} (apply : Option σ → κ → Except ε σ)

/-- The state after a command. -/
def after (current : Option σ) (command : κ) : Option σ :=
  match apply current command with
  | .ok next => some next
  | .error _ => current

/-- The state after commands, one after the other. -/
def afterAll (current : Option σ) (commands : List κ) : Option σ :=
  commands.foldl (after apply) current

/-- The commands that were accepted, each with the state that it led to. -/
def accepted : Option σ → List κ → List (κ × σ)
  | _, [] => []
  | current, command :: rest =>
      match apply current command with
      | .ok next => (command, next) :: accepted (some next) rest
      | .error _ => accepted current rest

variable {apply}

/-- What every accepted command keeps holds of all that was accepted. -/
theorem accepted_induction (Inv : List (κ × σ) → Option σ → Prop)
    (hstep : ∀ past current command next, Inv past current →
      apply current command = .ok next → Inv (past ++ [(command, next)]) (some next)) :
    ∀ (commands : List κ) (past : List (κ × σ)) (current : Option σ), Inv past current →
      Inv (past ++ accepted apply current commands) (afterAll apply current commands) := by
  intro commands
  induction commands with
  | nil =>
      intro past current h
      rw [accepted, List.append_nil]
      exact h
  | cons command rest ih =>
      intro past current h
      unfold afterAll
      rw [List.foldl_cons, accepted]
      unfold after
      cases happly : apply current command with
      | ok next =>
          have hnext := ih _ _ (hstep past current command next h happly)
          rw [List.append_assoc] at hnext
          exact hnext
      | error e => exact ih past current h

/-- A state that is kept by every accepted command is kept by all of them. -/
theorem afterAll_related (Inv : σ → Prop) (R : σ → σ → Prop) (hrefl : ∀ s, R s s)
    (htrans : ∀ {s s' s''}, R s s' → R s' s'' → R s s'')
    (hstep : ∀ s command s', Inv s → apply (some s) command = .ok s' → R s s' ∧ Inv s')
    (commands : List κ) {s : σ} (h : Inv s) :
    ∃ s', afterAll apply (some s) commands = some s' ∧ R s s' ∧ Inv s' := by
  refine accepted_induction (fun _ current => ∃ s', current = some s' ∧ R s s' ∧ Inv s') ?_
    commands [] (some s) ⟨s, rfl, hrefl s, h⟩
  intro past current command next hcurrent happly
  obtain ⟨s', rfl, hrelated, hinv⟩ := hcurrent
  obtain ⟨hnext, hinv'⟩ := hstep s' command next hinv happly
  exact ⟨next, rfl, htrans hrelated hnext, hinv'⟩

end

end PatchPilot.Foundation
