/-
  Foundation/Interleaving.lean --- any number of programs that share a state.

  A program is a tree of operations.  An operation is atomic: it reads and writes the shared
  state, and it answers.  What it does may depend on a choice that no program makes, such as
  what time it is or whether a service answers.  Programs are started at any time, their
  operations interleave in any order, and a program may stop for good after any of them.

  A program is safe when it keeps a contract, whatever the others do that keep it too.
-/
import Mathlib.Logic.Function.Basic

set_option autoImplicit false

namespace PatchPilot.Foundation

/-! ## Programs -/

/-- Operations on a shared state. -/
structure Operations (σ : Type) where
  Op : Type
  Answer : Op → Type
  Choice : Type
  /-- What an operation answers and leaves, unless the choice is not one of its own. -/
  exec : (op : Op) → Choice → σ → Option (Answer op × σ)

/-- A tree of operations. -/
inductive Program {σ : Type} (ops : Operations σ) (α : Type) : Type
  | done (result : α)
  | call (op : ops.Op) (next : ops.Answer op → Program ops α)

namespace Program

variable {σ : Type} {ops : Operations σ} {α β : Type}

/-- A program, and what follows on its result. -/
def bind (next : α → Program ops β) : Program ops α → Program ops β
  | .done result => next result
  | .call op rest => .call op fun answer => (rest answer).bind next

instance : Monad (Program ops) where
  pure := .done
  bind program next := program.bind next

/-- A program that performs one operation. -/
def perform (op : ops.Op) : Program ops (ops.Answer op) := .call op .done

/-- The operations of a program, one after the other with nothing between them, and with the
same choice for each. -/
def alone (choice : ops.Choice) : Program ops α → σ → Option (α × σ)
  | .done result, s => some (result, s)
  | .call op next, s =>
      (ops.exec op choice s).bind fun (answer, s') => (next answer).alone choice s'

theorem alone_andThen {choice : ops.Choice} {next : α → Program ops β} {program : Program ops α} :
    ∀ {s s' : σ} {result : α}, program.alone choice s = some (result, s') →
      (program >>= next).alone choice s = (next result).alone choice s' := by
  induction program with
  | done result =>
      intro s s' result' h
      cases h
      rfl
  | call op rest ih =>
      intro s s' result h
      obtain ⟨⟨answer, s''⟩, hexec, hrest⟩ := Option.bind_eq_some_iff.mp h
      change ((ops.exec op choice s).bind fun (answer, s') =>
        ((rest answer).bind next).alone choice s') = _
      rw [hexec]
      exact ih answer hrest

end Program

/-! ## Contracts -/

/-- What every step keeps: an invariant of the state, and a relation between the states
before and after any number of steps. -/
structure Contract (σ : Type) where
  Inv : σ → Prop
  Rely : σ → σ → Prop
  refl : ∀ s, Rely s s
  trans : ∀ {s s' s''}, Rely s s' → Rely s' s'' → Rely s s''

section

variable {σ : Type} {ops : Operations σ} {α β : Type} (contract : Contract σ)
  (allowed : ops.Op → σ → Prop)

/-- Every operation of the program keeps the contract, and what it returns is as `post`
says from then on.  Between two of its operations the others change the state within the
contract.  Only steps that are allowed are looked at. -/
def Safe (post : α → σ → Prop) : Program ops α → σ → Prop
  | .done result, s => ∀ s', contract.Rely s s' → contract.Inv s' → post result s'
  | .call op next, s =>
      ∀ s', contract.Rely s s' → contract.Inv s' → allowed op s' →
        ∀ choice answer s'', ops.exec op choice s' = some (answer, s'') →
          contract.Rely s' s'' ∧ contract.Inv s'' ∧ Safe post (next answer) s''

variable {contract} {allowed} {post : α → σ → Prop}

/-- What the others do does not make a program unsafe. -/
theorem Safe.later {program : Program ops α} {s s' : σ}
    (h : Safe contract allowed post program s) (hrely : contract.Rely s s') :
    Safe contract allowed post program s' := by
  cases program with
  | done result => exact fun s'' hlater => h s'' (contract.trans hrely hlater)
  | call op next => exact fun s'' hlater => h s'' (contract.trans hrely hlater)

/-- What follows on a result is safe in every state from which on the result is as
promised. -/
theorem Safe.andThen {next : α → Program ops β} {post' : β → σ → Prop}
    {program : Program ops α}
    (hnext : ∀ result s, (∀ s', contract.Rely s s' → contract.Inv s' → post result s') →
      Safe contract allowed post' (next result) s) :
    ∀ {s : σ}, Safe contract allowed post program s →
      Safe contract allowed post' (program >>= next) s := by
  induction program with
  | done result =>
      intro s h
      exact hnext result s h
  | call op rest ih =>
      intro s h s' hrely hinv hallowed choice answer s'' hexec
      obtain ⟨hstep, hinv', hrest⟩ := h s' hrely hinv hallowed choice answer s'' hexec
      exact ⟨hstep, hinv', ih answer hrest⟩

/-- It is enough that a program is safe in every state that the others may leave. -/
theorem Safe.ofLater {program : Program ops α} {s : σ}
    (h : ∀ s', contract.Rely s s' → contract.Inv s' → Safe contract allowed post program s') :
    Safe contract allowed post program s := by
  cases program with
  | done result => exact fun s' hrely hinv => h s' hrely hinv s' (contract.refl _) hinv
  | call op next => exact fun s' hrely hinv => h s' hrely hinv s' (contract.refl _) hinv

/-- What follows on a result is safe in every state that is later, where the result is as
promised. -/
theorem Safe.andThenFrom {next : α → Program ops β} {post' : β → σ → Prop}
    {program : Program ops α} {s : σ} (h : Safe contract allowed post program s)
    (hnext : ∀ result s', contract.Rely s s' → contract.Inv s' → post result s' →
      Safe contract allowed post' (next result) s') :
    Safe contract allowed post' (program >>= next) s := by
  have key : ∀ s', contract.Rely s s' → Safe contract allowed post program s' →
      Safe contract allowed post' (program >>= next) s' := by
    clear h
    induction program with
    | done result =>
        intro s' hrely hpost
        refine Safe.ofLater fun s'' hlater hinv => ?_
        exact hnext result s'' (contract.trans hrely hlater) hinv (hpost s'' hlater hinv)
    | call op rest ih =>
        intro s' hrely hsafe before hlater hinv hallowed choice answer after hexec
        obtain ⟨hstep, hinv', hrest⟩ := hsafe before hlater hinv hallowed choice answer after hexec
        exact ⟨hstep, hinv', ih answer after
          (contract.trans hrely (contract.trans hlater hstep)) hrest⟩
  exact key s (contract.refl s) h

/-- A program whose result is changed. -/
theorem Safe.map {change : α → β} {post' : β → σ → Prop} {program : Program ops α}
    (himp : ∀ result s, post result s → post' (change result) s) {s : σ}
    (h : Safe contract allowed post program s) :
    Safe contract allowed post' (program >>= fun result => pure (change result)) s := by
  refine Safe.andThen (fun result s' hpost => ?_) h
  exact fun s'' hrely hinv => himp result s'' (hpost s'' hrely hinv)

/-- A program whose results are as promised from then on gives them as they follow from
that. -/
theorem Safe.weaken {post' : α → σ → Prop} {program : Program ops α}
    (himp : ∀ result s, contract.Inv s →
      (∀ s', contract.Rely s s' → contract.Inv s' → post result s') → post' result s) :
    ∀ {s : σ}, Safe contract allowed post program s → Safe contract allowed post' program s := by
  induction program with
  | done result =>
      intro s h s' hrely hinv
      exact himp result s' hinv fun s'' hlater => h s'' (contract.trans hrely hlater)
  | call op rest ih =>
      intro s h s' hrely hinv hallowed choice answer s'' hexec
      obtain ⟨hstep, hinv', hrest⟩ := h s' hrely hinv hallowed choice answer s'' hexec
      exact ⟨hstep, hinv', ih answer hrest⟩

theorem Safe.done {result : α} {s : σ}
    (h : ∀ s', contract.Rely s s' → contract.Inv s' → post result s') :
    Safe contract allowed post (pure result) s :=
  h

end

/-! ## Systems -/

/-- Programs that run on a shared state, and what other code does to it. -/
structure Interleaving (σ ι α ε : Type) where
  ops : Operations σ
  program : ι → Program ops α
  environment : ε → σ → Option σ

/-- What happens next. -/
inductive Happening (χ ι ε : Type)
  /-- A program is started as a new process. -/
  | start (process : Nat) (input : ι)
  /-- A process performs its next operation. -/
  | call (process : Nat) (choice : χ)
  /-- Other code acts. -/
  | other (event : ε)

namespace Interleaving

variable {σ ι α ε : Type} (system : Interleaving σ ι α ε)

/-- The state, and what is left of each process that was started. -/
structure Pool where
  state : σ
  processes : Nat → Option (ι × Program system.ops α)

/-- A pool in which nothing was started. -/
def idle (s : σ) : system.Pool := ⟨s, fun _ => none⟩

variable {system}

/-- A pool in which a process goes on with a program. -/
def Pool.resume (pool : system.Pool) (s : σ) (process : Nat) (input : ι)
    (program : Program system.ops α) : system.Pool :=
  ⟨s, Function.update pool.processes process (some (input, program))⟩

/-- A program is started. -/
def Pool.start (pool : system.Pool) (process : Nat) (input : ι) : Option system.Pool :=
  match pool.processes process with
  | some _ => none
  | none => some (pool.resume pool.state process input (system.program input))

/-- A process performs its next operation. -/
def Pool.call (pool : system.Pool) (process : Nat) (choice : system.ops.Choice) :
    Option system.Pool :=
  match pool.processes process with
  | some (input, .call op next) =>
      (system.ops.exec op choice pool.state).map fun (answer, s) =>
        pool.resume s process input (next answer)
  | _ => none

/-- The pool after a happening; `none` when it is not one that can happen. -/
def Pool.step (pool : system.Pool) : Happening system.ops.Choice ι ε → Option system.Pool
  | .start process input => pool.start process input
  | .call process choice => pool.call process choice
  | .other event =>
      (system.environment event pool.state).map fun s => { pool with state := s }

/-- The pool after happenings, one after the other. -/
def Pool.run (pool : system.Pool) :
    List (Happening system.ops.Choice ι ε) → Option system.Pool
  | [] => some pool
  | happening :: rest => (pool.step happening).bind fun next => next.run rest

/-- A process has returned. -/
def Pool.Returned (pool : system.Pool) (process : Nat) (input : ι) (result : α) : Prop :=
  pool.processes process = some (input, .done result)

section Allowed

variable (allowed : system.ops.Op → σ → Prop)

/-- The operation that a happening performs is allowed in its state. -/
def Pool.Permits (pool : system.Pool) : Happening system.ops.Choice ι ε → Prop
  | .call process _ =>
      match pool.processes process with
      | some (_, .call op _) => allowed op pool.state
      | _ => True
  | _ => True

/-- Every operation of a run is allowed in its state. -/
def Pool.PermitsAll (pool : system.Pool) : List (Happening system.ops.Choice ι ε) → Prop
  | [] => True
  | happening :: rest =>
      pool.Permits allowed happening ∧
        ∀ next ∈ pool.step happening, next.PermitsAll rest

/-- Where every operation is allowed, every run is. -/
theorem Pool.permitsAll_of_forall {allowed : system.ops.Op → σ → Prop}
    (h : ∀ op s, allowed op s) {happenings : List (Happening system.ops.Choice ι ε)} :
    ∀ pool : system.Pool, pool.PermitsAll allowed happenings := by
  induction happenings with
  | nil => exact fun _ => trivial
  | cons happening rest ih =>
      intro pool
      refine ⟨?_, fun next _ => ih next⟩
      cases happening with
      | start process input => exact trivial
      | other event => exact trivial
      | call process choice =>
          unfold Pool.Permits
          dsimp only
          split
          · exact h _ _
          · exact trivial

variable [∀ op s, Decidable (allowed op s)]

instance (pool : system.Pool) (happening : Happening system.ops.Choice ι ε) :
    Decidable (pool.Permits allowed happening) :=
  match happening with
  | .start _ _ => inferInstanceAs (Decidable True)
  | .other _ => inferInstanceAs (Decidable True)
  | .call process _ =>
      match h : pool.processes process with
      | some (_, .call op _) =>
          decidable_of_iff (allowed op pool.state) (by simp only [Pool.Permits, h])
      | some (_, .done _) => decidable_of_iff True (by simp only [Pool.Permits, h])
      | none => decidable_of_iff True (by simp only [Pool.Permits, h])

instance decidablePermitsAll : ∀ (happenings : List (Happening system.ops.Choice ι ε))
    (pool : system.Pool), Decidable (pool.PermitsAll allowed happenings)
  | [], _ => inferInstanceAs (Decidable True)
  | happening :: rest, pool =>
      have := fun next => decidablePermitsAll rest next
      inferInstanceAs (Decidable
        (pool.Permits allowed happening ∧
          ∀ next ∈ pool.step happening, next.PermitsAll allowed rest))

end Allowed

/-- What a process returned, if it has. -/
def Pool.result (pool : system.Pool) (process : Nat) : Option α :=
  match pool.processes process with
  | some (_, .done result) => some result
  | _ => none

theorem Pool.returned_of_result {pool : system.Pool} {process : Nat} {result : α}
    (h : pool.result process = some result) : ∃ input, pool.Returned process input result := by
  unfold Pool.result at h
  split at h
  · rename_i input result' hprocess
    cases h
    exact ⟨input, hprocess⟩
  · cases h

/-! ## Runs -/

/-- What every operation and every event keeps, a run keeps, whatever the programs are. -/
theorem Pool.run_keeps {inv : σ → Prop}
    (hexec : ∀ op choice s answer s', system.ops.exec op choice s = some (answer, s') →
      inv s → inv s')
    (henvironment : ∀ event s s', system.environment event s = some s' → inv s → inv s')
    {happenings : List (Happening system.ops.Choice ι ε)} :
    ∀ {pool final : system.Pool}, inv pool.state → pool.run happenings = some final →
      inv final.state := by
  induction happenings with
  | nil =>
      intro pool final h hrun
      cases hrun
      exact h
  | cons happening rest ih =>
      intro pool final h hrun
      obtain ⟨next, hstep, hrest⟩ := Option.bind_eq_some_iff.mp hrun
      refine ih ?_ hrest
      cases happening with
      | start process input =>
          change pool.start process input = some next at hstep
          unfold Pool.start at hstep
          split at hstep
          · cases hstep
          · cases hstep
            exact h
      | call process choice =>
          change pool.call process choice = some next at hstep
          unfold Pool.call at hstep
          split at hstep
          · obtain ⟨⟨answer, s⟩, hanswer, hnext⟩ := Option.map_eq_some_iff.mp hstep
            cases hnext
            exact hexec _ choice pool.state answer s hanswer h
          · cases hstep
      | other event =>
          obtain ⟨s, hevent, hnext⟩ := Option.map_eq_some_iff.mp hstep
          cases hnext
          exact henvironment event pool.state s hevent h

variable (contract : Contract σ) (allowed : system.ops.Op → σ → Prop)
  (post : ι → α → σ → Prop)

/-- The state satisfies the invariant, and what is left of each process is safe. -/
structure Pool.Sound (pool : system.Pool) : Prop where
  inv : contract.Inv pool.state
  safe : ∀ process input program, pool.processes process = some (input, program) →
    Safe contract allowed (post input) program pool.state

variable {contract} {allowed} {post}

theorem Pool.sound_idle {s : σ} (h : contract.Inv s) :
    (system.idle s).Sound contract allowed post :=
  ⟨h, fun _ _ _ hnone => by cases hnone⟩

/-- One happening keeps the contract. -/
theorem Pool.Sound.step
    (hprogram : ∀ input s, contract.Inv s →
      Safe contract allowed (post input) (system.program input) s)
    (henvironment : ∀ event s s', system.environment event s = some s' → contract.Inv s →
      contract.Rely s s' ∧ contract.Inv s')
    {pool next : system.Pool} {happening : Happening system.ops.Choice ι ε}
    (h : pool.Sound contract allowed post) (hpermits : pool.Permits allowed happening)
    (hstep : pool.step happening = some next) :
    contract.Rely pool.state next.state ∧ next.Sound contract allowed post := by
  -- the other processes stay safe
  have hresume : ∀ {s : σ} {process : Nat} {input : ι} {program : Program system.ops α},
      contract.Rely pool.state s → contract.Inv s →
        Safe contract allowed (post input) program s →
          (pool.resume s process input program).Sound contract allowed post := by
    intro s process input program hrely hinv hsafe
    refine ⟨hinv, fun other input' program' hother => ?_⟩
    by_cases hsame : other = process
    · subst hsame
      change Function.update _ _ _ _ = _ at hother
      rw [Function.update_self] at hother
      cases hother
      exact hsafe
    · change Function.update _ _ _ _ = _ at hother
      rw [Function.update_of_ne hsame] at hother
      exact (h.safe other input' program' hother).later hrely
  cases happening with
  | start process input =>
      change pool.start process input = some next at hstep
      unfold Pool.start at hstep
      split at hstep
      · cases hstep
      · cases hstep
        have hrefl := contract.refl pool.state
        exact ⟨hrefl, hresume hrefl h.inv (hprogram input pool.state h.inv)⟩
  | call process choice =>
      change pool.call process choice = some next at hstep
      unfold Pool.call at hstep
      split at hstep
      · rename_i input op rest hprocess
        obtain ⟨⟨answer, s⟩, hexec, hnext⟩ := Option.map_eq_some_iff.mp hstep
        cases hnext
        unfold Pool.Permits at hpermits
        dsimp only at hpermits
        rw [hprocess] at hpermits
        have hsafe := h.safe process input _ hprocess
        obtain ⟨hrely, hinv, hrest⟩ := hsafe pool.state (contract.refl _) h.inv hpermits
          choice answer s hexec
        exact ⟨hrely, hresume hrely hinv hrest⟩
      · cases hstep
  | other event =>
      obtain ⟨s, hevent, hnext⟩ := Option.map_eq_some_iff.mp hstep
      cases hnext
      obtain ⟨hrely, hinv⟩ := henvironment event pool.state s hevent h.inv
      exact ⟨hrely, hinv, fun process input program hprocess =>
        (h.safe process input program hprocess).later hrely⟩

/-- A run whose operations are allowed keeps the contract. -/
theorem Pool.Sound.run
    (hprogram : ∀ input s, contract.Inv s →
      Safe contract allowed (post input) (system.program input) s)
    (henvironment : ∀ event s s', system.environment event s = some s' → contract.Inv s →
      contract.Rely s s' ∧ contract.Inv s')
    {happenings : List (Happening system.ops.Choice ι ε)} :
    ∀ {pool final : system.Pool}, pool.Sound contract allowed post →
      pool.PermitsAll allowed happenings → pool.run happenings = some final →
        contract.Rely pool.state final.state ∧ final.Sound contract allowed post := by
  induction happenings with
  | nil =>
      intro pool final h _ hrun
      cases hrun
      exact ⟨contract.refl _, h⟩
  | cons happening rest ih =>
      intro pool final h hpermits hrun
      obtain ⟨next, hstep, hrest⟩ := Option.bind_eq_some_iff.mp hrun
      obtain ⟨hrely, hsound⟩ := h.step hprogram henvironment hpermits.1 hstep
      obtain ⟨hrely', hfinal⟩ := ih hsound (hpermits.2 next hstep) hrest
      exact ⟨contract.trans hrely hrely', hfinal⟩

/-- What a process returned is as promised. -/
theorem Pool.Sound.returned {pool : system.Pool} (h : pool.Sound contract allowed post)
    {process : Nat} {input : ι} {result : α} (hreturned : pool.Returned process input result) :
    post input result pool.state :=
  h.safe process input _ hreturned pool.state (contract.refl _) h.inv

end Interleaving

end PatchPilot.Foundation
