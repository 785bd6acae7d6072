/-
  Foundation/Ownership.lean --- processes that are issued numbers of their own.

  A contract says what every step keeps.  Here an operation may also issue numbers, which are
  never issued again, and the process that got a number owns it: a step of another process
  leaves what belongs to the number alone.  A process may therefore rely on more than what
  every step keeps, and on more the more it owns.
-/
import PatchPilot.Foundation.Interleaving

set_option autoImplicit false

namespace PatchPilot.Foundation

/-! ## Ownership -/

/-- What every step keeps, and how the state may change for the owner of numbers. -/
structure Ownership (σ : Type) where
  Inv : σ → Prop
  /-- The numbers below are issued. -/
  issued : σ → Nat
  Rely : List Nat → σ → σ → Prop
  refl : ∀ owned s, Rely owned s s
  trans : ∀ {owned s s' s''}, Rely owned s s' → Rely owned s' s'' → Rely owned s s''
  fewer : ∀ {owned s s'}, Rely owned s s' → Rely [] s s'
  issued_le : ∀ {s s'}, Rely [] s s' → issued s ≤ issued s'

section

variable {σ : Type} {ops : Operations σ} {α β : Type} (ownership : Ownership σ)
  (allowed : ops.Op → σ → Prop)

/-- A step leaves alone whatever belongs to others. -/
def Ownership.Spares (owned : List Nat) (s s' : σ) : Prop :=
  ∀ others : List Nat, (∀ number ∈ others, number < ownership.issued s ∧ number ∉ owned) →
    ownership.Rely others s s'

/-- Every operation of the program keeps the invariant and leaves alone what belongs to
others, and what it returns is as `post` says from then on.  What an operation issues is
owned from then on. -/
def Owning (post : α → List Nat → σ → Prop) : Program ops α → List Nat → σ → Prop
  | .done result, owned, s =>
      ∀ s', ownership.Rely owned s s' → ownership.Inv s' → post result owned s'
  | .call op next, owned, s =>
      ∀ s', ownership.Rely owned s s' → ownership.Inv s' → allowed op s' →
        ∀ choice answer s'', ops.exec op choice s' = some (answer, s'') →
          ∃ taken : List Nat,
            (∀ number ∈ taken, ownership.issued s' ≤ number ∧ number < ownership.issued s'') ∧
              ownership.Spares owned s' s'' ∧ ownership.Inv s'' ∧
                Owning post (next answer) (taken ++ owned) s''

variable {ownership} {allowed} {post : α → List Nat → σ → Prop}

/-- What the others do does not disturb an owner. -/
theorem Owning.later {program : Program ops α} {owned : List Nat} {s s' : σ}
    (h : Owning ownership allowed post program owned s) (hrely : ownership.Rely owned s s') :
    Owning ownership allowed post program owned s' := by
  cases program with
  | done result => exact fun s'' hlater => h s'' (ownership.trans hrely hlater)
  | call op next => exact fun s'' hlater => h s'' (ownership.trans hrely hlater)

/-- A step that leaves others alone is one that everybody may rely on. -/
theorem Ownership.Spares.rely {owned : List Nat} {s s' : σ}
    (h : ownership.Spares owned s s') : ownership.Rely [] s s' := h [] nofun

/-- It is enough that a program is as it should be in every state that the others may leave. -/
theorem Owning.ofLater {program : Program ops α} {owned : List Nat} {s : σ}
    (h : ∀ s', ownership.Rely owned s s' → ownership.Inv s' →
      Owning ownership allowed post program owned s') :
    Owning ownership allowed post program owned s := by
  cases program with
  | done result => exact fun s' hrely hinv => h s' hrely hinv s' (ownership.refl _ _) hinv
  | call op next => exact fun s' hrely hinv => h s' hrely hinv s' (ownership.refl _ _) hinv

/-- What follows on a result may rely on what the result is promised to be, and on what
every step keeps. -/
theorem Owning.andThen {next : α → Program ops β} {post' : β → List Nat → σ → Prop}
    {program : Program ops α} {owned : List Nat} {s : σ}
    (h : Owning ownership allowed post program owned s)
    (hnext : ∀ result owned' s', ownership.Rely [] s s' → ownership.Inv s' →
      post result owned' s' → Owning ownership allowed post' (next result) owned' s') :
    Owning ownership allowed post' (program >>= next) owned s := by
  have key : ∀ s' owned', ownership.Rely [] s s' →
      Owning ownership allowed post program owned' s' →
        Owning ownership allowed post' (program >>= next) owned' s' := by
    clear h
    induction program with
    | done result =>
        intro s' owned' hrely hpost
        refine Owning.ofLater fun s'' hlater hinv => ?_
        exact hnext result owned' s'' (ownership.trans hrely (ownership.fewer hlater)) hinv
          (hpost s'' hlater hinv)
    | call op rest ih =>
        intro s' owned' hrely howning before hlater hinv hallowed choice answer after hexec
        obtain ⟨taken, hissued, hspares, hinv', hrest⟩ :=
          howning before hlater hinv hallowed choice answer after hexec
        refine ⟨taken, hissued, hspares, hinv', ih answer after (taken ++ owned') ?_ hrest⟩
        exact ownership.trans hrely (ownership.trans (ownership.fewer hlater) hspares.rely)
  exact key s owned (ownership.refl _ _) h

end

/-! ## Runs -/

namespace Interleaving

variable {σ ι α ε : Type} {system : Interleaving σ ι α ε} (ownership : Ownership σ)
  (allowed : system.ops.Op → σ → Prop) (post : ι → α → List Nat → σ → Prop)

/-- Every process owns numbers that were issued, no two own the same, and what is left of
each is as it should be. -/
structure Pool.Owned (pool : system.Pool) (owned : Nat → List Nat) : Prop where
  inv : ownership.Inv pool.state
  issued : ∀ process, ∀ number ∈ owned process, number < ownership.issued pool.state
  apart : ∀ process other number, number ∈ owned process → number ∈ owned other →
    process = other
  unstarted : ∀ process, pool.processes process = none → owned process = []
  owning : ∀ process input program, pool.processes process = some (input, program) →
    Owning ownership allowed (post input) program (owned process) pool.state

variable {ownership} {allowed} {post}

theorem Pool.owned_idle {s : σ} (h : ownership.Inv s) :
    (system.idle s).Owned ownership allowed post fun _ => [] :=
  ⟨h, nofun, nofun, fun _ _ => rfl, nofun⟩

/-- What a process owns is apart from what the others own. -/
theorem Pool.Owned.others {pool : system.Pool} {owned : Nat → List Nat}
    (h : pool.Owned ownership allowed post owned) {process other : Nat} (hne : other ≠ process) :
    ∀ number ∈ owned other,
      number < ownership.issued pool.state ∧ number ∉ owned process :=
  fun number hnumber =>
    ⟨h.issued other number hnumber, fun hown => hne (h.apart other process number hnumber hown)⟩

/-- One happening keeps what is owned apart, and what a process owns it goes on to own. -/
theorem Pool.Owned.step
    (hprogram : ∀ input s, ownership.Inv s →
      Owning ownership allowed (post input) (system.program input) [] s)
    (henvironment : ∀ event s s', system.environment event s = some s' → ownership.Inv s →
      ownership.Spares [] s s' ∧ ownership.Inv s')
    {pool next : system.Pool} {happening : Happening system.ops.Choice ι ε}
    {owned : Nat → List Nat}
    (h : pool.Owned ownership allowed post owned) (hpermits : pool.Permits allowed happening)
    (hstep : pool.step happening = some next) :
    ∃ owned', ownership.Rely [] pool.state next.state ∧
      next.Owned ownership allowed post owned' := by
  cases happening with
  | start process input =>
      change pool.start process input = some next at hstep
      unfold Pool.start at hstep
      split at hstep
      · cases hstep
      · rename_i hnone
        cases hstep
        refine ⟨owned, ownership.refl _ _, ⟨h.inv, h.issued, h.apart, ?_, ?_⟩⟩
        · intro other hother
          by_cases hsame : other = process
          · subst hsame
            exact h.unstarted other hnone
          · change Function.update _ _ _ _ = _ at hother
            rw [Function.update_of_ne hsame] at hother
            exact h.unstarted other hother
        · intro other input' program' hother
          change Function.update _ _ _ _ = _ at hother
          by_cases hsame : other = process
          · subst hsame
            rw [Function.update_self] at hother
            cases hother
            rw [h.unstarted other hnone]
            exact hprogram input pool.state h.inv
          · rw [Function.update_of_ne hsame] at hother
            exact h.owning other input' program' hother
  | call process choice =>
      change pool.call process choice = some next at hstep
      unfold Pool.call at hstep
      split at hstep
      · rename_i input op rest hprocess
        obtain ⟨⟨answer, s⟩, hexec, hnext⟩ := Option.map_eq_some_iff.mp hstep
        cases hnext
        unfold Pool.Permits at hpermits
        dsimp only at hpermits
        rw [hprocess] at hpermits
        obtain ⟨taken, hissued, hspares, hinv, hrest⟩ :=
          h.owning process input _ hprocess pool.state (ownership.refl _ _) h.inv hpermits
            choice answer s hexec
        have hle := ownership.issued_le hspares.rely
        have hold : ∀ other number, number ∈ owned other → number ∉ taken := by
          intro other number hnumber htaken
          have hlt := h.issued other number hnumber
          have hge := (hissued number htaken).1
          omega
        refine ⟨Function.update owned process (taken ++ owned process), hspares.rely,
          ⟨hinv, ?_, ?_, ?_, ?_⟩⟩
        · intro other number hnumber
          by_cases hsame : other = process
          · subst hsame
            rw [Function.update_self] at hnumber
            rcases List.mem_append.mp hnumber with hnew | hown
            · exact (hissued number hnew).2
            · exact Nat.lt_of_lt_of_le (h.issued other number hown) hle
          · rw [Function.update_of_ne hsame] at hnumber
            exact Nat.lt_of_lt_of_le (h.issued other number hnumber) hle
        · intro left right number hleft hright
          by_cases hl : left = process <;> by_cases hr : right = process
          · rw [hl, hr]
          · subst hl
            rw [Function.update_self] at hleft
            rw [Function.update_of_ne hr] at hright
            rcases List.mem_append.mp hleft with hnew | hown
            · exact absurd hnew (hold right number hright)
            · exact h.apart left right number hown hright
          · subst hr
            rw [Function.update_of_ne hl] at hleft
            rw [Function.update_self] at hright
            rcases List.mem_append.mp hright with hnew | hown
            · exact absurd hnew (hold left number hleft)
            · exact h.apart left right number hleft hown
          · rw [Function.update_of_ne hl] at hleft
            rw [Function.update_of_ne hr] at hright
            exact h.apart left right number hleft hright
        · intro other hother
          change Function.update _ _ _ _ = _ at hother
          by_cases hsame : other = process
          · subst hsame
            rw [Function.update_self] at hother
            cases hother
          · rw [Function.update_of_ne hsame] at hother ⊢
            exact h.unstarted other hother
        · intro other input' program' hother
          change Function.update _ _ _ _ = _ at hother
          by_cases hsame : other = process
          · subst hsame
            rw [Function.update_self] at hother ⊢
            cases hother
            exact hrest
          · rw [Function.update_of_ne hsame] at hother ⊢
            exact (h.owning other input' program' hother).later
              (hspares _ (h.others hsame))
      · cases hstep
  | other event =>
      obtain ⟨s, hevent, hnext⟩ := Option.map_eq_some_iff.mp hstep
      cases hnext
      obtain ⟨hspares, hinv⟩ := henvironment event pool.state s hevent h.inv
      have hle := ownership.issued_le hspares.rely
      refine ⟨owned, hspares.rely, ⟨hinv, fun process number hnumber =>
        Nat.lt_of_lt_of_le (h.issued process number hnumber) hle, h.apart, h.unstarted, ?_⟩⟩
      intro process input program hprocess
      refine (h.owning process input program hprocess).later (hspares _ fun number hnumber => ?_)
      exact ⟨h.issued process number hnumber, List.not_mem_nil⟩

/-- A run whose operations are allowed keeps what is owned apart. -/
theorem Pool.Owned.run
    (hprogram : ∀ input s, ownership.Inv s →
      Owning ownership allowed (post input) (system.program input) [] s)
    (henvironment : ∀ event s s', system.environment event s = some s' → ownership.Inv s →
      ownership.Spares [] s s' ∧ ownership.Inv s')
    {happenings : List (Happening system.ops.Choice ι ε)} :
    ∀ {pool final : system.Pool} {owned : Nat → List Nat},
      pool.Owned ownership allowed post owned → pool.PermitsAll allowed happenings →
        pool.run happenings = some final →
          ∃ owned', ownership.Rely [] pool.state final.state ∧
            final.Owned ownership allowed post owned' := by
  induction happenings with
  | nil =>
      intro pool final owned h _ hrun
      cases hrun
      exact ⟨owned, ownership.refl _ _, h⟩
  | cons happening rest ih =>
      intro pool final owned h hpermits hrun
      obtain ⟨next, hstep, hrest⟩ := Option.bind_eq_some_iff.mp hrun
      obtain ⟨owned', hrely, hnext⟩ := h.step hprogram henvironment hpermits.1 hstep
      obtain ⟨owned'', hrely', hfinal⟩ := ih hnext (hpermits.2 next hstep) hrest
      exact ⟨owned'', ownership.trans hrely hrely', hfinal⟩

end Interleaving

/-! ## Owners of keys -/

/-- How the state may change for the owner of a key. -/
structure Territory (σ κ : Type) where
  Rely : κ → σ → σ → Prop
  refl : ∀ key s, Rely key s s
  trans : ∀ {key s s' s''}, Rely key s s' → Rely key s' s'' → Rely key s s''

section

variable {σ κ α β : Type} {ops : Operations σ} (territory : Territory σ κ)

/-- A step of the owner of a key leaves alone what belongs to other keys. -/
def Territory.Spares (key : κ) (s s' : σ) : Prop :=
  ∀ other, other ≠ key → territory.Rely other s s'

/-- Every operation of the program leaves alone what belongs to other keys than its own, and
what it returns is as `post` says from then on, whatever the owners of other keys do. -/
def Holding (key : κ) (post : α → σ → Prop) : Program ops α → σ → Prop
  | .done result, s => ∀ s', territory.Rely key s s' → post result s'
  | .call op next, s =>
      ∀ s', territory.Rely key s s' →
        ∀ choice answer s'', ops.exec op choice s' = some (answer, s'') →
          territory.Spares key s' s'' ∧ Holding key post (next answer) s''

variable {territory} {key : κ} {post : α → σ → Prop}

/-- What the owners of other keys do does not disturb the owner of a key. -/
theorem Holding.later {program : Program ops α} {s s' : σ}
    (h : Holding territory key post program s) (hrely : territory.Rely key s s') :
    Holding territory key post program s' := by
  cases program with
  | done result => exact fun s'' hlater => h s'' (territory.trans hrely hlater)
  | call op next => exact fun s'' hlater => h s'' (territory.trans hrely hlater)

/-- What follows on a result may rely on what the result is promised to be. -/
theorem Holding.andThen {next : α → Program ops β} {post' : β → σ → Prop}
    {program : Program ops α}
    (hnext : ∀ result s, post result s → Holding territory key post' (next result) s) :
    ∀ {s : σ}, Holding territory key post program s →
      Holding territory key post' (program >>= next) s := by
  induction program with
  | done result =>
      intro s h
      exact hnext result s (h s (territory.refl key s))
  | call op rest ih =>
      intro s h s' hrely choice answer s'' hexec
      obtain ⟨hspares, hrest⟩ := h s' hrely choice answer s'' hexec
      exact ⟨hspares, ih answer hrest⟩

end

end PatchPilot.Foundation
