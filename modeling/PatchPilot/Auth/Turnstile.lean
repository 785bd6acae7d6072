import PatchPilot.Foundation.Ownership

set_option autoImplicit false

/-!
# Auth: the session turnstile (`read-session.ts`)

Calls with the same key take turns.  A call waits for the tail that the map holds for its key,
puts its own tail there, does its work, releases and removes its tail from the map if it is
still the one that the map holds.  A promise that is settled runs its reactions later, in any
order with what other calls do; so a step of one call is one turn of the event loop.
-/

namespace PatchPilot.Auth

open PatchPilot.Foundation

/-! ## Calls -/

/-- What the calls of a turnstile are about: the key of a call and its work.  The result of
a work says whether its promise is fulfilled or rejected. -/
structure Works (σ ι κ α : Type) where
  ops : Operations σ
  key : ι → κ
  work : ι → Program ops α

/-- Where a call of `run` is. -/
inductive Stage {σ : Type} (ops : Operations σ) (α : Type)
  /-- It awaits `previous`. -/
  | waiting
  /-- It awaits its work, of which this is left. -/
  | working (work : Program ops α)
  /-- It has released, and its promise is settled. -/
  | settled (result : α)

namespace Stage

variable {σ α : Type} {ops : Operations σ}

/-- The work was called. -/
def Started : Stage ops α → Prop
  | .waiting => False
  | _ => True

/-- `current` is resolved. -/
def Settled : Stage ops α → Prop
  | .settled _ => True
  | _ => False

/-- The work is called and has not come to an end. -/
def Working : Stage ops α → Prop
  | .working _ => True
  | _ => False

theorem Settled.started {stage : Stage ops α} (h : stage.Settled) : stage.Started := by
  cases stage with
  | waiting => exact h
  | working work => exact trivial
  | settled result => exact trivial

theorem Working.started {stage : Stage ops α} (h : stage.Working) : stage.Started := by
  cases stage with
  | waiting => exact h
  | working work => exact trivial
  | settled result => exact trivial

theorem Working.not_settled {stage : Stage ops α} (h : stage.Working) : ¬ stage.Settled := by
  cases stage with
  | waiting => exact False.elim h
  | working work => exact id
  | settled result => exact False.elim h

end Stage

/-- A call of `run`, with its promises. -/
structure Call {σ : Type} (ops : Operations σ) (ι α : Type) where
  input : ι
  /-- The call whose tail is `previous`; none is `Promise.resolve()`. -/
  previous : Option Nat
  stage : Stage ops α
  /-- `tail` is settled. -/
  tailSettled : Bool

/-- The shared state, the calls in the order of their arrival and the map `tails`. -/
structure Turnstile {σ ι κ α : Type} (works : Works σ ι κ α) where
  state : σ
  calls : List (Call works.ops ι α)
  tails : κ → Option Nat

/-- What happens next. -/
inductive Turn (χ ι : Type)
  /-- `run` is called. -/
  | call (input : ι)
  /-- `previous` is settled, and the work is called. -/
  | start (i : Nat)
  /-- The work performs its next operation. -/
  | operate (i : Nat) (choice : χ)
  /-- The promise of the work is settled. -/
  | settle (i : Nat)
  /-- `previous` and `current` are settled, and so is `tail`. -/
  | follow (i : Nat)

namespace Turnstile

variable {σ ι κ α : Type} {works : Works σ ι κ α}

/-- A turnstile that nobody called. -/
def idle (works : Works σ ι κ α) (s : σ) : Turnstile works := ⟨s, [], fun _ => none⟩

/-- The promise `previous` of a call is settled. -/
def previousSettled (t : Turnstile works) (previous : Option Nat) : Bool :=
  previous.all fun j => t.calls[j]?.any (·.tailSettled)

/-- The call that arrived as number `i`. -/
def CallAt (t : Turnstile works) (i : Nat) (call : Call works.ops ι α) : Prop :=
  t.calls[i]? = some call

theorem CallAt.unique {t : Turnstile works} {i : Nat} {call call' : Call works.ops ι α}
    (h : t.CallAt i call) (h' : t.CallAt i call') : call = call' :=
  Option.some.inj (h.symm.trans h')

theorem CallAt.lt {t : Turnstile works} {i : Nat} {call : Call works.ops ι α}
    (h : t.CallAt i call) : i < t.calls.length := (List.getElem?_eq_some_iff.mp h).1

section

variable [DecidableEq κ]

/-- The first turn of a call, up to where it awaits `previous`. -/
def run (t : Turnstile works) (input : ι) : Turnstile works where
  state := t.state
  calls := t.calls ++ [⟨input, t.tails (works.key input), .waiting, false⟩]
  tails := Function.update t.tails (works.key input) (some t.calls.length)

/-- The `finally` block of a call. -/
def release (t : Turnstile works) (i : Nat) (call : Call works.ops ι α) (result : α) :
    Turnstile works where
  state := t.state
  calls := t.calls.set i { call with stage := .settled result }
  tails :=
    if t.tails (works.key call.input) = some i then
      Function.update t.tails (works.key call.input) none
    else t.tails

/-- The turnstile after a turn; `none` when it is not one that can happen. -/
def step (t : Turnstile works) : Turn works.ops.Choice ι → Option (Turnstile works)
  | .call input => some (t.run input)
  | .start i =>
      match t.calls[i]? with
      | some ⟨input, previous, .waiting, tailSettled⟩ =>
          if t.previousSettled previous then
            some { t with
              calls := t.calls.set i ⟨input, previous, .working (works.work input), tailSettled⟩ }
          else none
      | _ => none
  | .operate i choice =>
      match t.calls[i]? with
      | some ⟨input, previous, .working (.call op next), tailSettled⟩ =>
          (works.ops.exec op choice t.state).map fun (answer, s) =>
            { t with
              state := s
              calls := t.calls.set i ⟨input, previous, .working (next answer), tailSettled⟩ }
      | _ => none
  | .settle i =>
      match t.calls[i]? with
      | some ⟨input, previous, .working (.done result), tailSettled⟩ =>
          some (t.release i ⟨input, previous, .working (.done result), tailSettled⟩ result)
      | _ => none
  | .follow i =>
      match t.calls[i]? with
      | some ⟨input, previous, .settled result, false⟩ =>
          if t.previousSettled previous then
            some { t with calls := t.calls.set i ⟨input, previous, .settled result, true⟩ }
          else none
      | _ => none

/-- The turnstile after turns, one after the other. -/
def turns (t : Turnstile works) : List (Turn works.ops.Choice ι) → Option (Turnstile works)
  | [] => some t
  | turn :: rest => (t.step turn).bind fun next => next.turns rest

/-! ## What a turn does -/

/-- The turns that can happen, and what they leave. -/
inductive Takes (t : Turnstile works) : Turn works.ops.Choice ι → Turnstile works → Prop
  | call (input : ι) : Takes t (.call input) (t.run input)
  | start {i : Nat} {call : Call works.ops ι α} (hcall : t.CallAt i call)
      (hstage : call.stage = .waiting) (hprevious : t.previousSettled call.previous = true) :
      Takes t (.start i)
        { t with calls := t.calls.set i { call with stage := .working (works.work call.input) } }
  | operate {i : Nat} {call : Call works.ops ι α} {op : works.ops.Op}
      {next : works.ops.Answer op → Program works.ops α} {choice : works.ops.Choice}
      {answer : works.ops.Answer op} {s : σ} (hcall : t.CallAt i call)
      (hstage : call.stage = .working (.call op next))
      (hexec : works.ops.exec op choice t.state = some (answer, s)) :
      Takes t (.operate i choice)
        { t with
          state := s
          calls := t.calls.set i { call with stage := .working (next answer) } }
  | settle {i : Nat} {call : Call works.ops ι α} {result : α} (hcall : t.CallAt i call)
      (hstage : call.stage = .working (.done result)) :
      Takes t (.settle i) (t.release i call result)
  | follow {i : Nat} {call : Call works.ops ι α} {result : α} (hcall : t.CallAt i call)
      (hstage : call.stage = .settled result) (htail : call.tailSettled = false)
      (hprevious : t.previousSettled call.previous = true) :
      Takes t (.follow i)
        { t with calls := t.calls.set i { call with tailSettled := true } }

theorem takes_of_step {t t' : Turnstile works} {turn : Turn works.ops.Choice ι}
    (h : t.step turn = some t') : Takes t turn t' := by
  cases turn with
  | call input =>
      cases h
      exact .call input
  | start i =>
      unfold step at h
      dsimp only at h
      split at h
      · rename_i input previous tailSettled hcall
        split at h
        · rename_i hprevious
          cases h
          exact .start hcall rfl hprevious
        · cases h
      · cases h
  | operate i choice =>
      unfold step at h
      dsimp only at h
      split at h
      · rename_i input previous op next tailSettled hcall
        obtain ⟨⟨answer, s⟩, hexec, rfl⟩ := Option.map_eq_some_iff.mp h
        exact .operate hcall rfl hexec
      · cases h
  | settle i =>
      unfold step at h
      dsimp only at h
      split at h
      · rename_i input previous result tailSettled hcall
        cases h
        exact .settle hcall rfl
      · cases h
  | follow i =>
      unfold step at h
      dsimp only at h
      split at h
      · rename_i input previous result hcall
        split at h
        · rename_i hprevious
          cases h
          exact .follow hcall rfl rfl hprevious
        · cases h
      · cases h

/-- A turn of an induction over runs. -/
theorem turns_keeps {inv : Turnstile works → Prop}
    (hstep : ∀ t t' turn, inv t → Takes t turn t' → inv t')
    {turns : List (Turn works.ops.Choice ι)} :
    ∀ {t t' : Turnstile works}, inv t → t.turns turns = some t' → inv t' := by
  induction turns with
  | nil =>
      intro t t' h hrun
      cases hrun
      exact h
  | cons turn rest ih =>
      intro t t' h hrun
      obtain ⟨next, hnext, hrest⟩ := Option.bind_eq_some_iff.mp hrun
      exact ih (hstep t next turn h (takes_of_step hnext)) hrest

end

/-! ## Who waits for whom -/

/-- Every earlier call with the key has released. -/
def EarlierSettled (t : Turnstile works) (i : Nat) (k : κ) : Prop :=
  ∀ m other, m < i → t.CallAt m other → works.key other.input = k → other.stage.Settled

/-- A call waits for the call with its key that came last before it, unless all that came before
it have released.  The map holds the call that came last, while it has not released. -/
structure Linked (t : Turnstile works) : Prop where
  before : ∀ i call j, t.CallAt i call → call.previous = some j →
    j < i ∧ (∃ other, t.CallAt j other ∧ works.key other.input = works.key call.input) ∧
      ∀ m other, j < m → m < i → t.CallAt m other →
        works.key other.input ≠ works.key call.input
  first : ∀ i call, t.CallAt i call → call.previous = none →
    t.EarlierSettled i (works.key call.input)
  followed : ∀ i call, t.CallAt i call → call.tailSettled = true → call.stage.Settled
  ordered : ∀ i call, t.CallAt i call → call.stage.Started →
    t.EarlierSettled i (works.key call.input)
  held : ∀ k i, t.tails k = some i →
    (∃ call, t.CallAt i call ∧ works.key call.input = k ∧ ¬ call.stage.Settled) ∧
      ∀ m other, i < m → t.CallAt m other → works.key other.input ≠ k
  dropped : ∀ k, t.tails k = none → ∀ i call, t.CallAt i call → works.key call.input = k →
    call.stage.Settled

theorem linked_idle (s : σ) : (idle works s).Linked where
  before i call j h := by cases h
  first i call h := by cases h
  followed i call h := by cases h
  ordered i call h := by cases h
  held k i h := by cases h
  dropped k _ i call h := by cases h

/-- Where the promise `previous` is settled, every earlier call with the key has released. -/
theorem Linked.earlierSettled {t : Turnstile works} (h : t.Linked) {i : Nat}
    {call : Call works.ops ι α} (hcall : t.CallAt i call)
    (hprevious : t.previousSettled call.previous = true) :
    t.EarlierSettled i (works.key call.input) := by
  cases hnone : call.previous with
  | none => exact h.first i call hcall hnone
  | some j =>
      obtain ⟨hlt, ⟨other, hother, hkey⟩, hbetween⟩ := h.before i call j hcall hnone
      have htail : other.tailSettled = true := by
        rw [hnone, previousSettled, Option.all_some, hother, Option.any_some] at hprevious
        exact hprevious
      have hsettled := h.followed j other hother htail
      intro m earlier hm hearlier hsame
      rcases Nat.lt_trichotomy m j with hbefore | rfl | hafter
      · exact h.ordered j other hother hsettled.started m earlier hbefore hearlier
          (hsame.trans hkey.symm)
      · cases hother.symm.trans hearlier
        exact hsettled
      · exact absurd hsame (hbetween m earlier hafter hm hearlier)

/-- The calls after one of them was changed. -/
theorem callAt_set {t t' : Turnstile works} {i m : Nat} {call changed other : Call works.ops ι α}
    (hcall : t.CallAt i call) (hcalls : t'.calls = t.calls.set i changed) :
    t'.CallAt m other ↔ m = i ∧ other = changed ∨ m ≠ i ∧ t.CallAt m other := by
  unfold CallAt
  rw [hcalls]
  by_cases hsame : m = i
  · subst hsame
    rw [List.getElem?_set_self (List.getElem?_eq_some_iff.mp hcall).1]
    constructor
    · intro h
      exact .inl ⟨rfl, (Option.some.inj h).symm⟩
    · rintro (⟨-, rfl⟩ | ⟨hne, -⟩)
      · rfl
      · exact absurd rfl hne
  · rw [List.getElem?_set_ne (Ne.symm hsame)]
    constructor
    · exact fun h => .inr ⟨hsame, h⟩
    · rintro (⟨heq, -⟩ | ⟨-, h⟩)
      · exact absurd heq hsame
      · exact h

/-- A turn of a call: its input and `previous` stay, and it does not go back. -/
theorem Linked.change {t t' : Turnstile works} (h : t.Linked) {i : Nat}
    {call changed : Call works.ops ι α} (hcall : t.CallAt i call)
    (hcalls : t'.calls = t.calls.set i changed) (hinput : changed.input = call.input)
    (hprevious : changed.previous = call.previous)
    (hkeeps : call.stage.Settled → changed.stage.Settled)
    (hfollowed : changed.tailSettled = true → changed.stage.Settled)
    (hordered : changed.stage.Started → t.EarlierSettled i (works.key call.input))
    (hheld : ∀ k j, t'.tails k = some j → t.tails k = some j ∧
      (j = i → ¬ changed.stage.Settled))
    (hdropped : ∀ k, t'.tails k = none → t.tails k = none ∨
      t.tails k = some i ∧ works.key call.input = k ∧ changed.stage.Settled ∧
        t.EarlierSettled i k) : t'.Linked := by
  have hiff := fun {m other} => @callAt_set _ _ _ _ _ t t' i m call changed other hcall hcalls
  have hold : ∀ {m other}, t'.CallAt m other → ∃ was, t.CallAt m was ∧
      was.input = other.input ∧ was.previous = other.previous ∧
        (was.stage.Settled → other.stage.Settled) := by
    intro m other hother
    rcases hiff.mp hother with ⟨rfl, rfl⟩ | ⟨-, hwas⟩
    · exact ⟨call, hcall, hinput.symm, hprevious.symm, hkeeps⟩
    · exact ⟨other, hwas, rfl, rfl, id⟩
  have hsettled : ∀ {m k}, t.EarlierSettled m k → t'.EarlierSettled m k := by
    intro m k hearlier n other hlt hother hkey
    obtain ⟨was, hwas, hwasInput, -, hwasSettled⟩ := hold hother
    exact hwasSettled (hearlier n was hlt hwas (hwasInput.symm ▸ hkey))
  have hnew : ∀ {m other}, t.CallAt m other → ∃ now, t'.CallAt m now ∧
      now.input = other.input := by
    intro m other hother
    by_cases hsame : m = i
    · subst hsame
      cases hcall.unique hother
      exact ⟨changed, hiff.mpr (.inl ⟨rfl, rfl⟩), hinput⟩
    · exact ⟨other, hiff.mpr (.inr ⟨hsame, hother⟩), rfl⟩
  refine ⟨?_, ?_, ?_, ?_, ?_, ?_⟩
  · intro m other j hother hwaits
    obtain ⟨was, hwas, hwasInput, hwasPrevious, -⟩ := hold hother
    obtain ⟨hlt, ⟨earlier, hearlier, hkey⟩, hbetween⟩ :=
      h.before m was j hwas (hwasPrevious.trans hwaits)
    obtain ⟨now, hnow, hnowInput⟩ := hnew hearlier
    refine ⟨hlt, ⟨now, hnow, ?_⟩, fun n between hjn hnm hbetweenAt => ?_⟩
    · rw [hnowInput, ← hwasInput]
      exact hkey
    · obtain ⟨before, hbefore, hbeforeInput, -⟩ := hold hbetweenAt
      rw [← hbeforeInput, ← hwasInput]
      exact hbetween n before hjn hnm hbefore
  · intro m other hother hnone
    obtain ⟨was, hwas, hwasInput, hwasPrevious, -⟩ := hold hother
    rw [← hwasInput]
    exact hsettled (h.first m was hwas (hwasPrevious.trans hnone))
  · intro m other hother htail
    rcases hiff.mp hother with ⟨rfl, rfl⟩ | ⟨-, hwas⟩
    · exact hfollowed htail
    · exact h.followed m other hwas htail
  · intro m other hother hstarted
    rcases hiff.mp hother with ⟨rfl, rfl⟩ | ⟨-, hwas⟩
    · rw [hinput]
      exact hsettled (hordered hstarted)
    · exact hsettled (h.ordered m other hwas hstarted)
  · intro k j hj
    obtain ⟨hwas, hopen⟩ := hheld k j hj
    obtain ⟨⟨other, hother, hkey, hnot⟩, hlast⟩ := h.held k j hwas
    refine ⟨?_, fun m later hlt hlater => ?_⟩
    · by_cases hsame : j = i
      · subst hsame
        cases hcall.unique hother
        exact ⟨changed, hiff.mpr (.inl ⟨rfl, rfl⟩), hinput ▸ hkey, hopen rfl⟩
      · exact ⟨other, hiff.mpr (.inr ⟨hsame, hother⟩), hkey, hnot⟩
    · obtain ⟨was, hwasAt, hwasInput, -⟩ := hold hlater
      exact hwasInput ▸ hlast m was hlt hwasAt
  · intro k hk m other hother hkey
    rcases hdropped k hk with hnone | ⟨hmine, hown, hdone, hearlier⟩
    · obtain ⟨was, hwas, hwasInput, -, hwasSettled⟩ := hold hother
      exact hwasSettled (h.dropped k hnone m was hwas (hwasInput ▸ hkey))
    · rcases hiff.mp hother with ⟨rfl, rfl⟩ | ⟨hne, hwas⟩
      · exact hdone
      · rcases Nat.lt_or_gt_of_ne hne with hlt | hgt
        · exact hearlier m other hlt hwas hkey
        · exact absurd hkey ((h.held k i hmine).2 m other hgt hwas)

section

variable [DecidableEq κ]

/-- The calls after a call came. -/
theorem callAt_run {t : Turnstile works} {input : ι} {m : Nat} {other : Call works.ops ι α} :
    (t.run input).CallAt m other ↔ t.CallAt m other ∨
      m = t.calls.length ∧ other = ⟨input, t.tails (works.key input), .waiting, false⟩ := by
  unfold CallAt run
  rcases Nat.lt_trichotomy m t.calls.length with hlt | rfl | hgt
  · rw [List.getElem?_append_left hlt]
    constructor
    · exact .inl
    · rintro (h | ⟨rfl, -⟩)
      · exact h
      · exact absurd hlt (Nat.lt_irrefl _)
  · rw [List.getElem?_concat_length]
    constructor
    · exact fun h => .inr ⟨rfl, (Option.some.inj h).symm⟩
    · rintro (h | ⟨-, rfl⟩)
      · exact absurd (List.getElem?_eq_some_iff.mp h).1 (Nat.lt_irrefl _)
      · rfl
  · rw [List.getElem?_eq_none (by rw [List.length_append]; exact hgt)]
    constructor
    · exact fun h => nomatch h
    · rintro (h | ⟨rfl, -⟩)
      · exact absurd (List.getElem?_eq_some_iff.mp h).1 (Nat.lt_asymm hgt)
      · exact absurd hgt (Nat.lt_irrefl _)

/-- A call that comes waits for the last one before it, or for none. -/
theorem Linked.run {t : Turnstile works} (h : t.Linked) (input : ι) : (t.run input).Linked := by
  have hearlier : ∀ {m k}, m ≤ t.calls.length → t.EarlierSettled m k →
      (t.run input).EarlierSettled m k := by
    intro m k hm hsettled n other hlt hother hkey
    rcases callAt_run.mp hother with hwas | ⟨rfl, -⟩
    · exact hsettled n other hlt hwas hkey
    · exact absurd hlt (Nat.not_lt_of_le hm)
  refine ⟨?_, ?_, ?_, ?_, ?_, ?_⟩
  · intro i call j hcall hprevious
    rcases callAt_run.mp hcall with hwas | ⟨rfl, rfl⟩
    · obtain ⟨hlt, ⟨other, hother, hkey⟩, hbetween⟩ := h.before i call j hwas hprevious
      refine ⟨hlt, ⟨other, callAt_run.mpr (.inl hother), hkey⟩, fun m later hjm hmi hlater => ?_⟩
      rcases callAt_run.mp hlater with hlaterWas | ⟨rfl, -⟩
      · exact hbetween m later hjm hmi hlaterWas
      · exact absurd hwas.lt (Nat.not_lt_of_lt hmi)
    · obtain ⟨⟨other, hother, hkey, -⟩, hlast⟩ := h.held _ j hprevious
      refine ⟨hother.lt, ⟨other, callAt_run.mpr (.inl hother), hkey⟩,
        fun m later hjm hmi hlater => ?_⟩
      rcases callAt_run.mp hlater with hlaterWas | ⟨rfl, -⟩
      · exact hlast m later hjm hlaterWas
      · exact absurd hmi (Nat.lt_irrefl _)
  · intro i call hcall hnone
    rcases callAt_run.mp hcall with hwas | ⟨rfl, rfl⟩
    · exact hearlier (Nat.le_of_lt hwas.lt) (h.first i call hwas hnone)
    · refine hearlier (Nat.le_refl _) fun m other _ hother hkey => ?_
      exact h.dropped _ hnone m other hother hkey
  · intro i call hcall htail
    rcases callAt_run.mp hcall with hwas | ⟨rfl, rfl⟩
    · exact h.followed i call hwas htail
    · cases htail
  · intro i call hcall hstarted
    rcases callAt_run.mp hcall with hwas | ⟨rfl, rfl⟩
    · exact hearlier (Nat.le_of_lt hwas.lt) (h.ordered i call hwas hstarted)
    · exact False.elim hstarted
  · intro k i hk
    by_cases hsame : k = works.key input
    · subst hsame
      cases (Function.update_self _ _ _).symm.trans hk
      refine ⟨⟨_, callAt_run.mpr (.inr ⟨rfl, rfl⟩), rfl, id⟩, fun m other hlt hother => ?_⟩
      rcases callAt_run.mp hother with hwas | ⟨rfl, -⟩
      · exact absurd hwas.lt (Nat.not_lt_of_lt hlt)
      · exact absurd hlt (Nat.lt_irrefl _)
    · have hwas : t.tails k = some i := (Function.update_of_ne hsame _ _).symm.trans hk
      obtain ⟨⟨call, hcall, hkey, hnot⟩, hlast⟩ := h.held k i hwas
      refine ⟨⟨call, callAt_run.mpr (.inl hcall), hkey, hnot⟩, fun m other hlt hother => ?_⟩
      rcases callAt_run.mp hother with hotherWas | ⟨-, rfl⟩
      · exact hlast m other hlt hotherWas
      · exact Ne.symm hsame
  · intro k hk i call hcall hkey
    by_cases hsame : k = works.key input
    · subst hsame
      cases (Function.update_self _ _ _).symm.trans hk
    · have hwas : t.tails k = none := (Function.update_of_ne hsame _ _).symm.trans hk
      rcases callAt_run.mp hcall with hcallWas | ⟨-, rfl⟩
      · exact h.dropped k hwas i call hcallWas hkey
      · exact absurd hkey.symm hsame

/-- A turn keeps who waits for whom. -/
theorem Linked.step {t t' : Turnstile works} {turn : Turn works.ops.Choice ι} (h : t.Linked)
    (htakes : Takes t turn t') : t'.Linked := by
  cases htakes with
  | call input => exact h.run input
  | @start i call hcall hstage hprevious =>
      have hnot : ¬ call.stage.Settled := by
        rw [hstage]
        exact id
      refine h.change hcall rfl rfl rfl (fun hsettled => absurd hsettled hnot)
        (fun htail => absurd (h.followed i call hcall htail) hnot)
        (fun _ => h.earlierSettled hcall hprevious) (fun k j hj => ⟨hj, fun _ => id⟩)
        fun k hk => .inl hk
  | @operate i call op next choice answer s hcall hstage hexec =>
      have hnot : ¬ call.stage.Settled := by
        rw [hstage]
        exact id
      have hstarted : call.stage.Started := by
        rw [hstage]
        exact trivial
      refine h.change hcall rfl rfl rfl (fun hsettled => absurd hsettled hnot)
        (fun htail => absurd (h.followed i call hcall htail) hnot)
        (fun _ => h.ordered i call hcall hstarted) (fun k j hj => ⟨hj, fun _ => id⟩)
        fun k hk => .inl hk
  | @settle i call result hcall hstage =>
      have hstarted : call.stage.Started := by
        rw [hstage]
        exact trivial
      have hearlier := h.ordered i call hcall hstarted
      refine h.change hcall rfl rfl rfl (fun _ => trivial) (fun _ => trivial) (fun _ => hearlier)
        ?_ ?_
      · intro k j hj
        unfold release at hj
        dsimp only at hj
        split at hj
        · rename_i hmine
          by_cases hsame : k = works.key call.input
          · subst hsame
            cases (Function.update_self _ _ _).symm.trans hj
          · have hwas : t.tails k = some j := (Function.update_of_ne hsame _ _).symm.trans hj
            refine ⟨hwas, fun heq => ?_⟩
            subst heq
            obtain ⟨⟨other, hother, hkey, -⟩, -⟩ := h.held k j hwas
            cases hcall.unique hother
            exact absurd hkey.symm hsame
        · rename_i hother
          refine ⟨hj, fun heq => ?_⟩
          subst heq
          obtain ⟨⟨mine, hmine, hkey, -⟩, -⟩ := h.held k j hj
          cases hcall.unique hmine
          exact absurd (hkey ▸ hj) hother
      · intro k hk
        unfold release at hk
        dsimp only at hk
        split at hk
        · rename_i hmine
          by_cases hsame : k = works.key call.input
          · subst hsame
            exact .inr ⟨hmine, rfl, trivial, hearlier⟩
          · exact .inl ((Function.update_of_ne hsame _ _).symm.trans hk)
        · exact .inl hk
  | @follow i call result hcall hstage htail hprevious =>
      have hsettled : call.stage.Settled := by
        rw [hstage]
        exact trivial
      refine h.change hcall rfl rfl rfl id (fun _ => hsettled)
        (fun _ => h.ordered i call hcall hsettled.started) (fun k j hj => ⟨hj, fun heq => ?_⟩)
        fun k hk => .inl hk
      subst heq
      obtain ⟨⟨other, hother, -, hnot⟩, -⟩ := h.held k j hj
      cases hcall.unique hother
      exact hnot

theorem Linked.turns {t t' : Turnstile works} {turns : List (Turn works.ops.Choice ι)}
    (h : t.Linked) (hrun : t.turns turns = some t') : t'.Linked :=
  turns_keeps (fun _ _ _ => Linked.step) h hrun

end

/-! ## Exclusion, order and clean-up -/

/-- When a call has started, every earlier call with its key has released. -/
theorem Linked.settled_of_started {t : Turnstile works} (h : t.Linked) {i j : Nat}
    {call other : Call works.ops ι α} (hcall : t.CallAt i call) (hother : t.CallAt j other)
    (hkey : works.key call.input = works.key other.input) (hlt : i < j)
    (hstarted : other.stage.Started) : call.stage.Settled :=
  h.ordered j other hother hstarted i call hlt hcall hkey

/-- Two works with one key do not run at once. -/
theorem Linked.exclusive {t : Turnstile works} (h : t.Linked) {i j : Nat}
    {call other : Call works.ops ι α} (hcall : t.CallAt i call) (hother : t.CallAt j other)
    (hkey : works.key call.input = works.key other.input) (hworking : call.stage.Working)
    (hworking' : other.stage.Working) : i = j := by
  rcases Nat.lt_trichotomy i j with hlt | heq | hgt
  · exact absurd (h.settled_of_started hcall hother hkey hlt hworking'.started)
      hworking.not_settled
  · exact heq
  · exact absurd (h.settled_of_started hother hcall hkey.symm hgt hworking.started)
      hworking'.not_settled

/-- The map holds nothing for a key whose calls have all released. -/
theorem Linked.removed {t : Turnstile works} (h : t.Linked) {k : κ}
    (hsettled : ∀ i call, t.CallAt i call → works.key call.input = k → call.stage.Settled) :
    t.tails k = none := by
  cases hk : t.tails k with
  | none => rfl
  | some i =>
      obtain ⟨⟨call, hcall, hkey, hnot⟩, -⟩ := h.held k i hk
      exact absurd (hsettled i call hcall hkey) hnot

/-! ## Progress -/

section

variable [DecidableEq κ]

/-- A turn that is a reaction of settled promises: neither a work nor a caller has a say. -/
def Reaction {χ : Type} : Turn χ ι → Prop
  | .start _ => True
  | .follow _ => True
  | _ => False

/-- No reaction is due. -/
def Quiet (t : Turnstile works) : Prop :=
  ∀ turn : Turn works.ops.Choice ι, Reaction turn → t.step turn = none

/-- A call that has not started. -/
def isWaiting (call : Call works.ops ι α) : Bool :=
  match call.stage with
  | .waiting => true
  | _ => false

/-- The reactions that can still be due when nobody calls and no work goes on. -/
def remaining (t : Turnstile works) : Nat :=
  t.calls.countP isWaiting + t.calls.countP fun call => !call.tailSettled

omit [DecidableEq κ] in
theorem countP_change {t : Turnstile works} {i : Nat} {call : Call works.ops ι α}
    (hcall : t.CallAt i call) (changed : Call works.ops ι α) (p : Call works.ops ι α → Bool) :
    (t.calls.set i changed).countP p + (if p call then 1 else 0) =
      t.calls.countP p + if p changed then 1 else 0 := by
  have hlt := hcall.lt
  have hget : t.calls[i] = call := (List.getElem?_eq_some_iff.mp hcall).2
  have hpos : p call = true → 0 < t.calls.countP p := fun hp =>
    List.countP_pos_iff.mpr ⟨call, List.mem_of_getElem? hcall, hp⟩
  rw [List.countP_set hlt, hget]
  by_cases hp : p call = true
  · have hcount := hpos hp
    rw [if_pos hp]
    omega
  · rw [if_neg hp]
    omega

theorem remaining_lt {t t' : Turnstile works} {turn : Turn works.ops.Choice ι}
    (htakes : Takes t turn t') (hreaction : Reaction turn) :
    t'.remaining < t.remaining := by
  cases htakes with
  | call input => exact False.elim hreaction
  | @start i call hcall hstage hprevious =>
      let changed := { call with stage := Stage.working (works.work call.input) }
      have hwaiting := countP_change hcall changed isWaiting
      have htails := countP_change hcall changed fun call => !call.tailSettled
      have hwas : isWaiting call = true := by
        unfold isWaiting
        rw [hstage]
      have hnow : isWaiting changed = false := rfl
      have hsame : changed.tailSettled = call.tailSettled := rfl
      rw [hwas, hnow, if_pos rfl, if_neg Bool.false_ne_true] at hwaiting
      rw [hsame] at htails
      change (t.calls.set i changed).countP isWaiting +
        (t.calls.set i changed).countP (fun call => !call.tailSettled) < remaining t
      unfold remaining
      omega
  | operate hcall hstage hexec => exact False.elim hreaction
  | settle hcall hstage => exact False.elim hreaction
  | @follow i call result hcall hstage htail hprevious =>
      let changed := { call with tailSettled := true }
      have hwaiting := countP_change hcall changed isWaiting
      have htails := countP_change hcall changed fun call => !call.tailSettled
      have hsame : isWaiting changed = isWaiting call := rfl
      have hnow : changed.tailSettled = true := rfl
      rw [hsame] at hwaiting
      rw [htail, hnow, Bool.not_false, Bool.not_true, if_pos rfl,
        if_neg Bool.false_ne_true] at htails
      change (t.calls.set i changed).countP isWaiting +
        (t.calls.set i changed).countP (fun call => !call.tailSettled) < remaining t
      unfold remaining
      omega

/-- Reactions come to an end. -/
theorem length_reactions_le {turns : List (Turn works.ops.Choice ι)} :
    ∀ {t t' : Turnstile works}, (∀ turn ∈ turns, Reaction turn) →
      t.turns turns = some t' → turns.length ≤ t.remaining := by
  induction turns with
  | nil => exact fun _ _ => Nat.zero_le _
  | cons turn rest ih =>
      intro t t' hreactions hrun
      obtain ⟨hturn, hrest⟩ := List.forall_mem_cons.mp hreactions
      obtain ⟨next, hnext, hrun⟩ := Option.bind_eq_some_iff.mp hrun
      have hlt := remaining_lt (takes_of_step hnext) hturn
      have hle := ih hrest hrun
      rw [List.length_cons]
      omega

/-- When the reactions that are due have run, none is due. -/
theorem exists_quiet (t : Turnstile works) :
    ∃ turns t', (∀ turn ∈ turns, Reaction turn) ∧ t.turns turns = some t' ∧
      t'.Quiet := by
  induction hn : t.remaining using Nat.strongRecOn generalizing t with
  | ind n ih =>
      by_cases hquiet : t.Quiet
      · exact ⟨[], t, fun _ h => absurd h List.not_mem_nil, rfl, hquiet⟩
      · obtain ⟨turn, hturn⟩ := not_forall.mp hquiet
        obtain ⟨hreaction, hstep⟩ := Classical.not_imp.mp hturn
        obtain ⟨next, hnext⟩ := Option.ne_none_iff_exists'.mp hstep
        have hlt := remaining_lt (takes_of_step hnext) hreaction
        obtain ⟨rest, last, hreactions, hrun, hlast⟩ := ih next.remaining (hn ▸ hlt) next rfl
        refine ⟨turn :: rest, last, List.forall_mem_cons.mpr ⟨hreaction, hreactions⟩, ?_, hlast⟩
        rw [Turnstile.turns, hnext]
        exact hrun

theorem Quiet.not_start {t : Turnstile works} (h : t.Quiet) {i : Nat}
    {call : Call works.ops ι α} (hcall : t.CallAt i call) (hstage : call.stage = .waiting) :
    t.previousSettled call.previous = false := by
  obtain ⟨input, previous, stage, tailSettled⟩ := call
  cases hstage
  have hnone := h (.start i) trivial
  unfold step at hnone
  dsimp only at hnone
  rw [show t.calls[i]? = _ from hcall] at hnone
  dsimp only at hnone
  by_contra hsettled
  rw [if_pos (eq_true_of_ne_false hsettled)] at hnone
  cases hnone

theorem Quiet.not_follow {t : Turnstile works} (h : t.Quiet) {i : Nat}
    {call : Call works.ops ι α} (hcall : t.CallAt i call) (hsettled : call.stage.Settled)
    (htail : call.tailSettled = false) : t.previousSettled call.previous = false := by
  obtain ⟨input, previous, stage, tailSettled⟩ := call
  cases htail
  cases stage with
  | waiting => exact False.elim hsettled
  | working work => exact False.elim hsettled
  | settled result =>
      have hnone := h (.follow i) trivial
      unfold step at hnone
      dsimp only at hnone
      rw [show t.calls[i]? = _ from hcall] at hnone
      dsimp only at hnone
      by_contra hprevious
      rw [if_pos (eq_true_of_ne_false hprevious)] at hnone
      cases hnone

/-- Where no reaction is due, the tail of a call that has released is settled. -/
theorem Linked.tailSettled {t : Turnstile works} (h : t.Linked) (hquiet : t.Quiet) {i : Nat} :
    ∀ {call : Call works.ops ι α}, t.CallAt i call → call.stage.Settled →
      call.tailSettled = true := by
  induction i using Nat.strongRecOn with
  | ind i ih =>
      intro call hcall hsettled
      by_contra htail
      have hfalse := hquiet.not_follow hcall hsettled (eq_false_of_ne_true htail)
      cases hprevious : call.previous with
      | none =>
          rw [hprevious] at hfalse
          cases hfalse
      | some j =>
          obtain ⟨hlt, ⟨other, hother, hkey⟩, -⟩ := h.before i call j hcall hprevious
          have hdone := h.ordered i call hcall hsettled.started j other hlt hother hkey
          rw [hprevious, previousSettled, Option.all_some, show t.calls[j]? = _ from hother,
            Option.any_some, ih j hlt hother hdone] at hfalse
          cases hfalse

/-- Where no reaction is due, the work of some call with the key runs while one has not
released, and it is the first of them. -/
theorem Linked.first_works {t : Turnstile works} (h : t.Linked) (hquiet : t.Quiet) {i : Nat} :
    ∀ {call : Call works.ops ι α}, t.CallAt i call → ¬ call.stage.Settled →
      ∃ j other, j ≤ i ∧ t.CallAt j other ∧ works.key other.input = works.key call.input ∧
        other.stage.Working ∧ t.EarlierSettled j (works.key call.input) := by
  induction i using Nat.strongRecOn with
  | ind i ih =>
      intro call hcall hnot
      cases hstage : call.stage with
      | settled result =>
          rw [hstage] at hnot
          exact absurd trivial hnot
      | working work =>
          have hworking : call.stage.Working := by
            rw [hstage]
            exact trivial
          exact ⟨i, call, Nat.le_refl i, hcall, rfl, hworking,
            h.ordered i call hcall hworking.started⟩
      | waiting =>
          have hfalse := hquiet.not_start hcall hstage
          cases hprevious : call.previous with
          | none =>
              rw [hprevious] at hfalse
              cases hfalse
          | some j =>
              obtain ⟨hlt, ⟨other, hother, hkey⟩, -⟩ := h.before i call j hcall hprevious
              have hopen : ¬ other.stage.Settled := by
                intro hsettled
                rw [hprevious, previousSettled, Option.all_some, show t.calls[j]? = _ from hother,
                  Option.any_some, h.tailSettled hquiet hother hsettled] at hfalse
                cases hfalse
              obtain ⟨m, first, hle, hfirst, hsame, hworking, hearlier⟩ := ih j hlt hother hopen
              exact ⟨m, first, Nat.le_trans hle (Nat.le_of_lt hlt), hfirst, hsame.trans hkey,
                hworking, hkey ▸ hearlier⟩

end

/-! ## Taking turns -/

/-- The calls with one key take turns, and leave nothing behind. -/
structure TakesTurns [DecidableEq κ] (t : Turnstile works) : Prop where
  /-- At most one work with a key runs. -/
  exclusive : ∀ i j call other, t.CallAt i call → t.CallAt j other →
    works.key call.input = works.key other.input → call.stage.Working → other.stage.Working →
      i = j
  /-- When a work has started, every earlier call with its key has had its turn. -/
  ordered : ∀ i j call other, i < j → t.CallAt i call → t.CallAt j other →
    works.key call.input = works.key other.input → other.stage.Started → call.stage.Settled
  /-- When no call with a key is outstanding, the map has no entry for it. -/
  removed : ∀ k, (∀ i call, t.CallAt i call → works.key call.input = k → call.stage.Settled) →
    t.tails k = none
  /-- The reactions that are due come to an end. -/
  ends : ∃ turns t', (∀ turn ∈ turns, Reaction turn) ∧
    t.turns turns = some t' ∧ t'.Quiet
  /-- However they are run, there are finitely many; and where none is due, the first call with
  a key that is outstanding is at work, whatever the works before it came to. -/
  unblocked : ∀ turns t', (∀ turn ∈ turns, Reaction turn) →
    t.turns turns = some t' → turns.length ≤ t.remaining ∧
      (t'.Quiet → ∀ i call, t'.CallAt i call → ¬ call.stage.Settled →
        ∃ j first, j ≤ i ∧ t'.CallAt j first ∧ works.key first.input = works.key call.input ∧
          first.stage.Working ∧ t'.EarlierSettled j (works.key call.input))

theorem takesTurns [DecidableEq κ] {s : σ} {turns : List (Turn works.ops.Choice ι)}
    {t : Turnstile works} (hrun : (idle works s).turns turns = some t) : t.TakesTurns where
  exclusive i j call other hcall hother hkey hworking hworking' :=
    ((linked_idle s).turns hrun).exclusive hcall hother hkey hworking hworking'
  ordered i j call other hlt hcall hother hkey hstarted :=
    ((linked_idle s).turns hrun).settled_of_started hcall hother hkey hlt hstarted
  removed k hsettled := ((linked_idle s).turns hrun).removed hsettled
  ends := exists_quiet t
  unblocked reactions t' hreactions hlater := by
    refine ⟨length_reactions_le hreactions hlater, fun hquiet i call hcall hnot => ?_⟩
    exact (((linked_idle s).turns hrun).turns hlater).first_works hquiet hcall hnot

/-! ## Works that own what belongs to their key -/

section

variable (territory : Territory σ κ) (post : ι → α → σ → Prop)

/-- What is left of a work leaves the other keys alone, and until another call with its key
starts, what a call returned is as promised. -/
structure Owned (t : Turnstile works) : Prop where
  working : ∀ i call work, t.CallAt i call → call.stage = .working work →
    Holding territory (works.key call.input) (post call.input) work t.state
  returned : ∀ i call result, t.CallAt i call → call.stage = .settled result →
    (∀ j later, i < j → t.CallAt j later → works.key later.input = works.key call.input →
      ¬ later.stage.Started) →
    ∀ s, territory.Rely (works.key call.input) t.state s → post call.input result s

variable {territory} {post}

theorem owned_idle (s : σ) : (idle works s).Owned territory post where
  working i call work h := by cases h
  returned i call result h := by cases h

/-- Nobody with the key came later and has started. -/
def LastStarted (t : Turnstile works) (i : Nat) (k : κ) : Prop :=
  ∀ j later, i < j → t.CallAt j later → works.key later.input = k → ¬ later.stage.Started

theorem LastStarted.before {t t' : Turnstile works} {i m : Nat}
    {call changed : Call works.ops ι α} {k : κ} (hcall : t.CallAt i call)
    (hcalls : t'.calls = t.calls.set i changed) (hinput : changed.input = call.input)
    (hstarted : call.stage.Started → changed.stage.Started) (h : t'.LastStarted m k) :
    t.LastStarted m k := by
  intro j later hlt hlater hkey hlaterStarted
  by_cases hsame : j = i
  · subst hsame
    cases hcall.unique hlater
    exact h j changed hlt ((callAt_set hcall hcalls).mpr (.inl ⟨rfl, rfl⟩)) (hinput ▸ hkey)
      (hstarted hlaterStarted)
  · exact h j later hlt ((callAt_set hcall hcalls).mpr (.inr ⟨hsame, hlater⟩)) hkey hlaterStarted

/-- A turn of a call that leaves the shared state as it is. -/
theorem Owned.change {t t' : Turnstile works} (h : t.Owned territory post) {i : Nat}
    {call changed : Call works.ops ι α} (hcall : t.CallAt i call)
    (hcalls : t'.calls = t.calls.set i changed) (hstate : t'.state = t.state)
    (hinput : changed.input = call.input)
    (hstarted : call.stage.Started → changed.stage.Started)
    (hworking : ∀ work, changed.stage = .working work →
      Holding territory (works.key call.input) (post call.input) work t.state)
    (hreturned : ∀ result, changed.stage = .settled result →
      t.LastStarted i (works.key call.input) →
        ∀ s, territory.Rely (works.key call.input) t.state s → post call.input result s) :
    t'.Owned territory post where
  working m other work hother hwork := by
    rw [hstate]
    rcases (callAt_set hcall hcalls).mp hother with ⟨rfl, rfl⟩ | ⟨-, hwas⟩
    · rw [hinput]
      exact hworking work hwork
    · exact h.working m other work hwas hwork
  returned m other result hother hresult hlast := by
    have hlastBefore : t.LastStarted m (works.key other.input) :=
      LastStarted.before hcall hcalls hinput hstarted hlast
    rw [hstate]
    rcases (callAt_set hcall hcalls).mp hother with ⟨rfl, rfl⟩ | ⟨-, hwas⟩
    · rw [hinput] at hlastBefore ⊢
      exact hreturned result hresult hlastBefore
    · exact h.returned m other result hwas hresult hlastBefore

variable [DecidableEq κ]

/-- A turn keeps what is owned. -/
theorem Owned.step (hwork : ∀ input s,
      Holding territory (works.key input) (post input) (works.work input) s)
    {t t' : Turnstile works} {turn : Turn works.ops.Choice ι} (hlinked : t.Linked)
    (h : t.Owned territory post) (htakes : Takes t turn t') : t'.Owned territory post := by
  cases htakes with
  | call input =>
      refine ⟨fun i call work hcall hstage => ?_, fun i call result hcall hstage hlast => ?_⟩
      · rcases callAt_run.mp hcall with hwas | ⟨-, rfl⟩
        · exact h.working i call work hwas hstage
        · cases hstage
      · rcases callAt_run.mp hcall with hwas | ⟨-, rfl⟩
        · refine h.returned i call result hwas hstage fun j later hlt hlater => ?_
          exact hlast j later hlt (callAt_run.mpr (.inl hlater))
        · cases hstage
  | @start i call hcall hstage hprevious =>
      refine h.change hcall rfl rfl rfl (fun _ => trivial) (fun work hwork' => ?_)
        fun result hresult => ?_
      · cases hwork'
        exact hwork call.input t.state
      · cases hresult
  | @operate i call op next choice answer s hcall hstage hexec =>
      let changed := { call with stage := Stage.working (next answer) }
      have hcalls : ({ t with state := s, calls := t.calls.set i changed } :
          Turnstile works).calls = t.calls.set i changed := rfl
      have hmono : call.stage.Started → changed.stage.Started := fun _ => trivial
      have hworking : call.stage.Working := by
        rw [hstage]
        exact trivial
      obtain ⟨hspares, hrest⟩ := h.working i call _ hcall hstage t.state (territory.refl _ _)
        choice answer s hexec
      refine ⟨fun m other work hother hwork' => ?_, fun m other result hother hresult hlast => ?_⟩
      · rcases (callAt_set hcall hcalls).mp hother with ⟨rfl, rfl⟩ | ⟨hne, hwas⟩
        · cases hwork'
          exact hrest
        · have hkey : works.key other.input ≠ works.key call.input := by
            intro hsame
            refine hne (hlinked.exclusive hwas hcall hsame ?_ hworking)
            rw [hwork']
            exact trivial
          exact (h.working m other work hwas hwork').later (hspares _ hkey)
      · rcases (callAt_set hcall hcalls).mp hother with ⟨rfl, rfl⟩ | ⟨hne, hwas⟩
        · cases hresult
        · have hsettled : other.stage.Settled := by
            rw [hresult]
            exact trivial
          have hkey : works.key other.input ≠ works.key call.input := by
            intro hsame
            rcases Nat.lt_or_gt_of_ne hne with hlt | hgt
            · exact hlast i changed hlt ((callAt_set hcall hcalls).mpr (.inl ⟨rfl, rfl⟩))
                hsame.symm trivial
            · exact hworking.not_settled
                (hlinked.settled_of_started hcall hwas hsame.symm hgt hsettled.started)
          have hlastBefore : t.LastStarted m (works.key other.input) :=
            LastStarted.before hcall hcalls rfl hmono hlast
          intro s' hrely
          exact h.returned m other result hwas hresult hlastBefore s'
            (territory.trans (hspares _ hkey) hrely)
  | @settle i call result hcall hstage =>
      refine h.change hcall rfl rfl rfl (fun _ => trivial) (fun work hwork' => ?_)
        fun result' hresult _ => ?_
      · cases hwork'
      · cases hresult
        exact h.working i call _ hcall hstage
  | @follow i call result hcall hstage htail hprevious =>
      exact h.change hcall rfl rfl rfl id (fun work => h.working i call work hcall)
        fun result' => h.returned i call result' hcall

/-- What a call returned is as promised, until another call with its key starts. -/
theorem Owned.turns (hwork : ∀ input s,
      Holding territory (works.key input) (post input) (works.work input) s)
    {s : σ} {t : Turnstile works} {turns : List (Turn works.ops.Choice ι)}
    (hrun : (idle works s).turns turns = some t) : t.Owned territory post :=
  (@turns_keeps _ _ _ _ _ _ (fun t => t.Linked ∧ t.Owned territory post)
    (fun _ _ _ h htakes => ⟨h.1.step htakes, h.2.step hwork h.1 htakes⟩) turns _ _
    ⟨linked_idle s, owned_idle s⟩ hrun).2

end

end Turnstile

end PatchPilot.Auth
