/-
  Foundation/EventSweep.lean --- affected intervals of an OSV event timeline.

  An OSV range is a list of events, each a bound on a linear order of versions.
  Two readings of such a list are in use.  The *sweep* walks over the events and
  keeps one flag, which an event at or below the version in question can set or
  clear.  The *cover* turns the events into a list of intervals and asks whether
  one of them contains the version.

  The two readings agree on a timeline: an introduction comes first, every
  interval is closed before the next one is opened, bounds do not decrease, and
  nothing but an applicability limit follows a last affected version.  `Phase`
  is that discipline as a state machine over the bounds; it is what makes an
  interval that was closed stay below everything that comes later.

  The bound type is an arbitrary linear order.  A least element can play the
  role of the sentinel that precedes every version, since nothing here treats it
  specially.
-/
import Mathlib.Order.Defs.LinearOrder
import Mathlib.Order.Lattice
import Mathlib.Data.List.Basic
import Mathlib.Data.List.Pairwise
import Mathlib.Tactic.Common

set_option autoImplicit false

namespace PatchPilot.Foundation

/-- The four kinds of OSV event. -/
inductive EventKind
  | introduced | fixed | lastAffected | limit
  deriving DecidableEq

/-- An event with its bound. -/
structure Mark (β : Type) where
  kind : EventKind
  bound : β
  deriving DecidableEq

/-- An affected interval.  The upper end is missing, exclusive (`fixed`) or
inclusive (`lastAffected`). -/
inductive AffectedInterval (β : Type)
  | unbounded (introduced : β)
  | fixed (introduced fixedAt : β)
  | lastAffected (introduced lastAt : β)
  deriving DecidableEq

variable {β : Type}

/-- The inclusive lower end. -/
def AffectedInterval.introducedAt : AffectedInterval β → β
  | .unbounded start => start
  | .fixed start _ => start
  | .lastAffected start _ => start

/-- The interval ends at a fix. -/
def AffectedInterval.IsFixed : AffectedInterval β → Prop
  | .fixed _ _ => True
  | _ => False

/-- The interval ends at a last affected version. -/
def AffectedInterval.IsLastAffected : AffectedInterval β → Prop
  | .lastAffected _ _ => True
  | _ => False

theorem AffectedInterval.introducedAt_unbounded (start : β) :
    (AffectedInterval.unbounded start).introducedAt = start := rfl

@[simp] theorem AffectedInterval.not_isFixed_unbounded (start : β) :
    ¬ (AffectedInterval.unbounded start).IsFixed := id

@[simp] theorem AffectedInterval.not_isLastAffected_unbounded (start : β) :
    ¬ (AffectedInterval.unbounded start).IsLastAffected := id

section Order

variable [LinearOrder β]

/-! ## The sweep -/

/-- What one event does to the flag of the sweep at version `v`. -/
def sweepStep (v : β) (vulnerable : Bool) (m : Mark β) : Bool :=
  match m.kind with
  | .introduced => if m.bound ≤ v then true else vulnerable
  | .fixed => if m.bound ≤ v then false else vulnerable
  | .lastAffected => if m.bound < v then false else vulnerable
  | .limit => vulnerable

/-- The sweep: the flag after the events, in their given order. -/
def sweep (v : β) (marks : List (Mark β)) : Bool := marks.foldl (sweepStep v) false

/-! ## The cover -/

/-- The version lies in the interval. -/
def AffectedInterval.Contains (v : β) : AffectedInterval β → Prop
  | .unbounded start => start ≤ v
  | .fixed start stop => start ≤ v ∧ v < stop
  | .lastAffected start stop => start ≤ v ∧ v ≤ stop

instance AffectedInterval.decidableContains (v : β) (i : AffectedInterval β) :
    Decidable (i.Contains v) :=
  match i with
  | .unbounded start => inferInstanceAs (Decidable (start ≤ v))
  | .fixed start stop => inferInstanceAs (Decidable (start ≤ v ∧ v < stop))
  | .lastAffected start stop => inferInstanceAs (Decidable (start ≤ v ∧ v ≤ stop))

@[simp] theorem AffectedInterval.contains_unbounded (v start : β) :
    (AffectedInterval.unbounded start).Contains v ↔ start ≤ v := Iff.rfl

@[simp] theorem AffectedInterval.contains_fixed (v start stop : β) :
    (AffectedInterval.fixed start stop).Contains v ↔ start ≤ v ∧ v < stop := Iff.rfl

@[simp] theorem AffectedInterval.contains_lastAffected (v start stop : β) :
    (AffectedInterval.lastAffected start stop).Contains v ↔ start ≤ v ∧ v ≤ stop := Iff.rfl

/-- The upper end is not below the lower one. -/
def AffectedInterval.Directed : AffectedInterval β → Prop
  | .unbounded _ => True
  | .fixed start stop => start ≤ stop
  | .lastAffected start stop => start ≤ stop

theorem AffectedInterval.introducedAt_le_of_contains {v : β} {i : AffectedInterval β}
    (h : i.Contains v) : i.introducedAt ≤ v := by
  cases i with
  | unbounded _ => exact h
  | fixed _ _ => exact h.1
  | lastAffected _ _ => exact h.1

/-- The intervals closed so far and the introduction that is still open. -/
structure Cover (β : Type) where
  closed : List (AffectedInterval β)
  opened : Option β

/-- Nothing introduced yet. -/
def Cover.nothing : Cover β := ⟨[], none⟩

/-- All intervals, an open introduction being an unbounded one. -/
def Cover.intervals (c : Cover β) : List (AffectedInterval β) :=
  c.closed ++ (c.opened.map AffectedInterval.unbounded).toList

theorem Cover.covers_iff (v : β) (c : Cover β) :
    (∃ i ∈ c.intervals, i.Contains v) ↔
      (∃ i ∈ c.closed, i.Contains v) ∨ ∃ o, c.opened = some o ∧ o ≤ v := by
  obtain ⟨closed, opened⟩ := c
  cases opened <;> simp [Cover.intervals, or_and_right, exists_or]

/-- What one event does to the cover. -/
def Cover.step (c : Cover β) (m : Mark β) : Cover β :=
  match m.kind, c.opened with
  | .introduced, _ => ⟨c.closed, some m.bound⟩
  | .fixed, some o => ⟨c.closed ++ [.fixed o m.bound], none⟩
  | .lastAffected, some o => ⟨c.closed ++ [.lastAffected o m.bound], none⟩
  | _, _ => c

/-- The cover of a list of events. -/
def cover (marks : List (Mark β)) : Cover β := marks.foldl Cover.step Cover.nothing

/-! ## Timelines -/

/-- Where a timeline stands, with the bound the next event is compared to. -/
inductive Phase (β : Type)
  | fresh
  | opened (introduced : β)
  | closedByFixed (fixed : β)
  | closedByLastAffected
  | limited
  deriving DecidableEq

/-- The timeline discipline.  `none` means that the event does not continue the
timeline. -/
def Phase.step (p : Phase β) (m : Mark β) : Option (Phase β) :=
  match p, m.kind with
  | .fresh, .introduced => some (.opened m.bound)
  | .opened o, .fixed => if o ≤ m.bound then some (.closedByFixed m.bound) else none
  | .opened o, .lastAffected => if o ≤ m.bound then some .closedByLastAffected else none
  | .opened _, .limit => some .limited
  | .closedByFixed e, .introduced => if e ≤ m.bound then some (.opened m.bound) else none
  | .closedByFixed _, .limit => some .limited
  | .closedByLastAffected, .limit => some .limited
  | _, _ => none

/-- The events are a timeline when every one of them continues the phase before
it. -/
def IsTimeline (marks : List (Mark β)) : Prop :=
  ∃ p : Phase β, marks.foldlM Phase.step .fresh = some p

/-- The closed interval ends exclusively, at or below `b`. -/
def AffectedInterval.EndsBy (b : β) (i : AffectedInterval β) : Prop :=
  ∃ o e : β, i = .fixed o e ∧ e ≤ b

/-- What the phase knows about the cover: while another interval can still be
opened, every closed interval ends at or below the current bound. -/
def Phase.Knows (c : Cover β) : Phase β → Prop
  | .fresh => c.closed = [] ∧ c.opened = none
  | .opened o => c.opened = some o ∧ ∀ i ∈ c.closed, i.EndsBy o
  | .closedByFixed e => c.opened = none ∧ ∀ i ∈ c.closed, i.EndsBy e
  | .closedByLastAffected => c.opened = none
  | .limited => True

theorem AffectedInterval.EndsBy.mono {a b : β} {i : AffectedInterval β} (h : i.EndsBy a)
    (hab : a ≤ b) :
    i.EndsBy b := by
  obtain ⟨o, e, rfl, he⟩ := h
  exact ⟨o, e, rfl, le_trans he hab⟩

theorem AffectedInterval.EndsBy.lt_of_contains {b v : β} {i : AffectedInterval β} (h : i.EndsBy b)
    (hv : i.Contains v) : v < b := by
  obtain ⟨o, e, rfl, he⟩ := h
  exact lt_of_lt_of_le hv.2 he

theorem not_contains_of_endsBy {o v : β} {closed : List (AffectedInterval β)}
    (h : ∀ i ∈ closed, i.EndsBy o) (hv : o ≤ v) : ∀ i ∈ closed, ¬ i.Contains v := by
  intro i hi hc
  exact absurd hv (not_le_of_gt ((h i hi).lt_of_contains hc))

/-- The events that continue a phase, one case for each. -/
theorem Phase.step_cases {p p' : Phase β} {m : Mark β} (h : p.step m = some p') :
    (∃ b, m = ⟨.introduced, b⟩ ∧ p' = .opened b ∧
      (p = .fresh ∨ ∃ e, p = .closedByFixed e ∧ e ≤ b)) ∨
    (∃ o b, m = ⟨.fixed, b⟩ ∧ p = .opened o ∧ o ≤ b ∧ p' = .closedByFixed b) ∨
    (∃ o b, m = ⟨.lastAffected, b⟩ ∧ p = .opened o ∧ o ≤ b ∧
      p' = .closedByLastAffected) ∨
    (∃ b, m = ⟨.limit, b⟩ ∧ p ≠ .fresh ∧ p' = .limited) := by
  obtain ⟨kind, b⟩ := m
  cases p <;> cases kind <;>
    simp only [Phase.step, Option.some.injEq, Option.ite_none_right_eq_some,
      reduceCtorEq] at h
  case fresh.introduced => exact .inl ⟨b, rfl, h.symm, .inl rfl⟩
  case opened.fixed o => exact .inr (.inl ⟨o, b, rfl, rfl, h.1, h.2.symm⟩)
  case opened.lastAffected o => exact .inr (.inr (.inl ⟨o, b, rfl, rfl, h.1, h.2.symm⟩))
  case opened.limit o => exact .inr (.inr (.inr ⟨b, rfl, by simp, h.symm⟩))
  case closedByFixed.introduced e => exact .inl ⟨b, rfl, h.2.symm, .inr ⟨e, rfl, h.1⟩⟩
  case closedByFixed.limit e => exact .inr (.inr (.inr ⟨b, rfl, by simp, h.symm⟩))
  case closedByLastAffected.limit => exact .inr (.inr (.inr ⟨b, rfl, by simp, h.symm⟩))

/-! ## The two readings agree -/

/-- The flag says whether some interval of the cover contains `v`. -/
def Tracks (v : β) (c : Cover β) (vulnerable : Bool) : Prop :=
  vulnerable = true ↔ ∃ i ∈ c.intervals, i.Contains v

theorem phase_knows_step {p p' : Phase β} {c : Cover β} {m : Mark β}
    (hknows : p.Knows c) (hstep : p.step m = some p') : p'.Knows (c.step m) := by
  rcases Phase.step_cases hstep with ⟨b, rfl, rfl, hp⟩ | ⟨o, b, rfl, rfl, hob, rfl⟩ |
    ⟨o, b, rfl, rfl, hob, rfl⟩ | ⟨b, rfl, -, rfl⟩
  · refine ⟨rfl, ?_⟩
    rcases hp with rfl | ⟨e, rfl, heb⟩
    · simp [Cover.step, hknows.1]
    · intro i hi
      exact (hknows.2 i hi).mono heb
  · obtain ⟨hopen, hclosed⟩ := hknows
    simp only [Cover.step, hopen, Phase.Knows, true_and]
    intro i hi
    rcases List.mem_append.mp hi with hi | hi
    · exact (hclosed i hi).mono hob
    · rw [List.mem_singleton.mp hi]
      exact ⟨o, b, rfl, le_refl b⟩
  · simp [Cover.step, hknows.1, Phase.Knows]
  · trivial

theorem tracks_step {v : β} {p p' : Phase β} {c : Cover β} {vulnerable : Bool}
    {m : Mark β} (hknows : p.Knows c) (htracks : Tracks v c vulnerable)
    (hstep : p.step m = some p') : Tracks v (c.step m) (sweepStep v vulnerable m) := by
  unfold Tracks at htracks ⊢
  rw [Cover.covers_iff] at htracks ⊢
  rcases Phase.step_cases hstep with ⟨b, rfl, rfl, hp⟩ | ⟨o, b, rfl, rfl, hob, rfl⟩ |
    ⟨o, b, rfl, rfl, hob, rfl⟩ | ⟨b, rfl, -, rfl⟩
  · -- the introduction opens an interval, and none was open
    have hopen : c.opened = none := by
      rcases hp with rfl | ⟨e, rfl, -⟩
      · exact hknows.2
      · exact hknows.1
    by_cases hv : b ≤ v
    · simp [sweepStep, Cover.step, hv]
    · simp [sweepStep, Cover.step, hv, htracks, hopen]
  · -- a version at or above the fix lies in no interval closed earlier
    obtain ⟨hopen, hclosed⟩ := hknows
    by_cases hv : b ≤ v
    · have hnone := not_contains_of_endsBy hclosed (le_trans hob hv)
      simpa [sweepStep, Cover.step, hopen, hv, not_lt_of_ge hv, or_and_right, exists_or]
        using hnone
    · simp [sweepStep, Cover.step, hopen, hv, htracks, not_le.mp hv, or_and_right,
        exists_or]
  · obtain ⟨hopen, hclosed⟩ := hknows
    by_cases hv : b < v
    · have hnone := not_contains_of_endsBy hclosed (le_trans hob (le_of_lt hv))
      simpa [sweepStep, Cover.step, hopen, hv, not_le_of_gt hv, or_and_right, exists_or]
        using hnone
    · simp [sweepStep, Cover.step, hopen, hv, htracks, not_lt.mp hv, or_and_right,
        exists_or]
  · simpa [sweepStep, Cover.step] using htracks

/-- The flag and the cover stay in step over any continuation of a timeline. -/
theorem tracks_run (v : β) :
    ∀ (marks : List (Mark β)) (p p' : Phase β) (c : Cover β) (vulnerable : Bool),
      p.Knows c → Tracks v c vulnerable → marks.foldlM Phase.step p = some p' →
      Tracks v (marks.foldl Cover.step c) (marks.foldl (sweepStep v) vulnerable) := by
  intro marks
  induction marks with
  | nil =>
      intro p p' c vulnerable _ htracks _
      exact htracks
  | cons m rest ih =>
      intro p p' c vulnerable hknows htracks hrun
      rw [List.foldlM_cons] at hrun
      obtain ⟨q, hq, hrest⟩ := Option.bind_eq_some_iff.mp hrun
      exact ih q p' _ _ (phase_knows_step hknows hq) (tracks_step hknows htracks hq) hrest

/-- On a timeline the sweep ends vulnerable exactly when some interval of the
cover contains the version. -/
theorem sweep_iff_cover {v : β} {marks : List (Mark β)} (h : IsTimeline marks) :
    sweep v marks = true ↔ ∃ i ∈ (cover marks).intervals, i.Contains v := by
  obtain ⟨p, hp⟩ := h
  refine tracks_run v marks .fresh p Cover.nothing false ⟨rfl, rfl⟩ ?_ hp
  simp [Tracks, Cover.intervals, Cover.nothing]

/-! ## The intervals of a timeline -/

/-- The bounds of the introductions, in order. -/
def introductions (marks : List (Mark β)) : List β :=
  (marks.filter (fun m => m.kind = .introduced)).map Mark.bound

/-- The intervals follow one another: each ends before the next one starts, and
none is reversed. -/
structure Cover.Ordered (c : Cover β) : Prop where
  separated : c.intervals.Pairwise (fun i j => i.EndsBy j.introducedAt)
  directed : ∀ i ∈ c.intervals, i.Directed

/-- What the events that were read say about the intervals. -/
structure Cover.Describes (c : Cover β) (marks : List (Mark β)) : Prop where
  starts : c.intervals.map AffectedInterval.introducedAt = introductions marks
  ordered : c.Ordered
  fixed : (∃ i ∈ c.intervals, i.IsFixed) ↔ ∃ m ∈ marks, m.kind = .fixed
  lastAffected : (∃ i ∈ c.intervals, i.IsLastAffected) ↔
    ∃ m ∈ marks, m.kind = .lastAffected

theorem describes_nothing : (Cover.nothing : Cover β).Describes [] where
  starts := rfl
  ordered := ⟨.nil, by simp [Cover.intervals, Cover.nothing]⟩
  fixed := by simp [Cover.intervals, Cover.nothing]
  lastAffected := by simp [Cover.intervals, Cover.nothing]

theorem AffectedInterval.EndsBy.isFixed {b : β} {i : AffectedInterval β} (h : i.EndsBy b) :
    i.IsFixed := by
  obtain ⟨o, e, rfl, -⟩ := h
  trivial

/-- Opening an interval above everything that was closed. -/
theorem describes_open {c : Cover β} {marks : List (Mark β)} {b : β}
    (h : c.Describes marks) (hopen : c.opened = none)
    (hclosed : ∀ i ∈ c.closed, i.EndsBy b) :
    (⟨c.closed, some b⟩ : Cover β).Describes (marks ++ [⟨.introduced, b⟩]) := by
  have hintervals : c.intervals = c.closed := by simp [Cover.intervals, hopen]
  have hnew : (⟨c.closed, some b⟩ : Cover β).intervals = c.closed ++ [.unbounded b] := rfl
  obtain ⟨hstarts, ⟨hseparated, hdirected⟩, hfixed, hlast⟩ := h
  rw [hintervals] at hstarts hseparated hdirected hfixed hlast
  refine ⟨?_, ⟨?_, ?_⟩, ?_, ?_⟩
  · rw [hnew, List.map_append, hstarts]
    simp [introductions, AffectedInterval.introducedAt_unbounded]
  · rw [hnew, List.pairwise_append]
    exact ⟨hseparated, List.pairwise_singleton _ _,
      by simpa [AffectedInterval.introducedAt_unbounded] using hclosed⟩
  · rw [hnew]
    intro i hi
    rcases List.mem_append.mp hi with hi | hi
    · exact hdirected i hi
    · rw [List.mem_singleton.mp hi]
      trivial
  · simpa [hnew, or_and_right, exists_or] using hfixed
  · simpa [hnew, or_and_right, exists_or] using hlast

/-- Closing the open interval at or above its start. -/
theorem describes_close {c : Cover β} {marks : List (Mark β)} {o b : β}
    {i : AffectedInterval β} {k : EventKind}
    (h : c.Describes marks) (hopen : c.opened = some o)
    (hstart : i.introducedAt = o) (hdirection : i.Directed)
    (hkind : k ≠ .introduced) (hfixedKind : i.IsFixed ↔ k = .fixed)
    (hlastKind : i.IsLastAffected ↔ k = .lastAffected) :
    (⟨c.closed ++ [i], none⟩ : Cover β).Describes (marks ++ [⟨k, b⟩]) := by
  have hintervals : c.intervals = c.closed ++ [.unbounded o] := by
    simp [Cover.intervals, hopen]
  have hnew : (⟨c.closed ++ [i], none⟩ : Cover β).intervals = c.closed ++ [i] := by
    simp [Cover.intervals]
  obtain ⟨hstarts, ⟨hseparated, hdirected⟩, hfixed, hlast⟩ := h
  rw [hintervals] at hstarts hseparated hdirected hfixed hlast
  rw [List.pairwise_append] at hseparated
  obtain ⟨hclosed, -, hbelow⟩ := hseparated
  refine ⟨?_, ⟨?_, ?_⟩, ?_, ?_⟩
  · rw [hnew]
    simpa [introductions, hkind, hstart, AffectedInterval.introducedAt_unbounded]
      using hstarts
  · rw [hnew, List.pairwise_append]
    refine ⟨hclosed, List.pairwise_singleton _ _, ?_⟩
    intro j hj l hl
    rw [List.mem_singleton.mp hl, hstart]
    exact hbelow j hj _ (List.mem_singleton_self _)
  · rw [hnew]
    intro j hj
    rcases List.mem_append.mp hj with hj | hj
    · exact hdirected j (List.mem_append_left _ hj)
    · rwa [List.mem_singleton.mp hj]
  · rw [hnew]
    simpa [or_and_right, exists_or, hfixedKind] using or_congr_left hfixed
  · rw [hnew]
    simpa [or_and_right, exists_or, hlastKind] using or_congr_left hlast

theorem describes_step {p p' : Phase β} {c : Cover β} {marks : List (Mark β)} {m : Mark β}
    (hknows : p.Knows c) (h : c.Describes marks) (hstep : p.step m = some p') :
    (c.step m).Describes (marks ++ [m]) := by
  rcases Phase.step_cases hstep with ⟨b, rfl, rfl, hp⟩ | ⟨o, b, rfl, rfl, hob, rfl⟩ |
    ⟨o, b, rfl, rfl, hob, rfl⟩ | ⟨b, rfl, -, rfl⟩
  · rcases hp with rfl | ⟨e, rfl, heb⟩
    · exact describes_open h hknows.2 (by simp [hknows.1])
    · exact describes_open h hknows.1 fun i hi => (hknows.2 i hi).mono heb
  · obtain ⟨hopen, -⟩ := hknows
    have hclose := describes_close (b := b) (i := .fixed o b) (k := .fixed) h hopen rfl hob
      (by decide) (by simp [AffectedInterval.IsFixed])
      (by simp [AffectedInterval.IsLastAffected])
    simpa [Cover.step, hopen] using hclose
  · obtain ⟨hopen, -⟩ := hknows
    have hclose := describes_close (b := b) (i := .lastAffected o b) (k := .lastAffected) h
      hopen rfl hob (by decide)
      (by simp [AffectedInterval.IsFixed]) (by simp [AffectedInterval.IsLastAffected])
    simpa [Cover.step, hopen] using hclose
  · obtain ⟨hstarts, hordered, hfixed, hlast⟩ := h
    exact ⟨by simpa [Cover.step, introductions] using hstarts, hordered,
      by simpa [Cover.step] using hfixed, by simpa [Cover.step] using hlast⟩

theorem describes_run :
    ∀ (marks before : List (Mark β)) (p p' : Phase β) (c : Cover β),
      p.Knows c → c.Describes before → marks.foldlM Phase.step p = some p' →
      (marks.foldl Cover.step c).Describes (before ++ marks) := by
  intro marks
  induction marks with
  | nil =>
      intro before p p' c _ h _
      simpa using h
  | cons m rest ih =>
      intro before p p' c hknows h hrun
      rw [List.foldlM_cons] at hrun
      obtain ⟨q, hq, hrest⟩ := Option.bind_eq_some_iff.mp hrun
      have hdescribes := ih (before ++ [m]) q p' _ (phase_knows_step hknows hq)
        (describes_step hknows h hq) hrest
      simpa using hdescribes

/-- The cover of a timeline describes it. -/
theorem cover_describes {marks : List (Mark β)} (h : IsTimeline marks) :
    (cover marks).Describes marks := by
  obtain ⟨p, hp⟩ := h
  exact describes_run marks [] .fresh p Cover.nothing ⟨rfl, rfl⟩ describes_nothing hp

theorem Cover.Ordered.eq_or {c : Cover β} (h : c.Ordered) {i j : AffectedInterval β}
    (hi : i ∈ c.intervals) (hj : j ∈ c.intervals) :
    i = j ∨ i.EndsBy j.introducedAt ∨ j.EndsBy i.introducedAt := by
  have heither : c.intervals.Pairwise
      (fun i j => i = j ∨ i.EndsBy j.introducedAt ∨ j.EndsBy i.introducedAt) :=
    h.separated.imp fun hends => .inr (.inl hends)
  have hsymm : Std.Symm fun i j : AffectedInterval β =>
      i = j ∨ i.EndsBy j.introducedAt ∨ j.EndsBy i.introducedAt :=
    ⟨fun _ _ hij => hij.imp Eq.symm Or.symm⟩
  exact heither.forall_of_forall (fun _ _ => .inl rfl) hi hj

/-- At most one interval contains the version. -/
theorem Cover.Ordered.disjoint {c : Cover β} (h : c.Ordered) (v : β) :
    c.intervals.Pairwise (fun i j => ¬ (i.Contains v ∧ j.Contains v)) := by
  refine h.separated.imp ?_
  rintro i j hends ⟨hi, hj⟩
  have hlt : v < j.introducedAt := hends.lt_of_contains hi
  exact absurd hlt (not_lt_of_ge (AffectedInterval.introducedAt_le_of_contains hj))

/-- An introduction at a version that some interval contains is that interval's
own. -/
theorem Cover.Ordered.start_eq_iff {c : Cover β} (h : c.Ordered) {v : β}
    {i : AffectedInterval β} (hi : i ∈ c.intervals) (hv : i.Contains v) :
    i.introducedAt = v ↔ v ∈ c.intervals.map AffectedInterval.introducedAt := by
  constructor
  · intro hstart
    exact List.mem_map.mpr ⟨i, hi, hstart⟩
  · intro hmem
    obtain ⟨j, hj, hstart⟩ := List.mem_map.mp hmem
    rcases h.eq_or hi hj with rfl | hends | hends
    · exact hstart
    · have hlt : v < j.introducedAt := hends.lt_of_contains hv
      rw [hstart] at hlt
      exact absurd hlt (lt_irrefl v)
    · -- the other interval is empty: it ends where it starts
      obtain ⟨o, e, rfl, he⟩ := hends
      have hdirected : o ≤ e := h.directed _ hj
      have hle : i.introducedAt ≤ v := AffectedInterval.introducedAt_le_of_contains hv
      have hge : v ≤ i.introducedAt := by
        rw [← hstart]
        exact le_trans hdirected he
      exact le_antisymm hle hge

/-- Without a fix a cover has at most one interval. -/
theorem Cover.Ordered.length_le_one {c : Cover β} (h : c.Ordered)
    (hfixed : ∀ i ∈ c.intervals, ¬ i.IsFixed) : c.intervals.length ≤ 1 := by
  have hseparated := h.separated
  generalize c.intervals = intervals at hseparated hfixed
  match intervals, hseparated with
  | [], _ => simp
  | [i], _ => simp
  | i :: j :: rest, hpairs =>
      have hends : i.EndsBy j.introducedAt := (List.pairwise_cons.mp hpairs).1 j (by simp)
      exact absurd hends.isFixed (hfixed i (by simp))

/-- A timeline that is closed by a last affected version, and by no fix, has one
interval. -/
theorem Cover.Describes.intervals_lastAffected {c : Cover β} {marks : List (Mark β)}
    (h : c.Describes marks) (hfixed : ¬ ∃ m ∈ marks, m.kind = .fixed)
    (hlast : ∃ m ∈ marks, m.kind = .lastAffected) :
    ∃ o e, o ≤ e ∧ c.intervals = [.lastAffected o e] := by
  have hnone : ∀ i ∈ c.intervals, ¬ i.IsFixed := by
    intro i hi hisFixed
    exact hfixed (h.fixed.mp ⟨i, hi, hisFixed⟩)
  obtain ⟨i, hi, hisLast⟩ := h.lastAffected.mpr hlast
  have hone : c.intervals.length ≤ 1 := h.ordered.length_le_one hnone
  have hdirected : i.Directed := h.ordered.directed i hi
  cases i with
  | unbounded o => cases hisLast
  | fixed o e => cases hisLast
  | lastAffected o e =>
      refine ⟨o, e, hdirected, ?_⟩
      generalize c.intervals = intervals at hi hone
      match intervals, hone with
      | [j], _ => rw [List.mem_singleton.mp hi]

end Order

end PatchPilot.Foundation
