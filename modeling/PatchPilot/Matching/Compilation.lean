import PatchPilot.Matching.Timeline

set_option autoImplicit false

/-!
# Matching: compiled ranges are covers of timelines

The structure check looks at the names of the events and `compileRange` at their
bounds.  A range that passes both is a timeline in the sense of
`Foundation.EventSweep`, and the compiled intervals are its cover.  This is the
connection through which every fact about a decision is derived from the
abstract reading of a range.
-/

namespace PatchPilot.Matching

open PatchPilot.Foundation

/-! ## The two loops over the marks -/

theorem markOf_eq_some {event : EventDraft} {mark : Mark VersionBound}
    (h : markOf event = some mark) :
    ∃ value, event.head? = some (eventKindName mark.kind, value) ∧
      (eventBound classifyEachTime (some mark.kind) value : Id _) = some mark.bound := by
  unfold markOf at h
  obtain ⟨⟨name, value⟩, hhead, h⟩ := Option.bind_eq_some_iff.mp h
  obtain ⟨kind, hkind, h⟩ := Option.bind_eq_some_iff.mp h
  obtain ⟨bound, hbound, h⟩ := Option.bind_eq_some_iff.mp h
  cases h
  exact ⟨value, by rw [hhead, eventKindOf_eq_some.mp hkind], hbound⟩

/-- The name timeline of marked events only sees the kinds. -/
theorem timelineRun_marks :
    ∀ {events : List EventDraft} {marks : List (Mark VersionBound)},
      events.mapM markOf = some marks → ∀ state : TimelinePhase × Bool,
        timelineRun events state =
          marks.foldlM (fun state m => timelineStep (eventKindName m.kind) state) state := by
  intro events
  induction events with
  | nil =>
      intro marks h state
      cases h
      rfl
  | cons event rest ih =>
      intro marks h state
      rw [List.mapM_cons] at h
      obtain ⟨mark, hmark, h⟩ := Option.bind_eq_some_iff.mp h
      obtain ⟨tail, htail, h⟩ := Option.bind_eq_some_iff.mp h
      cases h
      obtain ⟨value, hhead, -⟩ := markOf_eq_some hmark
      rw [timelineRun, hhead, List.foldlM_cons]
      exact congrArg (Option.bind (timelineStep (eventKindName mark.kind) state))
        (funext fun state => ih htail state)

/-- Compilation of marked events, with no version left to classify. -/
def compileMarks (marks : List (Mark VersionBound)) (s : CompileState) :
    Except CompileFailure CompileState :=
  marks.foldlM (fun s m => compileStep s (some m.kind) m.bound) s

theorem compileEvents_marks :
    ∀ {events : List EventDraft} {marks : List (Mark VersionBound)},
      events.mapM markOf = some marks → ∀ s : CompileState,
        (compileEvents classifyEachTime events s : Id _) = compileMarks marks s := by
  intro events
  induction events with
  | nil =>
      intro marks h s
      cases h
      rfl
  | cons event rest ih =>
      intro marks h s
      rw [List.mapM_cons] at h
      obtain ⟨mark, hmark, h⟩ := Option.bind_eq_some_iff.mp h
      obtain ⟨tail, htail, h⟩ := Option.bind_eq_some_iff.mp h
      cases h
      obtain ⟨value, hhead, hbound⟩ := markOf_eq_some hmark
      rw [compileEvents, hhead]
      dsimp only
      rw [eventKindOf_eq_some.mpr rfl, id_bind hbound]
      simp only [compileMarks, List.foldlM_cons]
      cases hstep : compileStep s (some mark.kind) mark.bound with
      | error failure => rfl
      | ok s' => exact ih htail s'

/-! ## One event -/

theorem closeInterval_ok {s s' : CompileState} {bound : VersionBound}
    {close : VersionBound → VersionBound → AffectedInterval VersionBound}
    (h : closeInterval s bound close = .ok s') :
    ∃ o, s.opened = some o ∧ o ≤ bound ∧
      s' = { s with intervals := s.intervals ++ [close o bound], opened := none } := by
  unfold closeInterval at h
  split at h
  · cases h
  · rename_i o hopened
    rw [compareBounds_eq] at h
    by_cases hlt : compare bound o = .lt
    · rw [hlt] at h
      cases h
    · have hle : o ≤ bound := not_lt.mp (mt compare_lt_iff_lt.mpr hlt)
      refine ⟨o, hopened, hle, ?_⟩
      revert h hlt
      cases compare bound o <;> simp [eq_comm]

/-- Bounds other than a limit do not go back. -/
theorem checkPrevious_le {s : CompileState} {kind : EventKind} {bound previous : VersionBound}
    {u : Unit} (hkind : kind ≠ .limit) (h : checkPrevious s (some kind) bound = .ok u)
    (hprevious : s.previous = some previous) : previous ≤ bound := by
  unfold checkPrevious at h
  simp only [hprevious, compareBounds_eq, Option.some.injEq, hkind, if_false] at h
  split at h
  · cases h
  · rename_i hlt
    exact not_lt.mp (mt compare_lt_iff_lt.mpr hlt)

/-- What a successful loop body of `compileRange` has checked and done. -/
theorem compileStep_ok {s s' : CompileState} {kind : EventKind} {bound : VersionBound}
    (h : compileStep s (some kind) bound = .ok s') :
    (kind = .introduced ∧ s.opened = none ∧
      (∀ previous, s.previous = some previous → previous ≤ bound) ∧
      s' = { s with
        opened := some bound
        applicabilityFloor := s.applicabilityFloor.or (some bound)
        previous := some bound
        previousName := some kind }) ∨
    (∃ o, kind = .fixed ∧ s.opened = some o ∧ o ≤ bound ∧
      s' = { s with
        intervals := s.intervals ++ [.fixed o bound]
        opened := none
        previous := some bound
        previousName := some kind }) ∨
    (∃ o, kind = .lastAffected ∧ s.opened = some o ∧ o ≤ bound ∧
      s' = { s with
        intervals := s.intervals ++ [.lastAffected o bound]
        opened := none
        previous := some bound
        previousName := some kind }) ∨
    (kind = .limit ∧
      s' = { s with
        limit := some bound
        previous := some bound
        previousName := some kind }) := by
  unfold compileStep at h
  cases hcheck : checkPrevious s (some kind) bound with
  | error failure => rw [hcheck] at h; cases h
  | ok _ =>
      rw [hcheck] at h
      cases hplace : placeEvent s (some kind) bound with
      | error failure => rw [hplace] at h; cases h
      | ok placed =>
          rw [hplace] at h
          cases h
          cases kind with
          | introduced =>
              simp only [placeEvent] at hplace
              split at hplace
              · cases hplace
              · rename_i hopened
                cases hplace
                exact .inl ⟨rfl, by simpa using hopened,
                  fun previous hprevious => checkPrevious_le (by simp) hcheck hprevious, rfl⟩
          | fixed =>
              obtain ⟨o, hopened, hle, rfl⟩ := closeInterval_ok hplace
              exact .inr (.inl ⟨o, rfl, hopened, hle, rfl⟩)
          | lastAffected =>
              obtain ⟨o, hopened, hle, rfl⟩ := closeInterval_ok hplace
              exact .inr (.inr (.inl ⟨o, rfl, hopened, hle, rfl⟩))
          | limit =>
              refine .inr (.inr (.inr ⟨rfl, ?_⟩))
              simp only [placeEvent] at hplace
              split at hplace
              · cases hplace
                rfl
              · split at hplace
                · cases hplace
                  rfl
                · cases hplace

/-! ## Compilation simulates the timeline -/

/-- The phase of the names, the variables of the compilation and the phase of
the bounds describe the same point of a timeline. -/
def PhaseAgrees (s : CompileState) : TimelinePhase × Bool → Phase VersionBound → Prop
  | (_, true), p => p = .limited
  | (.needIntroduced, false), p => p = .fresh
  | (.opened, false), p => ∃ o, p = .opened o ∧ s.opened = some o
  | (.closedByFixed, false), p => ∃ e, p = .closedByFixed e ∧ s.previous = some e
  | (.closedByLastAffected, false), p => p = .closedByLastAffected

/-- The simulation relation between the two loops of the source, the timeline
and its cover. -/
structure Simulates (names : TimelinePhase × Bool) (s : CompileState)
    (p : Phase VersionBound) (c : Cover VersionBound) : Prop where
  intervals : s.intervals = c.closed
  opened : s.opened = c.opened
  phase : PhaseAgrees s names p

theorem eventKindName_eq_iff (a b : EventKind) : eventKindName a = eventKindName b ↔ a = b :=
  eventKindName_injective.eq_iff

/-- One event taken by both loops is a step of the timeline. -/
theorem simulates_step {names names' : TimelinePhase × Bool} {s s' : CompileState}
    {p : Phase VersionBound} {c : Cover VersionBound} {m : Mark VersionBound}
    (hsim : Simulates names s p c)
    (hnames : timelineStep (eventKindName m.kind) names = some names')
    (hstep : compileStep s (some m.kind) m.bound = .ok s') :
    ∃ p', p.step m = some p' ∧ Simulates names' s' p' (c.step m) := by
  obtain ⟨kind, bound⟩ := m
  obtain ⟨phase, limitSeen⟩ := names
  obtain ⟨hintervals, hopened, hphase⟩ := hsim
  cases limitSeen with
  | true => cases phase <;> cases hnames
  | false =>
      rcases compileStep_ok hstep with ⟨hkind, hnone, hprevious, rfl⟩ |
        ⟨o, hkind, hsome, hle, rfl⟩ | ⟨o, hkind, hsome, hle, rfl⟩ | ⟨hkind, rfl⟩
      · -- an introduction follows nothing or a fix
        dsimp only at hkind
        subst hkind
        cases phase <;>
          simp only [timelineStep, eventKindName_eq_iff, if_true, if_false, reduceCtorEq,
            Option.some.injEq] at hnames
        case needIntroduced =>
          subst hnames
          cases hphase
          exact ⟨_, rfl, hintervals, rfl, _, rfl, rfl⟩
        case closedByFixed =>
          subst hnames
          obtain ⟨e, rfl, he⟩ := hphase
          exact ⟨_, if_pos (hprevious e he), hintervals, rfl, _, rfl, rfl⟩
      · dsimp only at hkind
        subst hkind
        cases phase <;>
          simp only [timelineStep, eventKindName_eq_iff, if_true, if_false, reduceCtorEq,
            Option.some.injEq] at hnames
        case opened =>
          subst hnames
          obtain ⟨o', rfl, ho'⟩ := hphase
          obtain rfl : o' = o := Option.some.inj (ho'.symm.trans hsome)
          refine ⟨_, if_pos hle, ?_, ?_, _, rfl, rfl⟩
          · simp [Cover.step, ← hopened, hsome, hintervals]
          · simp [Cover.step, ← hopened, hsome]
      · dsimp only at hkind
        subst hkind
        cases phase <;>
          simp only [timelineStep, eventKindName_eq_iff, if_true, if_false, reduceCtorEq,
            Option.some.injEq] at hnames
        case opened =>
          subst hnames
          obtain ⟨o', rfl, ho'⟩ := hphase
          obtain rfl : o' = o := Option.some.inj (ho'.symm.trans hsome)
          refine ⟨_, if_pos hle, ?_, ?_, rfl⟩
          · simp [Cover.step, ← hopened, hsome, hintervals]
          · simp [Cover.step, ← hopened, hsome]
      · dsimp only at hkind
        subst hkind
        cases phase <;>
          simp only [timelineStep, eventKindName_eq_iff, if_true, if_false, reduceCtorEq,
            Option.some.injEq] at hnames
        case opened =>
          subst hnames
          obtain ⟨o, rfl, -⟩ := hphase
          exact ⟨_, rfl, hintervals, hopened, rfl⟩
        case closedByFixed =>
          subst hnames
          obtain ⟨e, rfl, -⟩ := hphase
          exact ⟨_, rfl, hintervals, hopened, rfl⟩
        case closedByLastAffected =>
          subst hnames
          cases hphase
          exact ⟨_, rfl, hintervals, hopened, rfl⟩

theorem compileStep_limit {s s' : CompileState} {kind : EventKind} {bound : VersionBound}
    (h : compileStep s (some kind) bound = .ok s') :
    s'.limit = if kind = .limit then some bound else s.limit := by
  rcases compileStep_ok h with ⟨rfl, -, -, rfl⟩ | ⟨o, rfl, -, -, rfl⟩ |
    ⟨o, rfl, -, -, rfl⟩ | ⟨rfl, rfl⟩ <;> rfl

/-- A name timeline takes nothing after a limit. -/
theorem timelineStep_limit {kind : EventKind} {names names' : TimelinePhase × Bool}
    (h : timelineStep (eventKindName kind) names = some names') :
    names.2 = false ∧ (kind = .limit → names'.2 = true) := by
  obtain ⟨phase, limitSeen⟩ := names
  cases limitSeen with
  | true => cases phase <;> cases h
  | false =>
      refine ⟨rfl, ?_⟩
      rintro rfl
      cases phase <;>
        simp only [timelineStep, eventKindName_eq_iff, if_true, if_false, reduceCtorEq,
          Option.some.injEq] at h <;> subst h <;> rfl

/-- Both loops together run through a timeline. -/
theorem simulates_run :
    ∀ (marks : List (Mark VersionBound)) {names names' : TimelinePhase × Bool}
      {s s' : CompileState} {p : Phase VersionBound} {c : Cover VersionBound},
      Simulates names s p c →
      marks.foldlM (fun state m => timelineStep (eventKindName m.kind) state) names =
        some names' →
      compileMarks marks s = .ok s' →
      ∃ p', marks.foldlM Phase.step p = some p' ∧
        Simulates names' s' p' (marks.foldl Cover.step c) ∧
        s'.limit = (limitOf marks).or s.limit := by
  intro marks
  induction marks with
  | nil =>
      intro names names' s s' p c hsim hnames hcompile
      cases hnames
      cases hcompile
      exact ⟨p, rfl, hsim, rfl⟩
  | cons m rest ih =>
      intro names names' s s' p c hsim hnames hcompile
      rw [List.foldlM_cons] at hnames
      obtain ⟨names₁, hnames₁, hnames⟩ := Option.bind_eq_some_iff.mp hnames
      rw [compileMarks, List.foldlM_cons] at hcompile
      cases hstep : compileStep s (some m.kind) m.bound with
      | error failure => rw [hstep] at hcompile; cases hcompile
      | ok s₁ =>
          rw [hstep] at hcompile
          obtain ⟨p₁, hp₁, hsim₁⟩ := simulates_step hsim hnames₁ hstep
          obtain ⟨p', hp', hsim', hlimit⟩ := ih hsim₁ hnames hcompile
          refine ⟨p', ?_, hsim', ?_⟩
          · rw [List.foldlM_cons, hp₁]
            exact hp'
          · rw [hlimit, compileStep_limit hstep]
            by_cases hkind : m.kind = .limit
            · -- nothing follows a limit
              have hseen := (timelineStep_limit hnames₁).2 hkind
              cases rest with
              | nil => simp [limitOf, hkind]
              | cons m' rest =>
                  rw [List.foldlM_cons] at hnames
                  obtain ⟨names₂, hnames₂, -⟩ := Option.bind_eq_some_iff.mp hnames
                  exact absurd (timelineStep_limit hnames₂).1 (by simp [hseen])
            · simp [limitOf, hkind]

theorem closeInterval_ne_internal (s : CompileState) (bound : VersionBound)
    (close : VersionBound → VersionBound → AffectedInterval VersionBound) :
    closeInterval s bound close ≠ .error .internal := by
  unfold closeInterval
  split
  · simp
  · rw [compareBounds_eq]
    split <;> simp

/-- The loop body has no internal failure left once the event has a kind. -/
theorem compileStep_ne_internal (s : CompileState) (kind : EventKind)
    (bound : VersionBound) : compileStep s (some kind) bound ≠ .error .internal := by
  intro h
  unfold compileStep at h
  cases hcheck : checkPrevious s (some kind) bound with
  | error failure =>
      rw [hcheck] at h
      cases h
      unfold checkPrevious at hcheck
      split at hcheck
      · cases hcheck
      · simp only [compareBounds_eq] at hcheck
        split at hcheck
        · split at hcheck <;> cases hcheck
        · split at hcheck <;> cases hcheck
  | ok _ =>
      rw [hcheck] at h
      cases hplace : placeEvent s (some kind) bound with
      | ok placed => rw [hplace] at h; cases h
      | error failure =>
          rw [hplace] at h
          cases h
          cases kind with
          | introduced =>
              simp only [placeEvent] at hplace
              split at hplace <;> cases hplace
          | fixed => exact closeInterval_ne_internal _ _ _ hplace
          | lastAffected => exact closeInterval_ne_internal _ _ _ hplace
          | limit =>
              simp only [placeEvent] at hplace
              split at hplace
              · cases hplace
              · split at hplace <;> cases hplace

theorem compileMarks_ne_internal :
    ∀ (marks : List (Mark VersionBound)) (s : CompileState),
      compileMarks marks s ≠ .error .internal := by
  intro marks
  induction marks with
  | nil =>
      intro s h
      cases h
  | cons m rest ih =>
      intro s h
      rw [compileMarks, List.foldlM_cons] at h
      cases hstep : compileStep s (some m.kind) m.bound with
      | error failure =>
          rw [hstep] at h
          cases h
          exact compileStep_ne_internal _ _ _ hstep
      | ok s₁ =>
          rw [hstep] at h
          exact ih s₁ h

theorem compileRange_marks {range : AdvisoryRangeDraft} (hwf : WellFormedRange range) :
    (compileRange classifyEachTime range.events : Id _) =
      (compileMarks (rangeMarks range) .initial).bind CompileState.finish := by
  unfold compileRange
  rw [id_bind (compileEvents_marks hwf.marked _)]
  rfl

/-- A well-formed range is never compiled to the internal failure. -/
theorem compileRange_ne_internal {range : AdvisoryRangeDraft} (hwf : WellFormedRange range) :
    (compileRange classifyEachTime range.events : Id _) ≠ .error .internal := by
  rw [compileRange_marks hwf]
  cases hmarks : compileMarks (rangeMarks range) .initial with
  | error failure =>
      intro h
      cases h
      exact compileMarks_ne_internal _ _ hmarks
  | ok s =>
      change s.finish ≠ _
      unfold CompileState.finish
      dsimp only
      split <;> simp

/-- A well-formed range that compiles is a timeline, its intervals are the cover
of its marks and its limit is the bound of the limit event. -/
theorem compileRange_ok {range : AdvisoryRangeDraft} (hwf : WellFormedRange range)
    {compiled : CompiledRange}
    (h : (compileRange classifyEachTime range.events : Id _) = .ok compiled) :
    IsTimeline (rangeMarks range) ∧
      compiled.intervals = (cover (rangeMarks range)).intervals ∧
      compiled.limit = limitOf (rangeMarks range) ∧ compiled.intervals ≠ [] := by
  rw [compileRange_marks hwf] at h
  cases hmarks : compileMarks (rangeMarks range) .initial with
  | error failure => rw [hmarks] at h; cases h
  | ok s =>
      rw [hmarks] at h
      have htimeline := hwf.timeline
      unfold eventTimeline at htimeline
      rw [timelineRun_marks hwf.marked] at htimeline
      split at htimeline
      · cases htimeline
      · rename_i phase limitSeen hnames
        have hsim : Simulates (.needIntroduced, false) .initial .fresh Cover.nothing :=
          ⟨rfl, rfl, rfl⟩
        obtain ⟨p, hp, hsim', hlimit⟩ := simulates_run _ hsim hnames hmarks
        have hfinish : s.finish = .ok compiled := h
        unfold CompileState.finish at hfinish
        dsimp only at hfinish
        split at hfinish
        · cases hfinish
        · rename_i hnonempty
          cases hfinish
          refine ⟨⟨p, hp⟩, ?_, ?_, ?_⟩
          · simp only [hsim'.intervals, hsim'.opened]
            rfl
          · rw [hlimit]
            simp [CompileState.initial]
          · exact fun hnil => hnonempty (congrArg List.length hnil)

end PatchPilot.Matching
