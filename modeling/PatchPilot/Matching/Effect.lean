import PatchPilot.Matching.Compilation

set_option autoImplicit false

/-!
# Matching: the effect of one range

`effectOfRange` reads the compiled intervals three times: once to see whether
one of them includes the version, and then again for the explanation codes.
This module says what each reading computes, that none of them can fail on a
well-formed range, and that the version cache plays no part.
-/

namespace PatchPilot.Matching

open PatchPilot.Foundation

/-! ## The cache does not change the effect -/

theorem eventBound_returns (name : Option EventKind) (value : JsString) :
    Returns (eventBound rememberObservedNpmVersion name value)
      (eventBound classifyEachTime name value) := by
  unfold eventBound
  split
  · exact Returns.pure _
  · exact Returns.bind_id (remember_returns_classifyEachTime value) fun _ => Returns.pure _

theorem compileEvents_returns (events : List EventDraft) (s : CompileState) :
    Returns (compileEvents rememberObservedNpmVersion events s)
      (compileEvents classifyEachTime events s) := by
  induction events generalizing s with
  | nil => exact Returns.pure _
  | cons event rest ih =>
      unfold compileEvents
      split
      · exact Returns.pure _
      · refine Returns.bind_id (eventBound_returns _ _) fun bound => ?_
        cases bound with
        | none => exact Returns.pure _
        | some bound =>
            dsimp only
            split
            · exact Returns.pure _
            · exact ih _

theorem compileRange_returns (events : List EventDraft) :
    Returns (compileRange rememberObservedNpmVersion events)
      (compileRange classifyEachTime events) :=
  Returns.bind_id (compileEvents_returns events _) fun _ => Returns.pure _

theorem effectOfRange_returns (observed : StrictSemverCore) (range : AdvisoryRangeDraft) :
    Returns (effectOfRange rememberObservedNpmVersion observed range)
      (effectOfRange classifyEachTime observed range) := by
  refine Returns.bind_id (compileRange_returns _) fun compiled => ?_
  match compiled with
  | .error .contradictory => exact Returns.pure _
  | .error .internal => exact Returns.pure _
  | .ok compiled => exact Returns.pure _

/-! ## Explanation codes of a list of intervals -/

/-- The codes an interval contributes when it contains the version. -/
def inclusionReasons (v : VersionBound) (i : AffectedInterval VersionBound) :
    List ExplanationCode :=
  if i.Contains v then
    (if i.introducedAt = v then [.affectedAtIntroducedBoundary] else []) ++
      match i with
      | .lastAffected _ _ => [.affectedWithinLastAffectedRange]
      | _ => [.affectedWithinIntroducedFixedRange]
  else []

theorem intervalInclusionCodes_eq (observed : StrictSemverCore)
    (interval : AffectedInterval VersionBound) :
    intervalInclusionCodes observed interval =
      some (inclusionReasons (.version observed) interval) := by
  have hboundary : (compare (VersionBound.version observed) interval.introducedAt = .eq) ↔
      interval.introducedAt = .version observed := by
    rw [compare_eq_iff_eq, eq_comm]
  simp only [intervalInclusionCodes, included_eq, compareObservedToBound_eq,
    inclusionReasons]
  by_cases h : interval.Contains (.version observed)
  · cases interval <;> simp [h, hboundary]
  · simp [h]

theorem inclusionCodes_eq (observed : StrictSemverCore)
    (intervals : List (AffectedInterval VersionBound)) :
    inclusionCodes observed intervals =
      some (intervals.flatMap (inclusionReasons (.version observed))) := by
  have hfun : intervalInclusionCodes observed =
      fun i => pure (inclusionReasons (.version observed) i) :=
    funext (intervalInclusionCodes_eq observed)
  rw [inclusionCodes, hfun, List.mapM_pure, pure_bind, List.flatMap_def]
  rfl

/-- The version is at or after the fix of a `fixed` interval. -/
def isPastFixed (v : VersionBound) : AffectedInterval VersionBound → Bool
  | .fixed _ stop => decide (stop ≤ v)
  | _ => false

/-- The version is after the last affected version of the interval. -/
def isPastLastAffected (v : VersionBound) : AffectedInterval VersionBound → Bool
  | .lastAffected _ stop => decide (stop < v)
  | _ => false

/-- The flags `exclusionCodes` computes. -/
def exclusionFlags (v : VersionBound) (intervals : List (AffectedInterval VersionBound)) :
    ExclusionFlags :=
  ⟨intervals.all (fun i => decide (v < i.introducedAt)), intervals.any (isPastFixed v),
    intervals.any (isPastLastAffected v)⟩

theorem exclusionFlags_note (observed : StrictSemverCore) (flags : ExclusionFlags)
    (i : AffectedInterval VersionBound) :
    flags.note observed i =
      some ⟨flags.beforeEveryIntroduced && decide (.version observed < i.introducedAt),
        flags.atOrAfterFixed || isPastFixed (.version observed) i,
        flags.afterLastAffected || isPastLastAffected (.version observed) i⟩ := by
  have hlt : ∀ b, compare (VersionBound.version observed) b = .lt ↔
      VersionBound.version observed < b := fun b => compare_lt_iff_lt
  have hgt : ∀ b, compare (VersionBound.version observed) b = .gt ↔
      b < VersionBound.version observed := fun b => compare_gt_iff_gt
  obtain ⟨before, fixed, last⟩ := flags
  cases i with
  | unbounded start =>
      by_cases hs : VersionBound.version observed < start <;>
        simp [ExclusionFlags.note, compareObservedToBound_eq, hlt, hs, isPastFixed,
          isPastLastAffected, AffectedInterval.introducedAt]
  | fixed start stop =>
      by_cases hs : VersionBound.version observed < start <;>
        by_cases hf : VersionBound.version observed < stop <;>
          simp [ExclusionFlags.note, compareObservedToBound_eq, hlt, hs, hf, isPastFixed,
            isPastLastAffected, AffectedInterval.introducedAt, ← not_lt]
  | lastAffected start stop =>
      by_cases hs : VersionBound.version observed < start <;>
        by_cases hl : stop < VersionBound.version observed <;>
          simp [ExclusionFlags.note, compareObservedToBound_eq, hlt, hgt, hs, hl,
            isPastFixed, isPastLastAffected, AffectedInterval.introducedAt]

theorem exclusionFlags_fold (observed : StrictSemverCore) :
    ∀ (intervals : List (AffectedInterval VersionBound)) (flags : ExclusionFlags),
      intervals.foldlM (ExclusionFlags.note observed) flags =
        some ⟨flags.beforeEveryIntroduced &&
            (exclusionFlags (.version observed) intervals).beforeEveryIntroduced,
          flags.atOrAfterFixed ||
            (exclusionFlags (.version observed) intervals).atOrAfterFixed,
          flags.afterLastAffected ||
            (exclusionFlags (.version observed) intervals).afterLastAffected⟩ := by
  intro intervals
  induction intervals with
  | nil =>
      intro flags
      simp [exclusionFlags]
  | cons i rest ih =>
      intro flags
      rw [List.foldlM_cons, exclusionFlags_note]
      simp [ih, exclusionFlags, Bool.and_assoc, Bool.or_assoc]

/-- When no interval contains the version, some reason for that is found. -/
theorem exclusionFlags_codes_ne_nil {v : VersionBound}
    {intervals : List (AffectedInterval VersionBound)}
    (h : ∀ i ∈ intervals, ¬ i.Contains v) : (exclusionFlags v intervals).codes ≠ [] := by
  by_cases hbefore : ∀ i ∈ intervals, v < i.introducedAt
  · have hall : intervals.all (fun i => decide (v < i.introducedAt)) = true := by
      simpa using hbefore
    simp [exclusionFlags, ExclusionFlags.codes, hall]
  · -- an interval that starts at or before the version must end before it
    push Not at hbefore
    obtain ⟨i, hi, hstart⟩ := hbefore
    cases i with
    | unbounded start => exact absurd hstart (h _ hi)
    | fixed start stop =>
        have hpast : intervals.any (isPastFixed v) = true := by
          refine List.any_eq_true.mpr ⟨_, hi, ?_⟩
          simpa [isPastFixed] using not_lt.mp fun hlt => h _ hi ⟨hstart, hlt⟩
        simp [exclusionFlags, ExclusionFlags.codes, hpast]
    | lastAffected start stop =>
        have hpast : intervals.any (isPastLastAffected v) = true := by
          refine List.any_eq_true.mpr ⟨_, hi, ?_⟩
          simpa [isPastLastAffected] using not_le.mp fun hle => h _ hi ⟨hstart, hle⟩
        simp [exclusionFlags, ExclusionFlags.codes, hpast]

theorem exclusionCodes_eq {observed : StrictSemverCore}
    {intervals : List (AffectedInterval VersionBound)}
    (h : ∀ i ∈ intervals, ¬ i.Contains (.version observed)) :
    exclusionCodes observed intervals =
      some (exclusionFlags (.version observed) intervals).codes := by
  have hne := exclusionFlags_codes_ne_nil h
  simp [exclusionCodes, exclusionFlags_fold, hne]

/-! ## The effect in terms of the sweep -/

/-- The OSV reference sweep over the events of a range, in their given order:
an `introduced` bound at or below the version sets the flag, the sentinel being
below every version; a `fixed` bound at or below it and a `last_affected` bound
below it clear the flag. -/
def osvSweep (v : StrictSemverCore) (range : AdvisoryRangeDraft) : Bool :=
  sweep (.version v) (rangeMarks range)

/-- The version is strictly below the range's limit, or there is no limit. -/
def belowLimit (v : StrictSemverCore) (range : AdvisoryRangeDraft) : Bool :=
  (limitOf (rangeMarks range)).all (fun limit => decide (.version v < limit))

/-- The intervals of a range: the cover of its marks. -/
def rangeIntervals (range : AdvisoryRangeDraft) : List (AffectedInterval VersionBound) :=
  (cover (rangeMarks range)).intervals

/-- What `compileRange` does to a range, whatever the version cache holds. -/
def IsContradictory (range : AdvisoryRangeDraft) : Prop :=
  (compileRange classifyEachTime range.events : Id _) = .error .contradictory

instance (range : AdvisoryRangeDraft) : Decidable (IsContradictory range) :=
  inferInstanceAs (Decidable ((_ : Except CompileFailure CompiledRange) = _))

theorem effectOfRange_contradictory {range : AdvisoryRangeDraft}
    (h : IsContradictory range) (v : StrictSemverCore) :
    (effectOfRange classifyEachTime v range : Id _) = .contradictory := by
  unfold effectOfRange
  rw [id_bind h]
  rfl

theorem inclusionReasons_ne_nil {v : VersionBound} {i : AffectedInterval VersionBound}
    (h : i.Contains v) : inclusionReasons v i ≠ [] := by
  unfold inclusionReasons
  rw [if_pos h]
  cases i <;> simp

/-- A well-formed range that is not contradictory is compiled, and to its cover. -/
theorem compileRange_cases {range : AdvisoryRangeDraft} (hwf : WellFormedRange range)
    (hcontra : ¬ IsContradictory range) :
    (compileRange classifyEachTime range.events : Id _) =
      .ok ⟨rangeIntervals range, limitOf (rangeMarks range)⟩ ∧
    IsTimeline (rangeMarks range) := by
  cases hcompile : (compileRange classifyEachTime range.events : Id _) with
  | error failure =>
      cases failure with
      | contradictory => exact absurd hcompile hcontra
      | internal => exact absurd hcompile (compileRange_ne_internal hwf)
  | ok compiled =>
      obtain ⟨htimeline, hintervals, hlimit, -⟩ := compileRange_ok hwf hcompile
      refine ⟨?_, htimeline⟩
      obtain ⟨intervals, limit⟩ := compiled
      dsimp only at hintervals hlimit
      rw [hintervals, hlimit]
      rfl

theorem wouldInclude_eq (observed : StrictSemverCore)
    (intervals : List (AffectedInterval VersionBound)) :
    wouldInclude observed intervals =
      some (intervals.any (fun i => decide (i.Contains (.version observed)))) := by
  have hfun : included observed = fun i => pure (decide (i.Contains (.version observed))) :=
    funext (included_eq observed)
  rw [wouldInclude, hfun, List.mapM_pure, pure_bind, List.any_map]
  rfl

theorem effectOfCompiled_eq (observed : StrictSemverCore) (compiled : CompiledRange) :
    effectOfCompiled observed compiled =
      if compiled.intervals.any (fun i => decide (i.Contains (.version observed))) then
        if compiled.limit.all (fun limit => decide (.version observed < limit)) then
          .included (compiled.intervals.flatMap (inclusionReasons (.version observed)))
        else .inapplicable
      else .excluded (exclusionFlags (.version observed) compiled.intervals).codes := by
  obtain ⟨intervals, limit⟩ := compiled
  unfold effectOfCompiled
  rw [wouldInclude_eq, inclusionCodes_eq]
  dsimp only
  cases hany : intervals.any (fun i => decide (i.Contains (.version observed))) with
  | true =>
      obtain ⟨i, hi, hcontains⟩ := List.any_eq_true.mp hany
      have hcodes : intervals.flatMap (inclusionReasons (.version observed)) ≠ [] := by
        intro hnil
        exact inclusionReasons_ne_nil (of_decide_eq_true hcontains)
          (List.flatMap_eq_nil_iff.mp hnil i hi)
      generalize intervals.flatMap (inclusionReasons (.version observed)) = codes
        at hcodes ⊢
      cases limit with
      | none => simp [hcodes]
      | some bound =>
          simp only [Option.map_some, compareObservedToBound_eq]
          rcases lt_trichotomy (VersionBound.version observed) bound with hlt | heq | hgt
          · simp [compare_lt_iff_lt.mpr hlt, hcodes, hlt]
          · simp [heq]
          · simp [compare_gt_iff_gt.mpr hgt, not_lt_of_gt hgt]
  | false =>
      have hexcl : exclusionCodes observed intervals = _ := exclusionCodes_eq (by
        simpa using hany)
      cases limit with
      | none => simp [hexcl]
      | some bound => simp [compareObservedToBound_eq, hexcl]

/-- The effect of a well-formed range that is not contradictory.  It is decided
by the sweep and the limit; the codes come from the intervals. -/
theorem effectOfRange_eq {range : AdvisoryRangeDraft} (hwf : WellFormedRange range)
    (hcontra : ¬ IsContradictory range) (v : StrictSemverCore) :
    (effectOfRange classifyEachTime v range : Id _) =
      if osvSweep v range then
        if belowLimit v range then
          .included ((rangeIntervals range).flatMap (inclusionReasons (.version v)))
        else .inapplicable
      else .excluded (exclusionFlags (.version v) (rangeIntervals range)).codes := by
  obtain ⟨hcompile, htimeline⟩ := compileRange_cases hwf hcontra
  unfold effectOfRange
  rw [id_bind hcompile]
  change effectOfCompiled v _ = _
  rw [effectOfCompiled_eq]
  have hsweep : osvSweep v range =
      (rangeIntervals range).any (fun i => decide (i.Contains (.version v))) := by
    rw [Bool.eq_iff_iff, osvSweep, sweep_iff_cover htimeline]
    simp [rangeIntervals]
  rw [hsweep]
  rfl

end PatchPilot.Matching
