import PatchPilot.Matching.Boundaries

set_option autoImplicit false

/-!
# Matching: bounds, marks and what the structure check establishes

The bounds of range events form a linear order with the sentinel at the bottom,
and the comparison helpers of `boundaries.ts` are that order.  An event with a
known name and a usable version is a *mark* in the sense of
`Foundation.EventSweep`.  A structure that is accepted as well formed has a mark
for every event, names that follow the timeline, and never both kinds of closing
event in one range.
-/

namespace PatchPilot.Matching

open PatchPilot.Foundation

/-! ## The order on bounds -/

/-- A bound as an optional core, the sentinel being the missing one. -/
def VersionBound.core? : VersionBound → Option StrictSemverCore
  | .sentinel => none
  | .version core => some core

theorem VersionBound.core?_injective : Function.Injective VersionBound.core? := by
  intro a b h
  cases a <;> cases b <;> simp_all [VersionBound.core?]

instance : Std.TransOrd StrictSemverCore := inferInstanceAs (Std.TransCmp cmpCore)

instance : Std.LawfulEqOrd StrictSemverCore := inferInstanceAs (Std.LawfulEqCmp cmpCore)

/-- The comparator of bounds: the sentinel first, then precedence. -/
def cmpBound : VersionBound → VersionBound → Ordering :=
  comapCmp compare VersionBound.core?

instance : Std.TransCmp cmpBound :=
  inferInstanceAs (Std.TransCmp (comapCmp compare VersionBound.core?))

instance : Std.LawfulEqCmp cmpBound :=
  comapCmp_lawfulEq compare VersionBound.core?_injective

instance : LinearOrder VersionBound := linearOrderOfCmp cmpBound

theorem orderOf_compareResult (o : Ordering) : orderOf (compareResult o) = some o := by
  cases o <;> rfl

theorem compareBounds_eq (left right : VersionBound) :
    compareBounds left right = some (compare left right) := by
  cases left <;> cases right
  · rfl
  · rfl
  · rfl
  · simp only [compareBounds, compareStrictSemverCores_eq, orderOf_compareResult]
    rfl

theorem compareObservedToBound_eq (observed : StrictSemverCore) (bound : VersionBound) :
    compareObservedToBound observed bound = some (compare (.version observed) bound) := by
  cases bound
  · rfl
  · simp only [compareObservedToBound, compareStrictSemverCores_eq, orderOf_compareResult]
    rfl

/-- The test of one interval never fails and is containment. -/
theorem included_eq (observed : StrictSemverCore) (interval : AffectedInterval VersionBound) :
    included observed interval =
      some (decide (interval.Contains (.version observed))) := by
  cases interval with
  | unbounded start =>
      simp only [included, compareObservedToBound_eq, AffectedInterval.introducedAt]
      by_cases h : compare (VersionBound.version observed) start = .lt
      · simp [h, not_le.mpr (compare_lt_iff_lt.mp h)]
      · simp [h, not_lt.mp (mt compare_lt_iff_lt.mpr h)]
  | fixed start stop =>
      simp only [included, compareObservedToBound_eq, AffectedInterval.introducedAt]
      by_cases h : compare (VersionBound.version observed) start = .lt
      · simp [h, not_le.mpr (compare_lt_iff_lt.mp h)]
      · simp [h, not_lt.mp (mt compare_lt_iff_lt.mpr h), beq_eq_decide,
          compare_lt_iff_lt]
  | lastAffected start stop =>
      simp only [included, compareObservedToBound_eq, AffectedInterval.introducedAt]
      by_cases h : compare (VersionBound.version observed) start = .lt
      · simp [h, not_le.mpr (compare_lt_iff_lt.mp h)]
      · simp [h, not_lt.mp (mt compare_lt_iff_lt.mpr h), bne, beq_eq_decide,
          compare_gt_iff_gt]
        rw [← decide_not, decide_eq_decide, not_le]

/-! ## The marks of a range -/

/-- The mark an event stands for: its kind and its bound.  `none` for an event
without a known name or without a usable version. -/
def markOf (event : EventDraft) : Option (Mark VersionBound) := do
  let (name, value) ← event.head?
  let kind ← eventKindOf name
  let bound ← (eventBound classifyEachTime (some kind) value : Id (Option VersionBound))
  return ⟨kind, bound⟩

/-- The marks of a range, in the given order. -/
def rangeMarks (range : AdvisoryRangeDraft) : List (Mark VersionBound) :=
  range.events.filterMap markOf

/-- The bound of the first `limit` mark. -/
def limitOf (marks : List (Mark VersionBound)) : Option VersionBound :=
  (marks.find? (fun m => m.kind = .limit)).map Mark.bound

/-- Without a cache, the bound of an event is read off its classification. -/
theorem eventBound_eachTime (kind : EventKind) (value : JsString) :
    (eventBound classifyEachTime (some kind) value : Id (Option VersionBound)) =
      if value = sentinelText then
        (if kind = .introduced then some .sentinel else none)
      else (strictSemverCore (classifyObservedNpmVersion value)).map .version := by
  unfold eventBound
  by_cases hkind : kind = .introduced <;> simp [hkind] <;> rfl

theorem eventVersionClass_eachTime (kind : EventKind) (value : JsString) :
    (eventVersionClass classifyEachTime kind value : Id EventVersionClass) =
      if value = sentinelText then (if kind = .introduced then .sentinel else .bad)
      else match classifyObservedNpmVersion value with
        | .capacityExceeded _ => .capacity
        | .validStrictSemver semver =>
            if semver.prerelease.isNone then .semver else .prerelease
        | _ => .bad := by
  unfold eventVersionClass
  rw [classifyEachTime_eq, pure_bind]
  cases classifyObservedNpmVersion value <;> rfl

/-- An event whose version the structure check accepts has a bound. -/
theorem eventBound_of_usable {kind : EventKind} {value : JsString}
    (hbad : (eventVersionClass classifyEachTime kind value : Id _) ≠ .bad)
    (hcapacity : (eventVersionClass classifyEachTime kind value : Id _) ≠ .capacity) :
    ∃ bound, (eventBound classifyEachTime (some kind) value : Id _) = some bound := by
  rw [eventVersionClass_eachTime] at hbad hcapacity
  rw [eventBound_eachTime]
  by_cases hzero : value = sentinelText
  · by_cases hkind : kind = .introduced
    · exact ⟨.sentinel, by simp [hzero, hkind]⟩
    · simp [hzero, hkind] at hbad
  · rw [if_neg hzero] at hbad hcapacity ⊢
    cases hclass : classifyObservedNpmVersion value with
    | validStrictSemver semver => exact ⟨_, rfl⟩
    | capacityExceeded raw => simp [hclass] at hcapacity
    | absent raw => simp [hclass] at hbad
    | malformed raw => simp [hclass] at hbad
    | unsupported raw => simp [hclass] at hbad

theorem markOf_of_usable {kind : EventKind} {value : JsString}
    (hbad : (eventVersionClass classifyEachTime kind value : Id _) ≠ .bad)
    (hcapacity : (eventVersionClass classifyEachTime kind value : Id _) ≠ .capacity) :
    ∃ bound, markOf [(eventKindName kind, value)] = some ⟨kind, bound⟩ := by
  obtain ⟨bound, hbound⟩ := eventBound_of_usable hbad hcapacity
  refine ⟨bound, ?_⟩
  simp [markOf, eventKindOf_eq_some.mpr rfl, hbound]

/-! ## What the structure check establishes -/

/-- How many marks have the kind. -/
def kindCount (kind : EventKind) (marks : List (Mark VersionBound)) : Nat :=
  marks.countP (fun m => m.kind = kind)

/-- The tally of a list of marks, without the signatures. -/
structure TallyOf (before after : EventTally) (marks : List (Mark VersionBound)) : Prop where
  introduced : after.introduced = before.introduced + kindCount .introduced marks
  fixed : after.fixed = before.fixed + kindCount .fixed marks
  lastAffected : after.lastAffected = before.lastAffected + kindCount .lastAffected marks

theorem TallyOf.cons {before after : EventTally} {kind : EventKind} {bound : VersionBound}
    {signature : JsString} {marks : List (Mark VersionBound)}
    (h : TallyOf (before.count kind signature) after marks) :
    TallyOf before after (⟨kind, bound⟩ :: marks) := by
  obtain ⟨hintroduced, hfixed, hlast⟩ := h
  cases kind <;>
    exact ⟨by simp_all [EventTally.count, kindCount]; try omega,
      by simp_all [EventTally.count, kindCount]; try omega,
      by simp_all [EventTally.count, kindCount]; try omega⟩

/-- A completed event loop has read one mark from every event and counted the
kinds. -/
theorem tallyEvents_ok :
    ∀ (events : List EventDraft) (before after : EventTally),
      (tallyEvents classifyEachTime events before : Id _) = .ok after →
      ∃ marks, events.mapM markOf = some marks ∧ TallyOf before after marks := by
  intro events
  induction events with
  | nil =>
      intro before after h
      cases h
      exact ⟨[], rfl, ⟨rfl, rfl, rfl⟩⟩
  | cons event rest ih =>
      intro before after h
      unfold tallyEvents at h
      split at h
      · rename_i key value
        split at h
        · cases h
        · rename_i kind hkind
          split at h
          · cases h
          · have hkey : key = eventKindName kind := eventKindOf_eq_some.mp hkind
            subst hkey
            generalize hclass :
              (eventVersionClass classifyEachTime kind value : Id _) = versionClass at h
            have hbad : versionClass ≠ .bad := by
              rintro rfl
              cases h
            have hcapacity : versionClass ≠ .capacity := by
              rintro rfl
              cases h
            obtain ⟨bound, hmark⟩ := markOf_of_usable (hclass ▸ hbad) (hclass ▸ hcapacity)
            have hrest :
                (tallyEvents classifyEachTime rest
                  (before.count kind (eventSignature (eventKindName kind) value)) : Id _) =
                  .ok after := by
              cases versionClass <;> first | exact h | contradiction
            obtain ⟨marks, hmarks, htally⟩ := ih _ _ hrest
            refine ⟨⟨kind, bound⟩ :: marks, ?_, htally.cons⟩
            rw [List.mapM_cons, hmark, hmarks]
            rfl
      · cases h

/-- The event loop never fails with the verdict that accepts. -/
theorem tallyEvents_error :
    ∀ (events : List EventDraft) (tally : EventTally),
      (tallyEvents classifyEachTime events tally : Id _) ≠ .error .wellFormed := by
  intro events
  induction events with
  | nil =>
      intro tally h
      cases h
  | cons event rest ih =>
      intro tally h
      unfold tallyEvents at h
      split at h
      · rename_i key value
        split at h
        · cases h
        · rename_i kind hkind
          split at h
          · cases h
          · generalize (eventVersionClass classifyEachTime kind value : Id _) = versionClass
              at h
            cases versionClass <;> first | exact ih _ h | cases h
      · cases h

/-- When every event has a mark, no event is lost among the marks. -/
theorem filterMap_markOf {events : List EventDraft} :
    ∀ {marks : List (Mark VersionBound)}, events.mapM markOf = some marks →
      events.filterMap markOf = marks := by
  induction events with
  | nil =>
      intro marks h
      cases h
      rfl
  | cons event rest ih =>
      intro marks h
      rw [List.mapM_cons] at h
      obtain ⟨mark, hmark, h⟩ := Option.bind_eq_some_iff.mp h
      obtain ⟨tail, htail, h⟩ := Option.bind_eq_some_iff.mp h
      cases h
      rw [List.filterMap_cons, hmark, ih htail]

/-- What the structure check knows about one accepted range. -/
structure WellFormedRange (range : AdvisoryRangeDraft) : Prop where
  marked : range.events.mapM markOf = some (rangeMarks range)
  timeline : eventTimeline range.events = true
  unmixed : ¬ (0 < kindCount .fixed (rangeMarks range) ∧
    0 < kindCount .lastAffected (rangeMarks range))

theorem checkTally_wellFormed {tally : EventTally} {events : List EventDraft}
    (h : checkTally tally events = .wellFormed) :
    ¬ (tally.fixed > 0 ∧ tally.lastAffected > 0) ∧ eventTimeline events = true := by
  unfold checkTally at h
  split at h
  · cases h
  split at h
  · cases h
  split at h
  · cases h
  split at h
  · cases h
  · rename_i hmixed _ htimeline
    exact ⟨hmixed, by simpa using htimeline⟩

/-- The checks on one range, without the running total. -/
structure RangePasses (range : AdvisoryRangeDraft) : Prop where
  type : range.type = npmAcceptedRangeType
  nonempty : range.events.length ≠ 0
  few : range.events.length ≤ firstEcosystemMaxEventsPerRange
  tallied : ∃ tally, (tallyEvents classifyEachTime range.events .zero : Id _) = .ok tally ∧
    checkTally tally range.events = .wellFormed

theorem RangePasses.wellFormed {range : AdvisoryRangeDraft} (h : RangePasses range) :
    WellFormedRange range := by
  obtain ⟨tally, htally, hcheck⟩ := h.tallied
  obtain ⟨marks, hmarks, hcount⟩ := tallyEvents_ok _ _ _ htally
  obtain ⟨hmixed, htimeline⟩ := checkTally_wellFormed hcheck
  have hrange : rangeMarks range = marks := filterMap_markOf hmarks
  refine ⟨hrange ▸ hmarks, htimeline, ?_⟩
  rw [hrange]
  simpa [hcount.fixed, hcount.lastAffected, EventTally.zero] using hmixed

/-- One range in the loop: the loop goes on exactly when the range passes and
the running total stays within its bound. -/
theorem classifyRanges_cons (range : AdvisoryRangeDraft) (rest : List AdvisoryRangeDraft)
    (totalEvents : Nat) :
    (classifyRanges classifyEachTime (range :: rest) totalEvents : Id _) = .wellFormed ↔
      RangePasses range ∧
        totalEvents + range.events.length ≤ firstEcosystemMaxTotalEvents ∧
        (classifyRanges classifyEachTime rest (totalEvents + range.events.length) : Id _) =
          .wellFormed := by
  rw [classifyRanges]
  constructor
  · intro h
    split at h
    · split at h <;> cases h
    split at h
    · cases h
    split at h
    · cases h
    split at h
    · cases h
    rename_i htype hnonempty hfew htotal
    cases htally : (tallyEvents classifyEachTime range.events .zero : Id _) with
    | error verdict =>
        rw [id_bind htally] at h
        have hverdict : verdict = .wellFormed := h
        exact absurd (hverdict ▸ htally) (tallyEvents_error _ _)
    | ok tally =>
        rw [id_bind htally] at h
        dsimp only at h
        cases hcheck : checkTally tally range.events with
        | wellFormed =>
            rw [hcheck] at h
            exact ⟨⟨not_not.mp htype, hnonempty, not_lt.mp hfew, tally, htally, hcheck⟩,
              not_lt.mp htotal, h⟩
        | _ => rw [hcheck] at h; cases h
  · rintro ⟨⟨htype, hnonempty, hfew, tally, htally, hcheck⟩, htotal, hrest⟩
    rw [if_neg (not_not.mpr htype), if_neg hnonempty, if_neg (not_lt.mpr hfew),
      if_neg (not_lt.mpr htotal), id_bind htally]
    dsimp only
    rw [hcheck]
    exact hrest

/-- The number of events in all ranges. -/
def eventCount (ranges : List AdvisoryRangeDraft) : Nat :=
  (ranges.map (·.events.length)).sum

/-- The range loop accepts by conditions on the single ranges and on the number of
events, neither of which depends on the order of the ranges. -/
theorem classifyRanges_wellFormed_iff :
    ∀ (ranges : List AdvisoryRangeDraft) (totalEvents : Nat),
      (classifyRanges classifyEachTime ranges totalEvents : Id _) = .wellFormed ↔
        (∀ range ∈ ranges, RangePasses range) ∧
          (ranges ≠ [] → totalEvents + eventCount ranges ≤ firstEcosystemMaxTotalEvents) := by
  intro ranges
  induction ranges with
  | nil =>
      intro totalEvents
      simp [classifyRanges]
      rfl
  | cons range rest ih =>
      intro totalEvents
      rw [classifyRanges_cons, ih]
      simp only [List.forall_mem_cons, ne_eq, reduceCtorEq, not_false_eq_true, true_imp_iff,
        eventCount, List.map_cons, List.sum_cons]
      constructor
      · rintro ⟨hpasses, htotal, hrest, hsum⟩
        refine ⟨⟨hpasses, hrest⟩, ?_⟩
        cases rest with
        | nil => simpa using htotal
        | cons next rest => exact by simpa [Nat.add_assoc] using hsum (by simp)
      · rintro ⟨⟨hpasses, hrest⟩, hsum⟩
        exact ⟨hpasses, by omega, hrest, fun _ => by omega⟩

/-- The loop over the explicit versions accepts distinct strict versions. -/
theorem classifyExplicitVersions_wellFormed_iff :
    ∀ versions seen : List JsString,
      (classifyExplicitVersions classifyEachTime versions seen : Id _) = .wellFormed ↔
        versions.Nodup ∧ ∀ version ∈ versions, version ∉ seen ∧ ∃ semver,
          classifyObservedNpmVersion version = .validStrictSemver semver := by
  intro versions
  induction versions with
  | nil =>
      intro seen
      simp [classifyExplicitVersions]
      rfl
  | cons version rest ih =>
      intro seen
      rw [classifyExplicitVersions]
      by_cases hseen : version ∈ seen
      · rw [if_pos (by simpa using hseen)]
        simp [hseen]
      · rw [if_neg (by simpa using hseen), classifyEachTime_eq, pure_bind]
        cases hclass : classifyObservedNpmVersion version with
        | validStrictSemver semver =>
            dsimp only
            rw [ih]
            constructor
            · rintro ⟨hnodup, hrest⟩
              refine ⟨List.nodup_cons.mpr ⟨fun hmem => ?_, hnodup⟩, ?_⟩
              · exact (hrest version hmem).1 (by simp)
              · refine List.forall_mem_cons.mpr ⟨⟨hseen, semver, hclass⟩, ?_⟩
                intro w hw
                exact ⟨fun hmem => (hrest w hw).1 (by simp [hmem]), (hrest w hw).2⟩
            · rintro ⟨hnodup, hall⟩
              obtain ⟨hnotmem, hnodup⟩ := List.nodup_cons.mp hnodup
              refine ⟨hnodup, fun w hw => ?_⟩
              obtain ⟨hnotseen, hstrict⟩ := hall w (List.mem_cons_of_mem _ hw)
              refine ⟨fun hmem => ?_, hstrict⟩
              rcases List.mem_cons.mp hmem with rfl | hmem
              · exact hnotmem hw
              · exact hnotseen hmem
        | _ =>
            constructor
            · intro h
              cases h
            · rintro ⟨-, hall⟩
              obtain ⟨-, semver, hstrict⟩ := hall version (by simp)
              rw [hclass] at hstrict
              cases hstrict

/-- The structure check accepts by conditions that do not depend on the order of
the ranges or of the explicit versions. -/
theorem classifyAffectedRangeStructure_wellFormed_iff (rangeType : JsString)
    (ranges : List AdvisoryRangeDraft) (explicitVersions : List JsString) :
    (classifyAffectedRangeStructure classifyEachTime rangeType ranges explicitVersions :
        Id _) = .wellFormed ↔
      ¬ (ranges.length = 0 ∧ explicitVersions.length = 0) ∧
      ¬ (ranges.length > firstEcosystemMaxAffectedRanges ∨
        explicitVersions.length > firstEcosystemMaxExplicitVersions) ∧
      rangeType = npmAcceptedRangeType ∧
      ((∀ range ∈ ranges, RangePasses range) ∧
        (ranges ≠ [] → 0 + eventCount ranges ≤ firstEcosystemMaxTotalEvents)) ∧
      (explicitVersions.Nodup ∧ ∀ version ∈ explicitVersions, version ∉ [] ∧ ∃ semver,
        classifyObservedNpmVersion version = .validStrictSemver semver) := by
  rw [← classifyRanges_wellFormed_iff, ← classifyExplicitVersions_wellFormed_iff,
    classifyAffectedRangeStructure]
  split
  · rename_i hempty
    simp [hempty]
  rename_i hempty
  split
  · rename_i hcapacity
    simp [hcapacity]
  rename_i hcapacity
  split
  · rename_i htype
    simp [htype]
  rename_i htype
  cases hranges : (classifyRanges classifyEachTime ranges 0 : Id _) with
  | wellFormed =>
      change (classifyExplicitVersions classifyEachTime explicitVersions [] : Id _) = _ ↔ _
      exact ⟨fun h => ⟨hempty, hcapacity, not_not.mp htype, rfl, h⟩, fun h => h.2.2.2.2⟩
  | _ =>
      constructor
      · intro h
        cases h
      · rintro ⟨-, -, -, h, -⟩
        cases h

/-- An accepted structure has well-formed ranges and strict explicit versions. -/
theorem classifyAffectedRangeStructure_wellFormed {rangeType : JsString}
    {ranges : List AdvisoryRangeDraft} {explicitVersions : List JsString}
    (h : (classifyAffectedRangeStructure classifyEachTime rangeType ranges
      explicitVersions : Id _) = .wellFormed) :
    (∀ range ∈ ranges, WellFormedRange range) ∧
      ∀ version ∈ explicitVersions, ∃ semver,
        classifyObservedNpmVersion version = .validStrictSemver semver := by
  obtain ⟨-, -, -, ⟨hranges, -⟩, -, hversions⟩ :=
    (classifyAffectedRangeStructure_wellFormed_iff _ _ _).mp h
  exact ⟨fun range hrange => (hranges range hrange).wellFormed,
    fun version hversion => (hversions version hversion).2⟩

end PatchPilot.Matching
