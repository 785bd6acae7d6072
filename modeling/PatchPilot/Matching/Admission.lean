import PatchPilot.Matching.Document
import PatchPilot.Matching.VersionGrammar

set_option autoImplicit false

/-!
# Matching: admitted timelines are the timelines that compile

The timeline check of the document parser and the compilation of the evaluator walk over
the same events with different variables.  Event by event the check goes on exactly when
the compilation does and the event does not fix a version at the very bound that
introduced it; so the check accepts a range exactly when the range compiles and never does
that.  An admitted document is therefore never met with a contradiction, an invalid range
or an internal failure by the evaluator.
-/

namespace PatchPilot.Matching

open PatchPilot.Foundation

/-! ## Checks that reject -/

theorem refuseWhen_eq_ok {ε : Type} {condition : Bool} {rejection : ε} {u : Unit} :
    refuseWhen condition rejection = .ok u ↔ condition = false := by
  cases condition <;> simp [refuseWhen]

theorem orRefuse_eq_ok {ε α : Type} {found : Option α} {rejection : ε} {a : α} :
    orRefuse found rejection = .ok a ↔ found = some a := by
  cases found <;> simp [orRefuse]

namespace MaintainerDocument

/-! ## The two comparisons are one -/

theorem compareBounds_eq (left right : VersionBound) :
    compareBounds left right = Matching.compareBounds left right := by
  cases left with
  | sentinel => cases right <;> rfl
  | version left =>
      cases right with
      | sentinel => rfl
      | version right =>
          simp only [compareBounds, Matching.compareBounds]
          cases compareStrictSemverCores left right <;> rfl

theorem limitContradicts_eq (limit previous : VersionBound) (name : Option EventKind) :
    limitContradicts limit previous name = Matching.limitContradicts limit previous name := by
  unfold limitContradicts Matching.limitContradicts
  have hbounds := compareBounds_eq limit previous
  generalize compareBounds limit previous = ordered at hbounds ⊢
  subst hbounds
  cases Matching.compareBounds limit previous with
  | none => rfl
  | some o => cases o <;> rfl

/-! ## One event -/

/-- The variables of the two loops say the same. -/
structure Agrees (t : TimelineState) (s : CompileState) : Prop where
  opened : t.opened = s.opened
  previous : t.previous = s.previous
  previousName : t.previousName = s.previousName
  floor : t.floor = s.applicabilityFloor
  intervals : t.intervals = s.intervals.length

/-- The event fixes at the bound that is open. -/
def ClosesAtOpened (opened : Option VersionBound) (m : Mark VersionBound) : Prop :=
  m.kind = .fixed ∧ opened = some m.bound

theorem contradictsPrevious_iff {t : TimelineState} {s : CompileState} (h : Agrees t s)
    (kind : EventKind) (bound : VersionBound) :
    contradictsPrevious t (some kind) bound = false ↔
      checkPrevious s (some kind) bound = .ok () := by
  unfold contradictsPrevious checkPrevious
  rw [h.previous, h.previousName]
  cases s.previous with
  | none => simp
  | some previous =>
      dsimp only
      rw [limitContradicts_eq, compareBounds_eq, Matching.compareBounds_eq]
      by_cases hlimit : some kind = some EventKind.limit
      · simp only [hlimit, if_true]
        cases Matching.limitContradicts bound previous s.previousName <;> simp
      · simp only [hlimit, if_false]
        cases compare bound previous <;> simp

theorem closeAt_agrees {t : TimelineState} {s : CompileState} (h : Agrees t s)
    (kind : EventKind) (bound : VersionBound)
    (close : VersionBound → VersionBound → AffectedInterval VersionBound) :
    (closeAt t kind bound = none ∧
      ((∃ failure, closeInterval s bound close = .error failure) ∨
        ClosesAtOpened s.opened ⟨kind, bound⟩)) ∨
    ∃ t' s', closeAt t kind bound = some t' ∧ closeInterval s bound close = .ok s' ∧
      ¬ ClosesAtOpened s.opened ⟨kind, bound⟩ ∧ Agrees t' s' := by
  unfold closeAt closeInterval ClosesAtOpened
  rw [h.opened]
  cases hopened : s.opened with
  | none => exact .inl ⟨rfl, .inl ⟨_, rfl⟩⟩
  | some o =>
      dsimp only
      rw [compareBounds_eq, Matching.compareBounds_eq]
      have hclosed : Agrees { t with opened := none, intervals := t.intervals + 1 }
          { s with intervals := s.intervals ++ [close o bound], opened := none } :=
        ⟨rfl, h.previous, h.previousName, h.floor, by simp [h.intervals]⟩
      cases hcompare : compare bound o with
      | lt => exact .inl ⟨rfl, .inl ⟨_, rfl⟩⟩
      | eq =>
          have heq : bound = o := compare_eq_iff_eq.mp hcompare
          by_cases hfixed : kind = .fixed
          · refine .inl ⟨if_pos hfixed, .inr ⟨hfixed, ?_⟩⟩
            rw [heq]
          · exact .inr ⟨_, _, if_neg hfixed, rfl, fun hcloses => hfixed hcloses.1, hclosed⟩
      | gt =>
          refine .inr ⟨_, _, rfl, rfl, ?_, hclosed⟩
          rintro ⟨-, hsame⟩
          rw [← Option.some.inj hsame, compare_eq_iff_eq.mpr rfl] at hcompare
          cases hcompare

/-- The branches of an event's name go on together, except for a fix at the open bound. -/
theorem placeAt_agrees {t : TimelineState} {s : CompileState} (h : Agrees t s)
    (kind : EventKind) (bound : VersionBound) :
    (placeAt t (some kind) bound = none ∧
      ((∃ failure, placeEvent s (some kind) bound = .error failure) ∨
        ClosesAtOpened s.opened ⟨kind, bound⟩)) ∨
    ∃ t' s', placeAt t (some kind) bound = some t' ∧ placeEvent s (some kind) bound = .ok s' ∧
      ¬ ClosesAtOpened s.opened ⟨kind, bound⟩ ∧ Agrees t' s' := by
  cases kind with
  | introduced =>
      simp only [placeAt, placeEvent, h.opened]
      split
      · exact .inl ⟨rfl, .inl ⟨_, rfl⟩⟩
      · refine .inr ⟨_, _, rfl, rfl, by rintro ⟨⟨⟩, -⟩, rfl, h.previous, h.previousName, ?_,
          h.intervals⟩
        rw [h.floor]
  | fixed => exact closeAt_agrees h .fixed bound .fixed
  | lastAffected => exact closeAt_agrees h .lastAffected bound .lastAffected
  | limit =>
      simp only [placeAt, placeEvent, h.opened, h.floor]
      cases s.opened.or s.applicabilityFloor with
      | none =>
          exact .inr ⟨_, _, rfl, rfl, by rintro ⟨⟨⟩, -⟩, h.opened, h.previous, h.previousName,
            h.floor, h.intervals⟩
      | some baseline =>
          dsimp only
          rw [compareBounds_eq]
          cases hcompare : Matching.compareBounds bound baseline with
          | none => exact .inl ⟨rfl, .inl ⟨_, rfl⟩⟩
          | some o =>
              cases o with
              | gt =>
                  exact .inr ⟨_, _, rfl, rfl, by rintro ⟨⟨⟩, -⟩, h.opened, h.previous,
                    h.previousName, h.floor, h.intervals⟩
              | lt => exact .inl ⟨rfl, .inl ⟨_, rfl⟩⟩
              | eq => exact .inl ⟨rfl, .inl ⟨_, rfl⟩⟩

/-- The two loop bodies go on together, except for a fix at the open bound. -/
theorem timelineStep_agrees {t : TimelineState} {s : CompileState} (h : Agrees t s)
    (m : Mark VersionBound) :
    (timelineStep t (some m.kind) m.bound = none ∧
      ((∃ failure, compileStep s (some m.kind) m.bound = .error failure) ∨
        ClosesAtOpened s.opened m)) ∨
    ∃ t' s', timelineStep t (some m.kind) m.bound = some t' ∧
      compileStep s (some m.kind) m.bound = .ok s' ∧
      ¬ ClosesAtOpened s.opened m ∧ Agrees t' s' := by
  unfold timelineStep compileStep
  cases hcheck : checkPrevious s (some m.kind) m.bound with
  | error failure =>
      have hcontra : contradictsPrevious t (some m.kind) m.bound = true := by
        rw [← Bool.not_eq_false, contradictsPrevious_iff h, hcheck]
        simp
      exact .inl ⟨if_pos hcontra, .inl ⟨failure, rfl⟩⟩
  | ok u =>
      have hgood : contradictsPrevious t (some m.kind) m.bound = false :=
        (contradictsPrevious_iff h _ _).mpr hcheck
      rw [if_neg (by simp [hgood])]
      rcases placeAt_agrees h m.kind m.bound with ⟨hnone, hwhy⟩ | ⟨t', s', ht, hs, hnot, hagrees⟩
      · refine .inl ⟨by rw [hnone]; rfl, hwhy.imp_left ?_⟩
        rintro ⟨failure, hfailure⟩
        exact ⟨failure, by rw [hfailure]; rfl⟩
      · refine .inr ⟨{ t' with previous := some m.bound, previousName := some m.kind },
          { s' with previous := some m.bound, previousName := some m.kind },
          by rw [ht]; rfl, by rw [hs]; rfl, hnot, hagrees.opened, rfl, rfl, hagrees.floor,
          hagrees.intervals⟩

/-! ## A whole timeline -/

/-- What an event leaves open. -/
def openedAfter (opened : Option VersionBound) (m : Mark VersionBound) : Option VersionBound :=
  match m.kind with
  | .introduced => some m.bound
  | .limit => opened
  | _ => none

/-- Some event fixes at the bound that is then open. -/
def ClosesWithin : Option VersionBound → List (Mark VersionBound) → Prop
  | _, [] => False
  | opened, m :: rest =>
      ClosesAtOpened opened m ∨ ClosesWithin (openedAfter opened m) rest

theorem compileStep_opened {s s' : CompileState} {m : Mark VersionBound}
    (h : compileStep s (some m.kind) m.bound = .ok s') :
    s'.opened = openedAfter s.opened m := by
  unfold openedAfter
  rcases compileStep_ok h with ⟨hkind, -, -, rfl⟩ | ⟨o, hkind, -, -, rfl⟩ |
    ⟨o, hkind, -, -, rfl⟩ | ⟨hkind, rfl⟩ <;> rw [hkind]

/-- The loop of the timeline check over marks. -/
def timelineMarks (marks : List (Mark VersionBound)) (t : TimelineState) :
    Option TimelineState :=
  marks.foldlM (fun t m => timelineStep t (some m.kind) m.bound) t

/-- The check goes through a timeline exactly when the compilation does and no event fixes
at the open bound. -/
theorem timelineMarks_agrees :
    ∀ (marks : List (Mark VersionBound)) {t : TimelineState} {s : CompileState}, Agrees t s →
      (timelineMarks marks t = none ∧
        ((∃ failure, compileMarks marks s = .error failure) ∨ ClosesWithin s.opened marks)) ∨
      ∃ t' s', timelineMarks marks t = some t' ∧ compileMarks marks s = .ok s' ∧
        ¬ ClosesWithin s.opened marks ∧ Agrees t' s' := by
  intro marks
  induction marks with
  | nil =>
      intro t s h
      exact .inr ⟨t, s, rfl, rfl, id, h⟩
  | cons m rest ih =>
      intro t s h
      simp only [timelineMarks, compileMarks, List.foldlM_cons, ClosesWithin]
      rcases timelineStep_agrees h m with ⟨hnone, hwhy⟩ | ⟨t₁, s₁, ht, hs, hnot, hagrees⟩
      · refine .inl ⟨by rw [hnone]; rfl, ?_⟩
        rcases hwhy with ⟨failure, hfailure⟩ | hcloses
        · exact .inl ⟨failure, by rw [hfailure]; rfl⟩
        · exact .inr (.inl hcloses)
      · rw [ht, hs, ← compileStep_opened hs]
        rcases ih hagrees with ⟨hnone, hwhy⟩ | ⟨t', s', ht', hs', hnot', hagrees'⟩
        · exact .inl ⟨hnone, hwhy.imp_right .inr⟩
        · exact .inr ⟨t', s', ht', hs', not_or.mpr ⟨hnot, hnot'⟩, hagrees'⟩

/-- The range has a `fixed` event whose bound is that of the `introduced` event which it
closes: nothing but limits stands between the two. -/
def ClosesAtIntroduced (range : AdvisoryRangeDraft) : Prop :=
  ∃ before opening between closing after,
    rangeMarks range = before ++ opening :: (between ++ closing :: after) ∧
      opening.kind = .introduced ∧ closing.kind = .fixed ∧
      (∀ m ∈ between, m.kind = .limit) ∧
      Matching.compareBounds closing.bound opening.bound = some .eq

theorem openedAfter_limits {opened : Option VersionBound} {marks : List (Mark VersionBound)}
    (h : ∀ m ∈ marks, m.kind = .limit) : marks.foldl openedAfter opened = opened := by
  induction marks with
  | nil => rfl
  | cons m rest ih =>
      rw [List.foldl_cons]
      have hm : openedAfter opened m = opened := by
        simp [openedAfter, h m List.mem_cons_self]
      rw [hm, ih fun n hn => h n (List.mem_cons_of_mem _ hn)]

theorem closesWithin_append :
    ∀ (before after : List (Mark VersionBound)) (opened : Option VersionBound),
      ClosesWithin (before.foldl openedAfter opened) after →
        ClosesWithin opened (before ++ after) := by
  intro before
  induction before with
  | nil =>
      intro after opened h
      exact h
  | cons m rest ih =>
      intro after opened h
      exact .inr (ih after _ h)

/-- What is open comes from an introduction that only limits follow. -/
theorem exists_opening :
    ∀ (marks : List (Mark VersionBound)) (opened : Option VersionBound) (o : VersionBound),
      marks.foldl openedAfter opened = some o →
      (opened = some o ∧ ∀ m ∈ marks, m.kind = .limit) ∨
      ∃ before opening between, marks = before ++ opening :: between ∧
        opening.kind = .introduced ∧ opening.bound = o ∧ ∀ m ∈ between, m.kind = .limit := by
  intro marks
  induction marks with
  | nil =>
      intro opened o h
      exact .inl ⟨h, fun _ hm => absurd hm List.not_mem_nil⟩
  | cons m rest ih =>
      intro opened o h
      rcases ih _ _ h with ⟨hopened, hlimits⟩ | ⟨before, opening, between, rfl, hrest⟩
      · unfold openedAfter at hopened
        split at hopened
        · rename_i hkind
          exact .inr ⟨[], m, rest, rfl, hkind, Option.some.inj hopened, hlimits⟩
        · rename_i hkind
          refine .inl ⟨hopened, fun n hn => ?_⟩
          rcases List.mem_cons.mp hn with rfl | hn
          · exact hkind
          · exact hlimits n hn
        · cases hopened
      · exact .inr ⟨m :: before, opening, between, rfl, hrest⟩

theorem closesWithin_split :
    ∀ (marks : List (Mark VersionBound)) (opened : Option VersionBound),
      ClosesWithin opened marks →
        ∃ before closing after, marks = before ++ closing :: after ∧
          ClosesAtOpened (before.foldl openedAfter opened) closing := by
  intro marks
  induction marks with
  | nil =>
      intro opened h
      exact h.elim
  | cons m rest ih =>
      intro opened h
      rcases h with h | h
      · exact ⟨[], m, rest, rfl, h⟩
      · obtain ⟨before, closing, after, rfl, hcloses⟩ := ih _ h
        exact ⟨m :: before, closing, after, rfl, hcloses⟩

theorem closesWithin_iff (range : AdvisoryRangeDraft) :
    ClosesWithin none (rangeMarks range) ↔ ClosesAtIntroduced range := by
  constructor
  · intro h
    obtain ⟨before, closing, after, hmarks, hkind, hopened⟩ := closesWithin_split _ _ h
    rcases exists_opening _ _ _ hopened with ⟨hnone, -⟩ |
      ⟨first, opening, between, rfl, hopening, hbound, hlimits⟩
    · cases hnone
    · refine ⟨first, opening, between, closing, after, ?_, hopening, hkind, hlimits, ?_⟩
      · rw [hmarks, List.append_assoc, List.cons_append]
      · rw [Matching.compareBounds_eq, hbound, compare_eq_iff_eq.mpr rfl]
  · rintro ⟨before, opening, between, closing, after, hmarks, hopening, hclosing, hlimits, heq⟩
    rw [hmarks]
    refine closesWithin_append _ _ _ (.inr ?_)
    refine closesWithin_append _ _ _ (.inl ⟨hclosing, ?_⟩)
    rw [openedAfter_limits hlimits]
    rw [Matching.compareBounds_eq] at heq
    simp [openedAfter, hopening, compare_eq_iff_eq.mp (Option.some.inj heq)]

/-! ## The texts of a strict version -/

/-- A strict version is written with identifier characters, dots and a plus. -/
theorem isVersionUnit_of_strict {raw : JsString} {semver : StrictSemver}
    (h : classifyObservedNpmVersion raw = .validStrictSemver semver) :
    ∀ u ∈ raw, isVersionUnit u = true := by
  obtain ⟨-, parts, hparts, rfl, -⟩ := exists_of_classifyObservedNpmVersion h
  exact isVersionUnit_of_mem_text hparts.wellFormed

theorem not_control_of_isVersionUnit {u : UInt16} (h : isVersionUnit u = true) :
    (u ≤ 0x1F || u == 0x7F) = false := by
  simp only [isVersionUnit, isIdentifierUnit, isAlphaOrHyphen, isDigit, isLower, isUpper, unit,
    Bool.or_eq_true, Bool.and_eq_true, decide_eq_true_eq, beq_iff_eq] at h
  simp only [Bool.or_eq_false_iff, decide_eq_false_iff_not, beq_eq_false_iff_ne, ne_eq]
  simp only [UInt16.le_iff_toNat_le, ← UInt16.toNat_inj] at h ⊢
  have h1 : ('.'.toNat.toUInt16).toNat = 46 := rfl
  have h2 : ('+'.toNat.toUInt16).toNat = 43 := rfl
  have h3 : ('-'.toNat.toUInt16).toNat = 45 := rfl
  rw [h1, h2, h3] at h
  simp at h ⊢
  omega

/-- The version of an accepted event is free of control characters. -/
theorem not_hasProhibitedControls_of_usable {kind : EventKind} {value : JsString}
    (hbad : (eventVersionClass classifyEachTime kind value : Id _) ≠ .bad)
    (hcapacity : (eventVersionClass classifyEachTime kind value : Id _) ≠ .capacity) :
    hasProhibitedControls value = false := by
  rw [eventVersionClass_eachTime] at hbad hcapacity
  by_cases hzero : value = sentinelText
  · subst hzero
    decide
  · rw [if_neg hzero] at hbad hcapacity
    cases hclass : classifyObservedNpmVersion value with
    | validStrictSemver semver =>
        refine List.any_eq_false.mpr fun u hu => ?_
        rw [not_control_of_isVersionUnit (isVersionUnit_of_strict hclass u hu)]
        exact Bool.false_ne_true
    | capacityExceeded raw => simp [hclass] at hcapacity
    | absent raw => simp [hclass] at hbad
    | malformed raw => simp [hclass] at hbad
    | unsupported raw => simp [hclass] at hbad

/-! ## Reading a range that the structure check accepts -/

/-- An event object as an untrusted value. -/
def eventValue (event : EventDraft) : JsValue :=
  .record (event.map fun entry => (entry.1, .string entry.2))

/-- A range object as an untrusted value. -/
def rangeValue (range : AdvisoryRangeDraft) : JsValue :=
  .record [(js "type", .string range.type), (js "events", .list (range.events.map eventValue))]

/-- The events of an accepted range are written plainly. -/
theorem exists_named :
    ∀ (events : List EventDraft) (before after : EventTally),
      (tallyEvents classifyEachTime events before : Id _) = .ok after →
      ∃ named : List (JsString × JsString), events = named.map (fun event => [event]) ∧
        ∀ event ∈ named, (eventKindOf event.1).isSome = true ∧
          hasProhibitedControls event.2 = false := by
  intro events
  induction events with
  | nil =>
      intro before after _
      exact ⟨[], rfl, fun _ h => absurd h List.not_mem_nil⟩
  | cons event rest ih =>
      intro before after h
      unfold tallyEvents at h
      split at h
      · rename_i key value
        split at h
        · cases h
        · rename_i kind hkind
          split at h
          · cases h
          · generalize hclass :
              (eventVersionClass classifyEachTime kind value : Id _) = versionClass at h
            have hbad : versionClass ≠ .bad := by
              rintro rfl
              cases h
            have hcapacity : versionClass ≠ .capacity := by
              rintro rfl
              cases h
            have hrest : (tallyEvents classifyEachTime rest
                (before.count kind (eventSignature key value)) : Id _) = .ok after := by
              cases versionClass <;> first | exact h | contradiction
            obtain ⟨named, rfl, hnamed⟩ := ih _ _ hrest
            refine ⟨(key, value) :: named, rfl, ?_⟩
            intro event hevent
            rcases List.mem_cons.mp hevent with rfl | hevent
            · refine ⟨by rw [hkind]; rfl, ?_⟩
              exact not_hasProhibitedControls_of_usable (hclass ▸ hbad) (hclass ▸ hcapacity)
            · exact hnamed event hevent
      · cases h

theorem parseEvent_eventValue {event : JsString × JsString}
    (hname : (eventKindOf event.1).isSome = true)
    (hcontrols : hasProhibitedControls event.2 = false) :
    parseEvent (eventValue [event]) = .ok event := by
  obtain ⟨name, value⟩ := event
  have hmem : eventNames.contains name = true := by
    obtain ⟨kind, hkind⟩ := Option.isSome_iff_exists.mp hname
    have hword : name = eventKindName kind := eventKindOf_eq_some.mp hkind
    rw [hword]
    cases kind <;> decide
  have hcontrols' : hasProhibitedControls value = false := hcontrols
  have hplain : plainRecord (eventValue [(name, value)]) =
      some ([(name, .data true (.string value))], .literal) := rfl
  have howned : ownDataProperties .literal [(name, .data true (.string value))] =
      some [name] := rfl
  have hread : (readOwnData [(name, .data true (.string value))] name).string? =
      some value := by
    simp [readOwnData, ownProperty, dataValue, JsValue.string?]
  unfold parseEvent
  rw [hplain]
  refine bind_eq_ok.mpr ⟨_, rfl, ?_⟩
  dsimp only
  rw [howned]
  dsimp only
  refine bind_eq_ok.mpr ⟨(), refuseWhen_eq_ok.mpr (by rw [hmem]; rfl), ?_⟩
  refine bind_eq_ok.mpr ⟨value, orRefuse_eq_ok.mpr hread, ?_⟩
  exact bind_eq_ok.mpr ⟨(), refuseWhen_eq_ok.mpr hcontrols', rfl⟩

theorem arrayItems_list (items : List JsValue) : arrayItems (.list items) = some items := by
  simp [arrayItems, JsValue.list, dataValue, Function.comp_def]

/-- The properties of a range object. -/
def rangeProperties (named : List (JsString × JsString)) : List (JsString × JsProperty) :=
  [(js "type", .data true (.string (js "SEMVER"))),
    (js "events", .data true (.list ((named.map fun event => [event]).map eventValue)))]

/-- A range of plain events is read as it stands, unless its timeline contradicts itself. -/
theorem parseRange_rangeValue {named : List (JsString × JsString)} (hnonempty : named ≠ [])
    (hnamed : ∀ event ∈ named, (eventKindOf event.1).isSome = true ∧
      hasProhibitedControls event.2 = false) (range : AdvisoryRangeDraft) :
    parseRange (rangeValue ⟨js "SEMVER", named.map fun event => [event]⟩) = .ok range ↔
      timelineContradicts named = false ∧
        range = ⟨js "SEMVER", named.map fun event => [event]⟩ := by
  have hevents : ((named.map fun event => [event]).map eventValue).mapM parseEvent =
      .ok named := by
    rw [List.map_map, mapM_eq_ok, List.forall₂_map_left_iff]
    refine List.forall₂_same.mpr fun event hevent => ?_
    exact parseEvent_eventValue (hnamed event hevent).1 (hnamed event hevent).2
  have hnil : ((named.map fun event => [event]).map eventValue).isEmpty = false := by
    cases named with
    | nil => exact absurd rfl hnonempty
    | cons event rest => rfl
  have hitems : arrayItems (readOwnData (rangeProperties named) (js "events")) =
      some ((named.map fun event => [event]).map eventValue) := arrayItems_list _
  have hplain : plainRecord (rangeValue ⟨js "SEMVER", named.map fun event => [event]⟩) =
      some (rangeProperties named, .literal) := rfl
  have howned : ownDataProperties .literal (rangeProperties named) =
      some [js "type", js "events"] := rfl
  have htype : (readOwnData (rangeProperties named) (js "type")).string? =
      some (js "SEMVER") := rfl
  simp only [parseRange, bind_eq_ok, orRefuse_eq_ok, refuseWhen_eq_ok, hplain]
  constructor
  · rintro ⟨parts, hparts, keys, -, ⟨⟩, -, ⟨⟩, -, items, hfound, ⟨⟩, -, read, hread, ⟨⟩, hcontra,
      h⟩
    cases hparts
    cases hitems.symm.trans hfound
    cases hevents.symm.trans hread
    cases h
    exact ⟨hcontra, rfl⟩
  · rintro ⟨hcontra, rfl⟩
    exact ⟨_, rfl, _, howned, (), by decide, (), by rw [htype]; decide, _, hitems, (), hnil,
      named, hevents, (), hcontra, rfl⟩

end MaintainerDocument

end PatchPilot.Matching
