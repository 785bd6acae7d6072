import PatchPilot.Foundation.EventSweep
import PatchPilot.Matching.Precedence

set_option autoImplicit false

/-!
# Matching: the structure of affected ranges (`ranges.ts`)

`classifyAffectedRangeStructure` accepts a list of ranges and explicit versions
when each event has one known name and a usable version, when no event or version
text repeats, when a range does not mix `fixed` and `last_affected`, and when its
event names follow the OSV timeline.  It compares no versions: that is left to
the range decision.

Every function that reads a version goes through a `remember` operation, so that
the same definition is read with the version cache and without it.
-/

namespace PatchPilot.Matching

open PatchPilot.Foundation

/-- `FIRST_ECOSYSTEM_MAX_AFFECTED_RANGES`. -/
def firstEcosystemMaxAffectedRanges : Nat := 32

/-- `FIRST_ECOSYSTEM_MAX_EVENTS_PER_RANGE`. -/
def firstEcosystemMaxEventsPerRange : Nat := 16

/-- `FIRST_ECOSYSTEM_MAX_TOTAL_EVENTS`. -/
def firstEcosystemMaxTotalEvents : Nat := 64

/-- `FIRST_ECOSYSTEM_MAX_EXPLICIT_VERSIONS`. -/
def firstEcosystemMaxExplicitVersions : Nat := 64

/-- One event object: its own enumerable entries in the order of `Object.keys`.
The type of the source says that every value is a string. -/
abbrev EventDraft := List (JsString × JsString)

/-- `AdvisoryRangeDraft`. -/
structure AdvisoryRangeDraft where
  type : JsString
  events : List EventDraft
  deriving DecidableEq

/-- `RangeStructureClassification`. -/
inductive RangeStructureClassification
  | wellFormed | empty | malformed | unsupportedRangeType | unsupportedEvent
  | contradictory | capacityExceeded
  deriving DecidableEq

/-- `NPM_ACCEPTED_RANGE_TYPE`. -/
def npmAcceptedRangeType : JsString := js "SEMVER"

/-- The wire name of an event kind, the entries of `NPM_ACCEPTED_EVENTS`. -/
def eventKindName : EventKind → JsString
  | .introduced => js "introduced"
  | .fixed => js "fixed"
  | .lastAffected => js "last_affected"
  | .limit => js "limit"

/-- `NPM_ACCEPTED_EVENTS`. -/
def npmAcceptedEvents : List EventKind := [.introduced, .fixed, .lastAffected, .limit]

/-- The event kind an accepted name denotes. -/
def eventKindOf (name : JsString) : Option EventKind :=
  npmAcceptedEvents.find? (fun kind => eventKindName kind == name)

theorem eventKindName_injective : Function.Injective eventKindName := by
  intro a b
  cases a <;> cases b <;> decide

theorem eventKindOf_eq_some {name : JsString} {kind : EventKind} :
    eventKindOf name = some kind ↔ name = eventKindName kind := by
  constructor
  · intro h
    have := List.find?_some h
    exact (eq_of_beq this).symm
  · rintro rfl
    cases kind <;> decide

/-! ## Event versions -/

section Remember

variable {m : Type → Type} [Monad m] (remember : JsString → m ObservedVersionClassification)

/-- The verdicts of `eventVersionClass`. -/
inductive EventVersionClass
  | sentinel | semver | bad | capacity | prerelease
  deriving DecidableEq

/-- The text `0`, which stands below every version in an `introduced` event. -/
def sentinelText : JsString := js "0"

/-- `eventVersionClass`. -/
def eventVersionClass (kind : EventKind) (value : JsString) : m EventVersionClass :=
  if value = sentinelText then
    pure (if kind = .introduced then .sentinel else .bad)
  else do
    let version ← remember value
    match version with
    | .capacityExceeded _ => pure .capacity
    | .validStrictSemver semver =>
        pure (if semver.prerelease.isNone then .semver else .prerelease)
    | _ => pure .bad

/-! ## The event loop of one range -/

/-- The counters and the set `seen` of the event loop. -/
structure EventTally where
  introduced : Nat
  fixed : Nat
  lastAffected : Nat
  limit : Nat
  seen : List JsString
  deriving DecidableEq

/-- The tally before the first event. -/
def EventTally.zero : EventTally := ⟨0, 0, 0, 0, []⟩

/-- Count one event and note its signature. -/
def EventTally.count (t : EventTally) (kind : EventKind) (signature : JsString) :
    EventTally :=
  let t := { t with seen := signature :: t.seen }
  match kind with
  | .introduced => { t with introduced := t.introduced + 1 }
  | .fixed => { t with fixed := t.fixed + 1 }
  | .lastAffected => { t with lastAffected := t.lastAffected + 1 }
  | .limit => { t with limit := t.limit + 1 }

/-- `key=value`. -/
def eventSignature (key value : JsString) : JsString := key ++ unit '=' :: value

/-- The loop over the events of one range: the first failing check ends it. -/
def tallyEvents : List EventDraft → EventTally →
    m (Except RangeStructureClassification EventTally)
  | [], tally => pure (.ok tally)
  | event :: rest, tally =>
      match event with
      | [(key, value)] =>
          match eventKindOf key with
          | none => pure (.error .unsupportedEvent)
          | some kind =>
              if tally.seen.contains (eventSignature key value) then
                pure (.error .contradictory)
              else do
                let versionClass ← eventVersionClass remember kind value
                match versionClass with
                | .capacity => pure (.error .capacityExceeded)
                | .bad => pure (.error .malformed)
                | _ => tallyEvents rest (tally.count kind (eventSignature key value))
      | _ => pure (.error .malformed)

/-! ## The timeline of event names -/

/-- The phases of `eventTimeline`. -/
inductive TimelinePhase
  | needIntroduced | opened | closedByFixed | closedByLastAffected
  deriving DecidableEq

/-- One event name in the loop of `eventTimeline`.  The pair carries the phase
and the flag `limitSeen`; `none` is the verdict `contradictory`. -/
def timelineStep (key : JsString) :
    TimelinePhase × Bool → Option (TimelinePhase × Bool)
  | (_, true) => none
  | (.needIntroduced, false) =>
      if key = eventKindName .introduced then some (.opened, false) else none
  | (.opened, false) =>
      if key = eventKindName .fixed then some (.closedByFixed, false)
      else if key = eventKindName .lastAffected then some (.closedByLastAffected, false)
      else if key = eventKindName .limit then some (.opened, true)
      else none
  | (.closedByFixed, false) =>
      if key = eventKindName .introduced then some (.opened, false)
      else if key = eventKindName .limit then some (.closedByFixed, true)
      else none
  | (.closedByLastAffected, false) =>
      if key = eventKindName .limit then some (.closedByLastAffected, true) else none

/-- The loop of `eventTimeline`. -/
def timelineRun : List EventDraft → TimelinePhase × Bool → Option (TimelinePhase × Bool)
  | [], state => some state
  | event :: rest, state =>
      match event.head? with
      | none => none
      | some (key, _) => (timelineStep key state).bind (timelineRun rest)

/-- `eventTimeline`, with `true` for `ok`. -/
def eventTimeline (events : List EventDraft) : Bool :=
  match timelineRun events (.needIntroduced, false) with
  | none => false
  | some (phase, _) => phase != .needIntroduced

/-! ## Ranges and explicit versions -/

/-- The checks on one range after its event loop. -/
def checkTally (tally : EventTally) (events : List EventDraft) :
    RangeStructureClassification :=
  if tally.introduced = 0 then .malformed
  else if tally.fixed > 0 ∧ tally.lastAffected > 0 then .contradictory
  else if tally.lastAffected > 1 ∨ tally.limit > 1 then .contradictory
  else if !eventTimeline events then .contradictory
  else .wellFormed

/-- The loop over the ranges, with the running total of events. -/
def classifyRanges : List AdvisoryRangeDraft → Nat → m RangeStructureClassification
  | [], _ => pure .wellFormed
  | range :: rest, totalEvents =>
      if range.type ≠ npmAcceptedRangeType then
        pure (if range.type = js "GIT" ∨ range.type = js "ECOSYSTEM" then
          .unsupportedRangeType else .malformed)
      else if range.events.length = 0 then pure .malformed
      else if range.events.length > firstEcosystemMaxEventsPerRange then
        pure .capacityExceeded
      else if totalEvents + range.events.length > firstEcosystemMaxTotalEvents then
        pure .capacityExceeded
      else do
        let tally ← tallyEvents remember range.events .zero
        match tally with
        | .error verdict => pure verdict
        | .ok tally =>
            match checkTally tally range.events with
            | .wellFormed => classifyRanges rest (totalEvents + range.events.length)
            | verdict => pure verdict

/-- The loop over the explicit versions, with the set `explicitSeen`. -/
def classifyExplicitVersions : List JsString → List JsString →
    m RangeStructureClassification
  | [], _ => pure .wellFormed
  | version :: rest, explicitSeen =>
      if explicitSeen.contains version then pure .contradictory
      else do
        let classified ← remember version
        match classified with
        | .capacityExceeded _ => pure .capacityExceeded
        | .validStrictSemver _ =>
            classifyExplicitVersions rest (version :: explicitSeen)
        | _ => pure .malformed

/-- `classifyAffectedRangeStructure`.  The parameter `remember` is the version
cache, or `classifyObservedNpmVersion` itself for a caller without one.  The
check that both inputs are arrays is the type of the arguments here. -/
def classifyAffectedRangeStructure (rangeType : JsString)
    (ranges : List AdvisoryRangeDraft) (explicitVersions : List JsString) :
    m RangeStructureClassification :=
  if ranges.length = 0 ∧ explicitVersions.length = 0 then pure .empty
  else if ranges.length > firstEcosystemMaxAffectedRanges ∨
      explicitVersions.length > firstEcosystemMaxExplicitVersions then
    pure .capacityExceeded
  else if rangeType ≠ npmAcceptedRangeType then pure .unsupportedRangeType
  else do
    let verdict ← classifyRanges remember ranges 0
    match verdict with
    | .wellFormed => classifyExplicitVersions remember explicitVersions []
    | _ => pure verdict

end Remember

/-! ## The cache does not change the verdict -/

theorem eventVersionClass_returns (kind : EventKind) (value : JsString) :
    Returns (eventVersionClass rememberObservedNpmVersion kind value)
      (eventVersionClass classifyEachTime kind value) := by
  unfold eventVersionClass
  split
  · exact Returns.pure _
  · refine Returns.bind_id (remember_returns_classifyEachTime value) fun version => ?_
    cases version <;> exact Returns.pure _

theorem tallyEvents_returns (events : List EventDraft) (tally : EventTally) :
    Returns (tallyEvents rememberObservedNpmVersion events tally)
      (tallyEvents classifyEachTime events tally) := by
  induction events generalizing tally with
  | nil => exact Returns.pure _
  | cons event rest ih =>
      unfold tallyEvents
      split
      · split
        · exact Returns.pure _
        · split
          · exact Returns.pure _
          · refine Returns.bind_id (eventVersionClass_returns _ _) fun versionClass => ?_
            cases versionClass <;> first | exact Returns.pure _ | exact ih _
      · exact Returns.pure _

theorem classifyRanges_returns (ranges : List AdvisoryRangeDraft) (totalEvents : Nat) :
    Returns (classifyRanges rememberObservedNpmVersion ranges totalEvents)
      (classifyRanges classifyEachTime ranges totalEvents) := by
  induction ranges generalizing totalEvents with
  | nil => exact Returns.pure _
  | cons range rest ih =>
      unfold classifyRanges
      split
      · exact Returns.pure _
      split
      · exact Returns.pure _
      split
      · exact Returns.pure _
      split
      · exact Returns.pure _
      refine Returns.bind_id (tallyEvents_returns _ _) fun tally => ?_
      cases tally with
      | error verdict => exact Returns.pure _
      | ok tally =>
          dsimp only
          cases checkTally tally range.events <;> first | exact Returns.pure _ | exact ih _

theorem classifyExplicitVersions_returns (versions seen : List JsString) :
    Returns (classifyExplicitVersions rememberObservedNpmVersion versions seen)
      (classifyExplicitVersions classifyEachTime versions seen) := by
  induction versions generalizing seen with
  | nil => exact Returns.pure _
  | cons version rest ih =>
      unfold classifyExplicitVersions
      split
      · exact Returns.pure _
      · refine Returns.bind_id (remember_returns_classifyEachTime version) fun classified => ?_
        cases classified <;> first | exact Returns.pure _ | exact ih _

/-- The structure verdict does not depend on what the version cache holds. -/
theorem classifyAffectedRangeStructure_returns (rangeType : JsString)
    (ranges : List AdvisoryRangeDraft) (explicitVersions : List JsString) :
    Returns
      (classifyAffectedRangeStructure rememberObservedNpmVersion rangeType ranges
        explicitVersions)
      (classifyAffectedRangeStructure classifyEachTime rangeType ranges
        explicitVersions) := by
  unfold classifyAffectedRangeStructure
  split
  · exact Returns.pure _
  split
  · exact Returns.pure _
  split
  · exact Returns.pure _
  refine Returns.bind_id (classifyRanges_returns _ _) fun verdict => ?_
  cases verdict <;>
    first | exact Returns.pure _ | exact classifyExplicitVersions_returns _ _

end PatchPilot.Matching
