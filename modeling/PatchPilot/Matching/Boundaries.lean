import PatchPilot.Matching.Outcomes
import PatchPilot.Matching.Range

set_option autoImplicit false

/-!
# Matching: range decisions (`boundaries.ts`)

`compileRange` turns the events of one range into intervals, in the supplied
order; a bound that goes back is contradictory and is not repaired.
`effectOfRange` reads an observed version against the intervals and the
applicability limit, and `decideNpmAffectedness` unites the effects of all
ranges with the explicit versions.

The comparison helpers of the source can answer `null`, because the comparator's
result type has a word `unknown`.  The model keeps these branches (`none`); the
order lemmas below show that none of them is ever taken.
-/

namespace PatchPilot.Matching

open PatchPilot.Foundation

/-- `VersionBound`. -/
inductive VersionBound
  | sentinel
  | version (core : StrictSemverCore)
  deriving DecidableEq

/-- `RangeEffect`. -/
inductive RangeEffect
  | included (codes : List ExplanationCode)
  | excluded (codes : List ExplanationCode)
  | inapplicable
  | contradictory
  | internal
  deriving DecidableEq

/-- `AffectedDecision`. -/
structure AffectedDecision where
  outcome : Outcome
  codes : List ExplanationCode
  deriving DecidableEq

/-! ## Codes of the checks that precede a decision -/

/-- The codes of the observed version's class; none for a strict version.  Both
evaluators use this mapping. -/
def versionCodes : ObservedVersionClassification → List ExplanationCode
  | .validStrictSemver _ => []
  | .unsupported _ => [.unknownUnsupportedVersionSyntax]
  | .capacityExceeded _ => [.unknownCapacityExceeded]
  | .absent _ => [.unknownInvalidObservedVersion]
  | .malformed _ => [.unknownInvalidObservedVersion]

/-- The code of a range structure; none for a well-formed one.  Both evaluators
use this mapping. -/
def rangeStructureCode : RangeStructureClassification → Option ExplanationCode
  | .wellFormed => none
  | .unsupportedRangeType => some .unknownUnsupportedRangeType
  | .unsupportedEvent => some .unknownUnsupportedEvent
  | .contradictory => some .unknownContradictoryEvents
  | .capacityExceeded => some .unknownCapacityExceeded
  | .empty => some .unknownIncompleteEvidence
  | .malformed => some .unknownInvalidRange

/-! ## Comparisons -/

/-- `orderOf`. -/
def orderOf : NpmCompareResult → Option Ordering
  | .lessThan => some .lt
  | .equal => some .eq
  | .greaterThan => some .gt
  | .unknown => none

/-- `compareBounds`. -/
def compareBounds : VersionBound → VersionBound → Option Ordering
  | .sentinel, .sentinel => some .eq
  | .sentinel, .version _ => some .lt
  | .version _, .sentinel => some .gt
  | .version left, .version right => orderOf (compareStrictSemverCores left right)

/-- `compareObservedToBound`. -/
def compareObservedToBound (observed : StrictSemverCore) :
    VersionBound → Option Ordering
  | .sentinel => some .gt
  | .version core => orderOf (compareStrictSemverCores observed core)

/-- `included`. -/
def included (observed : StrictSemverCore) (interval : AffectedInterval VersionBound) :
    Option Bool := do
  let afterIntroduced ← compareObservedToBound observed interval.introducedAt
  if afterIntroduced = .lt then return false
  match interval with
  | .unbounded _ => return true
  | .fixed _ fixed => return (← compareObservedToBound observed fixed) == .lt
  | .lastAffected _ last => return (← compareObservedToBound observed last) != .gt

/-! ## Explanation codes of one range -/

/-- The codes `inclusionCodes` pushes for one interval. -/
def intervalInclusionCodes (observed : StrictSemverCore)
    (interval : AffectedInterval VersionBound) : Option (List ExplanationCode) := do
  if !(← included observed interval) then return []
  let atIntroduced ← compareObservedToBound observed interval.introducedAt
  let boundary : List ExplanationCode :=
    if atIntroduced = .eq then [.affectedAtIntroducedBoundary] else []
  match interval with
  | .lastAffected _ _ => return boundary ++ [.affectedWithinLastAffectedRange]
  | _ => return boundary ++ [.affectedWithinIntroducedFixedRange]

/-- `inclusionCodes`. -/
def inclusionCodes (observed : StrictSemverCore)
    (intervals : List (AffectedInterval VersionBound)) :
    Option (List ExplanationCode) :=
  return (← intervals.mapM (intervalInclusionCodes observed)).flatten

/-- The three flags of `exclusionCodes`. -/
structure ExclusionFlags where
  beforeEveryIntroduced : Bool
  atOrAfterFixed : Bool
  afterLastAffected : Bool
  deriving DecidableEq

/-- One interval in the loop of `exclusionCodes`. -/
def ExclusionFlags.note (observed : StrictSemverCore) (flags : ExclusionFlags)
    (interval : AffectedInterval VersionBound) : Option ExclusionFlags := do
  let againstIntroduced ← compareObservedToBound observed interval.introducedAt
  let flags := if againstIntroduced = .lt then flags
    else { flags with beforeEveryIntroduced := false }
  match interval with
  | .unbounded _ => return flags
  | .fixed _ fixed =>
      let againstFixed ← compareObservedToBound observed fixed
      return if againstFixed = .lt then flags else { flags with atOrAfterFixed := true }
  | .lastAffected _ last =>
      let againstLast ← compareObservedToBound observed last
      return if againstLast = .gt then { flags with afterLastAffected := true } else flags

/-- The codes the flags stand for. -/
def ExclusionFlags.codes (flags : ExclusionFlags) : List ExplanationCode :=
  (if flags.beforeEveryIntroduced then [.unaffectedBeforeIntroduced] else []) ++
  (if flags.atOrAfterFixed then [.unaffectedAtOrAfterFixedBoundary] else []) ++
  (if flags.afterLastAffected then [.unaffectedAfterLastAffected] else [])

/-- `exclusionCodes`. -/
def exclusionCodes (observed : StrictSemverCore)
    (intervals : List (AffectedInterval VersionBound)) :
    Option (List ExplanationCode) := do
  let flags ← intervals.foldlM (ExclusionFlags.note observed) ⟨true, false, false⟩
  if flags.codes.length = 0 then none
  return flags.codes

/-! ## Compilation -/

/-- The two ways `compileRange` fails. -/
inductive CompileFailure
  | contradictory | internal
  deriving DecidableEq

/-- The result of `compileRange`. -/
structure CompiledRange where
  intervals : List (AffectedInterval VersionBound)
  limit : Option VersionBound
  deriving DecidableEq

/-- The variables of the loop of `compileRange`.  `previousName` is `none` for
the empty text before the first event. -/
structure CompileState where
  intervals : List (AffectedInterval VersionBound)
  opened : Option VersionBound
  limit : Option VersionBound
  previous : Option VersionBound
  previousName : Option EventKind
  applicabilityFloor : Option VersionBound
  deriving DecidableEq

/-- The variables before the first event. -/
def CompileState.initial : CompileState := ⟨[], none, none, none, none, none⟩

/-- `limitContradicts`. -/
def limitContradicts (limit previous : VersionBound) (previousName : Option EventKind) :
    Bool :=
  match compareBounds limit previous with
  | none => true
  | some .eq => previousName == some .introduced || previousName == some .lastAffected
  | some .lt => previousName != some .fixed && previousName != some .lastAffected
  | some .gt => false

/-- The check of an event against the one before it. -/
def checkPrevious (s : CompileState) (name : Option EventKind) (bound : VersionBound) :
    Except CompileFailure Unit :=
  match s.previous with
  | none => .ok ()
  | some previous =>
      match compareBounds bound previous with
      | none => .error .internal
      | some compared =>
          if name = some .limit then
            if limitContradicts bound previous s.previousName then .error .contradictory
            else .ok ()
          else if compared = .lt then .error .contradictory
          else .ok ()

/-- Close the open interval at `bound`. -/
def closeInterval (s : CompileState) (bound : VersionBound)
    (close : VersionBound → VersionBound → AffectedInterval VersionBound) :
    Except CompileFailure CompileState :=
  match s.opened with
  | none => .error .contradictory
  | some opened =>
      match compareBounds bound opened with
      | none => .error .contradictory
      | some .lt => .error .contradictory
      | some _ =>
          .ok { s with intervals := s.intervals ++ [close opened bound], opened := none }

/-- The branch of the loop body that belongs to the event's name. -/
def placeEvent (s : CompileState) (name : Option EventKind) (bound : VersionBound) :
    Except CompileFailure CompileState :=
  match name with
  | some .introduced =>
      if s.opened.isSome then .error .contradictory
      else .ok { s with
        opened := some bound
        applicabilityFloor := s.applicabilityFloor.or (some bound) }
  | some .fixed => closeInterval s bound .fixed
  | some .lastAffected => closeInterval s bound .lastAffected
  | some .limit =>
      match s.opened.or s.applicabilityFloor with
      | none => .ok { s with limit := some bound }
      | some floor =>
          match compareBounds bound floor with
          | some .gt => .ok { s with limit := some bound }
          | _ => .error .contradictory
  | none => .error .internal

/-- The loop body after the event's bound has been read. -/
def compileStep (s : CompileState) (name : Option EventKind) (bound : VersionBound) :
    Except CompileFailure CompileState := do
  checkPrevious s name bound
  let s ← placeEvent s name bound
  return { s with previous := some bound, previousName := name }

/-- What the loop's variables amount to after the last event. -/
def CompileState.finish (s : CompileState) : Except CompileFailure CompiledRange :=
  let intervals := s.intervals ++ (s.opened.map AffectedInterval.unbounded).toList
  if intervals.length = 0 then .error .contradictory else .ok ⟨intervals, s.limit⟩

section Remember

variable {m : Type → Type} [Monad m] (remember : JsString → m ObservedVersionClassification)

/-- `eventBound`, with `none` for `bad`. -/
def eventBound (name : Option EventKind) (value : JsString) : m (Option VersionBound) :=
  if value = sentinelText then
    pure (if name = some .introduced then some .sentinel else none)
  else do
    let classified ← remember value
    pure ((strictSemverCore classified).map .version)

/-- The loop of `compileRange`. -/
def compileEvents : List EventDraft → CompileState → m (Except CompileFailure CompileState)
  | [], s => pure (.ok s)
  | event :: rest, s =>
      match event.head? with
      | none => pure (.error .internal)
      | some (name, value) => do
          let bound ← eventBound remember (eventKindOf name) value
          match bound with
          | none => pure (.error .internal)
          | some bound =>
              match compileStep s (eventKindOf name) bound with
              | .error failure => pure (.error failure)
              | .ok s => compileEvents rest s

/-- `compileRange`. -/
def compileRange (events : List EventDraft) : m (Except CompileFailure CompiledRange) := do
  let s ← compileEvents remember events .initial
  pure (s.bind CompileState.finish)

/-! ## The effect of one range -/

/-- The loop of `effectOfRange` that looks for an including interval. -/
def wouldInclude (observed : StrictSemverCore) (intervals : List (AffectedInterval VersionBound)) :
    Option Bool :=
  return (← intervals.mapM (included observed)).any id

/-- `effectOfRange` after `compileRange` has returned intervals. -/
def effectOfCompiled (observed : StrictSemverCore) (compiled : CompiledRange) :
    RangeEffect :=
  match wouldInclude observed compiled.intervals with
  | none => .internal
  | some inside =>
      match compiled.limit.map (compareObservedToBound observed) with
      | some none => .internal
      | against =>
          if inside then
            if against = some (some .eq) ∨ against = some (some .gt) then .inapplicable
            else
              match inclusionCodes observed compiled.intervals with
              | none => .internal
              | some codes => if codes.length = 0 then .internal else .included codes
          else
            match exclusionCodes observed compiled.intervals with
            | none => .internal
            | some codes => .excluded codes

/-- `effectOfRange`. -/
def effectOfRange (observed : StrictSemverCore) (range : AdvisoryRangeDraft) :
    m RangeEffect := do
  let compiled ← compileRange remember range.events
  match compiled with
  | .error .contradictory => pure .contradictory
  | .error .internal => pure .internal
  | .ok compiled => pure (effectOfCompiled observed compiled)

/-! ## The decision -/

/-- `explicitMatch`, with `none` for `null`. -/
def explicitMatch (observed : StrictSemverCore) : List JsString → m (Option Bool)
  | [] => pure (some false)
  | versionText :: rest => do
      let classified ← remember versionText
      match strictSemverCore classified with
      | none => pure none
      | some core =>
          match compareStrictSemverCores observed core with
          | .unknown => pure none
          | .equal => pure (some true)
          | _ => explicitMatch observed rest

/-- The accumulators of the range loop of `decideNpmAffectedness`. -/
structure DecisionState where
  includedCodes : List ExplanationCode
  excludedCodes : List ExplanationCode
  applicableRanges : Nat
  sawUnproven : Bool
  deriving DecidableEq

/-- The accumulators before the first range. -/
def DecisionState.initial : DecisionState := ⟨[], [], 0, false⟩

/-- One effect in the range loop; the error is an early return's code. -/
def DecisionState.add (s : DecisionState) : RangeEffect → Except ExplanationCode DecisionState
  | .contradictory => .error .unknownContradictoryEvents
  | .internal => .error .unknownInternalFailure
  | .inapplicable => .ok { s with sawUnproven := true }
  | .included codes =>
      .ok { s with
        includedCodes := s.includedCodes ++ codes
        applicableRanges := s.applicableRanges + 1 }
  | .excluded codes =>
      .ok { s with
        excludedCodes := s.excludedCodes ++ codes
        applicableRanges := s.applicableRanges + 1 }

/-- The range loop of `decideNpmAffectedness`. -/
def decideRanges (observed : StrictSemverCore) :
    List AdvisoryRangeDraft → DecisionState → m (Except ExplanationCode DecisionState)
  | [], s => pure (.ok s)
  | range :: rest, s => do
      let effect ← effectOfRange remember observed range
      match s.add effect with
      | .error code => pure (.error code)
      | .ok s => decideRanges observed rest s

/-- The decision after the range loop and the explicit versions. -/
def DecisionState.conclude (s : DecisionState) (matchedExplicit : Bool) : AffectedDecision :=
  if matchedExplicit ∨ s.includedCodes.length > 0 then
    ⟨.affected, s.includedCodes ++
      (if matchedExplicit then [.affectedExplicitVersionEqual] else [])⟩
  else if s.sawUnproven ∨ s.applicableRanges = 0 then
    ⟨.unknown, [.unknownIncompleteEvidence]⟩
  else ⟨.unaffected, s.excludedCodes ++ [.unaffectedOutsideAllRanges]⟩

/-- `decideNpmAffectedness`. -/
def decideNpmAffectedness (observed : ObservedVersionClassification)
    (ranges : List AdvisoryRangeDraft) (explicitVersions : List JsString) :
    m AffectedDecision :=
  match strictSemverCore observed with
  | none => pure ⟨.unknown, [.unknownInternalFailure]⟩
  | some observed => do
      let state ← decideRanges remember observed ranges .initial
      match state with
      | .error code => pure ⟨.unknown, [code]⟩
      | .ok s => do
          let matchedExplicit ← explicitMatch remember observed explicitVersions
          match matchedExplicit with
          | none => pure ⟨.unknown, [.unknownInternalFailure]⟩
          | some matchedExplicit => pure (s.conclude matchedExplicit)

end Remember

end PatchPilot.Matching
