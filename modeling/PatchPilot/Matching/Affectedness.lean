import PatchPilot.Matching.Effect

set_option autoImplicit false

/-!
# Matching: the decision is the OSV reference algorithm

`decideNpmAffectedness` unites the effects of the ranges with the explicit
versions.  On an accepted structure without a contradictory range it publishes
what the OSV reference algorithm publishes: *affected* when an explicit version
is equal or some sweep ends vulnerable below its limit, *unaffected* when there
is a range and every sweep ends not vulnerable, *unknown* otherwise.
-/

namespace PatchPilot.Matching

open PatchPilot.Foundation

/-! ## The cache does not change the decision -/

theorem explicitMatch_returns (observed : StrictSemverCore) (versions : List JsString) :
    Returns (explicitMatch rememberObservedNpmVersion observed versions)
      (explicitMatch classifyEachTime observed versions) := by
  induction versions with
  | nil => exact Returns.pure _
  | cons version rest ih =>
      unfold explicitMatch
      refine Returns.bind_id (remember_returns_classifyEachTime version) fun classified => ?_
      split
      · exact Returns.pure _
      · split
        · exact Returns.pure _
        · exact Returns.pure _
        · exact ih

theorem decideRanges_returns (observed : StrictSemverCore)
    (ranges : List AdvisoryRangeDraft) (s : DecisionState) :
    Returns (decideRanges rememberObservedNpmVersion observed ranges s)
      (decideRanges classifyEachTime observed ranges s) := by
  induction ranges generalizing s with
  | nil => exact Returns.pure _
  | cons range rest ih =>
      unfold decideRanges
      refine Returns.bind_id (effectOfRange_returns observed range) fun effect => ?_
      split
      · exact Returns.pure _
      · exact ih _

/-- The decision does not depend on what the version cache holds. -/
theorem decideNpmAffectedness_returns (observed : ObservedVersionClassification)
    (ranges : List AdvisoryRangeDraft) (explicitVersions : List JsString) :
    Returns (decideNpmAffectedness rememberObservedNpmVersion observed ranges
        explicitVersions)
      (decideNpmAffectedness classifyEachTime observed ranges explicitVersions) := by
  unfold decideNpmAffectedness
  split
  · exact Returns.pure _
  · refine Returns.bind_id (decideRanges_returns _ _ _) fun state => ?_
    cases state with
    | error code => exact Returns.pure _
    | ok s =>
        refine Returns.bind_id (explicitMatch_returns _ _) fun matched => ?_
        cases matched <;> exact Returns.pure _

/-! ## The range loop -/

/-- The codes an effect adds to the included ones. -/
def RangeEffect.includedCodes : RangeEffect → List ExplanationCode
  | .included codes => codes
  | _ => []

/-- The codes an effect adds to the excluded ones. -/
def RangeEffect.excludedCodes : RangeEffect → List ExplanationCode
  | .excluded codes => codes
  | _ => []

/-- The effect neither ends the decision early nor leaves the range unproven. -/
def RangeEffect.isApplicable : RangeEffect → Bool
  | .included _ => true
  | .excluded _ => true
  | _ => false

/-- The effect does not end the decision early. -/
def RangeEffect.continues : RangeEffect → Bool
  | .contradictory => false
  | .internal => false
  | _ => true

theorem decideRanges_eq_fold (v : StrictSemverCore) :
    ∀ (ranges : List AdvisoryRangeDraft) (s : DecisionState),
      (decideRanges classifyEachTime v ranges s : Id _) =
        (ranges.map (fun range => (effectOfRange classifyEachTime v range : Id RangeEffect))).foldlM
          DecisionState.add s := by
  intro ranges
  induction ranges with
  | nil =>
      intro s
      rfl
  | cons range rest ih =>
      intro s
      rw [decideRanges, List.map_cons, List.foldlM_cons, id_bind rfl]
      cases DecisionState.add s (effectOfRange classifyEachTime v range) with
      | error code => rfl
      | ok s' => exact ih s'

/-- The accumulators after effects that all continue the loop. -/
theorem foldlM_add :
    ∀ (effects : List RangeEffect) (s : DecisionState),
      (∀ effect ∈ effects, effect.continues = true) →
      effects.foldlM DecisionState.add s =
        (.ok ⟨s.includedCodes ++ effects.flatMap RangeEffect.includedCodes,
          s.excludedCodes ++ effects.flatMap RangeEffect.excludedCodes,
          s.applicableRanges + effects.countP RangeEffect.isApplicable,
          s.sawUnproven || effects.any (!·.isApplicable)⟩ :
          Except ExplanationCode DecisionState) := by
  intro effects
  induction effects with
  | nil =>
      intro s _
      simp
      rfl
  | cons effect rest ih =>
      intro s hcontinues
      have hrest : ∀ e ∈ rest, e.continues = true :=
        fun e he => hcontinues e (List.mem_cons_of_mem _ he)
      have hhead : effect.continues = true := hcontinues effect (by simp)
      rw [List.foldlM_cons]
      cases effect with
      | contradictory => cases hhead
      | internal => cases hhead
      | inapplicable =>
          refine (ih _ hrest).trans ?_
          simp [RangeEffect.includedCodes, RangeEffect.excludedCodes,
            RangeEffect.isApplicable]
      | included codes =>
          refine (ih _ hrest).trans ?_
          simp [RangeEffect.includedCodes, RangeEffect.excludedCodes,
            RangeEffect.isApplicable, List.countP_cons]
          omega
      | excluded codes =>
          refine (ih _ hrest).trans ?_
          simp [RangeEffect.includedCodes, RangeEffect.excludedCodes,
            RangeEffect.isApplicable, List.countP_cons]
          omega

/-- A contradictory effect ends the loop with its code when every other effect
continues it. -/
theorem foldlM_add_contradictory :
    ∀ (effects : List RangeEffect) (s : DecisionState),
      (∀ effect ∈ effects, effect.continues = true ∨ effect = .contradictory) →
      .contradictory ∈ effects →
      effects.foldlM DecisionState.add s =
        (.error .unknownContradictoryEvents : Except ExplanationCode DecisionState) := by
  intro effects
  induction effects with
  | nil =>
      intro s _ hmem
      cases hmem
  | cons effect rest ih =>
      intro s hall hmem
      have hrest : ∀ e ∈ rest, e.continues = true ∨ e = .contradictory :=
        fun e he => hall e (List.mem_cons_of_mem _ he)
      rw [List.foldlM_cons]
      cases effect with
      | contradictory => rfl
      | internal => rcases hall .internal (by simp) with h | h <;> cases h
      | inapplicable => exact ih _ hrest (by simpa using hmem)
      | included codes => exact ih _ hrest (by simpa using hmem)
      | excluded codes => exact ih _ hrest (by simpa using hmem)

/-! ## Explicit versions -/

/-- The version text has the same precedence as `v`. -/
def hasEqualPrecedence (v : StrictSemverCore) (versionText : JsString) : Bool :=
  (strictSemverCore (classifyObservedNpmVersion versionText)).any
    (fun core => compareStrictSemverCores v core == .equal)

theorem explicitMatch_eq (v : StrictSemverCore) :
    ∀ versions : List JsString,
      (∀ version ∈ versions, ∃ semver,
        classifyObservedNpmVersion version = .validStrictSemver semver) →
      (explicitMatch classifyEachTime v versions : Id _) =
        some (versions.any (hasEqualPrecedence v)) := by
  intro versions
  induction versions with
  | nil =>
      intro _
      rfl
  | cons version rest ih =>
      intro hstrict
      obtain ⟨semver, hsemver⟩ := hstrict version (by simp)
      have hrest := ih fun w hw => hstrict w (List.mem_cons_of_mem _ hw)
      rw [explicitMatch, classifyEachTime_eq, pure_bind, hsemver]
      simp only [List.any_cons, hasEqualPrecedence, hsemver, strictSemverCore,
        Option.any_some, compareStrictSemverCores_eq]
      cases cmpCore v _ with
      | lt => exact hrest
      | eq => rfl
      | gt => exact hrest

/-! ## The decision on an accepted structure -/

/-- Ranges and explicit versions the structure check accepts and in which no
range is contradictory. -/
structure AcceptedAdvisory (ranges : List AdvisoryRangeDraft)
    (explicitVersions : List JsString) : Prop where
  wellFormed : ∀ range ∈ ranges, WellFormedRange range
  consistent : ∀ range ∈ ranges, ¬ IsContradictory range
  strict : ∀ version ∈ explicitVersions, ∃ semver,
    classifyObservedNpmVersion version = .validStrictSemver semver

/-- The effect of a range as the sweep decides it. -/
def rangeEffect (v : StrictSemverCore) (range : AdvisoryRangeDraft) : RangeEffect :=
  if osvSweep v range then
    if belowLimit v range then
      .included ((rangeIntervals range).flatMap (inclusionReasons (.version v)))
    else .inapplicable
  else .excluded (exclusionFlags (.version v) (rangeIntervals range)).codes

theorem rangeEffect_continues (v : StrictSemverCore) (range : AdvisoryRangeDraft) :
    (rangeEffect v range).continues = true := by
  unfold rangeEffect
  split
  · split <;> rfl
  · rfl

/-- The accumulators of the decision, in terms of the sweeps. -/
def decisionState (v : StrictSemverCore) (ranges : List AdvisoryRangeDraft) :
    DecisionState :=
  let effects := ranges.map (rangeEffect v)
  ⟨effects.flatMap RangeEffect.includedCodes, effects.flatMap RangeEffect.excludedCodes,
    effects.countP RangeEffect.isApplicable, effects.any (!·.isApplicable)⟩

/-- The range loop on well-formed ranges: it stops at a contradictory range, and
otherwise reads every range by its sweep. -/
theorem decideRanges_wellFormed {ranges : List AdvisoryRangeDraft}
    (hwf : ∀ range ∈ ranges, WellFormedRange range) (v : StrictSemverCore) :
    (decideRanges classifyEachTime v ranges .initial : Id _) =
      if ∃ range ∈ ranges, IsContradictory range then .error .unknownContradictoryEvents
      else .ok (decisionState v ranges) := by
  rw [decideRanges_eq_fold]
  split
  · rename_i hcontra
    refine foldlM_add_contradictory _ _ ?_ ?_
    · intro effect heffect
      obtain ⟨range, hrange, rfl⟩ := List.mem_map.mp heffect
      by_cases h : IsContradictory range
      · exact .inr (effectOfRange_contradictory h v)
      · left
        rw [effectOfRange_eq (hwf range hrange) h v]
        exact rangeEffect_continues v range
    · obtain ⟨range, hrange, h⟩ := hcontra
      exact List.mem_map.mpr ⟨range, hrange, effectOfRange_contradictory h v⟩
  · rename_i hconsistent
    push Not at hconsistent
    have heffects :
        ranges.map (fun range =>
          (effectOfRange classifyEachTime v range : Id RangeEffect)) =
          ranges.map (rangeEffect v) :=
      List.map_congr_left fun range hrange =>
        effectOfRange_eq (hwf range hrange) (hconsistent range hrange) v
    rw [heffects, foldlM_add]
    · simp [decisionState, DecisionState.initial]
    · intro effect heffect
      obtain ⟨range, -, rfl⟩ := List.mem_map.mp heffect
      exact rangeEffect_continues v range

/-- The decision on a well-formed structure, with every internal failure
discharged. -/
theorem decideNpmAffectedness_wellFormed {ranges : List AdvisoryRangeDraft}
    {explicitVersions : List JsString} (hwf : ∀ range ∈ ranges, WellFormedRange range)
    (hstrict : ∀ version ∈ explicitVersions, ∃ semver,
      classifyObservedNpmVersion version = .validStrictSemver semver)
    {observed : ObservedVersionClassification} {v : StrictSemverCore}
    (hobserved : strictSemverCore observed = some v) :
    (decideNpmAffectedness classifyEachTime observed ranges explicitVersions : Id _) =
      if ∃ range ∈ ranges, IsContradictory range then
        ⟨.unknown, [.unknownContradictoryEvents]⟩
      else
        (decisionState v ranges).conclude
          (explicitVersions.any (hasEqualPrecedence v)) := by
  unfold decideNpmAffectedness
  rw [hobserved]
  dsimp only
  rw [id_bind (decideRanges_wellFormed hwf v)]
  by_cases hcontra : ∃ range ∈ ranges, IsContradictory range
  · simp only [if_pos hcontra]
    rfl
  · simp only [if_neg hcontra]
    rw [id_bind (explicitMatch_eq v explicitVersions hstrict)]
    rfl

/-- The decision on an accepted structure, with every early return discharged. -/
theorem decideNpmAffectedness_eq {ranges : List AdvisoryRangeDraft}
    {explicitVersions : List JsString} (h : AcceptedAdvisory ranges explicitVersions)
    {observed : ObservedVersionClassification} {v : StrictSemverCore}
    (hobserved : strictSemverCore observed = some v) :
    (decideNpmAffectedness classifyEachTime observed ranges explicitVersions : Id _) =
      (decisionState v ranges).conclude (explicitVersions.any (hasEqualPrecedence v)) := by
  rw [decideNpmAffectedness_wellFormed h.wellFormed h.strict hobserved, if_neg]
  rintro ⟨range, hrange, hcontra⟩
  exact h.consistent range hrange hcontra

/-- Acceptance, from the two checks as the code makes them with any caches. -/
theorem acceptedAdvisory_of_checks {rangeType : JsString}
    {ranges : List AdvisoryRangeDraft} {explicitVersions : List JsString}
    {structureCache compileCache : VersionCache}
    (hstructure : (classifyAffectedRangeStructure rememberObservedNpmVersion rangeType
      ranges explicitVersions structureCache).1 = .wellFormed)
    (hcompile : ∀ range ∈ ranges,
      (compileRange rememberObservedNpmVersion range.events compileCache).1 ≠
        .error .contradictory) :
    AcceptedAdvisory ranges explicitVersions := by
  rw [(classifyAffectedRangeStructure_returns rangeType ranges explicitVersions).eq]
    at hstructure
  obtain ⟨hranges, hstrict⟩ := classifyAffectedRangeStructure_wellFormed hstructure
  refine ⟨hranges, ?_, hstrict⟩
  intro range hrange hcontra
  refine hcompile range hrange ?_
  rw [(compileRange_returns range.events).eq]
  exact hcontra

/-! ## The outcome -/

/-- Some range's sweep ends vulnerable with the version below the limit. -/
def provesInclusion (v : StrictSemverCore) (range : AdvisoryRangeDraft) : Prop :=
  osvSweep v range = true ∧ belowLimit v range = true

instance (v : StrictSemverCore) (range : AdvisoryRangeDraft) :
    Decidable (provesInclusion v range) :=
  inferInstanceAs (Decidable (_ ∧ _))

theorem rangeEffect_included_iff {v : StrictSemverCore} {range : AdvisoryRangeDraft}
    (hwf : WellFormedRange range) (hcontra : ¬ IsContradictory range) :
    (rangeEffect v range).includedCodes ≠ [] ↔ provesInclusion v range := by
  unfold rangeEffect provesInclusion
  cases hsweep : osvSweep v range with
  | false => simp [RangeEffect.includedCodes]
  | true =>
      cases hlimit : belowLimit v range with
      | false => simp [RangeEffect.includedCodes]
      | true =>
          obtain ⟨-, htimeline⟩ := compileRange_cases hwf hcontra
          obtain ⟨i, hi, hcontains⟩ := (sweep_iff_cover htimeline).mp hsweep
          simp only [if_true, RangeEffect.includedCodes, ne_eq, List.flatMap_eq_nil_iff,
            and_self, iff_true]
          exact fun hall => inclusionReasons_ne_nil hcontains (hall i hi)

theorem rangeEffect_isApplicable (v : StrictSemverCore) (range : AdvisoryRangeDraft) :
    (rangeEffect v range).isApplicable = (!osvSweep v range || belowLimit v range) := by
  unfold rangeEffect
  cases osvSweep v range <;> cases belowLimit v range <;> rfl

theorem decisionState_included {ranges : List AdvisoryRangeDraft}
    {explicitVersions : List JsString} (h : AcceptedAdvisory ranges explicitVersions)
    (v : StrictSemverCore) :
    (decisionState v ranges).includedCodes.length > 0 ↔
      ∃ range ∈ ranges, provesInclusion v range := by
  rw [gt_iff_lt, List.length_pos_iff]
  simp only [decisionState, ne_eq, List.flatMap_eq_nil_iff, List.mem_map,
    forall_exists_index, and_imp, forall_apply_eq_imp_iff₂, not_forall]
  constructor
  · rintro ⟨range, hrange, hne⟩
    exact ⟨range, hrange, (rangeEffect_included_iff (h.wellFormed range hrange)
      (h.consistent range hrange)).mp hne⟩
  · rintro ⟨range, hrange, hproves⟩
    exact ⟨range, hrange, (rangeEffect_included_iff (h.wellFormed range hrange)
      (h.consistent range hrange)).mpr hproves⟩

/-- Nothing is left unproven and something is applicable, when no range proves
inclusion: there is a range, and every sweep ends not vulnerable. -/
theorem decisionState_excludes {v : StrictSemverCore} {ranges : List AdvisoryRangeDraft}
    (hnone : ∀ range ∈ ranges, ¬ provesInclusion v range) :
    ¬ ((decisionState v ranges).sawUnproven = true ∨
        (decisionState v ranges).applicableRanges = 0) ↔
      ranges ≠ [] ∧ ∀ range ∈ ranges, osvSweep v range = false := by
  have happlicable : ∀ range ∈ ranges,
      (rangeEffect v range).isApplicable = !osvSweep v range := by
    intro range hrange
    have := hnone range hrange
    rw [rangeEffect_isApplicable]
    unfold provesInclusion at this
    cases hs : osvSweep v range <;> cases hb : belowLimit v range <;> simp_all
  constructor
  · intro hproven
    obtain ⟨hsaw, hcount⟩ := not_or.mp hproven
    refine ⟨?_, ?_⟩
    · rintro rfl
      exact hcount rfl
    · intro range hrange
      have happ : (rangeEffect v range).isApplicable = true := by
        simpa using List.any_eq_false.mp (Bool.eq_false_iff.mpr hsaw) _
          (List.mem_map_of_mem hrange)
      rw [happlicable range hrange] at happ
      simpa using happ
  · rintro ⟨hne, hall⟩ (hsaw | hcount)
    · obtain ⟨effect, heffect, happ⟩ := List.any_eq_true.mp hsaw
      obtain ⟨range, hrange, rfl⟩ := List.mem_map.mp heffect
      rw [happlicable range hrange, hall range hrange] at happ
      cases happ
    · obtain ⟨range, hrange⟩ := List.exists_mem_of_ne_nil ranges hne
      have happ := List.countP_eq_zero.mp hcount _ (List.mem_map_of_mem hrange)
      rw [happlicable range hrange, hall range hrange] at happ
      exact happ rfl

theorem conclude_outcome (s : DecisionState) (matchedExplicit : Bool) :
    (s.conclude matchedExplicit).outcome =
      if matchedExplicit = true ∨ s.includedCodes.length > 0 then .affected
      else if s.sawUnproven = true ∨ s.applicableRanges = 0 then .unknown
      else .unaffected := by
  unfold DecisionState.conclude
  split
  · rfl
  · split <;> rfl

/-- On an accepted structure without a contradictory range the decision is the
OSV reference algorithm, whatever the version caches hold. -/
theorem decideNpmAffectedness_refines_osv (observed : ObservedVersionClassification)
    (v : StrictSemverCore) (rangeType : JsString) (ranges : List AdvisoryRangeDraft)
    (explicitVersions : List JsString)
    (structureCache compileCache decisionCache : VersionCache)
    (hobserved : strictSemverCore observed = some v)
    (hstructure : (classifyAffectedRangeStructure rememberObservedNpmVersion rangeType
      ranges explicitVersions structureCache).1 = .wellFormed)
    (hcompile : ∀ range ∈ ranges,
      (compileRange rememberObservedNpmVersion range.events compileCache).1 ≠
        .error .contradictory) :
    let decision := (decideNpmAffectedness rememberObservedNpmVersion observed ranges
      explicitVersions decisionCache).1
    let affected :=
      (∃ version ∈ explicitVersions, hasEqualPrecedence v version = true) ∨
        ∃ range ∈ ranges, osvSweep v range = true ∧ belowLimit v range = true
    let unaffected :=
      ranges ≠ [] ∧ (∀ version ∈ explicitVersions, hasEqualPrecedence v version = false) ∧
        ∀ range ∈ ranges, osvSweep v range = false
    (decision.outcome = .affected ↔ affected) ∧
      (decision.outcome = .unaffected ↔ unaffected) ∧
      (decision.outcome = .unknown ↔ ¬ affected ∧ ¬ unaffected) := by
  intro decision affected unaffected
  have haccepted := acceptedAdvisory_of_checks hstructure hcompile
  have hdecision : decision =
      (decisionState v ranges).conclude (explicitVersions.any (hasEqualPrecedence v)) := by
    rw [← decideNpmAffectedness_eq haccepted hobserved]
    exact (decideNpmAffectedness_returns observed ranges explicitVersions).eq decisionCache
  have haffected : affected ↔
      explicitVersions.any (hasEqualPrecedence v) = true ∨
        (decisionState v ranges).includedCodes.length > 0 := by
    rw [decisionState_included haccepted, List.any_eq_true]
    rfl
  rw [hdecision, conclude_outcome]
  by_cases hincluded : affected
  · have hnot : ¬ unaffected := by
      rintro ⟨-, hexplicit, hsweeps⟩
      rcases hincluded with ⟨version, hversion, heq⟩ | ⟨range, hrange, hsweep, -⟩
      · rw [hexplicit version hversion] at heq
        cases heq
      · rw [hsweeps range hrange] at hsweep
        cases hsweep
    rw [if_pos (haffected.mp hincluded)]
    simp [hincluded, hnot]
  · have hnone : ∀ range ∈ ranges, ¬ provesInclusion v range :=
      fun range hrange hproves => hincluded (.inr ⟨range, hrange, hproves⟩)
    have hexplicit : ∀ version ∈ explicitVersions, hasEqualPrecedence v version = false :=
      fun version hversion => Bool.eq_false_iff.mpr fun heq =>
        hincluded (.inl ⟨version, hversion, heq⟩)
    have hunaffected : unaffected ↔ _ := (and_congr_right fun _ =>
      and_iff_right hexplicit).trans (decisionState_excludes hnone).symm
    rw [if_neg (mt haffected.mpr hincluded)]
    by_cases hunproven : (decisionState v ranges).sawUnproven = true ∨
        (decisionState v ranges).applicableRanges = 0
    · have hnot : ¬ unaffected := fun hu => hunaffected.mp hu hunproven
      simp [hunproven, hincluded, hnot]
    · have hyes : unaffected := hunaffected.mpr hunproven
      simp [hunproven, hincluded, hyes]

/-- One range with a fix and a limit, for which the hypotheses of the refinement
hold. -/
def sampleRange : AdvisoryRangeDraft where
  type := js "SEMVER"
  events := [[(js "introduced", js "0")], [(js "fixed", js "1.2.0")],
    [(js "introduced", js "2.0.0")], [(js "limit", js "3.0.0")]]

theorem decideNpmAffectedness_refines_osv_sample :
    (strictSemverCore (classifyObservedNpmVersion (js "2.1.0")) =
        some ⟨js "2", js "1", js "0", none⟩) ∧
      ((decideNpmAffectedness rememberObservedNpmVersion
          (classifyObservedNpmVersion (js "2.1.0")) [sampleRange] [js "1.9.0"]
          Memo.empty).1.outcome = .affected ↔
        (∃ version ∈ [js "1.9.0"],
          hasEqualPrecedence ⟨js "2", js "1", js "0", none⟩ version = true) ∨
        ∃ range ∈ [sampleRange],
          osvSweep ⟨js "2", js "1", js "0", none⟩ range = true ∧
            belowLimit ⟨js "2", js "1", js "0", none⟩ range = true) :=
  ⟨by decide, (decideNpmAffectedness_refines_osv _ _ (js "SEMVER") [sampleRange]
    [js "1.9.0"] Memo.empty Memo.empty Memo.empty (by decide) (by decide)
    (by decide)).1⟩

end PatchPilot.Matching
