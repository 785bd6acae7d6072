import PatchPilot.Matching.Published
import PatchPilot.Matching.Reasons

set_option autoImplicit false

/-!
# Matching: the reviewed evaluator (`product-match-evaluation/evaluate.ts`)

A reviewed advisory is evaluated with the same range decision as an untrusted
request, but its codes are only sorted before they are returned.  The table
`product_match_evaluation_explanation` stores one row for each code, and its
constraints ask for a small set without duplicates.

The outcome, the number of codes and their agreement are as the table wants them
for every input.  What can go wrong is a repetition: a code that two checks or
two ranges contribute is returned twice, and then nothing can be committed.
-/

namespace PatchPilot.Matching

open PatchPilot.Foundation

/-! ## The evaluator -/

/-- `CanonicalRangeEvent`. -/
structure CanonicalRangeEvent where
  name : JsString
  value : JsString
  deriving DecidableEq

/-- `CanonicalRange`. -/
structure CanonicalRange where
  type : JsString
  events : List CanonicalRangeEvent
  deriving DecidableEq

/-- The argument of `evaluateReviewedNpmRange`. -/
structure ReviewedNpmRangeInput where
  ns : Option JsString
  name : JsString
  rawObservedVersion : JsString
  ranges : List CanonicalRange
  deriving DecidableEq

/-- `ReviewedNpmRangeDecision`. -/
structure ReviewedNpmRangeDecision where
  outcome : Outcome
  explanationCodes : List ExplanationCode
  parsedVersionClassification : VersionClass
  deriving DecidableEq

/-- The draft of a stored range: one property for each event. -/
def CanonicalRange.draft (range : CanonicalRange) : AdvisoryRangeDraft where
  type := range.type
  events := range.events.map fun event => [(event.name, event.value)]

/-- The package identity is not evaluated. -/
def rejectsIdentity (ns : Option JsString) (name : JsString) : Bool :=
  name.length == 0 || ns.any (fun ns => ns.head? != some (unit '@'))

/-- `freezeDecision`: the codes are sorted by rank, and nothing else. -/
def freezeDecision (outcome : Outcome) (codes : List ExplanationCode)
    (parsedVersionClassification : VersionClass) : ReviewedNpmRangeDecision :=
  ⟨outcome, sortBy compareExplanationCodes codes, parsedVersionClassification⟩

section Remember

variable {m : Type → Type} [Monad m] (remember : JsString → m ObservedVersionClassification)

/-- The body of `evaluateReviewedNpmRange` for an accepted identity.  Nothing in
it can throw, so its `catch` is left out. -/
def evaluateRanges (rawObservedVersion : JsString) (drafts : List AdvisoryRangeDraft) :
    m ReviewedNpmRangeDecision := do
  let version ← remember rawObservedVersion
  let rangeClass ← classifyAffectedRangeStructure remember (js "SEMVER") drafts []
  let codes := versionCodes version ++ (rangeStructureCode rangeClass).toList
  if codes.length = 0 ∧ version.classification = .validStrictSemver then do
    let decision ← decideNpmAffectedness remember version drafts []
    pure (freezeDecision decision.outcome decision.codes version.classification)
  else
    pure (freezeDecision .unknown
      (if codes.length = 0 then [.unknownIncompleteEvidence] else codes)
      version.classification)

end Remember

/-- `evaluateReviewedNpmRange`. -/
def evaluateReviewedNpmRange (input : ReviewedNpmRangeInput) : ReviewedNpmRangeDecision :=
  if rejectsIdentity input.ns input.name then
    freezeDecision .unknown [.unknownInvalidPackageIdentity] .malformed
  else
    (evaluateRanges rememberObservedNpmVersion input.rawObservedVersion
      (input.ranges.map CanonicalRange.draft) Memo.empty).1

/-! ## The explanation rows -/

/-- A row of `product_match_evaluation_explanation`, within one evidence. -/
structure ExplanationRow where
  ordinal : Nat
  explanationCode : ExplanationCode
  deriving DecidableEq

/-- The rows `writeProductMatchEvaluationEvidence` creates. -/
def explanationRows (codes : List ExplanationCode) : List ExplanationRow :=
  codes.mapIdx fun index code => ⟨index + 1, code⟩

/-- `patchpilot_match_evaluation_code_outcome`. -/
def matchEvaluationCodeOutcome : ExplanationCode → Outcome
  | .affectedWithinIntroducedFixedRange => .affected
  | .affectedAtIntroducedBoundary => .affected
  | .affectedWithinLastAffectedRange => .affected
  | .affectedExplicitVersionEqual => .affected
  | .unaffectedBeforeIntroduced => .unaffected
  | .unaffectedAtOrAfterFixedBoundary => .unaffected
  | .unaffectedAfterLastAffected => .unaffected
  | .unaffectedOutsideAllRanges => .unaffected
  | _ => .unknown

/-- `patchpilot_product_match_explanations_complete` raises no exception. -/
def explanationsComplete (outcome : Outcome) (rows : List ExplanationRow) : Bool :=
  let ordinals := rows.map (·.ordinal)
  let codes := rows.map (·.explanationCode)
  (1 ≤ rows.length && rows.length ≤ 8) &&
  (ordinals.min? == some 1 && ordinals.max? == some rows.length &&
    rows.length == ordinals.dedup.length && rows.length == codes.dedup.length) &&
  rows.all (fun row => matchEvaluationCodeOutcome row.explanationCode == outcome)

/-- The rows of one evidence can be committed: the check on the ordinal, the two
unique indexes and the deferred trigger all pass. -/
structure CommitsExplanations (outcome : Outcome) (rows : List ExplanationRow) : Prop where
  ordinalCheck : ∀ row ∈ rows, 1 ≤ row.ordinal ∧ row.ordinal ≤ 8
  ordinalUnique : (rows.map (·.ordinal)).Nodup
  codeUnique : (rows.map (·.explanationCode)).Nodup
  complete : explanationsComplete outcome rows = true

/-- What the table wants of a decision. -/
structure StorableDecision (decision : ReviewedNpmRangeDecision) : Prop where
  nonempty : decision.explanationCodes ≠ []
  few : decision.explanationCodes.length ≤ 8
  ordered : CatalogOrdered decision.explanationCodes
  agree : ∀ code ∈ decision.explanationCodes, explanationOutcome code = decision.outcome

theorem matchEvaluationCodeOutcome_eq (code : ExplanationCode) :
    matchEvaluationCodeOutcome code = explanationOutcome code := by
  cases code <;> rfl

@[simp] theorem explanationRows_length (codes : List ExplanationCode) :
    (explanationRows codes).length = codes.length := by
  simp [explanationRows]

theorem explanationRows_codes (codes : List ExplanationCode) :
    (explanationRows codes).map (·.explanationCode) = codes := by
  refine List.ext_getElem (by simp) fun index _ _ => ?_
  simp [explanationRows]

theorem explanationRows_ordinals (codes : List ExplanationCode) :
    (explanationRows codes).map (·.ordinal) = List.range' 1 codes.length := by
  refine List.ext_getElem (by simp) fun index _ _ => ?_
  simp [explanationRows, Nat.add_comm]

theorem range'_min?_max? {n : Nat} (h : 1 ≤ n) :
    (List.range' 1 n).min? = some 1 ∧ (List.range' 1 n).max? = some n := by
  refine ⟨List.min?_eq_some_iff.mpr ⟨?_, ?_⟩, List.max?_eq_some_iff.mpr ⟨?_, ?_⟩⟩
  · rw [List.mem_range'_1]
    omega
  · intro k hk
    rw [List.mem_range'_1] at hk
    omega
  · rw [List.mem_range'_1]
    omega
  · intro k hk
    rw [List.mem_range'_1] at hk
    omega

/-- The rows of a storable decision can be committed. -/
theorem StorableDecision.commits {decision : ReviewedNpmRangeDecision}
    (h : StorableDecision decision) :
    CommitsExplanations decision.outcome (explanationRows decision.explanationCodes) := by
  obtain ⟨hnonempty, hfew, hordered, hagree⟩ := h
  have hpositive : 1 ≤ decision.explanationCodes.length := List.length_pos_iff.mpr hnonempty
  have hordinals := explanationRows_ordinals decision.explanationCodes
  have hcodes := explanationRows_codes decision.explanationCodes
  have hnodup : (List.range' 1 decision.explanationCodes.length).Nodup := List.nodup_range'
  obtain ⟨hmin, hmax⟩ := range'_min?_max? hpositive
  refine ⟨?_, ?_, ?_, ?_⟩
  · intro row hrow
    have hmem : row.ordinal ∈ List.range' 1 decision.explanationCodes.length :=
      hordinals ▸ List.mem_map_of_mem hrow
    rw [List.mem_range'_1] at hmem
    omega
  · rw [hordinals]
    exact hnodup
  · rw [hcodes]
    exact hordered.nodup
  · have hall : (explanationRows decision.explanationCodes).all
        (fun row => matchEvaluationCodeOutcome row.explanationCode == decision.outcome) =
          true := by
      refine List.all_eq_true.mpr fun row hrow => ?_
      have hmem : row.explanationCode ∈ decision.explanationCodes :=
        hcodes ▸ List.mem_map_of_mem hrow
      rw [matchEvaluationCodeOutcome_eq, hagree _ hmem]
      exact beq_self_eq_true _
    unfold explanationsComplete
    dsimp only
    rw [hall, hordinals, hcodes, hmin, hmax, hnodup.dedup, hordered.nodup.dedup]
    simp [hpositive, hfew]

/-! ## The decision, exit by exit -/

theorem evaluateRanges_returns (rawObservedVersion : JsString)
    (drafts : List AdvisoryRangeDraft) :
    Returns (evaluateRanges rememberObservedNpmVersion rawObservedVersion drafts)
      (evaluateRanges classifyEachTime rawObservedVersion drafts) := by
  unfold evaluateRanges
  refine Returns.bind_id (remember_returns_classifyEachTime _) fun version => ?_
  refine Returns.bind_id (classifyAffectedRangeStructure_returns _ _ _) fun rangeClass => ?_
  dsimp only
  split
  · exact Returns.bind_id (decideNpmAffectedness_returns _ _ _) fun _ => Returns.pure _
  · exact Returns.pure _

/-- The evaluation without a cache, as a value. -/
theorem evaluateRanges_eq (rawObservedVersion : JsString) (drafts : List AdvisoryRangeDraft)
    {version : ObservedVersionClassification} {rangeClass : RangeStructureClassification}
    (hversion : classifyObservedNpmVersion rawObservedVersion = version)
    (hrange : (classifyAffectedRangeStructure classifyEachTime (js "SEMVER") drafts [] :
      Id _) = rangeClass) :
    (evaluateRanges classifyEachTime rawObservedVersion drafts :
        Id ReviewedNpmRangeDecision) =
      if versionCodes version ++ (rangeStructureCode rangeClass).toList = [] then
        let decision : AffectedDecision :=
          (decideNpmAffectedness classifyEachTime version drafts [] : Id _)
        freezeDecision decision.outcome decision.codes version.classification
      else
        freezeDecision .unknown (versionCodes version ++ (rangeStructureCode rangeClass).toList)
          version.classification := by
  unfold evaluateRanges
  have hremembered : classifyEachTime rawObservedVersion = version := hversion
  rw [id_bind hremembered, id_bind hrange]
  dsimp only
  by_cases hcodes : versionCodes version ++ (rangeStructureCode rangeClass).toList = []
  · obtain ⟨hclass, -⟩ := checkCodes_eq_nil hcodes
    rw [if_pos hcodes, if_pos ⟨by rw [hcodes]; rfl, hclass⟩]
    rfl
  · have hlength : (versionCodes version ++ (rangeStructureCode rangeClass).toList).length ≠ 0 :=
      mt List.length_eq_zero_iff.mp hcodes
    rw [if_neg hcodes, if_neg fun h => hlength h.1, if_neg hlength]
    rfl

/-- For codes that are published as they are, sorting them is enough exactly when
none is repeated. -/
theorem storable_freezeDecision_iff {outcome : Outcome} {codes : List ExplanationCode}
    (h : Publishable outcome codes) (parsedVersionClassification : VersionClass) :
    StorableDecision (freezeDecision outcome codes parsedVersionClassification) ↔
      codes.Nodup := by
  have hperm : (sortBy compareExplanationCodes codes).Perm codes := sortBy_perm _ _
  constructor
  · intro hstorable
    exact (catalogOrdered_sortBy_iff codes).mp hstorable.ordered
  · intro hnodup
    have hfew := h.few
    rw [hnodup.dedup] at hfew
    refine ⟨?_, ?_, (catalogOrdered_sortBy_iff codes).mpr hnodup, ?_⟩
    · intro hnil
      have hempty : sortBy compareExplanationCodes codes = [] := hnil
      rw [hempty] at hperm
      exact h.nonempty hperm.symm.eq_nil
    · exact le_of_eq_of_le hperm.length_eq hfew
    · intro code hcode
      exact h.agree code (hperm.mem_iff.mp hcode)

/-- The two checks before the decision name the same reason only when both find a
text or a list too long. -/
theorem checkCodes_nodup_iff (version : ObservedVersionClassification)
    (rangeClass : RangeStructureClassification) :
    (versionCodes version ++ (rangeStructureCode rangeClass).toList).Nodup ↔
      ¬ (version.classification = .capacityExceeded ∧ rangeClass = .capacityExceeded) := by
  cases version <;> cases rangeClass <;>
    simp [versionCodes, rangeStructureCode, ObservedVersionClassification.classification]

/-- The reasons that the ranges of an accepted structure contribute to the decision
about `v` are pairwise different. -/
def RangeReasonsDiffer (v : StrictSemverCore) (drafts : List AdvisoryRangeDraft) : Prop :=
  (drafts.Pairwise fun left right =>
    provesInclusion v left → provesInclusion v right → ¬ ShareInclusionReason v left right) ∧
  ((∀ draft ∈ drafts, osvSweep v draft = false) →
    drafts.Pairwise fun left right => ¬ ShareExclusionReason v left right)

/-- The codes of the decision on consistent ranges. -/
theorem conclude_nodup_iff {drafts : List AdvisoryRangeDraft}
    (hwf : ∀ draft ∈ drafts, WellFormedRange draft)
    (hconsistent : ∀ draft ∈ drafts, ¬ IsContradictory draft) (v : StrictSemverCore) :
    ((decisionState v drafts).conclude false).codes.Nodup ↔ RangeReasonsDiffer v drafts := by
  have haccepted : AcceptedAdvisory drafts [] := ⟨hwf, hconsistent, by simp⟩
  have hincluded := decisionState_included haccepted v
  unfold DecisionState.conclude RangeReasonsDiffer
  by_cases hproves : ∃ draft ∈ drafts, provesInclusion v draft
  · have hsweeps : ¬ ∀ draft ∈ drafts, osvSweep v draft = false := by
      obtain ⟨draft, hdraft, hsweep, -⟩ := hproves
      intro hall
      rw [hall draft hdraft] at hsweep
      cases hsweep
    rw [if_pos (.inr (hincluded.mpr hproves))]
    simp only [Bool.false_eq_true, if_false, List.append_nil, hsweeps, false_imp_iff, and_true]
    exact includedCodes_nodup_iff hwf hconsistent v
  · have hnone : ∀ draft ∈ drafts, ¬ provesInclusion v draft :=
      fun draft hdraft hincludes => hproves ⟨draft, hdraft, hincludes⟩
    have hpairs : drafts.Pairwise fun left right =>
        provesInclusion v left → provesInclusion v right →
          ¬ ShareInclusionReason v left right :=
      List.pairwise_of_forall_mem_list fun left hleft right _ hincludes =>
        absurd hincludes (hnone left hleft)
    have hempty : ¬ (false = true ∨ (decisionState v drafts).includedCodes.length > 0) := by
      rintro (h | h)
      · cases h
      · exact hproves (hincluded.mp h)
    rw [if_neg hempty, and_iff_right hpairs]
    have hexcludes := decisionState_excludes hnone
    by_cases hunproven : (decisionState v drafts).sawUnproven = true ∨
        (decisionState v drafts).applicableRanges = 0
    · rw [if_pos hunproven, iff_true_intro (List.nodup_singleton _), true_iff]
      intro hsweeps
      cases drafts with
      | nil => exact .nil
      | cons draft rest =>
          exact absurd hunproven (hexcludes.mpr ⟨List.cons_ne_nil _ _, hsweeps⟩)
    · obtain ⟨-, hsweeps⟩ := hexcludes.mp hunproven
      rw [if_neg hunproven, excludedCodes_nodup_iff hwf hconsistent hsweeps]
      exact ⟨fun hpairs _ => hpairs, fun hpairs => hpairs hsweeps⟩

/-! ## When a decision can be stored -/

/-- No reason is repeated: the identity is not evaluated at all, or the two checks
do not both find something too long and, on an accepted and consistent structure,
the ranges contribute pairwise different reasons. -/
def NoReasonRepeats (input : ReviewedNpmRangeInput) : Prop :=
  let drafts := input.ranges.map CanonicalRange.draft
  let version := classifyObservedNpmVersion input.rawObservedVersion
  let rangeClass : RangeStructureClassification :=
    (classifyAffectedRangeStructure classifyEachTime (js "SEMVER") drafts [] : Id _)
  rejectsIdentity input.ns input.name = true ∨
    (¬ (version.classification = .capacityExceeded ∧ rangeClass = .capacityExceeded) ∧
      ∀ v, strictSemverCore version = some v → rangeClass = .wellFormed →
        (∀ draft ∈ drafts, ¬ IsContradictory draft) → RangeReasonsDiffer v drafts)

/-- The evaluation of an accepted identity is storable exactly when no reason is
repeated. -/
theorem evaluateRanges_storable_iff (rawObservedVersion : JsString)
    (drafts : List AdvisoryRangeDraft) {version : ObservedVersionClassification}
    {rangeClass : RangeStructureClassification}
    (hversion : classifyObservedNpmVersion rawObservedVersion = version)
    (hrange : (classifyAffectedRangeStructure classifyEachTime (js "SEMVER") drafts [] :
      Id _) = rangeClass) :
    StorableDecision (evaluateRanges classifyEachTime rawObservedVersion drafts :
        Id ReviewedNpmRangeDecision) ↔
      ¬ (version.classification = .capacityExceeded ∧ rangeClass = .capacityExceeded) ∧
        ∀ v, strictSemverCore version = some v → rangeClass = .wellFormed →
          (∀ draft ∈ drafts, ¬ IsContradictory draft) → RangeReasonsDiffer v drafts := by
  rw [evaluateRanges_eq rawObservedVersion drafts hversion hrange]
  by_cases hcodes : versionCodes version ++ (rangeStructureCode rangeClass).toList = []
  · -- both checks pass, and the decision supplies the codes
    obtain ⟨hclass, hwellFormed⟩ := checkCodes_eq_nil hcodes
    obtain ⟨hwf, hstrict⟩ :=
      classifyAffectedRangeStructure_wellFormed (hrange.trans hwellFormed)
    obtain ⟨v, hv⟩ := strictSemverCore_of_classification hclass
    rw [if_pos hcodes, decideNpmAffectedness_wellFormed hwf hstrict hv]
    have hcapacity : ¬ (version.classification = .capacityExceeded ∧
        rangeClass = .capacityExceeded) := by
      rw [hclass]
      rintro ⟨h, -⟩
      cases h
    rw [and_iff_right hcapacity]
    by_cases hcontra : ∃ draft ∈ drafts, IsContradictory draft
    · dsimp only
      rw [if_pos hcontra, storable_freezeDecision_iff
        (.unknown_singleton (by decide) (by decide))]
      refine iff_of_true (List.nodup_singleton _) fun _ _ _ hconsistent => ?_
      obtain ⟨draft, hdraft, h⟩ := hcontra
      exact absurd h (hconsistent draft hdraft)
    · have hconsistent : ∀ draft ∈ drafts, ¬ IsContradictory draft :=
        fun draft hdraft h => hcontra ⟨draft, hdraft, h⟩
      dsimp only
      rw [if_neg hcontra, storable_freezeDecision_iff (conclude_publishable _), List.any_nil,
        conclude_nodup_iff hwf hconsistent v]
      constructor
      · intro hdiffer w hw _ _
        rw [hv] at hw
        exact Option.some.inj hw ▸ hdiffer
      · intro h
        exact h v hv hwellFormed hconsistent
  · rw [if_neg hcodes, storable_freezeDecision_iff (checkCodes_publishable hcodes),
      checkCodes_nodup_iff]
    refine (and_iff_left fun v hv hwellFormed => ?_).symm
    -- a strict version of a well-formed structure has no code yet
    refine absurd ?_ hcodes
    rw [hwellFormed]
    cases version with
    | validStrictSemver semver => rfl
    | _ => cases hv

/-- A reviewed decision is what the explanation table wants, and its rows can be
committed, exactly when no reason is repeated. -/
theorem evaluateReviewedNpmRange_storable_iff (input : ReviewedNpmRangeInput) :
    (StorableDecision (evaluateReviewedNpmRange input) ∧
      CommitsExplanations (evaluateReviewedNpmRange input).outcome
        (explanationRows (evaluateReviewedNpmRange input).explanationCodes)) ↔
      NoReasonRepeats input := by
  have hcommits : (StorableDecision (evaluateReviewedNpmRange input) ∧
      CommitsExplanations (evaluateReviewedNpmRange input).outcome
        (explanationRows (evaluateReviewedNpmRange input).explanationCodes)) ↔
      StorableDecision (evaluateReviewedNpmRange input) :=
    and_iff_left_of_imp StorableDecision.commits
  rw [hcommits]
  unfold evaluateReviewedNpmRange NoReasonRepeats
  by_cases hidentity : rejectsIdentity input.ns input.name = true
  · rw [if_pos hidentity, storable_freezeDecision_iff
      (.unknown_singleton (by decide) (by decide))]
    exact iff_of_true (List.nodup_singleton _) (.inl hidentity)
  · rw [if_neg hidentity, (evaluateRanges_returns _ _).eq, evaluateRanges_storable_iff _ _ rfl rfl]
    exact (or_iff_right hidentity).symm

/-- Two fixed lines of a package: the version is past the fix of both. -/
def sampleReviewedInput : ReviewedNpmRangeInput where
  ns := none
  name := js "left-pad"
  rawObservedVersion := js "3.0.0"
  ranges :=
    [⟨js "SEMVER", [⟨js "introduced", js "1.0.0"⟩, ⟨js "fixed", js "1.2.0"⟩]⟩,
     ⟨js "SEMVER", [⟨js "introduced", js "2.0.0"⟩, ⟨js "fixed", js "2.3.0"⟩]⟩]

/-- The reason is returned twice, and the rows break the unique index. -/
theorem evaluateReviewedNpmRange_not_storable :
    (evaluateReviewedNpmRange sampleReviewedInput).explanationCodes =
        [.unaffectedAtOrAfterFixedBoundary, .unaffectedAtOrAfterFixedBoundary,
          .unaffectedOutsideAllRanges] ∧
      ¬ StorableDecision (evaluateReviewedNpmRange sampleReviewedInput) ∧
      ¬ CommitsExplanations (evaluateReviewedNpmRange sampleReviewedInput).outcome
        (explanationRows (evaluateReviewedNpmRange sampleReviewedInput).explanationCodes) := by
  have hcodes : (evaluateReviewedNpmRange sampleReviewedInput).explanationCodes =
      [.unaffectedAtOrAfterFixedBoundary, .unaffectedAtOrAfterFixedBoundary,
        .unaffectedOutsideAllRanges] := by
    decide +kernel
  refine ⟨hcodes, ?_, ?_⟩
  · intro h
    have hordered := h.ordered
    rw [hcodes] at hordered
    revert hordered
    decide
  · intro h
    have hunique := h.codeUnique
    rw [hcodes] at hunique
    revert hunique
    decide

end PatchPilot.Matching
