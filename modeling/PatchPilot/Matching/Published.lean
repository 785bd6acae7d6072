import PatchPilot.Matching.Assess

set_option autoImplicit false

/-!
# Matching: what published evidence guarantees

Every exit of the evaluator supplies an outcome, codes and a lifecycle path.
`Publishable` is what an exit owes to `evidence`: codes of the supplied outcome,
at least one and few enough, and a walk that ends in the outcome's node.  Each
exit pays it, so the blocked branch of `evidence` and the internal failures of
the decision are unreachable.
-/

namespace PatchPilot.Matching

open PatchPilot.Foundation

/-! ## Codes of a decision -/

theorem inclusionReasons_outcome {v : VersionBound} {i : AffectedInterval VersionBound}
    {code : ExplanationCode} (h : code ∈ inclusionReasons v i) :
    explanationOutcome code = .affected := by
  unfold inclusionReasons at h
  split at h
  · rcases List.mem_append.mp h with h | h
    · split at h
      · rw [List.mem_singleton.mp h]
        decide
      · cases h
    · split at h <;> (rw [List.mem_singleton.mp h]; decide)
  · cases h

theorem exclusionFlags_codes_outcome {flags : ExclusionFlags} {code : ExplanationCode}
    (h : code ∈ flags.codes) : explanationOutcome code = .unaffected := by
  obtain ⟨before, fixed, last⟩ := flags
  revert h
  cases before <;> cases fixed <;> cases last <;> revert code <;> decide

theorem decisionState_included_outcome {v : StrictSemverCore}
    {ranges : List AdvisoryRangeDraft} {code : ExplanationCode}
    (h : code ∈ (decisionState v ranges).includedCodes) :
    explanationOutcome code = .affected := by
  obtain ⟨effect, heffect, hcode⟩ := List.mem_flatMap.mp h
  obtain ⟨range, -, rfl⟩ := List.mem_map.mp heffect
  unfold rangeEffect at hcode
  split at hcode
  · split at hcode
    · obtain ⟨i, -, hi⟩ := List.mem_flatMap.mp hcode
      exact inclusionReasons_outcome hi
    · cases hcode
  · cases hcode

theorem decisionState_excluded_outcome {v : StrictSemverCore}
    {ranges : List AdvisoryRangeDraft} {code : ExplanationCode}
    (h : code ∈ (decisionState v ranges).excludedCodes) :
    explanationOutcome code = .unaffected := by
  obtain ⟨effect, heffect, hcode⟩ := List.mem_flatMap.mp h
  obtain ⟨range, -, rfl⟩ := List.mem_map.mp heffect
  unfold rangeEffect at hcode
  split at hcode
  · split at hcode <;> cases hcode
  · exact exclusionFlags_codes_outcome hcode

/-! ## What an exit owes -/

/-- Codes that `evidence` publishes as they are. -/
structure Publishable (outcome : Outcome) (codes : List ExplanationCode) : Prop where
  nonempty : codes ≠ []
  agree : ∀ code ∈ codes, explanationOutcome code = outcome
  few : codes.dedup.length ≤ firstEcosystemMaxExplanationCodes
  noInternal : .unknownInternalFailure ∉ codes

/-- The codes of one outcome other than `unknown` are never too many. -/
theorem few_of_agree {outcome : Outcome} {codes : List ExplanationCode}
    (hagree : ∀ code ∈ codes, explanationOutcome code = outcome)
    (hknown : outcome ≠ .unknown) :
    codes.dedup.length ≤ firstEcosystemMaxExplanationCodes := by
  have hsubset : codes.dedup ⊆ affectedExplanations ++ unaffectedExplanations := by
    intro code hcode
    have houtcome := hagree code (List.mem_dedup.mp hcode)
    revert houtcome
    cases outcome with
    | unknown => exact absurd rfl hknown
    | affected => cases code <;> decide
    | unaffected => cases code <;> decide
  exact (List.nodup_dedup codes).length_le_of_subset hsubset

theorem Publishable.of_known {outcome : Outcome} {codes : List ExplanationCode}
    (hnonempty : codes ≠ []) (hagree : ∀ code ∈ codes, explanationOutcome code = outcome)
    (hknown : outcome ≠ .unknown) : Publishable outcome codes where
  nonempty := hnonempty
  agree := hagree
  few := few_of_agree hagree hknown
  noInternal hmem := hknown (hagree _ hmem).symm

theorem Publishable.unknown_singleton {code : ExplanationCode}
    (hunknown : explanationOutcome code = .unknown)
    (hinternal : code ≠ .unknownInternalFailure) : Publishable .unknown [code] where
  nonempty := by simp
  agree := by simpa using hunknown
  few := by
    rw [List.dedup_eq_self.mpr (List.nodup_singleton code)]
    simp [firstEcosystemMaxExplanationCodes]
  noInternal := by simpa using hinternal.symm

/-- The decision on a well-formed structure is publishable. -/
theorem conclude_publishable {v : StrictSemverCore} {ranges : List AdvisoryRangeDraft}
    (matchedExplicit : Bool) :
    Publishable ((decisionState v ranges).conclude matchedExplicit).outcome
      ((decisionState v ranges).conclude matchedExplicit).codes := by
  unfold DecisionState.conclude
  split
  · rename_i haffected
    refine .of_known ?_ ?_ Outcome.noConfusion
    · rcases haffected with rfl | hlength
      · simp
      · have hne := List.length_pos_iff.mp hlength
        simp [hne]
    · intro code hcode
      rcases List.mem_append.mp hcode with h | h
      · exact decisionState_included_outcome h
      · split at h
        · rw [List.mem_singleton.mp h]
          rfl
        · cases h
  · split
    · exact .unknown_singleton (by decide) (by decide)
    · refine .of_known (by simp) ?_ Outcome.noConfusion
      intro code hcode
      rcases List.mem_append.mp hcode with h | h
      · exact decisionState_excluded_outcome h
      · rw [List.mem_singleton.mp h]
        rfl

theorem versionCodes_unknown {version : ObservedVersionClassification}
    {code : ExplanationCode} (h : code ∈ versionCodes version) :
    explanationOutcome code = .unknown ∧ code ≠ .unknownInternalFailure := by
  cases version <;> simp only [versionCodes, List.mem_singleton, List.not_mem_nil] at h <;>
    subst h <;> decide

theorem rangeStructureCode_unknown {rangeClass : RangeStructureClassification}
    {code : ExplanationCode} (h : rangeStructureCode rangeClass = some code) :
    explanationOutcome code = .unknown ∧ code ≠ .unknownInternalFailure := by
  cases rangeClass <;> cases h <;> decide

/-- The codes of the checks that precede a decision, when there are any. -/
theorem checkCodes_publishable {version : ObservedVersionClassification}
    {rangeClass : RangeStructureClassification}
    (hnonempty : versionCodes version ++ (rangeStructureCode rangeClass).toList ≠ []) :
    Publishable .unknown
      (versionCodes version ++ (rangeStructureCode rangeClass).toList) := by
  have hcases : ∀ code ∈ versionCodes version ++ (rangeStructureCode rangeClass).toList,
      explanationOutcome code = .unknown ∧ code ≠ .unknownInternalFailure := by
    intro code hcode
    rcases List.mem_append.mp hcode with h | h
    · exact versionCodes_unknown h
    · exact rangeStructureCode_unknown (Option.mem_toList.mp h)
  have hlength : (versionCodes version ++ (rangeStructureCode rangeClass).toList).length ≤ 2 := by
    cases version <;> cases rangeClass <;> simp [versionCodes, rangeStructureCode]
  refine ⟨hnonempty, fun code hcode => (hcases code hcode).1, ?_, ?_⟩
  · exact le_trans (List.dedup_sublist _).length_le
      (le_trans hlength (by decide))
  · intro hmem
    exact (hcases _ hmem).2 rfl

/-! ## Evidence -/

theorem mem_orderExplanationCodes {codes : List ExplanationCode} {code : ExplanationCode} :
    code ∈ orderExplanationCodes codes ↔ code ∈ codes := by
  rw [orderExplanationCodes, (sortBy_perm _ _).mem_iff, List.mem_dedup]

theorem orderExplanationCodes_catalogOrdered (codes : List ExplanationCode) :
    CatalogOrdered (orderExplanationCodes codes) :=
  (catalogOrdered_sortBy_iff _).mpr (List.nodup_dedup codes)

theorem codesAgree_orderExplanationCodes {outcome : Outcome}
    {codes : List ExplanationCode} (h : Publishable outcome codes) :
    codesAgree outcome (orderExplanationCodes codes) = true := by
  have hne : orderExplanationCodes codes ≠ [] := by
    obtain ⟨code, hcode⟩ := List.exists_mem_of_ne_nil codes h.nonempty
    exact List.ne_nil_of_mem (mem_orderExplanationCodes.mpr hcode)
  have hagree : ∀ code ∈ orderExplanationCodes codes, explanationOutcome code = outcome :=
    fun code hcode => h.agree code (mem_orderExplanationCodes.mp hcode)
  simpa [codesAgree, List.length_pos_iff, hne] using hagree

section Hash

variable (sha256 : JsString → JsString)

/-- The record with the given outcome, codes and path, and no check made. -/
def plainEvidence (input : EvidenceBase) (outcome : Outcome)
    (codes : List ExplanationCode) (path : List LifecycleNode) : MatchEvaluationEvidence where
  evaluationId := input.evaluationId
  ecosystem := input.ecosystem
  packageIdentityKey := input.packageIdentityKey
  rawObservedVersion := input.version.rawObservedVersion
  rawObservedVersionSha256 := input.version.rawObservedVersionSha256
  parsedVersionClassification := input.parsedVersionClassification
  advisoryIdentity := input.advisory.advisoryIdentity
  advisorySourceClassification := input.advisorySourceClassification
  advisoryEvidenceFingerprint := input.advisoryEvidenceFingerprint
  advisoryEvidenceOrigin := input.advisoryEvidenceOrigin
  rangeFingerprint := sha256 input.rangeCanonical
  outcome := outcome
  explanationCodes := codes
  replayFingerprint := sha256 (replayMaterial input outcome codes)
  lifecyclePath := path

/-- For publishable codes neither the bound nor the agreement check intervenes. -/
theorem evidence_of_publishable {input : EvidenceBase} {outcome : Outcome}
    {codes : List ExplanationCode} {path : List LifecycleNode}
    (h : Publishable outcome codes) :
    evidence sha256 input outcome codes path =
      plainEvidence sha256 input outcome (orderExplanationCodes codes) path := by
  have hbounded :
      decide ((orderExplanationCodes codes).length > firstEcosystemMaxExplanationCodes) =
        false := by
    have hlength : (orderExplanationCodes codes).length ≤ _ :=
      le_of_eq_of_le (sortBy_perm _ _).length_eq h.few
    simpa using hlength
  have hblocked :
      (!admitEvaluationOutcome outcome || !codesAgree outcome (orderExplanationCodes codes)) =
        false := by
    simp [admitEvaluationOutcome_eq_true, codesAgree_orderExplanationCodes h]
  unfold evidence plainEvidence
  simp only [hbounded, Bool.false_eq_true, if_false, hblocked]

/-- A path that `evidence` publishes: a walk of the lifecycle graph from
`received` to `evidence_constructed` through the node of the outcome. -/
def EndsInOutcome (outcome : Outcome) (path : List LifecycleNode) : Prop :=
  IsLifecycleWalk path ∧
    ∃ middle, path = .received :: middle ++ [outcome.node, .evidenceConstructed]

/-- What every published evidence record satisfies. -/
structure SoundEvidence (e : MatchEvaluationEvidence) : Prop where
  nonempty : e.explanationCodes ≠ []
  nodup : e.explanationCodes.Nodup
  ordered : CatalogOrdered e.explanationCodes
  agree : ∀ code ∈ e.explanationCodes, explanationOutcome code = e.outcome
  noInternal : .unknownInternalFailure ∉ e.explanationCodes
  path : EndsInOutcome e.outcome e.lifecyclePath

theorem soundEvidence_of_publishable {input : EvidenceBase} {outcome : Outcome}
    {codes : List ExplanationCode} {path : List LifecycleNode}
    (h : Publishable outcome codes) (hpath : EndsInOutcome outcome path) :
    SoundEvidence (evidence sha256 input outcome codes path) := by
  rw [evidence_of_publishable sha256 h]
  have hordered := orderExplanationCodes_catalogOrdered codes
  obtain ⟨code, hcode⟩ := List.exists_mem_of_ne_nil codes h.nonempty
  exact
    { nonempty := List.ne_nil_of_mem (mem_orderExplanationCodes.mpr hcode)
      nodup := hordered.nodup
      ordered := hordered
      agree := fun code hcode => h.agree code (mem_orderExplanationCodes.mp hcode)
      noInternal := fun hmem => h.noInternal (mem_orderExplanationCodes.mp hmem)
      path := hpath }

/-! ## The exits -/

theorem endsInOutcome_early : EndsInOutcome .unknown
    [.received, .unknown, .evidenceConstructed] :=
  ⟨by decide, [], rfl⟩

theorem endsInOutcome_identityValidated : EndsInOutcome .unknown
    [.received, .identityValidated, .unknown, .evidenceConstructed] :=
  ⟨by decide, [.identityValidated], rfl⟩

/-- The path of the last exits: only a strict version with a well-formed range
structure reaches a known outcome. -/
theorem endsInOutcome_pathBeforeOutcome {versionClass : VersionClass}
    {rangeClass : RangeStructureClassification} {outcome : Outcome}
    (h : outcome ≠ .unknown →
      versionClass = .validStrictSemver ∧ rangeClass = .wellFormed) :
    EndsInOutcome outcome
      (pathBeforeOutcome versionClass rangeClass ++ [outcome.node, .evidenceConstructed]) := by
  refine ⟨?_, (pathBeforeOutcome versionClass rangeClass).tail, ?_⟩
  · revert h
    cases outcome <;> cases versionClass <;> cases rangeClass <;> decide
  · cases versionClass <;> cases rangeClass <;> rfl

theorem screenRequest_unknown {r : EvaluationRequest} {code : ExplanationCode}
    (h : screenRequest sha256 r = .unknown code) : Publishable .unknown [code] := by
  have hcode : explanationOutcome code = .unknown ∧ code ≠ .unknownInternalFailure := by
    unfold screenRequest at h
    dsimp only at h
    repeat' split at h
    all_goals cases h
    all_goals decide
  exact .unknown_singleton hcode.1 hcode.2

theorem checkIdentity_unknown {r : EvaluationRequest} {code : ExplanationCode}
    (h : checkIdentity r = .unknown code ∨ ∃ key, checkIdentity r = .unknownWithKey code key) :
    Publishable .unknown [code] := by
  have hcode : explanationOutcome code = .unknown ∧ code ≠ .unknownInternalFailure := by
    unfold checkIdentity at h
    dsimp only at h
    rcases h with h | ⟨key, h⟩
    all_goals
      repeat' split at h
      all_goals cases h
      all_goals decide
  exact .unknown_singleton hcode.1 hcode.2

end Hash

/-- The cache does not change the assessment. -/
theorem assessRanges_returns (rawObservedVersion rangeType : JsString)
    (ranges : List AdvisoryRangeDraft) (explicitVersions : List JsString) :
    Returns
      (assessRanges rememberObservedNpmVersion rawObservedVersion rangeType ranges
        explicitVersions)
      (assessRanges classifyEachTime rawObservedVersion rangeType ranges
        explicitVersions) := by
  unfold assessRanges
  refine Returns.bind_id (remember_returns_classifyEachTime _) fun version => ?_
  refine Returns.bind_id (classifyAffectedRangeStructure_returns _ _ _) fun rangeClass => ?_
  dsimp only
  split
  · exact Returns.bind_id (decideNpmAffectedness_returns _ _ _) fun _ => Returns.pure _
  · exact Returns.pure _

theorem checkCodes_eq_nil {version : ObservedVersionClassification}
    {rangeClass : RangeStructureClassification}
    (h : versionCodes version ++ (rangeStructureCode rangeClass).toList = []) :
    version.classification = .validStrictSemver ∧ rangeClass = .wellFormed := by
  cases version <;> cases rangeClass <;>
    simp_all [versionCodes, rangeStructureCode, ObservedVersionClassification.classification]

/-- The assessment without a cache, as a value. -/
theorem assessRanges_eq (rawObservedVersion rangeType : JsString)
    (ranges : List AdvisoryRangeDraft) (explicitVersions : List JsString)
    {version : ObservedVersionClassification} {rangeClass : RangeStructureClassification}
    (hversion : classifyObservedNpmVersion rawObservedVersion = version)
    (hrange : (classifyAffectedRangeStructure classifyEachTime rangeType ranges
      explicitVersions : Id _) = rangeClass) :
    (assessRanges classifyEachTime rawObservedVersion rangeType ranges explicitVersions :
        Id Assessment) =
      if versionCodes version ++ (rangeStructureCode rangeClass).toList = [] then
        let decision : AffectedDecision :=
          (decideNpmAffectedness classifyEachTime version ranges explicitVersions : Id _)
        ⟨version.classification, decision.outcome, decision.codes,
          pathBeforeOutcome version.classification rangeClass ++
            [decision.outcome.node, .evidenceConstructed]⟩
      else
        ⟨version.classification, .unknown,
          versionCodes version ++ (rangeStructureCode rangeClass).toList,
          pathBeforeOutcome version.classification rangeClass ++
            [.unknown, .evidenceConstructed]⟩ := by
  unfold assessRanges
  have hremembered : classifyEachTime rawObservedVersion = version := hversion
  rw [id_bind hremembered, id_bind hrange]
  dsimp only
  by_cases hcodes : versionCodes version ++ (rangeStructureCode rangeClass).toList = []
  · obtain ⟨hclass, -⟩ := checkCodes_eq_nil hcodes
    rw [if_pos hcodes, if_pos ⟨by rw [hcodes]; rfl, hclass⟩, hcodes]
    rfl
  · rw [if_neg hcodes, if_neg fun h => hcodes (List.length_eq_zero_iff.mp h.1)]
    rfl

theorem strictSemverCore_of_classification {version : ObservedVersionClassification}
    (h : version.classification = .validStrictSemver) :
    ∃ v, strictSemverCore version = some v := by
  cases version with
  | validStrictSemver semver => exact ⟨_, rfl⟩
  | _ => cases h

/-- The last exit is publishable, and its path is a walk to its outcome. -/
theorem assessRanges_publishable (rawObservedVersion rangeType : JsString)
    (ranges : List AdvisoryRangeDraft) (explicitVersions : List JsString) :
    let assessment : Assessment := (assessRanges classifyEachTime rawObservedVersion rangeType
      ranges explicitVersions : Id Assessment)
    Publishable assessment.outcome assessment.codes ∧
      EndsInOutcome assessment.outcome assessment.lifecyclePath := by
  dsimp only
  rw [assessRanges_eq _ _ _ _ rfl rfl]
  split
  · rename_i hcodes
    obtain ⟨hclass, hrange⟩ := checkCodes_eq_nil hcodes
    obtain ⟨hwf, hstrict⟩ := classifyAffectedRangeStructure_wellFormed hrange
    obtain ⟨v, hv⟩ := strictSemverCore_of_classification hclass
    refine ⟨?_, endsInOutcome_pathBeforeOutcome fun _ => ⟨hclass, hrange⟩⟩
    dsimp only
    rw [decideNpmAffectedness_wellFormed hwf hstrict hv]
    split
    · exact .unknown_singleton (by decide) (by decide)
    · exact conclude_publishable _
  · rename_i hcodes
    refine ⟨checkCodes_publishable hcodes, endsInOutcome_pathBeforeOutcome ?_⟩
    exact fun h => absurd rfl h

/-- Whatever the input value is, evidence that is published is sound: its codes
are non-empty, duplicate-free, in catalog order and of the published outcome,
never `unknown_internal_failure`, and its path is a walk of the lifecycle graph
from `received` to `evidence_constructed` whose last node but one is the
outcome. -/
theorem assessFirstEcosystemEvaluation_sound (sha256 : JsString → JsString)
    (input : JsValue) (e : MatchEvaluationEvidence)
    (h : assessFirstEcosystemEvaluation sha256 input = some e) : SoundEvidence e := by
  obtain ⟨r, -, hr⟩ := Option.bind_eq_some_iff.mp h
  unfold assessRequest at hr
  dsimp only at hr
  split at hr
  · cases hr
  · rename_i code hscreen
    cases hr
    exact soundEvidence_of_publishable sha256 (screenRequest_unknown sha256 hscreen)
      endsInOutcome_early
  · split at hr
    · rename_i code hcheck
      cases hr
      exact soundEvidence_of_publishable sha256 (checkIdentity_unknown (.inl hcheck))
        endsInOutcome_early
    · rename_i code key hcheck
      cases hr
      exact soundEvidence_of_publishable sha256
        (checkIdentity_unknown (.inr ⟨key, hcheck⟩)) endsInOutcome_identityValidated
    · split at hr
      · cases hr
        exact soundEvidence_of_publishable sha256
          (.unknown_singleton (by decide) (by decide)) endsInOutcome_identityValidated
      · cases hr
        rw [(assessRanges_returns _ _ _ _).eq]
        obtain ⟨hpublishable, hpath⟩ := assessRanges_publishable r.rawObservedVersion
          r.rangeType r.affectedRanges.items r.explicitAffectedVersions.items
        exact soundEvidence_of_publishable sha256 hpublishable hpath

/-- A request for `1.5.0` of `left-pad`, with one range and one explicit version
given. -/
def sampleRequest (ranges explicitVersions : List JsValue) : JsValue :=
  .record
    [(js "requestSchemaVersion", .string firstEcosystemRequestSchemaVersion),
     (js "evaluatorPolicyId", .string firstEcosystemMatchingPolicyId),
     (js "evaluatorVersion", .string firstEcosystemEvaluatorVersion),
     (js "ecosystem", .string (js "npm")), (js "namespace", .null),
     (js "name", .string (js "left-pad")), (js "observedIdentity", .string (js "left-pad")),
     (js "rawObservedVersion", .string (js "1.5.0")),
     (js "advisoryIdentity", .string (js "OSV-1")),
     (js "advisorySourceClassification", .string (js "synthetic_fixture")),
     (js "advisoryEvidenceFingerprint", .string (List.replicate 64 (unit 'a'))),
     (js "advisoryEvidenceOrigin", .string (js "synthetic")),
     (js "advisoryRevisionDisposition", .string (js "active_synthetic")),
     (js "rangeType", .string (js "SEMVER")), (js "affectedRanges", .list ranges),
     (js "explicitAffectedVersions", .list explicitVersions),
     (js "evaluationCorrelationId",
       .string (js "00000000-0000-4000-8000-000000000000")),
     (js "sbomSourceClassification", .string (js "synthetic")),
     (js "componentIdentityProvenance", .string (js "synthetic")),
     (js "observedVersionProvenance", .string (js "synthetic")),
     (js "rangeEvidenceProvenance", .string (js "synthetic"))]

/-- A range with the given events. -/
def sampleRangeValue (events : List (String × String)) : JsValue :=
  .record [(js "type", .string (js "SEMVER")),
    (js "events", .list (events.map fun event =>
      .record [(js event.1, .string (js event.2))]))]

theorem assessFirstEcosystemEvaluation_sound_sample :
    ∃ e, assessFirstEcosystemEvaluation id
        (sampleRequest [sampleRangeValue [("introduced", "1.0.0"), ("fixed", "2.0.0")]]
          [.string (js "3.0.0")]) = some e ∧
      e.outcome = .affected ∧ SoundEvidence e := by
  have hsome : ((assessFirstEcosystemEvaluation id
      (sampleRequest [sampleRangeValue [("introduced", "1.0.0"), ("fixed", "2.0.0")]]
        [.string (js "3.0.0")])).map (·.outcome)) = some .affected := by
    decide +kernel
  obtain ⟨e, he, houtcome⟩ := Option.map_eq_some_iff.mp hsome
  exact ⟨e, he, houtcome, assessFirstEcosystemEvaluation_sound id _ e he⟩

end PatchPilot.Matching
