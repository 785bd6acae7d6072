import PatchPilot.Matching.Admission

set_option autoImplicit false

/-!
# Matching: admission and evaluation agree on range timelines

`parseRanges` accepts a well-formed structure exactly when every range compiles and none
fixes at the bound that introduced it.  What the parser admits, the reviewed evaluator
therefore reads without a contradiction, an invalid range or an internal failure.
-/

namespace PatchPilot.Matching.MaintainerDocument

open PatchPilot.Foundation

/-! ## One range -/

theorem timelineEvents_marks :
    ∀ {named : List (JsString × JsString)} {marks : List (Mark VersionBound)},
      (named.map fun event => [event]).mapM markOf = some marks → ∀ t : TimelineState,
        timelineEvents named t = timelineMarks marks t := by
  intro named
  induction named with
  | nil =>
      intro marks h t
      cases h
      rfl
  | cons event rest ih =>
      intro marks h t
      rw [List.map_cons, List.mapM_cons] at h
      obtain ⟨mark, hmark, h⟩ := Option.bind_eq_some_iff.mp h
      obtain ⟨tail, htail, h⟩ := Option.bind_eq_some_iff.mp h
      cases h
      obtain ⟨value, hhead, hbound⟩ := markOf_eq_some hmark
      obtain rfl : event = (eventKindName mark.kind, value) := Option.some.inj hhead
      rw [eventBound_eachTime] at hbound
      have hto : toBound value = some mark.bound := by
        unfold toBound
        by_cases hzero : value = sentinelText
        · rw [if_pos hzero] at hbound ⊢
          split at hbound
          · exact hbound
          · cases hbound
        · rw [if_neg hzero] at hbound ⊢
          exact hbound
      simp only [timelineEvents, timelineMarks, List.foldlM_cons, hto,
        eventKindOf_eq_some.mpr rfl]
      cases timelineStep t (some mark.kind) mark.bound with
      | none => rfl
      | some t' => exact ih htail t'

/-- The timeline of a well-formed range contradicts itself exactly when the range does not
compile or fixes at the bound that introduced it. -/
theorem timelineContradicts_iff {range : AdvisoryRangeDraft} (hwf : WellFormedRange range)
    {named : List (JsString × JsString)} (hnamed : range.events = named.map fun event => [event]) :
    timelineContradicts named = false ↔
      (∃ compiled, (compileRange classifyEachTime range.events : Id _) = .ok compiled) ∧
        ¬ ClosesAtIntroduced range := by
  rw [compileRange_marks hwf, ← closesWithin_iff]
  unfold timelineContradicts
  rw [timelineEvents_marks (hnamed ▸ hwf.marked)]
  have hinitial : Agrees .initial .initial := ⟨rfl, rfl, rfl, rfl, rfl⟩
  rcases timelineMarks_agrees (rangeMarks range) hinitial with
    ⟨hnone, hwhy⟩ | ⟨t, s, ht, hs, hnot, hagrees⟩
  · rw [hnone]
    refine iff_of_false (by simp) ?_
    rintro ⟨⟨compiled, hcompiled⟩, hcloses⟩
    rcases hwhy with ⟨failure, hfailure⟩ | hwithin
    · rw [hfailure] at hcompiled
      cases hcompiled
    · exact hcloses hwithin
  · rw [ht, hs]
    refine Iff.trans ?_ (and_iff_left hnot).symm
    dsimp only
    rw [hagrees.intervals, hagrees.opened]
    change _ ↔ ∃ compiled, s.finish = .ok compiled
    unfold CompileState.finish
    cases s.opened with
    | none =>
        by_cases hempty : s.intervals.length = 0
        · simp [hempty]
        · simp [hempty]
    | some o => simp

/-! ## A structure of ranges -/

/-- Ranges as the untrusted value of `affectedRanges`. -/
def rangesValue (ranges : List AdvisoryRangeDraft) : JsValue := .list (ranges.map rangeValue)

theorem parseRange_ok_iff {range : AdvisoryRangeDraft} (hpasses : RangePasses range)
    (other : AdvisoryRangeDraft) :
    parseRange (rangeValue range) = .ok other ↔
      ((∃ compiled, (compileRange classifyEachTime range.events : Id _) = .ok compiled) ∧
        ¬ ClosesAtIntroduced range) ∧ other = range := by
  obtain ⟨tally, htally, -⟩ := hpasses.tallied
  obtain ⟨named, hevents, hnamed⟩ := exists_named _ _ _ htally
  rw [← timelineContradicts_iff hpasses.wellFormed hevents]
  have hrange : range = ⟨js "SEMVER", named.map fun event => [event]⟩ := by
    rw [← hevents, ← show range.type = js "SEMVER" from hpasses.type]
  have hnonempty : named ≠ [] := by
    rintro rfl
    exact hpasses.nonempty (by rw [hevents]; rfl)
  rw [hrange]
  exact parseRange_rangeValue hnonempty hnamed other

theorem parseRanges_ok_iff {ranges : List AdvisoryRangeDraft}
    (h : (classifyAffectedRangeStructure classifyEachTime (js "SEMVER") ranges [] : Id _) =
      .wellFormed) :
    (∃ read, parseRanges (rangesValue ranges) = .ok read) ↔
      ∀ range ∈ ranges,
        (∃ compiled, (compileRange classifyEachTime range.events : Id _) = .ok compiled) ∧
          ¬ ClosesAtIntroduced range := by
  obtain ⟨hnonempty, hcapacity, -, ⟨hpasses, -⟩, -⟩ :=
    (classifyAffectedRangeStructure_wellFormed_iff _ _ _).mp h
  have hitems : arrayItems (rangesValue ranges) = some (ranges.map rangeValue) :=
    arrayItems_list _
  have hmany : (decide ((ranges.map rangeValue).length > firstEcosystemMaxAffectedRanges)) =
      false := by
    rw [List.length_map]
    exact decide_eq_false fun hlarge => hcapacity (.inl hlarge)
  have hsome : (ranges.map rangeValue).isEmpty = false := by
    cases ranges with
    | nil => exact absurd ⟨rfl, rfl⟩ hnonempty
    | cons range rest => rfl
  have hread : ∀ read, (ranges.map rangeValue).mapM parseRange = .ok read ↔
      (∀ range ∈ ranges,
        (∃ compiled, (compileRange classifyEachTime range.events : Id _) = .ok compiled) ∧
          ¬ ClosesAtIntroduced range) ∧ read = ranges := by
    intro read
    rw [mapM_eq_ok, List.forall₂_map_left_iff]
    constructor
    · intro hall
      have hboth : List.Forall₂ (fun range other =>
          ((∃ compiled, (compileRange classifyEachTime range.events : Id _) = .ok compiled) ∧
            ¬ ClosesAtIntroduced range) ∧ other = range) ranges read :=
        ((List.forall₂_and_left ranges read).mpr ⟨hpasses, hall⟩).imp fun range other hpair =>
          (parseRange_ok_iff hpair.1 other).mp hpair.2
      constructor
      · intro range hrange
        obtain ⟨other, -, hother⟩ := mem_of_forall₂ hboth hrange
        exact hother.1
      · have heq : List.Forall₂ (fun range other => other = range) ranges read :=
          hboth.imp fun _ _ hpair => hpair.2
        have hflip := heq.flip
        exact List.forall₂_eq_eq_eq ▸ hflip
    · rintro ⟨hall, rfl⟩
      refine List.forall₂_same.mpr fun range hrange => ?_
      exact (parseRange_ok_iff (hpasses range hrange) range).mpr ⟨hall range hrange, rfl⟩
  simp only [parseRanges, bind_eq_ok, orRefuse_eq_ok, refuseWhen_eq_ok, hitems]
  constructor
  · rintro ⟨read, items, hfound, -, -, -, -, found, hfound', -⟩
    cases hfound
    exact ((hread found).mp hfound').1
  · intro hall
    refine ⟨ranges, _, rfl, (), hsome, (), hmany, ranges, (hread ranges).mpr ⟨hall, rfl⟩, (), ?_,
      rfl⟩
    rw [h]
    rfl

/-! ## What an admitted document contains -/

/-- What the parser has checked of a range that it accepts. -/
theorem parseRange_eq_ok {value : JsValue} {range : AdvisoryRangeDraft}
    (h : parseRange value = .ok range) :
    ∃ named : List (JsString × JsString),
      range = ⟨js "SEMVER", named.map fun event => [event]⟩ ∧
        (∀ event ∈ named, (eventKindOf event.1).isSome = true) ∧
        timelineContradicts named = false := by
  simp only [parseRange, bind_eq_ok, refuseWhen_eq_ok] at h
  obtain ⟨parts, -, keys, -, -, -, -, -, events, -, -, -, named, hnamed, -, hcontra, h⟩ := h
  cases h
  refine ⟨named, rfl, ?_, hcontra⟩
  intro event hevent
  obtain ⟨item, -, hitem⟩ := mem_of_forall₂ (mapM_eq_ok.mp hnamed).flip hevent
  have hread : parseEvent item = .ok event := hitem
  simp only [parseEvent, bind_eq_ok] at hread
  obtain ⟨parts, -, hread⟩ := hread
  split at hread
  · rename_i name _
    obtain ⟨⟨⟩, hname, hread⟩ := bind_eq_ok.mp hread
    obtain ⟨text, -, hread⟩ := bind_eq_ok.mp hread
    obtain ⟨⟨⟩, -, hread⟩ := bind_eq_ok.mp hread
    cases hread
    have hmem : eventNames.contains name = true := by simpa using refuseWhen_eq_ok.mp hname
    obtain ⟨kind, -, hkind⟩ := List.mem_map.mp (List.contains_iff_mem.mp hmem)
    rw [← hkind, eventKindOf_eq_some.mpr rfl]
    rfl
  · cases hread

theorem flatMap_canonicalEvents :
    ∀ {named : List (JsString × JsString)},
      (∀ event ∈ named, (eventKindOf event.1).isSome = true) →
      (named.map fun event => [event]).flatMap canonicalEvents =
        named.map fun event => ⟨event.1, event.2⟩ := by
  intro named
  induction named with
  | nil => exact fun _ => rfl
  | cons event rest ih =>
      intro hall
      have hhead := hall event List.mem_cons_self
      rw [List.map_cons, List.flatMap_cons,
        ih fun other hother => hall other (List.mem_cons_of_mem _ hother)]
      simp [canonicalEvents, hhead]

/-- Ranges that the parser has accepted are a well-formed structure of ranges that compile,
and their canonical form is the same structure. -/
theorem parseRanges_eq_ok {value : JsValue} {ranges : List AdvisoryRangeDraft}
    (h : parseRanges value = .ok ranges) :
    (classifyAffectedRangeStructure classifyEachTime (js "SEMVER") ranges [] : Id _) =
        .wellFormed ∧
      (∀ range ∈ ranges, ¬ IsContradictory range) ∧
      (maintainerRangesToCanonical ranges).map CanonicalRange.draft = ranges := by
  simp only [parseRanges, bind_eq_ok, refuseWhen_eq_ok] at h
  obtain ⟨items, -, -, -, -, -, read, hread, -, hstructure, h⟩ := h
  cases h
  have hwellFormed : (classifyAffectedRangeStructure classifyEachTime (js "SEMVER") ranges [] :
      Id _) = .wellFormed := by simpa using hstructure
  obtain ⟨hwf, -⟩ := classifyAffectedRangeStructure_wellFormed hwellFormed
  have hparts : ∀ range ∈ ranges, ∃ named : List (JsString × JsString),
      range = ⟨js "SEMVER", named.map fun event => [event]⟩ ∧
        (∀ event ∈ named, (eventKindOf event.1).isSome = true) ∧
        timelineContradicts named = false := by
    intro range hrange
    obtain ⟨item, -, hitem⟩ := mem_of_forall₂ (mapM_eq_ok.mp hread).flip hrange
    exact parseRange_eq_ok hitem
  refine ⟨hwellFormed, ?_, ?_⟩
  · intro range hrange hcontra
    obtain ⟨named, heq, -, htimeline⟩ := hparts range hrange
    have hnamed : range.events = named.map fun event => [event] := by rw [heq]
    obtain ⟨⟨compiled, hcompiled⟩, -⟩ :=
      (timelineContradicts_iff (hwf range hrange) hnamed).mp htimeline
    rw [hcontra] at hcompiled
    cases hcompiled
  · rw [maintainerRangesToCanonical, List.map_map]
    refine (List.map_congr_left fun range hrange => ?_).trans (List.map_id ranges)
    obtain ⟨named, rfl, hnames, -⟩ := hparts range hrange
    simp only [Function.comp_apply, CanonicalRange.draft, id_eq]
    rw [flatMap_canonicalEvents hnames, List.map_map]
    rfl

theorem parseDocumentValue_ranges {reading : DocumentReading} {input : JsValue}
    {document : MaintainerReviewedAdvisoryDocument}
    (h : parseDocumentValue reading input = .ok document) :
    ∃ value, parseRanges value = .ok document.affectedRanges := by
  simp only [parseDocumentValue, bind_eq_ok, mapError_eq_ok] at h
  obtain ⟨parts, -, keys, -, -, -, -, -, -, -, -, -, family, -, number, -, vulnerability, -,
    aliases, -, package, -, ranges, hranges, withdrawal, -, supersedes, -, license, -, author, -,
    correlation, -, h⟩ := h
  cases h
  exact ⟨_, hranges⟩

theorem parseMaintainerReviewedAdvisoryDocument_ranges {reading : DocumentReading} :
    ∀ {readings : Nat} {input : JsValue} {document : MaintainerReviewedAdvisoryDocument},
      parseMaintainerReviewedAdvisoryDocument reading readings input = .ok document →
        ∃ value, parseRanges value = .ok document.affectedRanges := by
  intro readings
  induction readings with
  | zero =>
      intro input document h
      cases input with
      | string text => cases h
      | _ => exact parseDocumentValue_ranges h
  | succ readings ih =>
      intro input document h
      cases input with
      | string text =>
          rw [parseMaintainerReviewedAdvisoryDocument] at h
          split at h
          · cases h
          split at h
          · cases h
          · cases h
          · split at h
            · cases h
            · exact ih h
      | _ => exact parseDocumentValue_ranges h

/-! ## The evaluation of an admitted document -/

/-- The code reports a failure that only the ranges of an advisory can cause. -/
def IsRangeFailure (code : ExplanationCode) : Prop :=
  code = .unknownContradictoryEvents ∨ code = .unknownInvalidRange ∨
    code = .unknownInternalFailure

theorem not_isRangeFailure_of_known {code : ExplanationCode}
    (h : explanationOutcome code ≠ .unknown) : ¬ IsRangeFailure code := by
  rintro (rfl | rfl | rfl) <;> exact h rfl

theorem versionCodes_not_isRangeFailure {version : ObservedVersionClassification}
    {code : ExplanationCode} (h : code ∈ versionCodes version) : ¬ IsRangeFailure code := by
  cases version <;> simp only [versionCodes, List.not_mem_nil, List.mem_singleton] at h <;>
    subst h <;> simp [IsRangeFailure]

theorem conclude_not_isRangeFailure {v : StrictSemverCore} {ranges : List AdvisoryRangeDraft}
    {matched : Bool} {code : ExplanationCode}
    (h : code ∈ ((decisionState v ranges).conclude matched).codes) : ¬ IsRangeFailure code := by
  have hpublishable : Publishable ((decisionState v ranges).conclude matched).outcome
      ((decisionState v ranges).conclude matched).codes := conclude_publishable matched
  have hagree := hpublishable.agree code h
  unfold DecisionState.conclude at h hagree
  split at h
  · rw [if_pos ‹_›] at hagree
    exact not_isRangeFailure_of_known (by rw [hagree]; simp)
  · rw [if_neg ‹_›] at hagree
    split at h
    · rw [List.mem_singleton.mp h]
      simp [IsRangeFailure]
    · rw [if_neg ‹_›] at hagree
      exact not_isRangeFailure_of_known (by rw [hagree]; simp)

/-- Ranges that are well formed and compile are evaluated without a range failure. -/
theorem evaluateReviewedNpmRange_not_isRangeFailure {ranges : List CanonicalRange}
    (hwellFormed : (classifyAffectedRangeStructure classifyEachTime (js "SEMVER")
      (ranges.map CanonicalRange.draft) [] : Id _) = .wellFormed)
    (hconsistent : ∀ range ∈ ranges.map CanonicalRange.draft, ¬ IsContradictory range)
    (ns : Option JsString) (name raw : JsString) :
    ∀ code ∈ (evaluateReviewedNpmRange ⟨ns, name, raw, ranges⟩).explanationCodes,
      ¬ IsRangeFailure code := by
  obtain ⟨hwf, hstrict⟩ := classifyAffectedRangeStructure_wellFormed hwellFormed
  intro code hcode
  unfold evaluateReviewedNpmRange at hcode
  split at hcode
  · have hmem := (sortBy_perm compareExplanationCodes _).mem_iff.mp hcode
    rw [List.mem_singleton.mp hmem]
    simp [IsRangeFailure]
  · rw [(evaluateRanges_returns _ _).eq, evaluateRanges_eq _ _ rfl hwellFormed] at hcode
    split at hcode
    · rename_i hcodes
      obtain ⟨hclass, -⟩ := checkCodes_eq_nil hcodes
      obtain ⟨v, hv⟩ := strictSemverCore_of_classification hclass
      have hmem := (sortBy_perm compareExplanationCodes _).mem_iff.mp hcode
      rw [decideNpmAffectedness_wellFormed hwf hstrict hv, if_neg] at hmem
      · exact conclude_not_isRangeFailure hmem
      · rintro ⟨range, hrange, hcontra⟩
        exact hconsistent range hrange hcontra
    · have hmem := (sortBy_perm compareExplanationCodes _).mem_iff.mp hcode
      rw [show (rangeStructureCode .wellFormed).toList = [] from rfl, List.append_nil] at hmem
      exact versionCodes_not_isRangeFailure hmem

/-! ## Admission and evaluation agree -/

/-- `parseRanges` accepts a well-formed structure exactly when `compileRange` returns
intervals for every range and no range fixes at the bound that introduced it; and what the
parser has admitted in a document is evaluated, for every strict version, without a
contradiction, an invalid range or an internal failure. -/
theorem admission_agrees_with_evaluation :
    (∀ (ranges : List AdvisoryRangeDraft) (structureCache : VersionCache)
        (compileCache : AdvisoryRangeDraft → VersionCache),
      (classifyAffectedRangeStructure rememberObservedNpmVersion (js "SEMVER") ranges []
        structureCache).1 = .wellFormed →
      ((∃ read, parseRanges (rangesValue ranges) = .ok read) ↔
        (∀ range ∈ ranges, ∃ compiled,
          (compileRange rememberObservedNpmVersion range.events (compileCache range)).1 =
            .ok compiled) ∧
        ∀ range ∈ ranges, ¬ ClosesAtIntroduced range)) ∧
    (∀ (reading : DocumentReading) (readings : Nat) (input : JsValue)
        (document : MaintainerReviewedAdvisoryDocument),
      parseMaintainerReviewedAdvisoryDocument reading readings input = .ok document →
      ∀ (ns : Option JsString) (name raw : JsString) (semver : StrictSemver),
        classifyObservedNpmVersion raw = .validStrictSemver semver →
        ∀ code ∈ (evaluateReviewedNpmRange ⟨ns, name, raw,
          maintainerRangesToCanonical document.affectedRanges⟩).explanationCodes,
          ¬ IsRangeFailure code) := by
  constructor
  · intro ranges structureCache compileCache h
    rw [(classifyAffectedRangeStructure_returns (js "SEMVER") ranges []).eq] at h
    have hcompile : ∀ range : AdvisoryRangeDraft,
        (compileRange rememberObservedNpmVersion range.events (compileCache range)).1 =
          (compileRange classifyEachTime range.events : Id _) :=
      fun range => (compileRange_returns range.events).eq (compileCache range)
    simp only [parseRanges_ok_iff h, hcompile]
    constructor
    · intro hall
      exact ⟨fun range hrange => (hall range hrange).1, fun range hrange => (hall range hrange).2⟩
    · rintro ⟨hcompiles, hcloses⟩ range hrange
      exact ⟨hcompiles range hrange, hcloses range hrange⟩
  · intro reading readings input document hadmitted ns name raw _ _
    obtain ⟨value, hvalue⟩ := parseMaintainerReviewedAdvisoryDocument_ranges hadmitted
    obtain ⟨hwellFormed, hconsistent, hcanonical⟩ := parseRanges_eq_ok hvalue
    rw [← hcanonical] at hwellFormed hconsistent
    exact evaluateReviewedNpmRange_not_isRangeFailure hwellFormed hconsistent ns name raw

/-- One range that is fixed and then affected again. -/
def sampleRanges : List AdvisoryRangeDraft :=
  [⟨js "SEMVER",
    [[(js "introduced", js "0")], [(js "fixed", js "1.2.0")],
      [(js "introduced", js "2.0.0-rc.1")], [(js "fixed", js "2.0.1")],
      [(js "limit", js "3.0.0")]]⟩]

/-- A document about the ranges. -/
def sampleDocumentValue : JsValue :=
  .record
    [(js "schemaVersion", .string maintainerReviewedAdvisorySchemaVersion),
     (js "advisoryFamilyId", .string (js "PP-2026-0001")),
     (js "revisionNumber", .number (.finite 1)),
     (js "vulnerabilityId", .string (js "11111111-1111-4111-8111-111111111111")),
     (js "aliases", .list [.string (js "CVE-2026-0001")]),
     (js "packageEcosystem", .string (js "npm")),
     (js "packageName", .string (js "@scope/pad")),
     (js "packageUrl", .null),
     (js "affectedRanges", rangesValue sampleRanges),
     (js "withdrawal", .string (js "not_withdrawn")),
     (js "supersedesRevisionId", .null),
     (js "sourceLicenseDecision", .record
       [(js "policyId", .string maintainerReviewedSourceLicensePolicyId),
        (js "policyVersion", .number (.finite 1)),
        (js "spdxLicenseId", .string maintainerReviewedAcceptedSpdx),
        (js "productUse", .string (js "permitted_for_internal_matching")),
        (js "modification", .string (js "permitted")),
        (js "redistribution", .string (js "permitted")),
        (js "notice", .string (js "required")),
        (js "contentProvenance", .string (js "maintainer_original")),
        (js "decision", .string (js "accepted"))]),
     (js "authorIdentity", .string (js "author-one")),
     (js "submissionCorrelationId", .string (js "22222222-2222-4222-8222-222222222222"))]

/-- A measure that fits, and no text to read. -/
def sampleReading : DocumentReading :=
  ⟨fun _ => some (some []), fun _ => none, fun _ => none⟩

/-- The document that the sample is admitted as. -/
def sampleDocument : MaintainerReviewedAdvisoryDocument where
  schemaVersion := maintainerReviewedAdvisorySchemaVersion
  sourceClassification := maintainerReviewedOrigin
  origin := maintainerReviewedOrigin
  advisoryFamilyId := js "PP-2026-0001"
  revisionNumber := 1
  vulnerabilityId := js "11111111-1111-4111-8111-111111111111"
  vulnerabilityBinding := js "exact_id_with_one_cve_alias"
  aliases := [js "CVE-2026-0001"]
  packageEcosystem := js "npm"
  packageName := js "@scope/pad"
  packageIdentityKey := npmIdentityKey (some (js "@scope")) (js "pad")
  packageUrl := none
  affectedRanges := sampleRanges
  withdrawal := js "not_withdrawn"
  supersedesRevisionId := none
  sourceLicenseDecision :=
    ⟨maintainerReviewedSourceLicensePolicyId, 1, maintainerReviewedAcceptedSpdx,
      js "permitted_for_internal_matching", js "permitted", js "permitted", js "required",
      js "maintainer_original", js "accepted"⟩
  authorIdentity := js "author-one"
  submissionCorrelationId := js "22222222-2222-4222-8222-222222222222"

/-- The sample ranges are accepted because they compile, and the sample document is
evaluated without a range failure. -/
theorem admission_agrees_with_evaluation_sample :
    (∀ range ∈ sampleRanges, ¬ ClosesAtIntroduced range) ∧
      ∀ code ∈ (evaluateReviewedNpmRange ⟨some (js "@scope"), js "pad", js "2.0.0",
        maintainerRangesToCanonical sampleDocument.affectedRanges⟩).explanationCodes,
        ¬ IsRangeFailure code := by
  have hadmitted : parseMaintainerReviewedAdvisoryDocument sampleReading 0
      sampleDocumentValue = .ok sampleDocument := by
    decide +kernel
  constructor
  · have hstructure : (classifyAffectedRangeStructure rememberObservedNpmVersion (js "SEMVER")
        sampleRanges [] Memo.empty).1 = .wellFormed := by
      decide +kernel
    have hread : parseRanges (rangesValue sampleRanges) = .ok sampleRanges := by
      decide +kernel
    exact ((admission_agrees_with_evaluation.1 sampleRanges Memo.empty (fun _ => Memo.empty)
      hstructure).mp ⟨_, hread⟩).2
  · exact admission_agrees_with_evaluation.2 sampleReading 0 sampleDocumentValue sampleDocument
      hadmitted _ _ (js "2.0.0")
      ⟨js "2.0.0", js "2", js "0", js "0", none, none⟩ (by decide +kernel)

end PatchPilot.Matching.MaintainerDocument
