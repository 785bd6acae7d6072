import PatchPilot.Matching.Published

set_option autoImplicit false

/-!
# Matching: the order of the ranges does not matter

Two requests that differ only in the order of their affected ranges and explicit
versions are read into permuted lists.  Acceptance of the structure is a
condition on the single ranges and on their number of events; the decision adds
codes up; the canonical text sorts.  So whenever one request is given a known
outcome, the other is given the same evidence record.
-/

namespace PatchPilot.Matching

open PatchPilot.Foundation

/-! ## Requests up to order -/

/-- Two properties that are equal, or arrays whose elements are permuted. -/
inductive PermutedProperty : JsProperty → JsProperty → Prop
  | same (p : JsProperty) : PermutedProperty p p
  | array (enumerable : Bool) (header : ObjectHeader)
      (properties : List (JsString × JsProperty)) {slots slots' : List (Option JsProperty)}
      (h : slots.Perm slots') :
      PermutedProperty (.data enumerable (.array header slots properties))
        (.data enumerable (.array header slots' properties))

/-- The two properties whose elements may be permuted. -/
def permutedKeys : List JsString := [js "affectedRanges", js "explicitAffectedVersions"]

/-- Property lists that agree, the two lists up to the order of their elements. -/
def PermutedProperties (ps qs : List (JsString × JsProperty)) : Prop :=
  List.Forall₂ (fun p q => p.1 = q.1 ∧
    (PermutedProperty p.2 q.2 ∧ (p.1 ∉ permutedKeys → p.2 = q.2))) ps qs

/-- Requests that differ only by a permutation of `affectedRanges` and a
permutation of `explicitAffectedVersions`. -/
def PermutedRequests : JsValue → JsValue → Prop
  | .object header ps, .object header' qs => header = header' ∧ PermutedProperties ps qs
  | _, _ => False

theorem PermutedProperty.symm {p q : JsProperty} (h : PermutedProperty p q) :
    PermutedProperty q p := by
  cases h with
  | same => exact .same _
  | array enumerable header properties h => exact .array enumerable header properties h.symm

theorem PermutedProperties.symm {ps qs : List (JsString × JsProperty)}
    (h : PermutedProperties ps qs) : PermutedProperties qs ps := by
  refine List.Forall₂.imp ?_ h.flip
  rintro q p ⟨hkey, hperm, hsame⟩
  exact ⟨hkey.symm, hperm.symm, fun hq => (hsame (hkey ▸ hq)).symm⟩

theorem PermutedRequests.symm {a b : JsValue} (h : PermutedRequests a b) :
    PermutedRequests b a := by
  cases a <;> cases b <;> first | exact h.elim | exact ⟨h.1.symm, h.2.symm⟩

theorem PermutedProperties.keys {ps qs : List (JsString × JsProperty)}
    (h : PermutedProperties ps qs) : ps.map Prod.fst = qs.map Prod.fst := by
  induction h with
  | nil => rfl
  | cons hpq _ ih => rw [List.map_cons, List.map_cons, hpq.1, ih]

/-- Looking up a key on both sides finds nothing, or two permuted properties. -/
theorem PermutedProperties.lookup {ps qs : List (JsString × JsProperty)}
    (h : PermutedProperties ps qs) (key : JsString) :
    (ownProperty ps key = none ∧ ownProperty qs key = none) ∨
      ∃ p q, ownProperty ps key = some p ∧ ownProperty qs key = some q ∧
        PermutedProperty p q ∧ (key ∉ permutedKeys → p = q) := by
  induction h with
  | nil => exact .inl ⟨rfl, rfl⟩
  | @cons p q ps qs hpq _ ih =>
      by_cases hkey : p.1 = key
      · refine .inr ⟨p.2, q.2, ?_, ?_, hpq.2.1, fun hnot => hpq.2.2 (hkey ▸ hnot)⟩
        · simp [ownProperty, hkey]
        · simp [ownProperty, ← hpq.1, hkey]
      · have hkey' : q.1 ≠ key := hpq.1 ▸ hkey
        simpa [ownProperty, hkey, hkey'] using ih

/-! ## Reading permuted requests -/

/-- The texts of a request are read from the same properties. -/
theorem PermutedProperties.requireString_eq {ps qs : List (JsString × JsProperty)}
    (h : PermutedProperties ps qs) : requireString ps = requireString qs := by
  funext key
  unfold requireString readDataProperty
  rcases h.lookup key with ⟨hp, hq⟩ | ⟨p, q, hp, hq, hperm, -⟩
  · rw [hp, hq]
  · rw [hp, hq]
    cases hperm <;> rfl

theorem PermutedProperties.requireNamespace_eq {ps qs : List (JsString × JsProperty)}
    (h : PermutedProperties ps qs) : requireNamespace ps = requireNamespace qs := by
  unfold requireNamespace readDataProperty
  rcases h.lookup (js "namespace") with ⟨hp, hq⟩ | ⟨p, q, hp, hq, -, hsame⟩
  · rw [hp, hq]
  · rw [hp, hq, hsame (by decide)]

/-- A plain array and its permutation are both read, into permuted items. -/
theorem readPlainArray_perm {header : ObjectHeader} {slots slots' : List (Option JsProperty)}
    {properties : List (JsString × JsProperty)} (hperm : slots.Perm slots')
    {maxLength : Nat} {items : List JsValue}
    (h : readPlainArray (.array header slots properties) maxLength = some (some items)) :
    ∃ items', readPlainArray (.array header slots' properties) maxLength =
        some (some items') ∧ items.Perm items' := by
  unfold readPlainArray at h ⊢
  dsimp only at h ⊢
  rw [← hperm.length_eq, ← hperm.countP_eq]
  split at h
  · cases h
  rename_i hheader
  split at h
  · cases h
  rename_i hlength
  split at h
  · cases h
  rename_i hcount
  obtain ⟨ys, hys, h⟩ := Option.map_eq_some_iff.mp h
  cases h
  obtain ⟨ys', hys', hperm'⟩ := exists_mapM_of_perm hperm _ hys
  refine ⟨ys', ?_, hperm'⟩
  rw [if_neg hheader, if_neg hlength, if_neg hcount, hys']
  rfl

section Hash

variable (sha256 : JsString → JsString)

/-- The range an entry stands for, when it is read without exceeding a bound. -/
def parsedRange (entry : JsValue) : Option AdvisoryRangeDraft :=
  match parseRange sha256 entry with
  | some (.ok events, type) => some ⟨type, events⟩
  | _ => none

/-- The entry loop succeeds by conditions on the single entries and on the total
number of events. -/
theorem parseRangeEntries_ok_iff :
    ∀ (entries : List JsValue) (totalEvents : Nat) (ranges : List AdvisoryRangeDraft),
      parseRangeEntries sha256 entries totalEvents = some (.ok ranges) ↔
        entries.mapM (parsedRange sha256) = some ranges ∧
          (ranges ≠ [] → totalEvents + eventCount ranges ≤ firstEcosystemMaxTotalEvents) := by
  intro entries
  induction entries with
  | nil =>
      intro totalEvents ranges
      simp [parseRangeEntries, eq_comm]
      aesop
  | cons entry rest ih =>
      intro totalEvents ranges
      rw [parseRangeEntries, List.mapM_cons]
      cases hentry : parseRange sha256 entry with
      | none => simp [parsedRange, hentry]
      | some parsed =>
          obtain ⟨events | token, type⟩ := parsed
          · have hrange : parsedRange sha256 entry = some ⟨type, events⟩ := by
              simp [parsedRange, hentry]
            rw [hrange]
            simp only [Option.bind_eq_bind, Option.bind_some]
            constructor
            · intro h
              split at h
              · cases h
              rename_i htotal
              cases hrest : parseRangeEntries sha256 rest (totalEvents + events.length) with
              | none => rw [hrest] at h; cases h
              | some parsed =>
                  rw [hrest] at h
                  cases parsed with
                  | capacity token => cases h
                  | ok tail =>
                      cases h
                      obtain ⟨htail, hsum⟩ := (ih _ tail).mp hrest
                      refine ⟨by rw [htail]; rfl, fun _ => ?_⟩
                      cases tail with
                      | nil => simpa [eventCount] using htotal
                      | cons next tail =>
                          have := hsum (by simp)
                          simpa [eventCount, Nat.add_assoc] using this
            · rintro ⟨h, hsum⟩
              obtain ⟨tail, htail, h⟩ := Option.bind_eq_some_iff.mp h
              cases h
              have hsum := hsum (by simp)
              simp only [eventCount, List.map_cons, List.sum_cons] at hsum
              have hrest := (ih (totalEvents + events.length) tail).mpr
                ⟨htail, fun _ => by simp only [eventCount]; omega⟩
              rw [if_neg (by omega), hrest]
              rfl
          · simp [parsedRange, hentry]

/-- The text an explicit entry is, when it is not too long. -/
def parsedExplicit (entry : JsValue) : Option JsString := do
  let text ← entry.string?
  if text.length > npmRawVersionMaxUtf8Bytes then none else some text

theorem parseExplicitEntries_ok_iff :
    ∀ (entries : List JsValue) (versions : List JsString),
      parseExplicitEntries sha256 entries = some (.ok versions) ↔
        entries.mapM parsedExplicit = some versions := by
  intro entries
  induction entries with
  | nil =>
      intro versions
      simp [parseExplicitEntries]
  | cons entry rest ih =>
      intro versions
      rw [parseExplicitEntries, List.mapM_cons]
      cases hentry : entry.string? with
      | none => simp [parsedExplicit, hentry]
      | some text =>
          by_cases hlong : text.length > npmRawVersionMaxUtf8Bytes
          · simp [parsedExplicit, hentry, hlong]
          · have htext : parsedExplicit entry = some text := by
              simp [parsedExplicit, hentry, hlong]
            rw [htext]
            simp only [Option.bind_eq_bind, Option.bind_some, hlong, if_false]
            constructor
            · intro h
              cases hrest : parseExplicitEntries sha256 rest with
              | none => rw [hrest] at h; cases h
              | some parsed =>
                  rw [hrest] at h
                  cases parsed with
                  | capacity token => cases h
                  | ok tail =>
                      cases h
                      rw [(ih tail).mp hrest]
                      rfl
            · intro h
              obtain ⟨tail, htail, h⟩ := Option.bind_eq_some_iff.mp h
              cases h
              rw [(ih tail).mpr htail]
              rfl

/-- The values two permuted properties hold: equal, or permuted arrays. -/
theorem PermutedProperties.value {ps qs : List (JsString × JsProperty)}
    (h : PermutedProperties ps qs) {key : JsString} {value : JsValue}
    (hvalue : readDataProperty ps key = some value) :
    ∃ value', readDataProperty qs key = some value' ∧
      (value = value' ∨ ∃ header slots slots' properties, slots.Perm slots' ∧
        value = .array header slots properties ∧
        value' = .array header slots' properties) := by
  unfold readDataProperty at hvalue ⊢
  rcases h.lookup key with ⟨hp, -⟩ | ⟨p, q, hp, hq, hperm, -⟩
  · rw [hp] at hvalue
    cases hvalue
  · rw [hp] at hvalue
    rw [hq]
    cases hperm with
    | same => exact ⟨value, hvalue, .inl rfl⟩
    | array enumerable header properties hslots =>
        cases hvalue
        exact ⟨_, rfl, .inr ⟨header, _, _, properties, hslots, rfl, rfl⟩⟩

theorem parseRanges_perm {header : ObjectHeader} {slots slots' : List (Option JsProperty)}
    {properties : List (JsString × JsProperty)} (hperm : slots.Perm slots')
    {ranges : List AdvisoryRangeDraft}
    (h : parseRanges sha256 (.array header slots properties) = some (.ok ranges)) :
    ∃ ranges', parseRanges sha256 (.array header slots' properties) = some (.ok ranges') ∧
      ranges.Perm ranges' := by
  unfold parseRanges at h
  obtain ⟨read, hread, h⟩ := Option.bind_eq_some_iff.mp h
  cases read with
  | none => cases h
  | some items =>
      obtain ⟨items', hread', hitems⟩ := readPlainArray_perm hperm hread
      obtain ⟨hmap, hsum⟩ := (parseRangeEntries_ok_iff sha256 _ _ _).mp h
      obtain ⟨ranges', hmap', hranges⟩ := exists_mapM_of_perm hitems _ hmap
      refine ⟨ranges', ?_, hranges⟩
      have hentries : parseRangeEntries sha256 items' 0 = some (.ok ranges') := by
        refine (parseRangeEntries_ok_iff sha256 _ _ _).mpr ⟨hmap', fun hne => ?_⟩
        have hne' : ranges ≠ [] := fun hnil => hne (hnil ▸ hranges).nil_eq.symm
        have heq : eventCount ranges' = eventCount ranges :=
          ((hranges.map _).sum_nat).symm
        rw [heq]
        exact hsum hne'
      unfold parseRanges
      rw [hread']
      exact hentries

theorem parseExplicitVersions_perm {header : ObjectHeader}
    {slots slots' : List (Option JsProperty)} {properties : List (JsString × JsProperty)}
    (hperm : slots.Perm slots') {versions : List JsString}
    (h : parseExplicitVersions sha256 (.array header slots properties) =
      some (.ok versions)) :
    ∃ versions', parseExplicitVersions sha256 (.array header slots' properties) =
        some (.ok versions') ∧ versions.Perm versions' := by
  unfold parseExplicitVersions at h
  obtain ⟨read, hread, h⟩ := Option.bind_eq_some_iff.mp h
  cases read with
  | none => cases h
  | some items =>
      obtain ⟨items', hread', hitems⟩ := readPlainArray_perm hperm hread
      obtain ⟨versions', hmap', hversions⟩ :=
        exists_mapM_of_perm hitems _ ((parseExplicitEntries_ok_iff sha256 _ _).mp h)
      refine ⟨versions', ?_, hversions⟩
      unfold parseExplicitVersions
      rw [hread']
      exact (parseExplicitEntries_ok_iff sha256 _ _).mpr hmap'

/-- A request whose lists are within capacity, and its permutation, are read into
the same texts and permuted lists. -/
theorem readEvaluationRequest_perm {a b : JsValue} (h : PermutedRequests a b)
    {texts : RequestTexts} {ranges : List AdvisoryRangeDraft} {versions : List JsString}
    (hread : readEvaluationRequest sha256 a = some ⟨texts, .ok ranges, .ok versions⟩) :
    ∃ ranges' versions', ranges.Perm ranges' ∧ versions.Perm versions' ∧
      readEvaluationRequest sha256 b = some ⟨texts, .ok ranges', .ok versions'⟩ := by
  cases a <;> cases b <;> try exact h.elim
  rename_i header ps header' qs
  obtain ⟨rfl, hprops⟩ := h
  unfold readEvaluationRequest at hread ⊢
  simp only [plainRecord] at hread ⊢
  split at hread
  · rename_i hplain
    rw [if_pos hplain]
    simp only [Option.bind_eq_bind, Option.bind_some] at hread ⊢
    rw [← hprops.keys]
    split at hread
    · cases hread
    · rename_i hkeys
      rw [if_neg hkeys, ← hprops.requireString_eq, ← hprops.requireNamespace_eq]
      obtain ⟨texts', htexts, hread⟩ := Option.bind_eq_some_iff.mp hread
      obtain ⟨parsedRanges, hranges, hread⟩ := Option.bind_eq_some_iff.mp hread
      obtain ⟨parsedVersions, hversions, hread⟩ := Option.bind_eq_some_iff.mp hread
      cases hread
      rw [htexts]
      obtain ⟨rangesValue, hrangesValue, hranges⟩ := Option.bind_eq_some_iff.mp hranges
      obtain ⟨versionsValue, hversionsValue, hversions⟩ :=
        Option.bind_eq_some_iff.mp hversions
      obtain ⟨rangesValue', hrangesValue', hsame⟩ := hprops.value hrangesValue
      obtain ⟨versionsValue', hversionsValue', hsame'⟩ := hprops.value hversionsValue
      have hr : ∃ ranges', parseRanges sha256 rangesValue' = some (.ok ranges') ∧
          ranges.Perm ranges' := by
        rcases hsame with rfl | ⟨_, _, _, _, hslots, rfl, rfl⟩
        · exact ⟨ranges, hranges, .refl _⟩
        · exact parseRanges_perm sha256 hslots hranges
      have hv : ∃ versions', parseExplicitVersions sha256 versionsValue' =
          some (.ok versions') ∧ versions.Perm versions' := by
        rcases hsame' with rfl | ⟨_, _, _, _, hslots, rfl, rfl⟩
        · exact ⟨versions, hversions, .refl _⟩
        · exact parseExplicitVersions_perm sha256 hslots hversions
      obtain ⟨ranges', hranges', hpermRanges⟩ := hr
      obtain ⟨versions', hversions', hpermVersions⟩ := hv
      refine ⟨ranges', versions', hpermRanges, hpermVersions, ?_⟩
      rw [hrangesValue', hversionsValue']
      simp only [Option.bind_some, hranges', hversions']
      rfl
  · cases hread

end Hash

/-! ## The decision on permuted lists -/

theorem decisionState_perm {ranges ranges' : List AdvisoryRangeDraft}
    (h : ranges.Perm ranges') (v : StrictSemverCore) :
    (decisionState v ranges).includedCodes.Perm (decisionState v ranges').includedCodes ∧
      (decisionState v ranges).excludedCodes.Perm (decisionState v ranges').excludedCodes ∧
      (decisionState v ranges).applicableRanges = (decisionState v ranges').applicableRanges ∧
      (decisionState v ranges).sawUnproven = (decisionState v ranges').sawUnproven := by
  have heffects := h.map (rangeEffect v)
  refine ⟨heffects.flatMap_right _, heffects.flatMap_right _, heffects.countP_eq _, ?_⟩
  rw [Bool.eq_iff_iff]
  simp only [decisionState, List.any_eq_true, heffects.mem_iff]

/-- Permuted accumulators conclude with one outcome and permuted codes. -/
theorem conclude_perm {ranges ranges' : List AdvisoryRangeDraft}
    (h : ranges.Perm ranges') (v : StrictSemverCore) (matchedExplicit : Bool) :
    ((decisionState v ranges).conclude matchedExplicit).outcome =
        ((decisionState v ranges').conclude matchedExplicit).outcome ∧
      ((decisionState v ranges).conclude matchedExplicit).codes.Perm
        ((decisionState v ranges').conclude matchedExplicit).codes := by
  obtain ⟨hincluded, hexcluded, happlicable, hunproven⟩ := decisionState_perm h v
  unfold DecisionState.conclude
  rw [← hincluded.length_eq, ← happlicable, ← hunproven]
  split
  · exact ⟨rfl, hincluded.append_right _⟩
  · split
    · exact ⟨rfl, .refl _⟩
    · exact ⟨rfl, hexcluded.append_right _⟩

/-- The structure check accepts permuted lists alike. -/
theorem classifyAffectedRangeStructure_perm {rangeType : JsString}
    {ranges ranges' : List AdvisoryRangeDraft} {versions versions' : List JsString}
    (hranges : ranges.Perm ranges') (hversions : versions.Perm versions')
    (h : (classifyAffectedRangeStructure classifyEachTime rangeType ranges versions : Id _) =
      .wellFormed) :
    (classifyAffectedRangeStructure classifyEachTime rangeType ranges' versions' : Id _) =
      .wellFormed := by
  obtain ⟨hempty, hcapacity, htype, ⟨hpasses, hsum⟩, hnodup, hstrict⟩ :=
    (classifyAffectedRangeStructure_wellFormed_iff _ _ _).mp h
  have hcount : eventCount ranges' = eventCount ranges := ((hranges.map _).sum_nat).symm
  refine (classifyAffectedRangeStructure_wellFormed_iff _ _ _).mpr
    ⟨?_, ?_, htype, ⟨?_, ?_⟩, hversions.nodup_iff.mp hnodup, ?_⟩
  · rwa [← hranges.length_eq, ← hversions.length_eq]
  · rwa [← hranges.length_eq, ← hversions.length_eq]
  · exact fun range hrange => hpasses range (hranges.mem_iff.mpr hrange)
  · intro hne
    rw [hcount]
    exact hsum fun hnil => hne (hnil ▸ hranges).nil_eq.symm
  · exact fun version hversion => hstrict version (hversions.mem_iff.mpr hversion)

/-- An assessment with a known outcome is given to the permuted lists too, with
permuted codes. -/
theorem assessRanges_perm {rawObservedVersion rangeType : JsString}
    {ranges ranges' : List AdvisoryRangeDraft} {versions versions' : List JsString}
    (hranges : ranges.Perm ranges') (hversions : versions.Perm versions')
    {x y : Assessment}
    (hx : (assessRanges classifyEachTime rawObservedVersion rangeType ranges versions :
      Id Assessment) = x)
    (hy : (assessRanges classifyEachTime rawObservedVersion rangeType ranges' versions' :
      Id Assessment) = y)
    (hknown : x.outcome ≠ .unknown) :
    y.parsedVersionClassification = x.parsedVersionClassification ∧
      y.outcome = x.outcome ∧ y.lifecyclePath = x.lifecyclePath ∧ x.codes.Perm y.codes := by
  rw [assessRanges_eq _ _ _ _ rfl rfl] at hx
  split at hx
  · rename_i hcodes
    obtain ⟨hclass, hrange⟩ := checkCodes_eq_nil hcodes
    have hrange' := classifyAffectedRangeStructure_perm hranges hversions hrange
    obtain ⟨hwf, hstrict⟩ := classifyAffectedRangeStructure_wellFormed hrange
    obtain ⟨hwf', hstrict'⟩ := classifyAffectedRangeStructure_wellFormed hrange'
    obtain ⟨v, hv⟩ := strictSemverCore_of_classification hclass
    rw [assessRanges_eq _ _ _ _ rfl hrange', if_pos (by rw [hrange] at hcodes; exact hcodes)]
      at hy
    rw [decideNpmAffectedness_wellFormed hwf hstrict hv, hrange] at hx
    rw [decideNpmAffectedness_wellFormed hwf' hstrict' hv] at hy
    subst hx hy
    have hany : versions.any (hasEqualPrecedence v) = versions'.any (hasEqualPrecedence v) := by
      rw [Bool.eq_iff_iff]
      simp only [List.any_eq_true, hversions.mem_iff]
    by_cases hcontra : ∃ range ∈ ranges, IsContradictory range
    · exact absurd (by rw [if_pos hcontra]) hknown
    · have hcontra' : ¬ ∃ range ∈ ranges', IsContradictory range := by
        rintro ⟨range, hmem, h⟩
        exact hcontra ⟨range, hranges.mem_iff.mpr hmem, h⟩
      simp only [if_neg hcontra, if_neg hcontra', ← hany]
      obtain ⟨houtcome, hperm⟩ :=
        conclude_perm hranges v (versions.any (hasEqualPrecedence v))
      exact ⟨trivial, houtcome.symm, by rw [houtcome], hperm⟩
  · subst hx
    exact absurd rfl hknown

theorem orderExplanationCodes_perm {codes codes' : List ExplanationCode}
    (h : codes.Perm codes') : orderExplanationCodes codes = orderExplanationCodes codes' :=
  sortBy_eq_of_perm compareExplanationCodes h.dedup

/-- The canonical text forgets the order of both lists. -/
theorem rangeCanonical_perm {ranges ranges' : List AdvisoryRangeDraft}
    {versions versions' : List JsString} (hranges : ranges.Perm ranges')
    (hversions : versions.Perm versions') :
    rangeCanonical ranges versions = rangeCanonical ranges' versions' := by
  unfold rangeCanonical
  rw [sortBy_eq_of_perm compareCodeUnits (hranges.map oneRangeCanonical),
    sortBy_eq_of_perm compareCodeUnits (hversions.map canonicalToken)]

section Evidence

variable (sha256 : JsString → JsString)

theorem evidence_outcome_unknown {input : EvidenceBase} {code : ExplanationCode}
    {path : List LifecycleNode} (h : Publishable .unknown [code]) :
    (evidence sha256 input .unknown [code] path).outcome = .unknown := by
  rw [evidence_of_publishable sha256 h]
  rfl

/-- The only exit with a known outcome is the last one. -/
theorem assessRequest_known {r : EvaluationRequest} {e : MatchEvaluationEvidence}
    (h : assessRequest sha256 r = some e) (hknown : e.outcome ≠ .unknown) :
    ∃ (identityKey : JsString) (x : Assessment),
      screenRequest sha256 r = .passed ∧ checkIdentity r = .passed identityKey ∧
      structuralToken r = none ∧
      (assessRanges classifyEachTime r.rawObservedVersion r.rangeType r.affectedRanges.items
        r.explicitAffectedVersions.items : Id Assessment) = x ∧
      e = evidence sha256
        { evidenceBase sha256 r with
          packageIdentityKey := some identityKey
          parsedVersionClassification := some x.parsedVersionClassification }
        x.outcome x.codes x.lifecyclePath := by
  unfold assessRequest at h
  dsimp only at h
  split at h
  · cases h
  · rename_i code hscreen
    cases h
    exact absurd (evidence_outcome_unknown sha256 (screenRequest_unknown sha256 hscreen))
      hknown
  · rename_i hscreen
    split at h
    · rename_i code hcheck
      cases h
      exact absurd (evidence_outcome_unknown sha256 (checkIdentity_unknown (.inl hcheck)))
        hknown
    · rename_i code key hcheck
      cases h
      exact absurd
        (evidence_outcome_unknown sha256 (checkIdentity_unknown (.inr ⟨key, hcheck⟩)))
        hknown
    · rename_i key hcheck
      split at h
      · cases h
        exact absurd (evidence_outcome_unknown sha256
          (.unknown_singleton (by decide) (by decide))) hknown
      · rename_i htoken
        rw [(assessRanges_returns _ _ _ _).eq] at h
        cases h
        exact ⟨key, _, hscreen, hcheck, by simpa using htoken, rfl, rfl⟩

/-- The last exit, from its conditions. -/
theorem assessRequest_passed {r : EvaluationRequest} {identityKey : JsString}
    (hscreen : screenRequest sha256 r = .passed)
    (hcheck : checkIdentity r = .passed identityKey) (htoken : structuralToken r = none)
    {x : Assessment}
    (hx : (assessRanges classifyEachTime r.rawObservedVersion r.rangeType
      r.affectedRanges.items r.explicitAffectedVersions.items : Id Assessment) = x) :
    assessRequest sha256 r = some (evidence sha256
      { evidenceBase sha256 r with
        packageIdentityKey := some identityKey
        parsedVersionClassification := some x.parsedVersionClassification }
      x.outcome x.codes x.lifecyclePath) := by
  unfold assessRequest
  rw [hscreen, hcheck, htoken]
  dsimp only [Option.isSome]
  rw [(assessRanges_returns _ _ _ _).eq, hx]
  rfl

/-- Nothing that is formed before the lists are classified sees their order. -/
theorem evidenceBase_perm (texts : RequestTexts) {ranges ranges' : List AdvisoryRangeDraft}
    {versions versions' : List JsString} (hranges : ranges.Perm ranges')
    (hversions : versions.Perm versions') :
    evidenceBase sha256 ⟨texts, .ok ranges, .ok versions⟩ =
        evidenceBase sha256 ⟨texts, .ok ranges', .ok versions'⟩ ∧
      screenRequest sha256 ⟨texts, .ok ranges, .ok versions⟩ =
        screenRequest sha256 ⟨texts, .ok ranges', .ok versions'⟩ := by
  have hcanonical : canonicalRanges ⟨texts, .ok ranges, .ok versions⟩ =
      canonicalRanges ⟨texts, .ok ranges', .ok versions'⟩ :=
    rangeCanonical_perm hranges hversions
  have hbudget : overBudget sha256 ⟨texts, .ok ranges, .ok versions⟩ =
      overBudget sha256 ⟨texts, .ok ranges', .ok versions'⟩ := by
    have hfields : budgetFields ⟨texts, .ok ranges, .ok versions⟩ =
        budgetFields ⟨texts, .ok ranges', .ok versions'⟩ := by
      unfold budgetFields
      rw [hcanonical]
    unfold overBudget
    rw [hfields]
  refine ⟨?_, ?_⟩
  · unfold evidenceBase
    rw [hbudget, hcanonical]
    rfl
  · unfold screenRequest
    rw [hbudget]
    rfl

/-- A known outcome is published for the permuted lists too, in an equal record. -/
theorem assessRequest_perm {texts : RequestTexts} {ranges ranges' : List AdvisoryRangeDraft}
    {versions versions' : List JsString} (hranges : ranges.Perm ranges')
    (hversions : versions.Perm versions') {e : MatchEvaluationEvidence}
    (h : assessRequest sha256 ⟨texts, .ok ranges, .ok versions⟩ = some e)
    (hknown : e.outcome ≠ .unknown) :
    assessRequest sha256 ⟨texts, .ok ranges', .ok versions'⟩ = some e := by
  obtain ⟨key, x, hscreen, hcheck, -, hx, rfl⟩ := assessRequest_known sha256 h hknown
  obtain ⟨hbase, hscreens⟩ := evidenceBase_perm sha256 texts hranges hversions
  have hpublishable : Publishable x.outcome x.codes := by
    rw [← hx]
    exact (assessRanges_publishable _ _ _ _).1
  have hxknown : x.outcome ≠ .unknown := by
    rw [evidence_of_publishable sha256 hpublishable] at hknown
    exact hknown
  obtain ⟨y, hy⟩ : ∃ y : Assessment,
      (assessRanges classifyEachTime texts.rawObservedVersion texts.rangeType ranges'
        versions' : Id Assessment) = y := ⟨_, rfl⟩
  obtain ⟨hclass, houtcome, hpath, hcodes⟩ :=
    assessRanges_perm hranges hversions hx hy hxknown
  have hpublishable' : Publishable y.outcome y.codes := by
    rw [← hy]
    exact (assessRanges_publishable _ _ _ _).1
  have hpassed := assessRequest_passed sha256
    (r := ⟨texts, .ok ranges', .ok versions'⟩) (hscreens.symm.trans hscreen) hcheck rfl hy
  rw [hpassed, evidence_of_publishable sha256 hpublishable,
    evidence_of_publishable sha256 hpublishable',
    ← hbase, hclass, houtcome, hpath, orderExplanationCodes_perm hcodes]

/-- A known outcome of one request is published for its permutation, in an equal
record. -/
theorem assessFirstEcosystemEvaluation_perm {a b : JsValue} (h : PermutedRequests a b)
    {e : MatchEvaluationEvidence} (he : assessFirstEcosystemEvaluation sha256 a = some e)
    (hknown : e.outcome ≠ .unknown) : assessFirstEcosystemEvaluation sha256 b = some e := by
  obtain ⟨⟨texts, ranges, versions⟩, hread, hassess⟩ := Option.bind_eq_some_iff.mp he
  obtain ⟨-, -, -, -, htoken, -, -⟩ := assessRequest_known sha256 hassess hknown
  cases ranges with
  | capacity token => cases versions <;> cases htoken
  | ok ranges =>
      cases versions with
      | capacity token => cases htoken
      | ok versions =>
          obtain ⟨ranges', versions', hranges, hversions, hread'⟩ :=
            readEvaluationRequest_perm sha256 h hread
          unfold assessFirstEcosystemEvaluation
          rw [hread']
          exact assessRequest_perm sha256 hranges hversions hassess hknown

/-- Two requests that differ only in the order of their ranges and of their
explicit versions: one is published affected (unaffected) iff the other is, and
then both records carry the same codes and the same two fingerprints. -/
theorem assessFirstEcosystemEvaluation_permuted (a b : JsValue) (h : PermutedRequests a b) :
    (∀ outcome : Outcome, outcome ≠ .unknown →
      ((assessFirstEcosystemEvaluation sha256 a).map (·.outcome) = some outcome ↔
        (assessFirstEcosystemEvaluation sha256 b).map (·.outcome) = some outcome)) ∧
    ∀ e e' : MatchEvaluationEvidence,
      assessFirstEcosystemEvaluation sha256 a = some e →
      assessFirstEcosystemEvaluation sha256 b = some e' →
      e.outcome ≠ .unknown →
      e.explanationCodes = e'.explanationCodes ∧
        e.rangeFingerprint = e'.rangeFingerprint ∧
        e.replayFingerprint = e'.replayFingerprint := by
  refine ⟨?_, ?_⟩
  · intro outcome hknown
    constructor
    · intro ha
      obtain ⟨e, he, rfl⟩ := Option.map_eq_some_iff.mp ha
      rw [assessFirstEcosystemEvaluation_perm sha256 h he hknown]
      rfl
    · intro hb
      obtain ⟨e, he, rfl⟩ := Option.map_eq_some_iff.mp hb
      rw [assessFirstEcosystemEvaluation_perm sha256 h.symm he hknown]
      rfl
  · intro e e' he he' hknown
    have hsame := assessFirstEcosystemEvaluation_perm sha256 h he hknown
    obtain rfl : e = e' := Option.some.inj (hsame.symm.trans he')
    exact ⟨rfl, rfl, rfl⟩

end Evidence

theorem permutedProperty_list {items items' : List JsValue} (h : items.Perm items') :
    PermutedProperty (.data true (.list items)) (.data true (.list items')) :=
  .array true _ _ (h.map _)

/-- Reordering the two lists of the sample request permutes it. -/
theorem sampleRequest_permuted {ranges ranges' versions versions' : List JsValue}
    (hranges : ranges.Perm ranges') (hversions : versions.Perm versions') :
    PermutedRequests (sampleRequest ranges versions) (sampleRequest ranges' versions') := by
  refine ⟨rfl, ?_⟩
  repeat
    first
      | exact .nil
      | refine .cons ⟨rfl, .same _, fun _ => rfl⟩ ?_
      | refine .cons ⟨rfl, permutedProperty_list hranges,
          fun h => absurd (show js "affectedRanges" ∈ permutedKeys by decide) h⟩ ?_
      | refine .cons ⟨rfl, permutedProperty_list hversions,
          fun h => absurd (show js "explicitAffectedVersions" ∈ permutedKeys by decide) h⟩ ?_

theorem assessFirstEcosystemEvaluation_permuted_sample :
    let early := sampleRangeValue [("introduced", "1.0.0"), ("fixed", "2.0.0")]
    let late := sampleRangeValue [("introduced", "3.0.0")]
    let a := sampleRequest [early, late] [.string (js "4.0.0"), .string (js "1.5.0")]
    let b := sampleRequest [late, early] [.string (js "1.5.0"), .string (js "4.0.0")]
    ∃ e e', assessFirstEcosystemEvaluation id a = some e ∧
      assessFirstEcosystemEvaluation id b = some e' ∧
      e.outcome = .affected ∧ e'.outcome = .affected ∧
      e.explanationCodes = e'.explanationCodes ∧
      e.rangeFingerprint = e'.rangeFingerprint ∧ e.replayFingerprint = e'.replayFingerprint := by
  intro early late a b
  have hpermuted : PermutedRequests a b := sampleRequest_permuted (.swap _ _ _) (.swap _ _ _)
  obtain ⟨houtcome, hrecords⟩ := assessFirstEcosystemEvaluation_permuted id a b hpermuted
  have ha : (assessFirstEcosystemEvaluation id a).map (·.outcome) = some .affected := by
    decide +kernel
  obtain ⟨e, he, haffected⟩ := Option.map_eq_some_iff.mp ha
  obtain ⟨e', he', haffected'⟩ :=
    Option.map_eq_some_iff.mp ((houtcome .affected (by decide)).mp ha)
  have hknown : e.outcome ≠ .unknown := by
    rw [haffected]
    decide
  exact ⟨e, e', he, he', haffected, haffected', hrecords e e' he he' hknown⟩

end PatchPilot.Matching
