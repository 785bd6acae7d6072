import PatchPilot.Foundation.FoldOrder
import PatchPilot.Sbom.Normalize

set_option autoImplicit false

/-!
# Sbom: what normalization makes of the listed components

The facts about `normalize-cyclonedx.ts` on which the properties of a graph rest: what a
normalized component takes from the listed one, how the representations of one occurrence
are folded, and what a document that is accepted went through.
-/

namespace PatchPilot.Sbom

open PatchPilot.Foundation

/-! ## One component -/

theorem presentText_eq_some {value : Option JsString} {text : JsString} :
    presentText value = some text ↔ value = some text ∧ text.length > 0 := by
  unfold presentText
  rw [Option.filter_eq_some_iff]
  refine and_congr_right fun _ => ?_
  exact decide_eq_true_iff

/-- What a component takes from a PURL. -/
structure FromPurl (library : PackageUrlJs) (raw : JsonRecord)
    (component : NormalizedComponent) (purl : JsString) (normalized : NormalizedPackageUrl) :
    Prop where
  listed : listedPurl raw = some purl
  parsed : normalizePackageUrl library purl = some normalized
  ns : component.ns = normalized.ns
  ecosystem : component.ecosystem = some normalized.type
  identityState : component.identityState = .resolved
  versionlessPurl : component.versionlessPurl = some normalized.versionless

/-- What a component without a PURL is. -/
structure FromListing (raw : JsonRecord) (component : NormalizedComponent) : Prop where
  listed : listedPurl raw = none
  ns : component.ns = listedGroup raw
  ecosystem : component.ecosystem = none
  identityState : component.identityState = .unsupported
  versionlessPurl : component.versionlessPurl = none
  versionedPurl : component.versionedPurl = none
  version : component.version = listedVersion raw

/-- What a normalized component takes from the listed one. -/
structure NormalizedFrom (library : PackageUrlJs) (raw : JsonRecord)
    (component : NormalizedComponent) : Prop where
  name : listedName raw = some component.name
  bomRef : component.bomRef = listedBomRef raw
  isDirect : component.isDirect = none
  identityKey : buildComponentIdentityKey component.identityInput = some component.identityKey
  identity : (∃ purl normalized, FromPurl library raw component purl normalized) ∨
    FromListing raw component

section

variable {library : PackageUrlJs} {limits : SbomParserLimits} {raw : JsonRecord}

theorem normalizeWithPurl_spec {name : JsString} {bomRef sha256Hex : Option JsString}
    {purl : JsString} {prepared : PreparedComponent} (hname : listedName raw = some name)
    (hbomRef : listedBomRef raw = bomRef) (hpurl : listedPurl raw = some purl)
    (h : normalizeWithPurl library limits raw name bomRef sha256Hex purl = .ok prepared) :
    NormalizedFrom library raw prepared.component := by
  unfold normalizeWithPurl at h
  obtain ⟨_, -, h⟩ := bind_eq_ok.mp h
  obtain ⟨normalized, hnormalized, h⟩ := bind_eq_ok.mp h
  obtain ⟨_, -, h⟩ := bind_eq_ok.mp h
  obtain ⟨version, -, h⟩ := bind_eq_ok.mp h
  obtain ⟨_, -, h⟩ := bind_eq_ok.mp h
  obtain ⟨versionedPurl, -, h⟩ := bind_eq_ok.mp h
  obtain ⟨_, -, h⟩ := bind_eq_ok.mp h
  obtain ⟨identityKey, hkey, h⟩ := bind_eq_ok.mp h
  cases h
  have hparsed := orReject_eq_ok.mp hnormalized
  have hbuilt := orReject_eq_ok.mp hkey
  exact ⟨hname, hbomRef.symm, rfl, hbuilt,
    .inl ⟨purl, normalized, hpurl, hparsed, rfl, rfl, rfl, rfl⟩⟩

theorem normalizeWithoutPurl_spec {name : JsString} {bomRef sha256Hex : Option JsString}
    {prepared : PreparedComponent} (hname : listedName raw = some name)
    (hbomRef : listedBomRef raw = bomRef) (hpurl : listedPurl raw = none)
    (h : normalizeWithoutPurl limits raw name bomRef sha256Hex = .ok prepared) :
    NormalizedFrom library raw prepared.component := by
  unfold normalizeWithoutPurl at h
  obtain ⟨version, hversion, h⟩ := bind_eq_ok.mp h
  obtain ⟨_, -, h⟩ := bind_eq_ok.mp h
  obtain ⟨identityKey, hkey, h⟩ := bind_eq_ok.mp h
  cases h
  have hbuilt := orReject_eq_ok.mp hkey
  have hlisted : version = listedVersion raw := by
    have hsilent : ∀ listed : Option JsString, disagree listed none = false := by
      intro listed
      cases listed with
      | none => rfl
      | some value => rfl
    change (if disagree (presentText (asString (raw.get (js "version")))) none = true then _
      else Except.ok (observedVersion
        ((presentText (asString (raw.get (js "version")))).or none))) = _ at hversion
    rw [Option.or_none, hsilent, if_neg Bool.false_ne_true] at hversion
    cases hversion
    rfl
  exact ⟨hname, hbomRef.symm, rfl, hbuilt,
    .inr ⟨hpurl, rfl, rfl, rfl, rfl, rfl, hlisted⟩⟩

/-- `normalizeOneComponent`, on success. -/
theorem normalizeOneComponent_spec {prepared : PreparedComponent}
    (h : normalizeOneComponent library limits raw = .ok prepared) :
    NormalizedFrom library raw prepared.component := by
  unfold normalizeOneComponent at h
  obtain ⟨name, hname, h⟩ := bind_eq_ok.mp h
  obtain ⟨_, -, h⟩ := bind_eq_ok.mp h
  obtain ⟨_, -, h⟩ := bind_eq_ok.mp h
  obtain ⟨_, -, h⟩ := bind_eq_ok.mp h
  obtain ⟨_, -, h⟩ := bind_eq_ok.mp h
  obtain ⟨sha256Hex, -, h⟩ := bind_eq_ok.mp h
  have hlisted := orReject_eq_ok.mp hname
  split at h
  · rename_i purl hpurl
    exact normalizeWithPurl_spec hlisted rfl hpurl h
  · rename_i hpurl
    exact normalizeWithoutPurl_spec hlisted rfl hpurl h

end

/-! ## What is read from a listed package URL -/

/-- The package URL that a component lists, normalized. -/
def listedPackageUrl (library : PackageUrlJs) (raw : JsonRecord) :
    Option NormalizedPackageUrl :=
  (listedPurl raw).bind (normalizePackageUrl library)

/-- The versionless package URL of a listed component. -/
def listedVersionless (library : PackageUrlJs) (raw : JsonRecord) : Option JsString :=
  (listedPackageUrl library raw).map (·.versionless)

/-- The version that a component lists, or else that of its package URL. -/
def statedVersion (library : PackageUrlJs) (raw : JsonRecord) : ComponentVersion :=
  observedVersion ((presentText (asString (raw.get (js "version")))).or
    (presentText ((listedPackageUrl library raw).bind (·.version))))

theorem resolveObservedVersion_eq_ok {listedRaw purlVersion : Option JsString}
    {version : ComponentVersion}
    (h : resolveObservedVersion listedRaw purlVersion = .ok version) :
    version = observedVersion ((presentText listedRaw).or (presentText purlVersion)) := by
  change (if disagree (presentText listedRaw) (presentText purlVersion) = true then _
    else Except.ok _) = _ at h
  split at h
  · cases h
  · cases h
    rfl

section

variable {library : PackageUrlJs} {limits : SbomParserLimits} {raw : JsonRecord}
  {prepared : PreparedComponent}

theorem normalizeWithPurl_version {name : JsString} {bomRef sha256Hex : Option JsString}
    {purl : JsString} (hpurl : listedPurl raw = some purl)
    (h : normalizeWithPurl library limits raw name bomRef sha256Hex purl = .ok prepared) :
    prepared.component.version = statedVersion library raw ∧
      prepared.component.versionlessPurl = listedVersionless library raw := by
  unfold normalizeWithPurl at h
  obtain ⟨_, -, h⟩ := bind_eq_ok.mp h
  obtain ⟨normalized, hnormalized, h⟩ := bind_eq_ok.mp h
  obtain ⟨_, -, h⟩ := bind_eq_ok.mp h
  obtain ⟨version, hversion, h⟩ := bind_eq_ok.mp h
  obtain ⟨_, -, h⟩ := bind_eq_ok.mp h
  obtain ⟨versionedPurl, -, h⟩ := bind_eq_ok.mp h
  obtain ⟨_, -, h⟩ := bind_eq_ok.mp h
  obtain ⟨identityKey, -, h⟩ := bind_eq_ok.mp h
  cases h
  have hlisted : listedPackageUrl library raw = some normalized := by
    unfold listedPackageUrl
    rw [hpurl]
    exact orReject_eq_ok.mp hnormalized
  unfold statedVersion listedVersionless
  rw [hlisted]
  exact ⟨resolveObservedVersion_eq_ok hversion, rfl⟩

/-- The version and the versionless package URL of a normalized component. -/
theorem normalizeOneComponent_version
    (h : normalizeOneComponent library limits raw = .ok prepared) :
    prepared.component.version = statedVersion library raw ∧
      prepared.component.versionlessPurl = listedVersionless library raw := by
  rcases (normalizeOneComponent_spec h).identity with ⟨purl, _, hpurl⟩ | hlisting
  · unfold normalizeOneComponent at h
    obtain ⟨name, -, h⟩ := bind_eq_ok.mp h
    obtain ⟨_, -, h⟩ := bind_eq_ok.mp h
    obtain ⟨_, -, h⟩ := bind_eq_ok.mp h
    obtain ⟨_, -, h⟩ := bind_eq_ok.mp h
    obtain ⟨_, -, h⟩ := bind_eq_ok.mp h
    obtain ⟨sha256Hex, -, h⟩ := bind_eq_ok.mp h
    rw [hpurl.listed] at h
    exact normalizeWithPurl_version hpurl.listed h
  · have hnone : listedPackageUrl library raw = none := by
      unfold listedPackageUrl
      rw [hlisting.listed]
      rfl
    unfold statedVersion listedVersionless
    rw [hnone, hlisting.version, hlisting.versionlessPurl]
    refine ⟨?_, rfl⟩
    change _ = observedVersion ((presentText (asString (raw.get (js "version")))).or none)
    rw [Option.or_none]
    rfl

end

/-! ## Identity keys -/

theorem buildComponentIdentityKey_eq_some {input : ComponentIdentityInput} {key : JsString} :
    buildComponentIdentityKey input = some key ↔
      input.name.length ≠ 0 ∧ key.length ≤ sbomIdentityKeyMaxLength ∧
        componentIdentityKey input = key := by
  unfold buildComponentIdentityKey
  by_cases hname : input.name.length = 0
  · rw [if_pos hname]
    exact iff_of_false nofun fun h => h.1 hname
  · rw [if_neg hname]
    change (if (componentIdentityKey input).length > sbomIdentityKeyMaxLength then none
      else some (componentIdentityKey input)) = some key ↔ _
    by_cases hlength : (componentIdentityKey input).length > sbomIdentityKeyMaxLength
    · rw [if_pos hlength]
      refine iff_of_false nofun ?_
      rintro ⟨-, hle, rfl⟩
      omega
    · rw [if_neg hlength]
      constructor
      · intro h
        cases h
        exact ⟨hname, by omega, rfl⟩
      · rintro ⟨-, -, rfl⟩
        rfl

/-- The key of a versionless PURL. -/
theorem componentIdentityKey_purl (input : ComponentIdentityInput) {purl : JsString}
    (h : input.versionlessPurl = some purl) (hpurl : purl.length > 0) :
    componentIdentityKey input = js "purl:" ++ purl := by
  unfold componentIdentityKey
  rw [h, Option.filter_some, if_pos (decide_eq_true hpurl)]

/-- The key of a component that is identified by what the document lists. -/
theorem componentIdentityKey_listing (input : ComponentIdentityInput)
    (h : input.versionlessPurl = none) (hstate : input.identityState = .unsupported) :
    componentIdentityKey input =
      js "unresolved:unsupported" ++ keySeparator :: input.bomRef.getD [] ++
        keySeparator :: input.name := by
  unfold componentIdentityKey
  rw [h, hstate]
  rfl

theorem occurrenceKey_inj {first second : NormalizedComponent}
    (hversion : first.version = second.version) :
    first.occurrenceKey = second.occurrenceKey ↔ first.identityKey = second.identityKey := by
  unfold NormalizedComponent.occurrenceKey
  rw [hversion]
  constructor
  · intro h
    cases hv : second.version with
    | unknown =>
        rw [hv] at h
        exact List.append_cancel_right h
    | known value =>
        rw [hv] at h
        exact List.append_cancel_right (List.append_cancel_right h)
  · intro h
    rw [h]

/-! ## The representations of one occurrence -/

theorem agree_pair {kept candidate : Option JsString} :
    Agree [kept, candidate] ↔ disagree kept candidate = false := by
  cases kept with
  | none =>
      refine iff_of_true ?_ rfl
      intro x y hx hy
      rw [List.mem_pair] at hx hy
      rcases hx with hx | hx
      · cases hx
      · rcases hy with hy | hy
        · cases hy
        · exact Option.some.inj (hx.trans hy.symm)
  | some a =>
      cases candidate with
      | none =>
          refine iff_of_true ?_ rfl
          intro x y hx hy
          rw [List.mem_pair] at hx hy
          rcases hx with hx | hx
          · rcases hy with hy | hy
            · exact Option.some.inj (hx.trans hy.symm)
            · cases hy
          · cases hx
      | some b =>
          have hdecide : disagree (some a) (some b) = decide (some a ≠ some b) := rfl
          rw [hdecide, decide_eq_false_iff_not, not_not]
          constructor
          · intro h
            exact congrArg some (h a b List.mem_cons_self
              (List.mem_cons_of_mem _ List.mem_cons_self))
          · intro h x y hx hy
            rw [h, List.mem_pair] at hx hy
            exact Option.some.inj ((hx.elim id id).trans (hy.elim id id).symm)

/-- What a candidate adds to an entry. -/
def CollapsedOccurrence.absorb (existing : CollapsedOccurrence) (candidate : PreparedComponent) :
    CollapsedOccurrence where
  component := { existing.component with
    versionedPurl := existing.component.versionedPurl.or candidate.component.versionedPurl }
  sha256Hex := existing.sha256Hex.or candidate.sha256Hex
  names := existing.names ++ [candidate.component.name]
  bomRefs := existing.bomRefs ++ candidate.component.bomRef.toList

theorem mergeOccurrence_eq_ok {existing merged : CollapsedOccurrence}
    {candidate : PreparedComponent} :
    mergeOccurrence existing candidate = .ok merged ↔
      existing.component.version = candidate.component.version ∧
        Agree [existing.component.versionedPurl, candidate.component.versionedPurl] ∧
          Agree [existing.sha256Hex, candidate.sha256Hex] ∧
            merged = existing.absorb candidate := by
  rw [agree_pair, agree_pair]
  unfold mergeOccurrence occurrenceAliasConflict aliasFacts
  by_cases hversion : existing.component.version = candidate.component.version
  · rw [if_neg (not_not.mpr hversion)]
    by_cases hpurl : disagree existing.component.versionedPurl
        candidate.component.versionedPurl = true
    · rw [if_pos hpurl]
      refine iff_of_false nofun fun h => ?_
      rw [hpurl] at h
      cases h.2.1
    · rw [if_neg hpurl]
      by_cases hsha : disagree existing.sha256Hex candidate.sha256Hex = true
      · rw [if_pos hsha]
        refine iff_of_false nofun fun h => ?_
        rw [hsha] at h
        cases h.2.2.1
      · rw [if_neg hsha]
        constructor
        · intro h
          cases h
          exact ⟨hversion, Bool.eq_false_iff.mpr hpurl, Bool.eq_false_iff.mpr hsha, rfl⟩
        · rintro ⟨-, -, -, rfl⟩
          rfl
  · rw [if_pos hversion]
    exact iff_of_false nofun fun h => hversion h.1

/-- An entry, with the members that follow. -/
def CollapsedOccurrence.absorbAll (existing : CollapsedOccurrence)
    (rest : List PreparedComponent) : CollapsedOccurrence where
  component := { existing.component with
    versionedPurl :=
      firstStated (existing.component.versionedPurl :: rest.map (·.component.versionedPurl)) }
  sha256Hex := firstStated (existing.sha256Hex :: rest.map (·.sha256Hex))
  names := existing.names ++ rest.map (·.component.name)
  bomRefs := existing.bomRefs ++ rest.filterMap (·.component.bomRef)

theorem firstStated_or {fact fact' : Option JsString} {rest : List (Option JsString)} :
    firstStated (fact.or fact' :: rest) = firstStated (fact :: fact' :: rest) := by
  rw [firstStated_cons, firstStated_cons, firstStated_cons, Option.or_assoc]

theorem absorbAll_nil {existing : CollapsedOccurrence} : existing.absorbAll [] = existing := by
  unfold CollapsedOccurrence.absorbAll
  rw [List.map_nil, List.map_nil, List.map_nil, List.filterMap_nil, List.append_nil,
    List.append_nil, firstStated_cons, firstStated_cons]
  have hnone : ∀ fact : Option JsString, fact.or (firstStated []) = fact := by
    intro fact
    exact Option.or_none
  rw [hnone, hnone]

theorem absorbAll_cons {existing : CollapsedOccurrence} {candidate : PreparedComponent}
    {rest : List PreparedComponent} :
    (existing.absorb candidate).absorbAll rest = existing.absorbAll (candidate :: rest) := by
  unfold CollapsedOccurrence.absorbAll CollapsedOccurrence.absorb
  rw [firstStated_or, firstStated_or, List.append_assoc, List.append_assoc]
  have hbomRefs : (candidate :: rest).filterMap (·.component.bomRef) =
      candidate.component.bomRef.toList ++ rest.filterMap (·.component.bomRef) := by
    rw [List.filterMap_cons]
    cases candidate.component.bomRef with
    | none => rfl
    | some bomRef => rfl
  rw [hbomRefs]
  rfl

/-- The candidates of an occurrence, one after the other. -/
theorem foldlM_mergeOccurrence {rest : List PreparedComponent} :
    ∀ {existing merged : CollapsedOccurrence},
      rest.foldlM mergeOccurrence existing = .ok merged ↔
        (∀ candidate ∈ rest, existing.component.version = candidate.component.version) ∧
          Agree (existing.component.versionedPurl :: rest.map (·.component.versionedPurl)) ∧
            Agree (existing.sha256Hex :: rest.map (·.sha256Hex)) ∧
              merged = existing.absorbAll rest := by
  induction rest with
  | nil =>
      intro existing merged
      have halone : ∀ fact : Option JsString, Agree [fact] := by
        intro fact x y hx hy
        rw [List.mem_singleton] at hx hy
        exact Option.some.inj (hx.trans hy.symm)
      rw [absorbAll_nil]
      constructor
      · intro h
        cases h
        exact ⟨fun _ hmem => (List.not_mem_nil hmem).elim, halone _, halone _, rfl⟩
      · rintro ⟨-, -, -, rfl⟩
        rfl
  | cons candidate rest ih =>
      intro existing merged
      rw [List.foldlM_cons, bind_eq_ok, List.map_cons, List.map_cons, agree_cons_cons,
        @agree_cons_cons _ existing.sha256Hex]
      constructor
      · rintro ⟨next, hmerge, hrest⟩
        obtain ⟨hversion, hpurl, hsha, rfl⟩ := mergeOccurrence_eq_ok.mp hmerge
        obtain ⟨hversions, hpurls, hshas, rfl⟩ := ih.mp hrest
        refine ⟨?_, ⟨hpurl, hpurls⟩, ⟨hsha, hshas⟩, absorbAll_cons⟩
        intro other hother
        rcases List.mem_cons.mp hother with rfl | hother
        · exact hversion
        · exact hversions other hother
      · rintro ⟨hversions, ⟨hpurl, hpurls⟩, ⟨hsha, hshas⟩, rfl⟩
        refine ⟨existing.absorb candidate, mergeOccurrence_eq_ok.mpr
          ⟨hversions candidate List.mem_cons_self, hpurl, hsha, rfl⟩, ih.mpr ?_⟩
        exact ⟨fun other hother => hversions other (List.mem_cons_of_mem _ hother), hpurls,
          hshas, absorbAll_cons.symm⟩

/-- The members of a group can be collapsed. -/
structure Collapsible (group : List PreparedComponent) : Prop where
  version : ∀ first ∈ group, ∀ second ∈ group,
    first.component.version = second.component.version
  versionedPurl : Agree (group.map (·.component.versionedPurl))
  sha256Hex : Agree (group.map (·.sha256Hex))

theorem Collapsible.perm {group group' : List PreparedComponent} (hperm : group.Perm group')
    (h : Collapsible group) : Collapsible group' where
  version first hfirst second hsecond :=
    h.version first (hperm.mem_iff.mpr hfirst) second (hperm.mem_iff.mpr hsecond)
  versionedPurl := (agree_congr fun _ => (hperm.map _).mem_iff).mp h.versionedPurl
  sha256Hex := (agree_congr fun _ => (hperm.map _).mem_iff).mp h.sha256Hex

/-- What a group is folded into. -/
theorem built_occurrences {group : List PreparedComponent}
    {entry : Option CollapsedOccurrence} :
    occurrences.Built group entry ↔
      Collapsible group ∧ entry = group.head?.map fun first =>
        (openOccurrence first).absorbAll group.tail := by
  cases group with
  | nil =>
      cases entry with
      | none =>
          refine iff_of_true trivial ⟨⟨?_, ?_, ?_⟩, rfl⟩
          · exact fun _ hmem => (List.not_mem_nil hmem).elim
          · exact fun _ _ hmem => (List.not_mem_nil hmem).elim
          · exact fun _ _ hmem => (List.not_mem_nil hmem).elim
      | some e => exact iff_of_false id fun h => by cases h.2
  | cons first rest =>
      have hversions : (∀ candidate ∈ rest,
          first.component.version = candidate.component.version) ↔
            ∀ a ∈ first :: rest, ∀ b ∈ first :: rest,
              a.component.version = b.component.version := by
        constructor
        · intro h a ha b hb
          have heq : ∀ c ∈ first :: rest, first.component.version = c.component.version := by
            intro c hc
            rcases List.mem_cons.mp hc with rfl | hc
            · rfl
            · exact h c hc
          exact (heq a ha).symm.trans (heq b hb)
        · intro h candidate hcandidate
          exact h first List.mem_cons_self candidate (List.mem_cons_of_mem _ hcandidate)
      cases entry with
      | none => exact iff_of_false id fun h => by cases h.2
      | some e =>
          change rest.foldlM mergeOccurrence (openOccurrence first) = .ok e ↔ _
          rw [foldlM_mergeOccurrence]
          constructor
          · rintro ⟨hversion, hpurl, hsha, rfl⟩
            exact ⟨⟨hversions.mp hversion, hpurl, hsha⟩, rfl⟩
          · rintro ⟨⟨hversion, hpurl, hsha⟩, hentry⟩
            exact ⟨hversions.mpr hversion, hpurl, hsha, Option.some.inj hentry⟩

/-- The listed components of one occurrence. -/
def occurrenceGroup (prepared : List PreparedComponent) (key : JsString) :
    List PreparedComponent :=
  prepared.filter fun candidate => candidate.component.occurrenceKey = key

/-- Collapsing succeeds exactly when every group can be collapsed. -/
theorem occurrences_isOk_iff {prepared : List PreparedComponent} :
    (∃ kept, occurrences.run prepared = .ok kept) ↔
      ∀ key, Collapsible (occurrenceGroup prepared key) := by
  rw [occurrences.run_isOk_iff]
  refine forall_congr' fun key => ?_
  constructor
  · rintro ⟨entry, hentry⟩
    exact (built_occurrences.mp hentry).1
  · intro h
    exact ⟨_, built_occurrences.mpr ⟨h, rfl⟩⟩

/-- The entry of a key. -/
theorem occurrences_find? {prepared : List PreparedComponent}
    {kept : List CollapsedOccurrence} (h : occurrences.run prepared = .ok kept)
    (key : JsString) :
    kept.find? (fun entry => entry.component.occurrenceKey = key) =
      (occurrenceGroup prepared key).head?.map fun first =>
        (openOccurrence first).absorbAll (occurrenceGroup prepared key).tail :=
  (built_occurrences.mp (occurrences.run_built key h)).2

/-! ## Documents -/

/-- The loop over the listed components succeeds when each of them is normalized and no
reference is listed twice. -/
theorem prepareComponents_eq_ok {library : PackageUrlJs} {limits : SbomParserLimits}
    {raws : List JsonRecord} : ∀ {seen : List JsString} {prepared : List PreparedComponent},
      prepareComponents library limits raws seen = .ok prepared ↔
        List.Forall₂ (fun raw candidate =>
            normalizeOneComponent library limits raw = .ok candidate) raws prepared ∧
          (prepared.filterMap (·.component.bomRef)).Nodup ∧
            ∀ bomRef ∈ prepared.filterMap (·.component.bomRef), bomRef ∉ seen := by
  induction raws with
  | nil =>
      intro seen prepared
      unfold prepareComponents
      constructor
      · intro h
        cases h
        exact ⟨.nil, List.nodup_nil, fun _ hmem => (List.not_mem_nil hmem).elim⟩
      · rintro ⟨hall, -, -⟩
        cases hall
        rfl
  | cons raw rest ih =>
      intro seen prepared
      unfold prepareComponents
      rw [bind_eq_ok]
      constructor
      · rintro ⟨candidate, hcandidate, h⟩
        obtain ⟨_, hnew, h⟩ := bind_eq_ok.mp h
        obtain ⟨others, hothers, h⟩ := bind_eq_ok.mp h
        cases h
        obtain ⟨hall, hnodup, hseen⟩ := ih.mp hothers
        refine ⟨.cons hcandidate hall, ?_⟩
        have hfresh := reject_eq_ok.mp hnew
        rw [List.filterMap_cons]
        cases hbomRef : candidate.component.bomRef with
        | none =>
            rw [hbomRef] at hseen
            exact ⟨hnodup, hseen⟩
        | some bomRef =>
            rw [hbomRef] at hseen hfresh
            have hunseen : bomRef ∉ seen := fun hmem => hfresh (decide_eq_true hmem)
            refine ⟨List.nodup_cons.mpr ⟨?_, hnodup⟩, ?_⟩
            · exact fun hmem => hseen bomRef hmem List.mem_cons_self
            · intro other hother
              rcases List.mem_cons.mp hother with rfl | hother
              · exact hunseen
              · exact fun hmem => hseen other hother (List.mem_cons_of_mem _ hmem)
      · rintro ⟨hall, hnodup, hseen⟩
        cases hall with
        | cons hcandidate hrest =>
            rename_i candidate others
            rw [List.filterMap_cons] at hnodup hseen
            refine ⟨candidate, hcandidate, bind_eq_ok.mpr ⟨(), reject_eq_ok.mpr ?_,
              bind_eq_ok.mpr ⟨others, ih.mpr ⟨hrest, ?_⟩, rfl⟩⟩⟩
            · cases hbomRef : candidate.component.bomRef with
              | none => exact nofun
              | some bomRef =>
                  rw [hbomRef] at hseen
                  intro hmem
                  exact hseen bomRef List.mem_cons_self (of_decide_eq_true hmem)
            · cases hbomRef : candidate.component.bomRef with
              | none =>
                  rw [hbomRef] at hnodup hseen
                  exact ⟨hnodup, hseen⟩
              | some bomRef =>
                  rw [hbomRef] at hnodup hseen
                  obtain ⟨hfresh, hothers⟩ := List.nodup_cons.mp hnodup
                  refine ⟨hothers, ?_⟩
                  intro other hother hmem
                  rcases List.mem_cons.mp hmem with rfl | hmem
                  · exact hfresh hother
                  · exact hseen other (List.mem_cons_of_mem _ hother) hmem

/-- What a document that is accepted went through up to its components. -/
theorem normalizeCycloneDxDocument_eq_ok {library : PackageUrlJs} {document : JsonValue}
    {limits : SbomParserLimits} {parserVersion normalizationVersion : JsString}
    {specificationVersion : SbomSpecificationVersion} {graph : NormalizedComponentGraph} :
    normalizeCycloneDxDocument library document limits parserVersion normalizationVersion
        specificationVersion = .ok graph ↔
      normalizationVersion = currentSbomNormalizationVersion ∧
        ∃ record, document.record? = some record ∧
          countMetadataTools record ≤ limits.maxMetadataTools ∧
            (collectComponents record).length ≤ limits.maxComponents ∧
              ∃ prepared,
                prepareComponents library limits (collectComponents record) [] =
                    .ok prepared ∧
                  normalizePrepared limits record parserVersion normalizationVersion
                    specificationVersion prepared = .ok graph := by
  unfold normalizeCycloneDxDocument
  constructor
  · intro h
    obtain ⟨_, hversion, h⟩ := bind_eq_ok.mp h
    obtain ⟨record, hrecord, h⟩ := bind_eq_ok.mp h
    obtain ⟨_, htools, h⟩ := bind_eq_ok.mp h
    obtain ⟨_, hcount, h⟩ := bind_eq_ok.mp h
    obtain ⟨prepared, hprepared, h⟩ := bind_eq_ok.mp h
    exact ⟨not_not.mp (reject_eq_ok.mp hversion), record, orReject_eq_ok.mp hrecord,
      Nat.le_of_not_gt (reject_eq_ok.mp htools), Nat.le_of_not_gt (reject_eq_ok.mp hcount),
      prepared, hprepared, h⟩
  · rintro ⟨hversion, record, hrecord, htools, hcount, prepared, hprepared, h⟩
    refine bind_eq_ok.mpr ⟨(), reject_eq_ok.mpr (not_not.mpr hversion), ?_⟩
    refine bind_eq_ok.mpr ⟨record, orReject_eq_ok.mpr hrecord, ?_⟩
    refine bind_eq_ok.mpr ⟨(), reject_eq_ok.mpr (Nat.not_lt.mpr htools), ?_⟩
    refine bind_eq_ok.mpr ⟨(), reject_eq_ok.mpr (Nat.not_lt.mpr hcount), ?_⟩
    exact bind_eq_ok.mpr ⟨prepared, hprepared, h⟩

/-- What is known of the graph of a document that is accepted: `kept` are the entries of
its occurrences, and `finish` is what becomes of an entry. -/
structure GraphOf (prepared : List PreparedComponent) (graph : NormalizedComponentGraph)
    (kept : List CollapsedOccurrence) (direct : List JsString) (hasDependencyGraph : Bool) :
    Prop where
  run : occurrences.run prepared = .ok kept
  components : graph.components = kept.map fun entry =>
    applyDirectness direct hasDependencyGraph entry.normalized
  valid : (validateNormalizedComponentGraph graph).isSome

theorem normalizePrepared_graphOf {limits : SbomParserLimits} {document : JsonRecord}
    {parserVersion normalizationVersion : JsString}
    {specificationVersion : SbomSpecificationVersion} {prepared : List PreparedComponent}
    {graph : NormalizedComponentGraph}
    (h : normalizePrepared limits document parserVersion normalizationVersion
      specificationVersion prepared = .ok graph) :
    ∃ kept direct hasDependencyGraph,
      GraphOf prepared graph kept direct hasDependencyGraph := by
  unfold normalizePrepared at h
  obtain ⟨collapsed, hcollapsed, h⟩ := bind_eq_ok.mp h
  obtain ⟨listedEdges, -, h⟩ := bind_eq_ok.mp h
  obtain ⟨_, -, h⟩ := bind_eq_ok.mp h
  obtain ⟨state, -, h⟩ := bind_eq_ok.mp h
  obtain ⟨_, -, h⟩ := bind_eq_ok.mp h
  obtain ⟨completeness, -, h⟩ := bind_eq_ok.mp h
  obtain ⟨validated, hvalid, h⟩ := bind_eq_ok.mp h
  cases h
  obtain ⟨kept, hkept, hcollapsed⟩ := bind_eq_ok.mp hcollapsed
  cases hcollapsed
  refine ⟨kept, _, _, hkept, List.map_map, ?_⟩
  rw [orReject_eq_ok.mp hvalid]
  rfl

theorem applyDirectness_occurrenceKey {direct : List JsString} {hasDependencyGraph : Bool}
    {component : NormalizedComponent} :
    (applyDirectness direct hasDependencyGraph component).occurrenceKey =
      component.occurrenceKey := by
  unfold applyDirectness
  split
  · split
    · rfl
    · rfl
  · rfl

end PatchPilot.Sbom
