import PatchPilot.Sbom.DocumentOrder

set_option autoImplicit false

/-!
# Sbom: the closing calls (`normalize-cyclonedx.ts`, `graph.ts`)

A graph is assembled first and checked last: its completeness is derived from its counts,
and `validateNormalizedComponentGraph` reads it once more.  A component is checked under
the name and the reference that were kept for its occurrence, and against the key that it
was given under its own.
-/

namespace PatchPilot.Sbom

open PatchPilot.Foundation

/-! ## The graph before it is closed -/

/-- What is assembled before the completeness is derived. -/
structure OpenGraph where
  specificationVersion : SbomSpecificationVersion
  components : List NormalizedComponent
  edges : List NormalizedDependencyEdge
  skippedListedEdgeCount : Nat
  duplicateCount : Nat
  capturedAt : Option JsString
  parserVersion : JsString
  normalizationVersion : JsString
  deriving DecidableEq

/-- The call of `deriveGraphCompleteness`. -/
def OpenGraph.completeness (opened : OpenGraph) : Option GraphCompleteness :=
  deriveGraphCompleteness opened.components.length opened.edges.length
    opened.skippedListedEdgeCount

/-- `success`, of a completeness. -/
def OpenGraph.success (opened : OpenGraph) (graphCompleteness : GraphCompleteness) :
    NormalizedComponentGraph :=
  let warnings := warningSummaries opened.skippedListedEdgeCount opened.duplicateCount
  { specificationVersion := opened.specificationVersion
    graphCompleteness
    components := opened.components
    edges := opened.edges
    warnings
    componentCount := opened.components.length
    dependencyEdgeCount := opened.edges.length
    warningCount := (warnings.map (·.count)).sum
    capturedAt := opened.capturedAt
    parserVersion := opened.parserVersion
    normalizationVersion := opened.normalizationVersion }

/-- The end of `normalizeCycloneDxDocument`. -/
def OpenGraph.close (opened : OpenGraph) : Except ParserWorkerFailure NormalizedComponentGraph :=
  do
    let graphCompleteness ← orReject opened.completeness .schemaInvalid
    let _ ← orReject (validateNormalizedComponentGraph (opened.success graphCompleteness))
      .schemaInvalid
    .ok (opened.success graphCompleteness)

/-- `normalizePrepared`, up to the closing calls. -/
def openPrepared (limits : SbomParserLimits) (document : JsonRecord)
    (parserVersion normalizationVersion : JsString)
    (specificationVersion : SbomSpecificationVersion) (prepared : List PreparedComponent) :
    Except ParserWorkerFailure OpenGraph := do
  let collapsed ← collapseOccurrences prepared
  let resolve := resolveAlias collapsed.bomRefAlias
  let knownBomRefs := collapsed.components.filterMap (·.bomRef)
  let listedEdges ← listEdges resolve knownBomRefs (document.get (js "dependencies"))
  reject (listedEdges.length > limits.maxDependencyEdges) .edgeLimit
  let state ← listedEdges.foldlM (takeEdge resolve knownBomRefs) ⟨[], 0⟩
  reject (state.edges.length > limits.maxDependencyEdges) .edgeLimit
  let aliasedRoot := (metadataComponentBomRef document).map resolve
  .ok {
    specificationVersion
    components := collapsed.components.map
      (applyDirectness (directBomRefs aliasedRoot state.edges)
        (decide (listedEdges.length > 0)))
    edges := state.edges
    skippedListedEdgeCount := state.skippedListedEdgeCount
    duplicateCount := collapsed.duplicateCount
    capturedAt := capturedAtFromMetadata document
    parserVersion
    normalizationVersion }

/-- `normalizeCycloneDxDocument`, up to the closing calls. -/
def openDocument (library : PackageUrlJs) (document : JsonValue) (limits : SbomParserLimits)
    (parserVersion normalizationVersion : JsString)
    (specificationVersion : SbomSpecificationVersion) :
    Except ParserWorkerFailure OpenGraph := do
  reject (normalizationVersion ≠ currentSbomNormalizationVersion)
    .unsupportedNormalizationVersion
  let record ← orReject document.record? .notCyclonedx
  reject (countMetadataTools record > limits.maxMetadataTools) .toolLimit
  let rawComponents := collectComponents record
  reject (rawComponents.length > limits.maxComponents) .componentLimit
  let prepared ← prepareComponents library limits rawComponents []
  openPrepared limits record parserVersion normalizationVersion specificationVersion prepared

section

variable {library : PackageUrlJs} {limits : SbomParserLimits} {document : JsonRecord}
  {parserVersion normalizationVersion : JsString}
  {specificationVersion : SbomSpecificationVersion}

/-- What is assembled is closed. -/
theorem normalizePrepared_eq {prepared : List PreparedComponent} :
    normalizePrepared limits document parserVersion normalizationVersion specificationVersion
        prepared =
      openPrepared limits document parserVersion normalizationVersion specificationVersion
        prepared >>= OpenGraph.close := by
  unfold normalizePrepared openPrepared
  simp only [bind_assoc]
  rfl

theorem normalizeCycloneDxDocument_eq {document : JsonValue} :
    normalizeCycloneDxDocument library document limits parserVersion normalizationVersion
        specificationVersion =
      openDocument library document limits parserVersion normalizationVersion
        specificationVersion >>= OpenGraph.close := by
  unfold normalizeCycloneDxDocument openDocument
  simp only [bind_assoc, normalizePrepared_eq]

theorem close_eq_ok {opened : OpenGraph} {graph : NormalizedComponentGraph} :
    opened.close = .ok graph ↔ ∃ graphCompleteness,
      opened.completeness = some graphCompleteness ∧ (opened.success graphCompleteness).Valid ∧
        graph = opened.success graphCompleteness := by
  unfold OpenGraph.close
  constructor
  · intro h
    obtain ⟨graphCompleteness, hcompleteness, h⟩ := bind_eq_ok.mp h
    obtain ⟨validated, hvalidated, h⟩ := bind_eq_ok.mp h
    cases h
    exact ⟨graphCompleteness, orReject_eq_ok.mp hcompleteness,
      (validateNormalizedComponentGraph_eq_some.mp (orReject_eq_ok.mp hvalidated)).1, rfl⟩
  · rintro ⟨graphCompleteness, hcompleteness, hvalid, rfl⟩
    refine bind_eq_ok.mpr ⟨graphCompleteness, orReject_eq_ok.mpr hcompleteness, ?_⟩
    have hvalidated := validateNormalizedComponentGraph_eq_some.mpr ⟨hvalid, rfl⟩
    exact bind_eq_ok.mpr ⟨_, orReject_eq_ok.mpr hvalidated, rfl⟩

/-- What an assembled graph is made of. -/
structure OpenedFrom (library : PackageUrlJs) (limits : SbomParserLimits)
    (document : JsonRecord) (input : GraphInput) (prepared : List PreparedComponent)
    (kept : List CollapsedOccurrence) (listed : List NormalizedDependencyEdge)
    (opened : OpenGraph) : Prop where
  candidates : List.Forall₂ (fun raw candidate =>
    normalizeOneComponent library limits raw = .ok candidate) (collectComponents document) prepared
  nodup : (prepared.filterMap (·.component.bomRef)).Nodup
  collapse : occurrences.run prepared = .ok kept
  dependencies : listEdges (canonicalBomRef prepared) (keptBomRefs kept)
    (document.get (js "dependencies")) = .ok listed
  known : ∀ edge ∈ listed, EndsKnown (canonicalBomRef prepared) (keptBomRefs kept) edge
  components : opened.components = placedComponents input prepared kept listed
  edges : opened.edges = keptEdges prepared listed
  skipped : opened.skippedListedEdgeCount = skippedEdges (canonicalBomRef prepared) listed

theorem openPrepared_spec {prepared : List PreparedComponent} {opened : OpenGraph}
    (hcandidates : List.Forall₂ (fun raw candidate =>
      normalizeOneComponent library limits raw = .ok candidate) (collectComponents document)
      prepared)
    (hnodup : (prepared.filterMap (·.component.bomRef)).Nodup)
    (h : openPrepared limits document parserVersion normalizationVersion specificationVersion
      prepared = .ok opened) :
    ∃ input kept listed, OpenedFrom library limits document input prepared kept listed opened :=
  by
    unfold openPrepared at h
    obtain ⟨collapsed, hcollapsed, h⟩ := bind_eq_ok.mp h
    obtain ⟨kept, hkept, hcollapsed⟩ := bind_eq_ok.mp hcollapsed
    cases hcollapsed
    have hresolve : resolveAlias (kept.flatMap CollapsedOccurrence.aliases) =
        canonicalBomRef prepared := funext (resolveAlias_eq hkept hnodup)
    obtain ⟨listed, hlisted, h⟩ := bind_eq_ok.mp h
    obtain ⟨_, -, h⟩ := bind_eq_ok.mp h
    obtain ⟨state, hstate, h⟩ := bind_eq_ok.mp h
    obtain ⟨_, -, h⟩ := bind_eq_ok.mp h
    rw [hresolve] at hlisted hstate h
    obtain ⟨hknown, rfl⟩ := foldlM_takeEdge.mp hstate
    cases h
    exact ⟨⟨metadataComponentBomRef document, capturedAtFromMetadata document, parserVersion,
      normalizationVersion, specificationVersion⟩, kept, listed, hcandidates, hnodup, hkept,
      hlisted, hknown, rfl, rfl, rfl⟩

theorem openDocument_spec {opened : OpenGraph}
    (h : openDocument library (.object document) limits parserVersion normalizationVersion
      specificationVersion = .ok opened) :
    ∃ input prepared kept listed,
      OpenedFrom library limits document input prepared kept listed opened := by
  unfold openDocument at h
  obtain ⟨_, -, h⟩ := bind_eq_ok.mp h
  obtain ⟨record, hrecord, h⟩ := bind_eq_ok.mp h
  cases hrecord
  obtain ⟨_, -, h⟩ := bind_eq_ok.mp h
  obtain ⟨_, -, h⟩ := bind_eq_ok.mp h
  obtain ⟨prepared, hprepared, h⟩ := bind_eq_ok.mp h
  obtain ⟨hcandidates, hnodup, -⟩ := prepareComponents_eq_ok.mp hprepared
  obtain ⟨input, kept, listed, hopened⟩ := openPrepared_spec hcandidates hnodup h
  exact ⟨input, prepared, kept, listed, hopened⟩

end

/-! ## What a listed component brings -/

theorem parseComponentVersion_observed (raw : Option JsString) :
    parseComponentVersion (observedVersion raw) = some (observedVersion raw) := by
  cases raw with
  | none => rfl
  | some value =>
      change parseComponentVersion ((knownComponentVersion value).getD .unknown) =
        some ((knownComponentVersion value).getD .unknown)
      cases hknown : knownComponentVersion value with
      | none => rfl
      | some version =>
          cases knownComponentVersion_eq hknown
          exact hknown

/-! ## The key of a component that was collapsed -/

/-- The texts of a component that has no PURL, as its key has them. -/
def ownTexts (candidate : PreparedComponent) : JsString :=
  candidate.component.bomRef.getD [] ++ keySeparator :: candidate.component.name

/-- The texts that are kept for its occurrence. -/
def keptTexts (prepared : List PreparedComponent) (candidate : PreparedComponent) : JsString :=
  (earliestText (occurrenceBomRefs prepared candidate.component.occurrenceKey)).getD [] ++
    keySeparator ::
      (earliestText (occurrenceNames prepared candidate.component.occurrenceKey)).getD []

/-- The reference and the name that are kept spell the key of every component without a
PURL. -/
def KeysRebuilt (prepared : List PreparedComponent) : Prop :=
  ∀ candidate ∈ prepared, candidate.component.versionlessPurl = none →
    keptTexts prepared candidate = ownTexts candidate

section

variable {library : PackageUrlJs} {limits : SbomParserLimits} {document : JsonRecord}
  {input : GraphInput} {prepared : List PreparedComponent} {kept : List CollapsedOccurrence}
  {listed : List NormalizedDependencyEdge} {opened : OpenGraph}

theorem OpenedFrom.normalizes
    (h : OpenedFrom library limits document input prepared kept listed opened)
    {candidate : PreparedComponent} (hmem : candidate ∈ prepared) :
    ∃ raw, normalizeOneComponent library limits raw = .ok candidate := by
  obtain ⟨raw, -, hraw⟩ := mem_of_forall₂ h.candidates.flip hmem
  exact ⟨raw, hraw⟩

theorem ownTexts_eq_iff {raw raw' : JsonRecord} {candidate candidate' : PreparedComponent}
    (h : NormalizedFrom library raw candidate.component)
    (hlisting : FromListing raw candidate.component)
    (h' : NormalizedFrom library raw' candidate'.component)
    (hlisting' : FromListing raw' candidate'.component) :
    candidate.component.identityKey = candidate'.component.identityKey ↔
      ownTexts candidate = ownTexts candidate' := by
  unfold ownTexts
  rw [hlisting.identityKey h, hlisting'.identityKey h', List.append_cancel_left_eq,
    List.cons.injEq, h.bomRef, h'.bomRef]
  exact and_iff_right rfl

theorem fromListing_of_none {raw : JsonRecord} {component : NormalizedComponent}
    (h : NormalizedFrom library raw component) (hnone : component.versionlessPurl = none) :
    FromListing raw component := by
  rcases h.identity with ⟨purl, normalized, hpurl⟩ | hlisting
  · rw [hpurl.versionlessPurl] at hnone
    cases hnone
  · exact hlisting

/-- The text that is kept is one of those that were listed. -/
theorem earliestText_getD_mem {values : List JsString} {text : JsString} (h : text ∈ values)
    (default : JsString) : (earliestText values).getD default ∈ values := by
  obtain ⟨earliest, hearliest⟩ := earliestText_isSome h
  rw [hearliest]
  exact earliestText_mem hearliest

/-- Under its new name and reference a component is valid when its key is spelled again. -/
theorem OpenedFrom.entry_valid_iff
    (h : OpenedFrom library limits document input prepared kept listed opened)
    (hwritten : library.Written) {entry : CollapsedOccurrence} {first : PreparedComponent}
    (hof : EntryOf prepared entry first) :
    entry.normalized.Valid ↔
      (first.component.versionlessPurl = none → keptTexts prepared first = ownTexts first) := by
  obtain ⟨hfirst, hfirstKey⟩ := mem_occurrenceGroup.mp (List.mem_of_mem_head? hof.head)
  obtain ⟨raw, hraw⟩ := h.normalizes hfirst
  have hspec := normalizeOneComponent_spec hraw
  obtain ⟨hlength, hmax, hkey⟩ := buildComponentIdentityKey_eq_some.mp hspec.identityKey
  have hidentity : entry.component.identityKey = first.component.identityKey := by
    rw [hof.component]
  have hpurl : entry.component.versionlessPurl = first.component.versionlessPurl := by
    rw [hof.component]
  have hstate : entry.component.identityState = first.component.identityState := by
    rw [hof.component]
  have hversion : entry.component.version = first.component.version := by
    rw [hof.component]
  have hnames : entry.names = occurrenceNames prepared first.component.occurrenceKey := by
    rw [hof.names, hfirstKey]
  have hbomRefs : entry.bomRefs = occurrenceBomRefs prepared first.component.occurrenceKey := by
    rw [hof.bomRefs, hfirstKey]
  have hlisted : first.component.name ∈
      occurrenceNames prepared first.component.occurrenceKey :=
    List.mem_map_of_mem (mem_occurrenceGroup.mpr ⟨hfirst, rfl⟩)
  have hname : entry.normalized.name =
      (earliestText (occurrenceNames prepared first.component.occurrenceKey)).getD [] := by
    obtain ⟨earliest, hearliest⟩ := earliestText_isSome hlisted
    change (earliestText entry.names).getD _ = _
    rw [hnames, hearliest]
    rfl
  have hnonempty : entry.normalized.name.length ≠ 0 := by
    rw [hname]
    have hmem := earliestText_getD_mem hlisted []
    obtain ⟨member, hmember, hmemberName⟩ := List.mem_map.mp hmem
    obtain ⟨raw', hraw'⟩ := h.normalizes (mem_occurrenceGroup.mp hmember).1
    rw [← hmemberName]
    exact (buildComponentIdentityKey_eq_some.mp
      (normalizeOneComponent_spec hraw').identityKey).1
  have hrebuilt : entry.normalized.Valid ↔
      componentIdentityKey entry.normalized.identityInput = first.component.identityKey := by
    constructor
    · intro hvalid
      rw [← hidentity]
      exact (buildComponentIdentityKey_eq_some.mp hvalid.identityKey).2.2
    · intro hsame
      refine ⟨hnonempty, ?_, buildComponentIdentityKey_eq_some.mpr ⟨hnonempty, ?_, ?_⟩⟩
      · change parseComponentVersion entry.component.version = some entry.component.version
        rw [hversion, (normalizeOneComponent_version hraw).1]
        exact parseComponentVersion_observed _
      · change entry.component.identityKey.length ≤ sbomIdentityKeyMaxLength
        rw [hidentity]
        exact hmax
      · change _ = entry.component.identityKey
        rw [hidentity]
        exact hsame
  rw [hrebuilt]
  cases hnone : first.component.versionlessPurl with
  | some purl =>
      refine iff_of_true ?_ nofun
      have hpresent : purl.length > 0 := by
        rcases keyed_of_normalizedFrom hwritten hspec with ⟨text, htext, hpositive⟩ | ⟨habsent, -⟩
        · rw [hnone] at htext
          cases htext
          exact hpositive
        · rw [hnone] at habsent
          cases habsent
      rw [← hkey, componentIdentityKey_purl first.component.identityInput hnone hpresent]
      exact componentIdentityKey_purl _ (hpurl.trans hnone) hpresent
  | none =>
      have hlisting := fromListing_of_none hspec hnone
      rw [componentIdentityKey_listing _ (hpurl.trans hnone)
          (hstate.trans hlisting.identityState), ← hkey,
        componentIdentityKey_listing first.component.identityInput hnone
          hlisting.identityState, List.append_assoc, List.append_assoc,
        List.append_cancel_left_eq, List.cons_append, List.cons_append, List.cons.injEq]
      have htexts : ∀ {left right left' right' : JsString},
          (keySeparator = keySeparator ∧ left ++ keySeparator :: right =
            left' ++ keySeparator :: right') ↔
          ((none : Option JsString) = none → left ++ keySeparator :: right =
            left' ++ keySeparator :: right') := by
        intro left right left' right'
        exact ⟨fun hboth _ => hboth.2, fun himp => ⟨rfl, himp rfl⟩⟩
      have hreference : entry.normalized.identityInput.bomRef =
          earliestText (occurrenceBomRefs prepared first.component.occurrenceKey) :=
        congrArg earliestText hbomRefs
      have hcalled : entry.normalized.identityInput.name =
          (earliestText (occurrenceNames prepared first.component.occurrenceKey)).getD [] :=
        hname
      rw [hreference, hcalled, htexts]
      rfl

/-- The components of one occurrence have one text. -/
theorem OpenedFrom.texts_eq
    (h : OpenedFrom library limits document input prepared kept listed opened)
    (hwritten : library.Written) {first candidate : PreparedComponent}
    (hfirst : first ∈ prepared) (hmem : candidate ∈ prepared)
    (hkey : first.component.occurrenceKey = candidate.component.occurrenceKey) :
    first.component.versionlessPurl = candidate.component.versionlessPurl ∧
      (candidate.component.versionlessPurl = none → ownTexts first = ownTexts candidate) := by
  obtain ⟨raw, hraw⟩ := h.normalizes hfirst
  obtain ⟨raw', hraw'⟩ := h.normalizes hmem
  have hspec := normalizeOneComponent_spec hraw
  have hspec' := normalizeOneComponent_spec hraw'
  have hcollapsible := occurrences_isOk_iff.mp ⟨kept, h.collapse⟩ first.component.occurrenceKey
  have hversion := hcollapsible.version first (mem_occurrenceGroup.mpr ⟨hfirst, rfl⟩) candidate
    (mem_occurrenceGroup.mpr ⟨hmem, hkey.symm⟩)
  have hidentity := (occurrenceKey_inj hversion).mp hkey
  have hpurl := (identity_eq_of_key hwritten hspec hspec' hidentity).1
  refine ⟨hpurl, ?_⟩
  intro hnone
  exact (ownTexts_eq_iff hspec (fromListing_of_none hspec (hpurl.trans hnone)) hspec'
    (fromListing_of_none hspec' hnone)).mp hidentity

/-- Every entry is valid exactly when every key is spelled again. -/
theorem OpenedFrom.valid_iff
    (h : OpenedFrom library limits document input prepared kept listed opened)
    (hwritten : library.Written) :
    (∀ entry ∈ kept, entry.normalized.Valid) ↔ KeysRebuilt prepared := by
  constructor
  · intro hvalid candidate hmem hnone
    obtain ⟨entry, hentry, hkey⟩ := exists_entry h.collapse hmem
    obtain ⟨first, hof⟩ := entryOf_of_mem h.collapse hentry
    obtain ⟨hfirst, hfirstKey⟩ := mem_occurrenceGroup.mp (List.mem_of_mem_head? hof.head)
    have hkeys := hfirstKey.trans hkey
    obtain ⟨hpurl, htexts⟩ := h.texts_eq hwritten hfirst hmem hkeys
    have hrebuilt := (h.entry_valid_iff hwritten hof).mp (hvalid entry hentry)
      (hpurl.trans hnone)
    rw [htexts hnone] at hrebuilt
    unfold keptTexts at hrebuilt ⊢
    rw [← hkeys]
    exact hrebuilt
  · intro hrebuilt entry hentry
    obtain ⟨first, hof⟩ := entryOf_of_mem h.collapse hentry
    exact (h.entry_valid_iff hwritten hof).mpr
      (hrebuilt first (mem_occurrenceGroup.mp (List.mem_of_mem_head? hof.head)).1)

theorem applyDirectness_valid {direct : List JsString} {hasDependencyGraph : Bool}
    {component : NormalizedComponent} :
    (applyDirectness direct hasDependencyGraph component).Valid ↔ component.Valid := by
  unfold applyDirectness
  split
  · split
    · exact ⟨fun hvalid => ⟨hvalid.name, hvalid.version, hvalid.identityKey⟩,
        fun hvalid => ⟨hvalid.name, hvalid.version, hvalid.identityKey⟩⟩
    · rfl
  · rfl

/-- No two entries keep one reference. -/
theorem OpenedFrom.keptBomRefs_nodup
    (h : OpenedFrom library limits document input prepared kept listed opened) :
    (keptBomRefs kept).Nodup := by
  have hdistinct : kept.Nodup := (occurrences.run_keys h.collapse).1.of_map
  have hread : ∀ {entry : CollapsedOccurrence} {bomRef : JsString}, entry ∈ kept →
      entry.normalized.bomRef = some bomRef → ∃ candidate ∈ prepared,
        candidate.component.bomRef = some bomRef ∧
          candidate.component.occurrenceKey = entry.component.occurrenceKey := by
    intro entry bomRef hentry hbomRef
    obtain ⟨first, hof⟩ := entryOf_of_mem h.collapse hentry
    have hearliest : earliestText entry.bomRefs = some bomRef := hbomRef
    rw [hof.bomRefs] at hearliest
    obtain ⟨candidate, hcandidate, hlisted⟩ :=
      List.mem_filterMap.mp (earliestText_mem hearliest)
    obtain ⟨hmem, hkey⟩ := mem_occurrenceGroup.mp hcandidate
    exact ⟨candidate, hmem, hlisted, hkey⟩
  unfold keptBomRefs
  rw [List.filterMap_map]
  refine List.Pairwise.filterMap _ ?_ (List.Pairwise.and_mem.mp hdistinct)
  rintro entry entry' ⟨hentry, hentry', hne⟩ bomRef hbomRef bomRef' hbomRef' rfl
  obtain ⟨candidate, hmem, hlisted, hkey⟩ := hread hentry hbomRef
  obtain ⟨candidate', hmem', hlisted', hkey'⟩ := hread hentry' hbomRef'
  have hsame := eq_of_filterMap_nodup h.nodup hmem hmem' hlisted hlisted'
  refine hne (occurrences.eq_of_key h.collapse hentry hentry' ?_)
  exact hkey.symm.trans ((congrArg (·.component.occurrenceKey) hsame).trans hkey')

theorem OpenedFrom.keptBomRefs_present
    (h : OpenedFrom library limits document input prepared kept listed opened)
    {bomRef : JsString} (hbomRef : bomRef ∈ keptBomRefs kept) : bomRef.length ≠ 0 := by
  obtain ⟨candidate, -, hearliest⟩ := (mem_knownBomRefs h.collapse).mp hbomRef
  obtain ⟨member, hmember, hlisted⟩ := List.mem_filterMap.mp (earliestText_mem hearliest)
  obtain ⟨raw, hraw⟩ := h.normalizes (mem_occurrenceGroup.mp hmember).1
  have hpresent := (normalizeOneComponent_spec hraw).bomRef.symm.trans hlisted
  exact Nat.pos_iff_ne_zero.mp (presentText_eq_some.mp hpresent).2

/-- The components are valid exactly when the keys are spelled again. -/
theorem OpenedFrom.validComponents_iff
    (h : OpenedFrom library limits document input prepared kept listed opened)
    (hwritten : library.Written) :
    ValidComponents opened.components [] [] ↔ KeysRebuilt prepared := by
  rw [← h.valid_iff hwritten, h.components]
  constructor
  · intro hvalid entry hentry
    exact applyDirectness_valid.mp
      (hvalid.valid _ (List.mem_map_of_mem (List.mem_map_of_mem hentry)))
  · intro hvalid
    refine ⟨?_, ?_, fun _ _ => List.not_mem_nil, ?_, fun _ _ => List.not_mem_nil, ?_⟩
    · intro component hmem
      obtain ⟨normalized, hnormalized, rfl⟩ := List.mem_map.mp hmem
      obtain ⟨entry, hentry, rfl⟩ := List.mem_map.mp hnormalized
      exact applyDirectness_valid.mpr (hvalid entry hentry)
    · rw [placedComponents_keys]
      exact (occurrences.run_keys h.collapse).1
    · rw [bomRefsOf_placedComponents]
      exact h.keptBomRefs_nodup
    · intro bomRef hmem
      rw [bomRefsOf_placedComponents] at hmem
      exact h.keptBomRefs_present hmem

/-! ## The closing calls -/

/-- `deriveGraphCompleteness` does not fail: without components nothing is listed. -/
theorem OpenedFrom.completeness_isSome
    (h : OpenedFrom library limits document input prepared kept listed opened) :
    opened.completeness.isSome := by
  unfold OpenGraph.completeness deriveGraphCompleteness
  by_cases hzero : opened.components.length = 0
  · have hkept : kept = [] := by
      rw [h.components, placedComponents_length] at hzero
      exact List.eq_nil_of_length_eq_zero hzero
    have hlisted : listed = [] := by
      refine List.eq_nil_iff_forall_not_mem.mpr ?_
      intro edge hedge
      have hends := (h.known edge hedge).1
      rw [hkept] at hends
      exact List.not_mem_nil hends
    have hedges : opened.edges.length = 0 := by
      rw [h.edges, hlisted]
      rfl
    have hskipped : opened.skippedListedEdgeCount = 0 := by
      rw [h.skipped, hlisted]
      rfl
    rw [if_pos hzero, if_neg (not_or.mpr ⟨not_not.mpr hedges, not_not.mpr hskipped⟩)]
    rfl
  · rw [if_neg hzero]
    split
    · rfl
    · split
      · rfl
      · rfl

theorem deriveGraphCompleteness_matches {componentCount dependencyEdgeCount skipped : Nat}
    {completeness : GraphCompleteness}
    (h : deriveGraphCompleteness componentCount dependencyEdgeCount skipped =
      some completeness) :
    graphCompletenessMatchesCounts completeness componentCount dependencyEdgeCount = true := by
  unfold deriveGraphCompleteness at h
  split at h
  · rename_i hzero
    split at h
    · cases h
    · rename_i hnone
      cases h
      exact decide_eq_true ⟨hzero, not_not.mp (not_or.mp hnone).1⟩
  · rename_i hzero
    have hpositive := Nat.pos_iff_ne_zero.mpr hzero
    split at h
    · rename_i hedges
      cases h
      exact decide_eq_true ⟨hpositive, hedges⟩
    · rename_i hedges
      have hsome := Nat.pos_iff_ne_zero.mpr hedges
      split at h
      · cases h
        exact decide_eq_true ⟨hpositive, hsome⟩
      · cases h
        exact decide_eq_true ⟨hpositive, hsome⟩

/-- `validateNormalizedComponentGraph` does not fail exactly when the keys are spelled
again. -/
theorem OpenedFrom.success_valid_iff
    (h : OpenedFrom library limits document input prepared kept listed opened)
    (hwritten : library.Written) {graphCompleteness : GraphCompleteness}
    (hcompleteness : opened.completeness = some graphCompleteness) :
    (opened.success graphCompleteness).Valid ↔ KeysRebuilt prepared := by
  constructor
  · intro hvalid
    exact (h.validComponents_iff hwritten).mp hvalid.components
  · intro hrebuilt
    refine ⟨rfl, rfl, rfl, deriveGraphCompleteness_matches hcompleteness,
      (h.validComponents_iff hwritten).mpr hrebuilt, ?_, ?_⟩
    · intro edge hedge
      have hedge : edge ∈ opened.edges := hedge
      rw [h.edges] at hedge
      have hmem := List.mem_of_find?_eq_some ((mem_keepFirst _).mp hedge)
      obtain ⟨hmap, hdistinct⟩ := List.mem_filter.mp hmem
      obtain ⟨source, hsource, rfl⟩ := List.mem_map.mp hmap
      have hends := h.known source hsource
      change _ ∧ _ ∧ _ ∧ _ ∈ bomRefsOf opened.components ∧ _ ∈ bomRefsOf opened.components
      rw [h.components, bomRefsOf_placedComponents]
      exact ⟨h.keptBomRefs_present hends.1, h.keptBomRefs_present hends.2,
        of_decide_eq_true hdistinct, hends.1, hends.2⟩
    · intro warning hwarning
      have hpositive := of_decide_eq_true (List.mem_filter.mp hwarning).2
      exact Nat.pos_iff_ne_zero.mp hpositive

end

end PatchPilot.Sbom
