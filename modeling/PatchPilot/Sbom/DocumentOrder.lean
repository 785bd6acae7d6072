import PatchPilot.Sbom.Conflation
import PatchPilot.Sbom.Dependencies
import PatchPilot.Sbom.Validation

set_option autoImplicit false

/-!
# Sbom: the order of a document

Reordering the components and the dependencies of a document changes neither whether it
is accepted nor what is read from more than one listed component.  What is read from the
first one only, the namespace and the ecosystem of an occurrence, follows the order; so
does the dependency that is kept of two whose keys are one text.
-/

namespace PatchPilot.Sbom

open PatchPilot.Foundation

/-! ## What the order may change -/

/-- A component without what is read from one listed component only. -/
def NormalizedComponent.unplaced (component : NormalizedComponent) : NormalizedComponent :=
  { component with ns := none, ecosystem := none, isDirect := none }

theorem unplaced_eq {component component' : NormalizedComponent}
    (hbomRef : component.bomRef = component'.bomRef) (hname : component.name = component'.name)
    (hstate : component.identityState = component'.identityState)
    (hpurl : component.versionlessPurl = component'.versionlessPurl)
    (hversioned : component.versionedPurl = component'.versionedPurl)
    (hversion : component.version = component'.version)
    (hkey : component.identityKey = component'.identityKey) :
    component.unplaced = component'.unplaced := by
  unfold NormalizedComponent.unplaced
  rw [hbomRef, hname, hstate, hpurl, hversioned, hversion, hkey]

/-- Where the package of a component is found. -/
def NormalizedComponent.place (component : NormalizedComponent) :
    Option JsString × Option JsString :=
  (component.ecosystem, component.ns)

/-- Components whose key is not made of the ecosystem and the namespace. -/
def NormalizedComponent.Keyed (component : NormalizedComponent) : Prop :=
  (∃ purl, component.versionlessPurl = some purl ∧ purl.length > 0) ∨
    (component.versionlessPurl = none ∧ component.identityState = .unsupported)

theorem componentIdentityKey_unplaced {component : NormalizedComponent}
    (h : component.Keyed) :
    componentIdentityKey component.unplaced.identityInput =
      componentIdentityKey component.identityInput := by
  rcases h with ⟨purl, hpurl, hlength⟩ | ⟨hpurl, hstate⟩
  · rw [componentIdentityKey_purl component.identityInput hpurl hlength,
      componentIdentityKey_purl component.unplaced.identityInput hpurl hlength]
  · rw [componentIdentityKey_listing component.identityInput hpurl hstate,
      componentIdentityKey_listing component.unplaced.identityInput hpurl hstate]
    rfl

/-- The place of a component does not decide whether it is valid. -/
theorem valid_of_unplaced {component component' : NormalizedComponent}
    (hkeyed : component.Keyed) (hkeyed' : component'.Keyed)
    (hsame : component.unplaced = component'.unplaced) (h : component.Valid) :
    component'.Valid := by
  have hname : component.name = component'.name := congrArg (·.name) hsame
  have hversion : component.version = component'.version := congrArg (·.version) hsame
  have hidentity : component.identityKey = component'.identityKey :=
    congrArg (·.identityKey) hsame
  refine ⟨hname ▸ h.name, hversion ▸ h.version, ?_⟩
  obtain ⟨hlength, hmax, hkey⟩ := buildComponentIdentityKey_eq_some.mp h.identityKey
  refine buildComponentIdentityKey_eq_some.mpr ⟨?_, hidentity ▸ hmax, ?_⟩
  · intro hzero
    exact hlength ((congrArg List.length hname).trans hzero)
  · rw [← componentIdentityKey_unplaced hkeyed', ← hsame,
      componentIdentityKey_unplaced hkeyed, hkey, hidentity]

/-! ## Entries of one key -/

/-- The listed components of a document are normalized. -/
def Listed (library : PackageUrlJs) (prepared : List PreparedComponent) : Prop :=
  ∀ candidate ∈ prepared, ∃ raw, NormalizedFrom library raw candidate.component

section

variable {library : PackageUrlJs} {prepared prepared' : List PreparedComponent}
  {kept kept' : List CollapsedOccurrence}

theorem keyed_of_normalizedFrom (hwritten : library.Written) {raw : JsonRecord}
    {component : NormalizedComponent} (h : NormalizedFrom library raw component) :
    component.Keyed := by
  rcases h.identity with ⟨purl, normalized, hpurl⟩ | hlisting
  · obtain ⟨parsed, -, hversionless, -⟩ := normalizePackageUrl_spec library hpurl.parsed
    exact .inl ⟨_, hpurl.versionlessPurl, hwritten _ _ hversionless⟩
  · exact .inr ⟨hlisting.versionlessPurl, hlisting.identityState⟩

/-- Normalized components of one key have one versionless PURL, or none. -/
theorem identity_eq_of_key (hwritten : library.Written) {raw raw' : JsonRecord}
    {component component' : NormalizedComponent} (h : NormalizedFrom library raw component)
    (h' : NormalizedFrom library raw' component')
    (hkey : component.identityKey = component'.identityKey) :
    component.versionlessPurl = component'.versionlessPurl ∧
      component.identityState = component'.identityState := by
  rcases h.identity with ⟨purl, normalized, hpurl⟩ | hlisting
  · rcases h'.identity with ⟨purl', normalized', hpurl'⟩ | hlisting'
    · rw [hpurl.identityKey hwritten h, hpurl'.identityKey hwritten h',
        List.append_cancel_left_eq] at hkey
      rw [hpurl.versionlessPurl, hpurl'.versionlessPurl, hkey, hpurl.identityState,
        hpurl'.identityState]
      exact ⟨rfl, rfl⟩
    · exact absurd hkey (hpurl.identityKey_ne hwritten h h' hlisting')
  · rcases h'.identity with ⟨purl', normalized', hpurl'⟩ | hlisting'
    · exact absurd hkey.symm (hpurl'.identityKey_ne hwritten h' h hlisting)
    · rw [hlisting.versionlessPurl, hlisting'.versionlessPurl, hlisting.identityState,
        hlisting'.identityState]
      exact ⟨rfl, rfl⟩

theorem entry_name {entry : CollapsedOccurrence} {first : PreparedComponent}
    (h : EntryOf prepared entry first) :
    ∃ name, earliestText (occurrenceNames prepared entry.component.occurrenceKey) = some name ∧
      entry.normalized.name = name := by
  have hmem : first.component.name ∈
      occurrenceNames prepared entry.component.occurrenceKey :=
    List.mem_map_of_mem (List.mem_of_mem_head? h.head)
  obtain ⟨name, hname⟩ := earliestText_isSome hmem
  refine ⟨name, hname, ?_⟩
  change (earliestText entry.names).getD entry.component.name = name
  rw [h.names, hname]
  rfl

/-- Up to its place, the entry of a key does not depend on the order of the components. -/
theorem normalized_unplaced_eq (hwritten : library.Written) (hlisted : Listed library prepared)
    (hperm : prepared.Perm prepared') (h : occurrences.run prepared = .ok kept)
    (h' : occurrences.run prepared' = .ok kept') {entry entry' : CollapsedOccurrence}
    (hentry : entry ∈ kept) (hentry' : entry' ∈ kept')
    (hkey : entry.component.occurrenceKey = entry'.component.occurrenceKey) :
    entry.normalized.unplaced = entry'.normalized.unplaced := by
  obtain ⟨first, hof⟩ := entryOf_of_mem h hentry
  obtain ⟨first', hof'⟩ := entryOf_of_mem h' hentry'
  have hgroup := occurrenceGroup_perm hperm entry.component.occurrenceKey
  have hfirst := List.mem_of_mem_head? hof.head
  have hfirst' := List.mem_of_mem_head? hof'.head
  rw [← hkey] at hfirst'
  have hfirst' := hgroup.mem_iff.mpr hfirst'
  have hcollapsible := occurrences_isOk_iff.mp ⟨kept, h⟩ entry.component.occurrenceKey
  have hversion := hcollapsible.version first hfirst first' hfirst'
  obtain ⟨hmem, hfirstKey⟩ := mem_occurrenceGroup.mp hfirst
  obtain ⟨hmem', hfirstKey'⟩ := mem_occurrenceGroup.mp hfirst'
  have hidentity := (occurrenceKey_inj hversion).mp (hfirstKey.trans hfirstKey'.symm)
  obtain ⟨raw, hraw⟩ := hlisted first hmem
  obtain ⟨raw', hraw'⟩ := hlisted first' hmem'
  obtain ⟨hpurl, hstate⟩ := identity_eq_of_key hwritten hraw hraw' hidentity
  obtain ⟨name, hname, hentryName⟩ := entry_name hof
  obtain ⟨name', hname', hentryName'⟩ := entry_name hof'
  have hnames : name = name' := by
    rw [← hkey] at hname'
    unfold occurrenceNames at hname hname'
    rw [earliestText_eq_of_perm (hgroup.map _), hname'] at hname
    exact (Option.some.inj hname).symm
  have hbomRefs : entry.normalized.bomRef = entry'.normalized.bomRef := by
    change earliestText entry.bomRefs = earliestText entry'.bomRefs
    rw [hof.bomRefs, hof'.bomRefs, ← hkey]
    exact earliestText_eq_of_perm (hgroup.filterMap _)
  have hversionedPurl : firstStated ((occurrenceGroup prepared
      entry.component.occurrenceKey).map (·.component.versionedPurl)) =
      firstStated ((occurrenceGroup prepared' entry'.component.occurrenceKey).map
        (·.component.versionedPurl)) := by
    rw [← hkey]
    exact firstStated_congr hcollapsible.versionedPurl fun _ => (hgroup.map _).mem_iff
  have hfield : ∀ {α : Type} (field : NormalizedComponent → α),
      (∀ component text, field { component with versionedPurl := text } = field component) →
        field first.component = field first'.component →
          field entry.component = field entry'.component := by
    intro α field hquiet hsame
    calc field entry.component
        _ = field first.component := (congrArg field hof.component).trans (hquiet _ _)
        _ = field first'.component := hsame
        _ = field entry'.component :=
            ((congrArg field hof'.component).trans (hquiet _ _)).symm
  refine unplaced_eq hbomRefs ?_ ?_ ?_ ?_ ?_ ?_
  · rw [hentryName, hentryName', hnames]
  · exact hfield (·.identityState) (fun _ _ => rfl) hstate
  · exact hfield (·.versionlessPurl) (fun _ _ => rfl) hpurl
  · change entry.component.versionedPurl = entry'.component.versionedPurl
    rw [hof.component, hof'.component]
    exact hversionedPurl
  · exact hfield (·.version) (fun _ _ => rfl) hversion
  · exact hfield (·.identityKey) (fun _ _ => rfl) hidentity

/-- The place of an entry is that of the component that is listed first. -/
theorem normalized_place_eq (h : occurrences.run prepared = .ok kept)
    {entry : CollapsedOccurrence} (hentry : entry ∈ kept) :
    some entry.normalized.place = (prepared.find? fun candidate =>
      candidate.component.occurrenceKey = entry.component.occurrenceKey).map
        (·.component.place) := by
  obtain ⟨first, hof⟩ := entryOf_of_mem h hentry
  have hhead := hof.head
  unfold occurrenceGroup at hhead
  rw [List.head?_filter] at hhead
  rw [hhead]
  change some (entry.component.ecosystem, entry.component.ns) = _
  rw [hof.component]
  rfl

/-- The entries of a document and of a reordered one have the same keys. -/
theorem exists_entry_of_perm (hperm : prepared.Perm prepared')
    (h : occurrences.run prepared = .ok kept) (h' : occurrences.run prepared' = .ok kept')
    {entry : CollapsedOccurrence} (hentry : entry ∈ kept) :
    ∃ entry' ∈ kept', entry.component.occurrenceKey = entry'.component.occurrenceKey := by
  obtain ⟨first, hof⟩ := entryOf_of_mem h hentry
  obtain ⟨hmem, hkey⟩ := mem_occurrenceGroup.mp (List.mem_of_mem_head? hof.head)
  obtain ⟨entry', hentry', hkey'⟩ := exists_entry h' (hperm.mem_iff.mp hmem)
  exact ⟨entry', hentry', hkey.symm.trans hkey'.symm⟩

/-- Up to their places, the normalized components are those of the reordered document. -/
theorem unplaced_perm (hwritten : library.Written) (hlisted : Listed library prepared)
    (hperm : prepared.Perm prepared') (h : occurrences.run prepared = .ok kept)
    (h' : occurrences.run prepared' = .ok kept') :
    (kept.map (·.normalized.unplaced)).Perm (kept'.map (·.normalized.unplaced)) := by
  have hnodup : ∀ {items : List PreparedComponent} {entries : List CollapsedOccurrence},
      occurrences.run items = .ok entries →
        (entries.map (·.normalized.unplaced)).Nodup := by
    intro items entries hrun
    have hkeys := (occurrences.run_keys hrun).1
    have hmap : (entries.map (·.normalized.unplaced)).map (·.occurrenceKey) =
        entries.map occurrences.key := by
      rw [List.map_map]
      rfl
    rw [← hmap] at hkeys
    exact hkeys.of_map
  have hlisted' : Listed library prepared' :=
    fun candidate hmem => hlisted candidate (hperm.mem_iff.mpr hmem)
  refine (List.perm_ext_iff_of_nodup (hnodup h) (hnodup h')).mpr fun component => ?_
  rw [List.mem_map, List.mem_map]
  constructor
  · rintro ⟨entry, hentry, rfl⟩
    obtain ⟨entry', hentry', hkey⟩ := exists_entry_of_perm hperm h h' hentry
    exact ⟨entry', hentry',
      (normalized_unplaced_eq hwritten hlisted hperm h h' hentry hentry' hkey).symm⟩
  · rintro ⟨entry', hentry', rfl⟩
    obtain ⟨entry, hentry, hkey⟩ := exists_entry_of_perm hperm.symm h' h hentry'
    exact ⟨entry, hentry,
      (normalized_unplaced_eq hwritten hlisted' hperm.symm h' h hentry' hentry hkey).symm⟩

end

/-! ## The graph of a document -/

/-- What `normalizePrepared` reads from a document besides its lists, and the versions it
is given. -/
structure GraphInput where
  aliasRoot : Option JsString
  capturedAt : Option JsString
  parserVersion : JsString
  normalizationVersion : JsString
  specificationVersion : SbomSpecificationVersion
  deriving DecidableEq

/-- The edges of the graph. -/
def keptEdges (prepared : List PreparedComponent) (listed : List NormalizedDependencyEdge) :
    List NormalizedDependencyEdge :=
  keepFirst NormalizedDependencyEdge.key (resolvedEdges (canonicalBomRef prepared) listed)

/-- The components of the graph. -/
def placedComponents (input : GraphInput) (prepared : List PreparedComponent)
    (kept : List CollapsedOccurrence) (listed : List NormalizedDependencyEdge) :
    List NormalizedComponent :=
  (kept.map CollapsedOccurrence.normalized).map
    (applyDirectness
      (directBomRefs (input.aliasRoot.map (canonicalBomRef prepared))
        (keptEdges prepared listed))
      (decide (listed.length > 0)))

/-- The graph that is assembled. -/
def assembledGraph (input : GraphInput) (prepared : List PreparedComponent)
    (kept : List CollapsedOccurrence) (listed : List NormalizedDependencyEdge)
    (graphCompleteness : GraphCompleteness) : NormalizedComponentGraph :=
  let components := placedComponents input prepared kept listed
  let edges := keptEdges prepared listed
  let warnings := warningSummaries (skippedEdges (canonicalBomRef prepared) listed)
    (prepared.length - kept.length)
  { specificationVersion := input.specificationVersion
    graphCompleteness
    components
    edges
    warnings
    componentCount := components.length
    dependencyEdgeCount := edges.length
    warningCount := (warnings.map (·.count)).sum
    capturedAt := input.capturedAt
    parserVersion := input.parserVersion
    normalizationVersion := input.normalizationVersion }

/-- The references that are kept, as a list. -/
def keptBomRefs (kept : List CollapsedOccurrence) : List JsString :=
  (kept.map CollapsedOccurrence.normalized).filterMap (·.bomRef)

/-- What a list of prepared components must go through to become a graph. -/
structure Assembles (limits : SbomParserLimits) (dependencies : Option JsonValue)
    (input : GraphInput) (prepared : List PreparedComponent) (kept : List CollapsedOccurrence)
    (listed : List NormalizedDependencyEdge) (graph : NormalizedComponentGraph) : Prop where
  collapse : occurrences.run prepared = .ok kept
  dependencies : listEdges (canonicalBomRef prepared) (keptBomRefs kept) dependencies = .ok listed
  listedBound : listed.length ≤ limits.maxDependencyEdges
  known : ∀ edge ∈ listed, EndsKnown (canonicalBomRef prepared) (keptBomRefs kept) edge
  edgeBound : (keptEdges prepared listed).length ≤ limits.maxDependencyEdges
  completeness : deriveGraphCompleteness (placedComponents input prepared kept listed).length
    (keptEdges prepared listed).length (skippedEdges (canonicalBomRef prepared) listed) =
      some graph.graphCompleteness
  assembled : graph = assembledGraph input prepared kept listed graph.graphCompleteness
  valid : graph.Valid

/-- `normalizePrepared` succeeds exactly with what it assembles. -/
theorem normalizePrepared_eq_ok {limits : SbomParserLimits} {document : JsonRecord}
    {parserVersion normalizationVersion : JsString}
    {specificationVersion : SbomSpecificationVersion} {prepared : List PreparedComponent}
    (hnodup : (prepared.filterMap (·.component.bomRef)).Nodup)
    {graph : NormalizedComponentGraph} :
    normalizePrepared limits document parserVersion normalizationVersion specificationVersion
        prepared = .ok graph ↔
      ∃ kept listed, Assembles limits (document.get (js "dependencies"))
        ⟨metadataComponentBomRef document, capturedAtFromMetadata document, parserVersion,
          normalizationVersion, specificationVersion⟩ prepared kept listed graph := by
  unfold normalizePrepared
  constructor
  · intro h
    obtain ⟨collapsed, hcollapsed, h⟩ := bind_eq_ok.mp h
    obtain ⟨kept, hkept, hcollapsed⟩ := bind_eq_ok.mp hcollapsed
    cases hcollapsed
    have hresolve : resolveAlias (kept.flatMap CollapsedOccurrence.aliases) =
        canonicalBomRef prepared := funext (resolveAlias_eq hkept hnodup)
    obtain ⟨listed, hlisted, h⟩ := bind_eq_ok.mp h
    obtain ⟨_, hbound, h⟩ := bind_eq_ok.mp h
    obtain ⟨state, hstate, h⟩ := bind_eq_ok.mp h
    obtain ⟨_, hedges, h⟩ := bind_eq_ok.mp h
    obtain ⟨completeness, hcompleteness, h⟩ := bind_eq_ok.mp h
    obtain ⟨validated, hvalid, h⟩ := bind_eq_ok.mp h
    rw [hresolve] at hlisted hstate hcompleteness hvalid h
    obtain ⟨hknown, rfl⟩ := foldlM_takeEdge.mp hstate
    cases h
    exact ⟨kept, listed, hkept, hlisted, Nat.le_of_not_gt (reject_eq_ok.mp hbound), hknown,
      Nat.le_of_not_gt (reject_eq_ok.mp hedges), orReject_eq_ok.mp hcompleteness, rfl,
      (validateNormalizedComponentGraph_eq_some.mp (orReject_eq_ok.mp hvalid)).1⟩
  · rintro ⟨kept, listed, h⟩
    have hresolve : resolveAlias (kept.flatMap CollapsedOccurrence.aliases) =
        canonicalBomRef prepared := funext (resolveAlias_eq h.collapse hnodup)
    refine bind_eq_ok.mpr ⟨_, bind_eq_ok.mpr ⟨kept, h.collapse, rfl⟩, ?_⟩
    rw [hresolve]
    refine bind_eq_ok.mpr ⟨listed, h.dependencies, ?_⟩
    refine bind_eq_ok.mpr ⟨(), reject_eq_ok.mpr (Nat.not_lt.mpr h.listedBound), ?_⟩
    refine bind_eq_ok.mpr ⟨_, foldlM_takeEdge.mpr ⟨h.known, rfl⟩, ?_⟩
    refine bind_eq_ok.mpr ⟨(), reject_eq_ok.mpr (Nat.not_lt.mpr h.edgeBound), ?_⟩
    refine bind_eq_ok.mpr ⟨_, orReject_eq_ok.mpr h.completeness, ?_⟩
    have hgraph := h.assembled
    have hvalid := validateNormalizedComponentGraph_eq_some.mpr ⟨h.valid, rfl⟩
    rw [hgraph] at hvalid
    refine bind_eq_ok.mpr ⟨_, orReject_eq_ok.mpr hvalid, ?_⟩
    exact congrArg Except.ok hgraph.symm

/-! ## Reordering -/

theorem applyDirectness_unplaced {direct : List JsString} {hasDependencyGraph : Bool}
    {component : NormalizedComponent} :
    (applyDirectness direct hasDependencyGraph component).unplaced = component.unplaced := by
  unfold applyDirectness
  split
  · split
    · rfl
    · rfl
  · rfl

theorem applyDirectness_place {direct : List JsString} {hasDependencyGraph : Bool}
    {component : NormalizedComponent} :
    (applyDirectness direct hasDependencyGraph component).place = component.place := by
  unfold applyDirectness
  split
  · split
    · rfl
    · rfl
  · rfl

section

variable {input : GraphInput} {prepared : List PreparedComponent}
  {kept : List CollapsedOccurrence} {listed : List NormalizedDependencyEdge}

variable (input prepared listed) in
theorem placedComponents_unplaced :
    (placedComponents input prepared kept listed).map (·.unplaced) =
      kept.map (·.normalized.unplaced) := by
  unfold placedComponents
  rw [List.map_map, List.map_map]
  exact List.map_congr_left fun _ _ => applyDirectness_unplaced

theorem placedComponents_keys :
    (placedComponents input prepared kept listed).map (·.occurrenceKey) =
      kept.map occurrences.key := by
  unfold placedComponents
  rw [List.map_map, List.map_map]
  exact List.map_congr_left fun _ _ => applyDirectness_occurrenceKey

theorem bomRefsOf_eq {components : List NormalizedComponent} :
    bomRefsOf components = (components.map (·.unplaced)).filterMap (·.bomRef) := by
  unfold bomRefsOf
  rw [List.filterMap_map]
  rfl

theorem bomRefsOf_placedComponents :
    bomRefsOf (placedComponents input prepared kept listed) = keptBomRefs kept := by
  rw [bomRefsOf_eq, placedComponents_unplaced]
  unfold keptBomRefs
  rw [List.filterMap_map, List.filterMap_map]
  rfl

variable (input prepared listed) in
theorem placedComponents_length :
    (placedComponents input prepared kept listed).length = kept.length := by
  unfold placedComponents
  rw [List.length_map, List.length_map]

theorem placedComponents_keyed {library : PackageUrlJs} (hwritten : library.Written)
    (hlisted : Listed library prepared) (h : occurrences.run prepared = .ok kept)
    {component : NormalizedComponent}
    (hmem : component ∈ placedComponents input prepared kept listed) : component.Keyed := by
  obtain ⟨normalized, hnormalized, rfl⟩ := List.mem_map.mp hmem
  obtain ⟨entry, hentry, rfl⟩ := List.mem_map.mp hnormalized
  obtain ⟨first, hof⟩ := entryOf_of_mem h hentry
  obtain ⟨raw, hraw⟩ := hlisted first (mem_occurrenceGroup.mp (List.mem_of_mem_head? hof.head)).1
  have hkeyed : entry.component.Keyed := by
    have hfirst : first.component.Keyed := keyed_of_normalizedFrom hwritten hraw
    rw [hof.component]
    exact hfirst
  have hplaced : ∀ {component component' : NormalizedComponent},
      component.unplaced = component'.unplaced → component.Keyed → component'.Keyed := by
    intro component component' hsame hkeyed
    have hpurl : component.versionlessPurl = component'.versionlessPurl :=
      congrArg (·.versionlessPurl) hsame
    have hstate : component.identityState = component'.identityState :=
      congrArg (·.identityState) hsame
    unfold NormalizedComponent.Keyed at hkeyed ⊢
    rwa [← hpurl, ← hstate]
  have hnormalized : entry.normalized.Keyed := hkeyed
  exact hplaced applyDirectness_unplaced.symm hnormalized

end

section

variable {library : PackageUrlJs} {limits : SbomParserLimits}
  {dependencies dependencies' : Option JsonValue} {input : GraphInput}
  {prepared prepared' : List PreparedComponent} {kept kept' : List CollapsedOccurrence}
  {listed listed' : List NormalizedDependencyEdge}
  {graph graph' : NormalizedComponentGraph}

theorem resolvedEdges_perm {resolve : JsString → JsString} (h : listed.Perm listed') :
    (resolvedEdges resolve listed).Perm (resolvedEdges resolve listed') :=
  (h.map _).filter _

/-- The components of a reordered document are valid when those of the document are. -/
theorem validComponents_transfer (hwritten : library.Written)
    (hlisted : Listed library prepared) (hperm : prepared.Perm prepared')
    (h : occurrences.run prepared = .ok kept) (h' : occurrences.run prepared' = .ok kept')
    (hvalid : ValidComponents (placedComponents input prepared kept listed) [] []) :
    ValidComponents (placedComponents input prepared' kept' listed') [] [] := by
  have hsame := unplaced_perm hwritten hlisted hperm h h'
  rw [← placedComponents_unplaced input prepared listed,
    ← placedComponents_unplaced input prepared' listed'] at hsame
  have hrefs : (bomRefsOf (placedComponents input prepared kept listed)).Perm
      (bomRefsOf (placedComponents input prepared' kept' listed')) := by
    rw [bomRefsOf_eq, bomRefsOf_eq]
    exact hsame.filterMap _
  have hlisted' : Listed library prepared' :=
    fun candidate hmem => hlisted candidate (hperm.mem_iff.mpr hmem)
  refine ⟨?_, ?_, fun _ _ => List.not_mem_nil, hrefs.nodup_iff.mp hvalid.bomRefsNodup,
    fun _ _ => List.not_mem_nil, ?_⟩
  · intro component' hmem'
    have hface := hsame.mem_iff.mpr (List.mem_map_of_mem (f := (·.unplaced)) hmem')
    obtain ⟨component, hmem, hface⟩ := List.mem_map.mp hface
    exact valid_of_unplaced (placedComponents_keyed hwritten hlisted h hmem)
      (placedComponents_keyed hwritten hlisted' h' hmem') hface (hvalid.valid component hmem)
  · rw [placedComponents_keys]
    exact (occurrences.run_keys h').1
  · intro bomRef hmem
    exact hvalid.bomRefsPresent bomRef (hrefs.mem_iff.mpr hmem)

/-- What a reordered document is assembled from. -/
structure Reassembled (listed listed' : List NormalizedDependencyEdge)
    (graph graph' : NormalizedComponentGraph) : Prop where
  listed : listed.Perm listed'
  graphCompleteness : graph.graphCompleteness = graph'.graphCompleteness
  warnings : graph.warnings = graph'.warnings

/-- A document that is assembled is assembled after reordering. -/
theorem Assembles.transfer (hwritten : library.Written) (hlisted : Listed library prepared)
    (hnodup : (prepared.filterMap (·.component.bomRef)).Nodup)
    (hperm : prepared.Perm prepared') (hdependencies : ListShuffled dependencies dependencies')
    (h : Assembles limits dependencies input prepared kept listed graph) :
    ∃ kept' listed' graph',
      Assembles limits dependencies' input prepared' kept' listed' graph' ∧
        Reassembled listed listed' graph graph' := by
  obtain ⟨kept', hkept'⟩ := occurrences_isOk_iff.mpr fun key =>
    (occurrences_isOk_iff.mp ⟨kept, h.collapse⟩ key).perm (occurrenceGroup_perm hperm key)
  have hcanonical := canonicalBomRef_eq_of_perm hperm hnodup
  have hrefs : ∀ bomRef, bomRef ∈ keptBomRefs kept ↔ bomRef ∈ keptBomRefs kept' := by
    intro bomRef
    unfold keptBomRefs
    rw [mem_knownBomRefs h.collapse, mem_knownBomRefs hkept', isKnownBomRef_iff_of_perm hperm]
  have hread := h.dependencies
  rw [listEdges_congr hrefs, hcanonical] at hread
  obtain ⟨listed', hlisted', hlistedPerm⟩ := listEdges_shuffled hdependencies hread
  have hedges : (keptEdges prepared listed).length = (keptEdges prepared' listed').length := by
    unfold keptEdges
    rw [hcanonical]
    exact length_keepFirst_of_perm _ (resolvedEdges_perm hlistedPerm)
  have hskipped : skippedEdges (canonicalBomRef prepared) listed =
      skippedEdges (canonicalBomRef prepared') listed' := by
    rw [hcanonical]
    exact hlistedPerm.countP_eq _
  have hkept : kept.length = kept'.length := by
    have hlength := (unplaced_perm hwritten hlisted hperm h.collapse hkept').length_eq
    rwa [List.length_map, List.length_map] at hlength
  have hknown : ∀ edge ∈ listed',
      EndsKnown (canonicalBomRef prepared') (keptBomRefs kept') edge := by
    intro edge hedge
    have hends := h.known edge (hlistedPerm.mem_iff.mpr hedge)
    rw [hcanonical] at hends
    exact ⟨(hrefs _).mp hends.1, (hrefs _).mp hends.2⟩
  have hcompleteness : deriveGraphCompleteness
      (placedComponents input prepared' kept' listed').length
      (keptEdges prepared' listed').length
      (skippedEdges (canonicalBomRef prepared') listed') = some graph.graphCompleteness := by
    rw [placedComponents_length, ← hkept, ← hedges, ← hskipped,
      ← placedComponents_length input prepared listed]
    exact h.completeness
  have hgraph := h.assembled
  have hvalid := h.valid
  rw [hgraph] at hvalid
  have hcomponents : ValidComponents (placedComponents input prepared' kept' listed') [] [] :=
    validComponents_transfer hwritten hlisted hperm h.collapse hkept' hvalid.components
  have hmatches : graphCompletenessMatchesCounts graph.graphCompleteness
      (placedComponents input prepared' kept' listed').length
      (keptEdges prepared' listed').length = true := by
    rw [placedComponents_length, ← hkept, ← hedges,
      ← placedComponents_length input prepared listed]
    exact hvalid.completeness
  refine ⟨kept', listed',
    assembledGraph input prepared' kept' listed' graph.graphCompleteness, ?_, ?_⟩
  · refine ⟨hkept', hlisted', ?_, hknown, ?_, hcompleteness, rfl,
      ⟨rfl, rfl, rfl, hmatches, hcomponents, ?_, ?_⟩⟩
    · rw [← hlistedPerm.length_eq]
      exact h.listedBound
    · rw [← hedges]
      exact h.edgeBound
    · intro edge hedge
      have hedge : edge ∈ keptEdges prepared' listed' := hedge
      have hmem := List.mem_of_find?_eq_some ((mem_keepFirst _).mp hedge)
      obtain ⟨hmap, hdistinct⟩ := List.mem_filter.mp hmem
      obtain ⟨source, hsource, rfl⟩ := List.mem_map.mp hmap
      have hends := hknown source hsource
      change _ ∧ _ ∧ _ ∧ _ ∈ bomRefsOf (placedComponents input prepared' kept' listed') ∧
        _ ∈ bomRefsOf (placedComponents input prepared' kept' listed')
      have hpresent := hcomponents.bomRefsPresent
      rw [bomRefsOf_placedComponents] at hpresent ⊢
      exact ⟨hpresent _ hends.1, hpresent _ hends.2, of_decide_eq_true hdistinct, hends.1,
        hends.2⟩
    · intro warning hwarning
      have hpositive := of_decide_eq_true (List.mem_filter.mp hwarning).2
      exact Nat.pos_iff_ne_zero.mp hpositive
  · refine ⟨hlistedPerm, rfl, ?_⟩
    rw [hgraph]
    change warningSummaries _ (prepared.length - kept.length) =
      warningSummaries _ (prepared'.length - kept'.length)
    rw [hskipped, hkept, hperm.length_eq]

end

/-! ## Documents -/

/-- The second document has the components and the dependencies of the first in another
order. -/
structure Shuffled (document document' : JsonRecord) : Prop where
  components : ListShuffled (document.get (js "components")) (document'.get (js "components"))
  dependencies :
    ListShuffled (document.get (js "dependencies")) (document'.get (js "dependencies"))
  others : ∀ name, name ≠ js "components" → name ≠ js "dependencies" →
    document.get name = document'.get name

/-- The graphs have the same components, edges, completeness and warnings. -/
structure SameGraph (graph graph' : NormalizedComponentGraph) : Prop where
  components : ∀ component, component ∈ graph.components ↔ component ∈ graph'.components
  edges : ∀ edge, edge ∈ graph.edges ↔ edge ∈ graph'.edges
  graphCompleteness : graph.graphCompleteness = graph'.graphCompleteness
  warnings : graph.warnings = graph'.warnings

/-- The listed components, normalized one by one. -/
def listedCandidates (library : PackageUrlJs) (limits : SbomParserLimits)
    (document : JsonRecord) : List PreparedComponent :=
  (collectComponents document).filterMap fun raw =>
    (normalizeOneComponent library limits raw).toOption

/-- The dependencies of one entry. -/
def entryDependencies (entry : JsonValue) : List NormalizedDependencyEdge :=
  match entry.record? with
  | none => []
  | some record =>
      ((asArray (record.get (js "dependsOn"))).getD []).filterMap fun target =>
        target.string?.map fun dest => ⟨(asString (record.get (js "ref"))).getD [], dest⟩

/-- The listed dependencies. -/
def listedDependencies (document : JsonRecord) : List NormalizedDependencyEdge :=
  ((asArray (document.get (js "dependencies"))).getD []).flatMap entryDependencies

/-- The dependencies that are listed between distinct references, under the references
that are kept. -/
def canonicalDependencies (library : PackageUrlJs) (limits : SbomParserLimits)
    (document : JsonRecord) : List NormalizedDependencyEdge :=
  resolvedEdges (canonicalBomRef (listedCandidates library limits document))
    (listedDependencies document)

/-- What is listed first of each kind is the same in both documents. -/
structure SameFirsts (library : PackageUrlJs) (limits : SbomParserLimits)
    (document document' : JsonRecord) : Prop where
  /-- Of each occurrence, the component that is listed first has the same ecosystem and
  namespace. -/
  places : ∀ key,
    ((listedCandidates library limits document).find? fun candidate =>
        candidate.component.occurrenceKey = key).map (·.component.place) =
      ((listedCandidates library limits document').find? fun candidate =>
        candidate.component.occurrenceKey = key).map (·.component.place)
  /-- Of the dependencies whose ends around `U+0000` are one text, the same is listed
  first. -/
  dependencies : ∀ key,
    (canonicalDependencies library limits document).find? (fun edge => edge.key = key) =
      (canonicalDependencies library limits document').find? fun edge => edge.key = key

theorem listTargets_eq_ok {source : JsString} {targets : List JsonValue} :
    ∀ {listed : List NormalizedDependencyEdge}, listTargets source targets = .ok listed →
      listed = targets.filterMap fun target => target.string?.map fun dest => ⟨source, dest⟩ := by
  induction targets with
  | nil =>
      intro listed h
      cases h
      rfl
  | cons target rest ih =>
      intro listed h
      unfold listTargets at h
      split at h
      · cases h
      · rename_i dest hdest
        obtain ⟨others, hothers, h⟩ := bind_eq_ok.mp h
        cases h
        rw [List.filterMap_cons, (presentText_eq_some.mp hdest).1, ih hothers]
        rfl

theorem listEntry_eq_ok {resolve : JsString → JsString} {knownBomRefs : List JsString}
    {entry : JsonValue} {listed : List NormalizedDependencyEdge}
    (h : listEntry resolve knownBomRefs entry = .ok listed) :
    listed = entryDependencies entry := by
  unfold listEntry at h
  split at h
  · cases h
  · rename_i record hrecord
    unfold entryDependencies
    rw [hrecord]
    split at h
    · cases h
    · rename_i source hsource
      obtain ⟨_, -, h⟩ := bind_eq_ok.mp h
      have href := (presentText_eq_some.mp hsource).1
      split at h
      · rename_i hnone
        cases h
        change [] = ((asArray (record.get (js "dependsOn"))).getD []).filterMap _
        rw [hnone]
        rfl
      · rename_i dependsOn hsome
        split at h
        · cases h
        · rename_i targets htargets
          change _ = ((asArray (record.get (js "dependsOn"))).getD []).filterMap fun target =>
            target.string?.map fun dest =>
              (⟨(asString (record.get (js "ref"))).getD [], dest⟩ : NormalizedDependencyEdge)
          rw [hsome, href, listTargets_eq_ok h]
          unfold asArray
          rw [Option.bind_some, htargets]
          rfl

/-- The dependencies that are read are those that are listed. -/
theorem listEdges_eq_ok {resolve : JsString → JsString} {knownBomRefs : List JsString}
    {document : JsonRecord} {listed : List NormalizedDependencyEdge}
    (h : listEdges resolve knownBomRefs (document.get (js "dependencies")) = .ok listed) :
    listed = listedDependencies document := by
  unfold listEdges at h
  unfold listedDependencies
  split at h
  · rename_i hnone
    cases h
    rw [hnone]
    rfl
  · rename_i dependencies hsome
    rw [hsome]
    split at h
    · cases h
    · rename_i entries hentries
      obtain ⟨read, hread, h⟩ := bind_eq_ok.mp h
      cases h
      have hforall := mapM_eq_ok.mp hread
      unfold asArray
      rw [Option.bind_some, hentries]
      change read.flatten = entries.flatMap entryDependencies
      clear hentries hread hsome h
      induction hforall with
      | nil => rfl
      | cons hentry _ ih => rw [List.flatten_cons, List.flatMap_cons, ih, listEntry_eq_ok hentry]

theorem ListShuffled.symm {value value' : Option JsonValue} (h : ListShuffled value value') :
    ListShuffled value' value := by
  rcases h with rfl | ⟨items, items', rfl, rfl, hperm⟩
  · exact .inl rfl
  · exact .inr ⟨items', items, rfl, rfl, hperm.symm⟩

theorem Shuffled.symm {document document' : JsonRecord} (h : Shuffled document document') :
    Shuffled document' document :=
  ⟨h.components.symm, h.dependencies.symm,
    fun name hcomponents hdependencies => (h.others name hcomponents hdependencies).symm⟩

theorem visitItems_eq {items : List JsonValue} : visitItems items = items.flatMap visit := by
  induction items with
  | nil =>
      unfold visitItems
      rfl
  | cons item rest ih =>
      unfold visitItems
      rw [ih, List.flatMap_cons]

section

variable {document document' : JsonRecord}

theorem Shuffled.metadata (h : Shuffled document document') :
    metadataOf document = metadataOf document' := by
  unfold metadataOf
  rw [h.others (js "metadata") (by decide) (by decide)]

theorem Shuffled.collectComponents (h : Shuffled document document') :
    (collectComponents document).Perm (collectComponents document') := by
  unfold PatchPilot.Sbom.collectComponents
  rw [h.metadata]
  refine List.Perm.append_left _ ?_
  rcases h.components with heq | ⟨items, items', hitems, hitems', hperm⟩
  · rw [heq]
  · rw [hitems, hitems']
    change (visitArray (.array items)).Perm (visitArray (.array items'))
    unfold visitArray
    rw [visitItems_eq, visitItems_eq]
    exact hperm.flatMap_right visit

end

/-- What an accepted document is assembled from. -/
structure AssembledFrom (library : PackageUrlJs) (limits : SbomParserLimits)
    (document : JsonRecord) (parserVersion normalizationVersion : JsString)
    (specificationVersion : SbomSpecificationVersion) (prepared : List PreparedComponent)
    (kept : List CollapsedOccurrence) (listed : List NormalizedDependencyEdge)
    (graph : NormalizedComponentGraph) : Prop where
  version : normalizationVersion = currentSbomNormalizationVersion
  tools : countMetadataTools document ≤ limits.maxMetadataTools
  count : (collectComponents document).length ≤ limits.maxComponents
  candidates : List.Forall₂ (fun raw candidate =>
    normalizeOneComponent library limits raw = .ok candidate) (collectComponents document) prepared
  nodup : (prepared.filterMap (·.component.bomRef)).Nodup
  assembles : Assembles limits (document.get (js "dependencies"))
    ⟨metadataComponentBomRef document, capturedAtFromMetadata document, parserVersion,
      normalizationVersion, specificationVersion⟩ prepared kept listed graph

section

variable {library : PackageUrlJs} {limits : SbomParserLimits} {document document' : JsonRecord}
  {parserVersion normalizationVersion : JsString}
  {specificationVersion : SbomSpecificationVersion} {prepared : List PreparedComponent}
  {kept : List CollapsedOccurrence} {listed : List NormalizedDependencyEdge}
  {graph : NormalizedComponentGraph}

theorem accepted_iff :
    normalizeCycloneDxDocument library (.object document) limits parserVersion
        normalizationVersion specificationVersion = .ok graph ↔
      ∃ prepared kept listed, AssembledFrom library limits document parserVersion
        normalizationVersion specificationVersion prepared kept listed graph := by
  rw [normalizeCycloneDxDocument_eq_ok]
  constructor
  · rintro ⟨hversion, record, hrecord, htools, hcount, prepared, hprepared, hgraph⟩
    cases hrecord
    obtain ⟨hall, hnodup, -⟩ := prepareComponents_eq_ok.mp hprepared
    obtain ⟨kept, listed, hassembles⟩ := (normalizePrepared_eq_ok hnodup).mp hgraph
    exact ⟨prepared, kept, listed, hversion, htools, hcount, hall, hnodup, hassembles⟩
  · rintro ⟨prepared, kept, listed, h⟩
    exact ⟨h.version, document, rfl, h.tools, h.count, prepared,
      prepareComponents_eq_ok.mpr ⟨h.candidates, h.nodup, fun _ _ => List.not_mem_nil⟩,
      (normalizePrepared_eq_ok h.nodup).mpr ⟨kept, listed, h.assembles⟩⟩

theorem AssembledFrom.listedCandidates_eq
    (h : AssembledFrom library limits document parserVersion normalizationVersion
      specificationVersion prepared kept listed graph) :
    listedCandidates library limits document = prepared :=
  (filterMap_of_forall₂ (h.candidates.imp fun _ _ hok => by rw [hok]; rfl)).trans
    (List.map_id prepared)

theorem AssembledFrom.canonicalDependencies_eq
    (h : AssembledFrom library limits document parserVersion normalizationVersion
      specificationVersion prepared kept listed graph) :
    canonicalDependencies library limits document =
      resolvedEdges (canonicalBomRef prepared) listed := by
  unfold canonicalDependencies
  rw [h.listedCandidates_eq, listEdges_eq_ok h.assembles.dependencies]

theorem AssembledFrom.isListed
    (h : AssembledFrom library limits document parserVersion normalizationVersion
      specificationVersion prepared kept listed graph) : Listed library prepared := by
  have hgeneral : ∀ {raws : List JsonRecord} {candidates : List PreparedComponent},
      List.Forall₂ (fun raw candidate =>
        normalizeOneComponent library limits raw = .ok candidate) raws candidates →
        Listed library candidates := by
    intro raws candidates hall
    induction hall with
    | nil => exact fun _ hmem => (List.not_mem_nil hmem).elim
    | cons hfirst _ ih =>
        intro candidate hmem
        rcases List.mem_cons.mp hmem with rfl | hmem
        · exact ⟨_, normalizeOneComponent_spec hfirst⟩
        · exact ih candidate hmem
  exact hgeneral h.candidates

/-- A document that is accepted is accepted after reordering. -/
theorem AssembledFrom.shuffle (hwritten : library.Written) (hshuffled : Shuffled document document')
    (h : AssembledFrom library limits document parserVersion normalizationVersion
      specificationVersion prepared kept listed graph) :
    ∃ prepared' kept' listed' graph',
      AssembledFrom library limits document' parserVersion normalizationVersion
          specificationVersion prepared' kept' listed' graph' ∧
        prepared.Perm prepared' ∧ Reassembled listed listed' graph graph' := by
  obtain ⟨prepared', hall', hperm⟩ :=
    List.perm_comp_forall₂ hshuffled.collectComponents.symm h.candidates
  obtain ⟨kept', listed', graph', hassembles, hreassembled⟩ :=
    h.assembles.transfer hwritten h.isListed h.nodup hperm.symm hshuffled.dependencies
  refine ⟨prepared', kept', listed', graph', ⟨h.version, ?_, ?_, hall', ?_, ?_⟩, hperm.symm,
    hreassembled⟩
  · have htools : countMetadataTools document = countMetadataTools document' := by
      unfold countMetadataTools
      rw [hshuffled.metadata]
    rw [← htools]
    exact h.tools
  · rw [← hshuffled.collectComponents.length_eq]
    exact h.count
  · exact (hperm.symm.filterMap _).nodup_iff.mp h.nodup
  · have hroot : metadataComponentBomRef document = metadataComponentBomRef document' := by
      unfold metadataComponentBomRef
      rw [hshuffled.metadata]
    have hcaptured : capturedAtFromMetadata document = capturedAtFromMetadata document' := by
      unfold capturedAtFromMetadata
      rw [hshuffled.metadata]
    rw [← hroot, ← hcaptured]
    exact hassembles

end

/-! ## Components with one face -/

theorem eq_of_unplaced {component component' : NormalizedComponent}
    (hunplaced : component.unplaced = component'.unplaced)
    (hplace : component.place = component'.place)
    (hdirect : component.isDirect = component'.isDirect) : component = component' := by
  obtain ⟨hecosystem, hns⟩ := Prod.mk.inj hplace
  have hrestore : ∀ c : NormalizedComponent, c = { c.unplaced with
      ns := c.ns, ecosystem := c.ecosystem, isDirect := c.isDirect } := fun _ => rfl
  rw [hrestore component, hrestore component', hunplaced, hecosystem, hns, hdirect]

theorem mem_directBomRefs {root : Option JsString} {edges : List NormalizedDependencyEdge}
    {bomRef : JsString} : bomRef ∈ directBomRefs root edges ↔
      root = some bomRef ∨
        ∃ edge ∈ edges, root = some edge.fromBomRef ∧ edge.toBomRef = bomRef := by
  unfold directBomRefs
  cases root with
  | none =>
      refine iff_of_false List.not_mem_nil ?_
      rintro (h | ⟨_, _, h, _⟩)
      · cases h
      · cases h
  | some root =>
      rw [List.mem_cons, List.mem_map]
      constructor
      · rintro (rfl | ⟨edge, hedge, rfl⟩)
        · exact .inl rfl
        · obtain ⟨hmem, hroot⟩ := List.mem_filter.mp hedge
          exact .inr ⟨edge, hmem, congrArg some (of_decide_eq_true hroot).symm, rfl⟩
      · rintro (hroot | ⟨edge, hmem, hroot, rfl⟩)
        · exact .inl (Option.some.inj hroot).symm
        · exact .inr ⟨edge, List.mem_filter.mpr
            ⟨hmem, decide_eq_true (Option.some.inj hroot).symm⟩, rfl⟩

theorem applyDirectness_congr {direct direct' : List JsString} {hasDependencyGraph : Bool}
    (h : ∀ bomRef, bomRef ∈ direct ↔ bomRef ∈ direct') (component : NormalizedComponent) :
    applyDirectness direct hasDependencyGraph component =
      applyDirectness direct' hasDependencyGraph component := by
  unfold applyDirectness
  split
  · rename_i bomRef _
    rw [decide_eq_decide.mpr (h bomRef)]
  · rfl

section

variable {library : PackageUrlJs} {limits : SbomParserLimits} {document document' : JsonRecord}
  {parserVersion normalizationVersion : JsString}
  {specificationVersion : SbomSpecificationVersion}
  {prepared prepared' : List PreparedComponent} {kept kept' : List CollapsedOccurrence}
  {listed listed' : List NormalizedDependencyEdge} {graph graph' : NormalizedComponentGraph}

theorem AssembledFrom.isDirect_none
    (h : AssembledFrom library limits document parserVersion normalizationVersion
      specificationVersion prepared kept listed graph) {entry : CollapsedOccurrence}
    (hentry : entry ∈ kept) : entry.normalized.isDirect = none := by
  obtain ⟨first, hof⟩ := entryOf_of_mem h.assembles.collapse hentry
  obtain ⟨raw, hraw⟩ := h.isListed first
    (mem_occurrenceGroup.mp (List.mem_of_mem_head? hof.head)).1
  change entry.component.isDirect = none
  rw [hof.component]
  exact hraw.isDirect

theorem AssembledFrom.mem_components
    (h : AssembledFrom library limits document parserVersion normalizationVersion
      specificationVersion prepared kept listed graph) {component : NormalizedComponent} :
    component ∈ graph.components ↔ ∃ entry ∈ kept,
      applyDirectness
        (directBomRefs ((metadataComponentBomRef document).map (canonicalBomRef prepared))
          graph.edges) (decide (listed.length > 0)) entry.normalized = component := by
  rw [h.assembles.assembled]
  change component ∈ placedComponents _ prepared kept listed ↔ _
  unfold placedComponents
  rw [List.map_map, List.mem_map]
  rfl

theorem AssembledFrom.edges_eq
    (h : AssembledFrom library limits document parserVersion normalizationVersion
      specificationVersion prepared kept listed graph) :
    graph.edges = keepFirst NormalizedDependencyEdge.key
      (canonicalDependencies library limits document) := by
  rw [h.canonicalDependencies_eq, h.assembles.assembled]
  rfl

/-- One component of a reordered document, when the firsts are the same. -/
theorem mem_components_of_sameFirsts (hwritten : library.Written)
    (hshuffled : Shuffled document document')
    (h : AssembledFrom library limits document parserVersion normalizationVersion
      specificationVersion prepared kept listed graph)
    (h' : AssembledFrom library limits document' parserVersion normalizationVersion
      specificationVersion prepared' kept' listed' graph')
    (hperm : prepared.Perm prepared') (hlisted : listed.Perm listed')
    (hedges : ∀ edge, edge ∈ graph.edges ↔ edge ∈ graph'.edges)
    (hplaces : ∀ key, (prepared.find? fun candidate =>
        candidate.component.occurrenceKey = key).map (·.component.place) =
      (prepared'.find? fun candidate =>
        candidate.component.occurrenceKey = key).map (·.component.place))
    {component : NormalizedComponent} (hmem : component ∈ graph.components) :
    component ∈ graph'.components := by
  obtain ⟨entry, hentry, rfl⟩ := h.mem_components.mp hmem
  obtain ⟨entry', hentry', hkey⟩ :=
    exists_entry_of_perm hperm h.assembles.collapse h'.assembles.collapse hentry
  have hunplaced := normalized_unplaced_eq hwritten h.isListed hperm h.assembles.collapse
    h'.assembles.collapse hentry hentry' hkey
  have hplace : entry.normalized.place = entry'.normalized.place := by
    have hfirst := normalized_place_eq h.assembles.collapse hentry
    have hfirst' := normalized_place_eq h'.assembles.collapse hentry'
    rw [← hkey, ← hplaces, ← hfirst] at hfirst'
    exact (Option.some.inj hfirst').symm
  have hsame := eq_of_unplaced hunplaced hplace
    ((h.isDirect_none hentry).trans (h'.isDirect_none hentry').symm)
  refine h'.mem_components.mpr ⟨entry', hentry', ?_⟩
  have hroot : metadataComponentBomRef document = metadataComponentBomRef document' := by
    unfold metadataComponentBomRef
    rw [hshuffled.metadata]
  rw [← hroot, ← canonicalBomRef_eq_of_perm hperm h.nodup, ← hlisted.length_eq, ← hsame]
  refine (applyDirectness_congr ?_ _).symm
  intro bomRef
  rw [mem_directBomRefs, mem_directBomRefs]
  exact or_congr_right (exists_congr fun edge => and_congr_left fun _ => hedges edge)

/-- The place of an occurrence in a graph is that of its first listed component. -/
theorem AssembledFrom.place_eq
    (h : AssembledFrom library limits document parserVersion normalizationVersion
      specificationVersion prepared kept listed graph) {component : NormalizedComponent}
    (hmem : component ∈ graph.components) :
    some component.place = (prepared.find? fun candidate =>
      candidate.component.occurrenceKey = component.occurrenceKey).map
        (·.component.place) := by
  obtain ⟨entry, hentry, rfl⟩ := h.mem_components.mp hmem
  rw [applyDirectness_place, applyDirectness_occurrenceKey]
  exact normalized_place_eq h.assembles.collapse hentry

theorem AssembledFrom.exists_component
    (h : AssembledFrom library limits document parserVersion normalizationVersion
      specificationVersion prepared kept listed graph) {candidate : PreparedComponent}
    (hmem : candidate ∈ prepared) : ∃ component ∈ graph.components,
      component.occurrenceKey = candidate.component.occurrenceKey := by
  obtain ⟨entry, hentry, hkey⟩ := exists_entry h.assembles.collapse hmem
  exact ⟨_, h.mem_components.mpr ⟨entry, hentry, rfl⟩,
    applyDirectness_occurrenceKey.trans hkey⟩

/-- The graph of a reordered document is the same exactly when the firsts are. -/
theorem sameGraph_iff (hwritten : library.Written) (hshuffled : Shuffled document document')
    (h : AssembledFrom library limits document parserVersion normalizationVersion
      specificationVersion prepared kept listed graph)
    (h' : AssembledFrom library limits document' parserVersion normalizationVersion
      specificationVersion prepared' kept' listed' graph')
    (hperm : prepared.Perm prepared') (hreassembled : Reassembled listed listed' graph graph') :
    SameGraph graph graph' ↔ SameFirsts library limits document document' := by
  have hedges : (∀ edge, edge ∈ graph.edges ↔ edge ∈ graph'.edges) ↔
      ∀ key, (canonicalDependencies library limits document).find?
          (fun edge => edge.key = key) =
        (canonicalDependencies library limits document').find? fun edge => edge.key = key := by
    rw [h.edges_eq, h'.edges_eq]
    exact keepFirst_congr_iff NormalizedDependencyEdge.key
  constructor
  · intro hsame
    refine ⟨?_, hedges.mp hsame.edges⟩
    rw [h.listedCandidates_eq, h'.listedCandidates_eq]
    intro key
    by_cases hread : ∃ candidate ∈ prepared, candidate.component.occurrenceKey = key
    · obtain ⟨candidate, hmem, rfl⟩ := hread
      obtain ⟨component, hcomponent, hkey⟩ := h.exists_component hmem
      rw [← hkey, ← h.place_eq hcomponent,
        ← h'.place_eq ((hsame.components component).mp hcomponent)]
    · have hnone : ∀ {items : List PreparedComponent},
          (∀ candidate ∈ items, candidate ∈ prepared) →
            items.find? (fun candidate => candidate.component.occurrenceKey = key) = none := by
        intro items hsub
        refine List.find?_eq_none.mpr ?_
        intro candidate hmem hkey
        exact hread ⟨candidate, hsub candidate hmem, of_decide_eq_true hkey⟩
      rw [hnone fun _ hmem => hmem, hnone fun _ hmem => hperm.mem_iff.mpr hmem]
  · rintro ⟨hplaces, hdependencies⟩
    rw [h.listedCandidates_eq, h'.listedCandidates_eq] at hplaces
    have hedges := hedges.mpr hdependencies
    refine ⟨?_, hedges, hreassembled.graphCompleteness, hreassembled.warnings⟩
    intro component
    constructor
    · exact mem_components_of_sameFirsts hwritten hshuffled h h' hperm hreassembled.listed
        hedges hplaces
    · exact mem_components_of_sameFirsts hwritten hshuffled.symm h' h hperm.symm
        hreassembled.listed.symm (fun edge => (hedges edge).symm) fun key => (hplaces key).symm

end

/-- Reordering the components and the dependencies of a document does not change whether
it is accepted, and it does not change the graph exactly when what is listed first of each
occurrence and of each text of a dependency stays the same. -/
theorem normalizeCycloneDxDocument_shuffled {library : PackageUrlJs}
    (hwritten : library.Written) {limits : SbomParserLimits} {document document' : JsonRecord}
    (hshuffled : Shuffled document document') {parserVersion normalizationVersion : JsString}
    {specificationVersion : SbomSpecificationVersion} :
    ((∃ graph, normalizeCycloneDxDocument library (.object document) limits parserVersion
        normalizationVersion specificationVersion = .ok graph) ↔
      ∃ graph', normalizeCycloneDxDocument library (.object document') limits parserVersion
        normalizationVersion specificationVersion = .ok graph') ∧
      ∀ graph graph', normalizeCycloneDxDocument library (.object document) limits
          parserVersion normalizationVersion specificationVersion = .ok graph →
        normalizeCycloneDxDocument library (.object document') limits parserVersion
            normalizationVersion specificationVersion = .ok graph' →
          (SameGraph graph graph' ↔ SameFirsts library limits document document') := by
  refine ⟨⟨?_, ?_⟩, ?_⟩
  · rintro ⟨graph, hgraph⟩
    obtain ⟨_, _, _, h⟩ := accepted_iff.mp hgraph
    obtain ⟨prepared', kept', listed', graph', h', -⟩ := h.shuffle hwritten hshuffled
    exact ⟨graph', accepted_iff.mpr ⟨prepared', kept', listed', h'⟩⟩
  · rintro ⟨graph', hgraph'⟩
    obtain ⟨_, _, _, h'⟩ := accepted_iff.mp hgraph'
    obtain ⟨prepared, kept, listed, graph, h, -⟩ := h'.shuffle hwritten hshuffled.symm
    exact ⟨graph, accepted_iff.mpr ⟨prepared, kept, listed, h⟩⟩
  · intro graph graph' hgraph hgraph'
    obtain ⟨_, _, _, h⟩ := accepted_iff.mp hgraph
    obtain ⟨prepared', kept', listed', graph'', h', hperm, hreassembled⟩ :=
      h.shuffle hwritten hshuffled
    have hsame := (accepted_iff.mpr ⟨prepared', kept', listed', h'⟩).symm.trans hgraph'
    cases hsame
    exact sameGraph_iff hwritten hshuffled h h' hperm hreassembled

/-- The components of two groups, as the entries of a document. -/
def groupsDocument (group group' : String) : JsonRecord :=
  [(js "components", .array [.object (groupedComponent "core" group),
    .object (groupedComponent "core" group')])]

theorem groupsDocument_shuffled (group group' : String) :
    Shuffled (groupsDocument group group') (groupsDocument group' group) where
  components := .inr ⟨_, _, rfl, rfl, .swap _ _ []⟩
  dependencies := .inl rfl
  others name hcomponents _ := by
    have hne : ¬js "components" = name := Ne.symm hcomponents
    unfold groupsDocument JsonRecord.get
    rw [List.find?_cons_of_neg (by simpa using hne), List.find?_cons_of_neg (by simpa using hne)]

/-- The group that is listed first becomes the namespace of both. -/
theorem groupsDocument_firstWins : Shuffled (groupsDocument "org.a" "org.b")
      (groupsDocument "org.b" "org.a") ∧
    ∃ graph graph', normalizeByDefault (.object (groupsDocument "org.a" "org.b")) = .ok graph ∧
      normalizeByDefault (.object (groupsDocument "org.b" "org.a")) = .ok graph' ∧
        ¬SameGraph graph graph' := by
  refine ⟨groupsDocument_shuffled _ _, ?_⟩
  have hfirst : (normalizeByDefault (.object (groupsDocument "org.a" "org.b"))).toOption.map
      (·.components) = some [(groupedCandidate "core" "org.a").component] := by decide +kernel
  have hsecond : (normalizeByDefault (.object (groupsDocument "org.b" "org.a"))).toOption.map
      (·.components) = some [(groupedCandidate "core" "org.b").component] := by decide +kernel
  obtain ⟨graph, hgraph, hcomponents⟩ := Option.map_eq_some_iff.mp hfirst
  obtain ⟨graph', hgraph', hcomponents'⟩ := Option.map_eq_some_iff.mp hsecond
  refine ⟨graph, graph', ok_of_toOption hgraph, ok_of_toOption hgraph', ?_⟩
  intro hsame
  have hmem := hsame.components (groupedCandidate "core" "org.a").component
  rw [hcomponents, hcomponents', List.mem_singleton, List.mem_singleton] at hmem
  have hns := congrArg (·.ns) (hmem.mp rfl)
  exact absurd hns (by decide +kernel)

theorem groupsDocument_order :
    ((∃ graph, normalizeByDefault (.object (groupsDocument "org.a" "org.b")) = .ok graph) ↔
      ∃ graph', normalizeByDefault (.object (groupsDocument "org.b" "org.a")) = .ok graph') ∧
      ∀ graph graph',
        normalizeByDefault (.object (groupsDocument "org.a" "org.b")) = .ok graph →
          normalizeByDefault (.object (groupsDocument "org.b" "org.a")) = .ok graph' →
            (SameGraph graph graph' ↔ SameFirsts npmPackageUrls defaultSbomParserLimits
              (groupsDocument "org.a" "org.b") (groupsDocument "org.b" "org.a")) :=
  normalizeCycloneDxDocument_shuffled npmPackageUrls_written (groupsDocument_shuffled _ _)

end PatchPilot.Sbom
