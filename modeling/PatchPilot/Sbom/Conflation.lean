import PatchPilot.Sbom.Collapse

set_option autoImplicit false

/-!
# Sbom: which listed components become one

Listed components that stand for one observed version of one component are collapsed.
Components with a PURL are compared by their versionless PURL.  The key of the others is
their reference and their name around a separator: it has no group, and a text that
contains the separator can be read in two ways.
-/

namespace PatchPilot.Sbom

open PatchPilot.Foundation

/-! ## Separators -/

/-- Two texts around a separator, read in two ways: the parts agree, or the separator is
also within one of them. -/
theorem append_separator_eq_iff {separator : UInt16} {left right left' right' : JsString} :
    left ++ separator :: right = left' ++ separator :: right' ↔
      (left = left' ∧ right = right') ∨
        (∃ t, left' = left ++ separator :: t ∧ right = t ++ separator :: right') ∨
          ∃ t, left = left' ++ separator :: t ∧ right' = t ++ separator :: right := by
  constructor
  · intro h
    rcases List.append_eq_append_iff.mp h with ⟨t, hleft, hright⟩ | ⟨t, hleft, hright⟩
    · cases t with
      | nil =>
          rw [List.append_nil] at hleft
          cases hright
          exact .inl ⟨hleft.symm, rfl⟩
      | cons u t =>
          obtain ⟨hunit, hright⟩ := List.cons.inj hright
          rw [← hunit] at hleft
          exact .inr (.inl ⟨t, hleft, hright⟩)
    · cases t with
      | nil =>
          rw [List.append_nil] at hleft
          cases hright
          exact .inl ⟨hleft, rfl⟩
      | cons u t =>
          obtain ⟨hunit, hright⟩ := List.cons.inj hright
          rw [← hunit] at hleft
          exact .inr (.inr ⟨t, hleft, hright⟩)
  · rintro (⟨rfl, rfl⟩ | ⟨t, rfl, rfl⟩ | ⟨t, rfl, rfl⟩)
    · rfl
    · rw [List.append_assoc, List.cons_append]
    · rw [List.append_assoc, List.cons_append]

/-! ## The property -/

/-- The components that a document lists. -/
def listedComponents (document : JsonValue) : List JsonRecord :=
  (document.record?.map collectComponents).getD []

/-- The normalized component that a listed one is collapsed into. -/
def NormalizedComponentGraph.collapsedInto (graph : NormalizedComponentGraph)
    (component : NormalizedComponent) : Option NormalizedComponent :=
  graph.components.find? fun kept => kept.occurrenceKey = component.occurrenceKey

/-- Both have a PURL with one versionless PURL and one observed version, or neither has
one and they agree on group, name, reference and observed version. -/
def OneComponent (raw raw' : JsonRecord) (component component' : NormalizedComponent) : Prop :=
  ((listedPurl raw).isSome ∧ (listedPurl raw').isSome ∧
      component.versionlessPurl = component'.versionlessPurl ∧
        component.version = component'.version) ∨
    (listedPurl raw = none ∧ listedPurl raw' = none ∧ listedGroup raw = listedGroup raw' ∧
      listedName raw = listedName raw' ∧ listedBomRef raw = listedBomRef raw' ∧
        component.version = component'.version)

/-- Listed components that are collapsed into one normalized component are one. -/
def NeverConflates (library : PackageUrlJs) (limits : SbomParserLimits)
    (document : JsonValue) (graph : NormalizedComponentGraph) : Prop :=
  ∀ raw ∈ listedComponents document, ∀ raw' ∈ listedComponents document,
    ∀ candidate candidate',
      normalizeOneComponent library limits raw = .ok candidate →
        normalizeOneComponent library limits raw' = .ok candidate' →
          graph.collapsedInto candidate.component = graph.collapsedInto candidate'.component →
            OneComponent raw raw' candidate.component candidate'.component

/-- The reference of the second is that of the first, a separator and a text with which,
and a separator, the name of the first goes on to the name of the second. -/
def SplitBySeparator (raw raw' : JsonRecord) : Prop :=
  ∃ name name' t, listedName raw = some name ∧ listedName raw' = some name' ∧
    listedBomRef raw' = some ((listedBomRef raw).getD [] ++ keySeparator :: t) ∧
      name = t ++ keySeparator :: name'

/-- No two components without a PURL that list one version are confused. -/
structure Unambiguous (document : JsonValue) : Prop where
  /-- Under one name and without a reference they list one group. -/
  group : ∀ raw ∈ listedComponents document, ∀ raw' ∈ listedComponents document,
    listedPurl raw = none → listedPurl raw' = none →
      listedVersion raw = listedVersion raw' → listedBomRef raw = none →
        listedBomRef raw' = none → listedName raw = listedName raw' →
          listedGroup raw = listedGroup raw'
  /-- Their references and names are not two readings of one text. -/
  separator : ∀ raw ∈ listedComponents document, ∀ raw' ∈ listedComponents document,
    listedPurl raw = none → listedPurl raw' = none →
      listedVersion raw = listedVersion raw' → ¬SplitBySeparator raw raw'

/-! ## Keys -/

section

variable {library : PackageUrlJs} {raw raw' : JsonRecord}
  {component component' : NormalizedComponent}

theorem FromPurl.identityKey (hwritten : library.Written) {purl : JsString}
    {normalized : NormalizedPackageUrl} (h : NormalizedFrom library raw component)
    (hpurl : FromPurl library raw component purl normalized) :
    component.identityKey = js "purl:" ++ normalized.versionless := by
  obtain ⟨-, -, hkey⟩ := buildComponentIdentityKey_eq_some.mp h.identityKey
  have hlength : normalized.versionless.length > 0 := by
    obtain ⟨parsed, -, hversionless, -⟩ := normalizePackageUrl_spec library hpurl.parsed
    exact hwritten _ _ hversionless
  rw [← hkey]
  exact componentIdentityKey_purl _ hpurl.versionlessPurl hlength

theorem FromListing.identityKey (h : NormalizedFrom library raw component)
    (hlisting : FromListing raw component) :
    component.identityKey = js "unresolved:unsupported" ++
      keySeparator :: ((listedBomRef raw).getD [] ++ keySeparator :: component.name) := by
  obtain ⟨-, -, hkey⟩ := buildComponentIdentityKey_eq_some.mp h.identityKey
  rw [← hkey, ← h.bomRef]
  have hkey := componentIdentityKey_listing component.identityInput
    hlisting.versionlessPurl hlisting.identityState
  rw [hkey, List.append_assoc, List.cons_append]
  rfl

/-- The first letter tells a versionless PURL from what a document lists. -/
theorem FromPurl.identityKey_ne (hwritten : library.Written) {purl : JsString}
    {normalized : NormalizedPackageUrl} (h : NormalizedFrom library raw component)
    (hpurl : FromPurl library raw component purl normalized)
    (h' : NormalizedFrom library raw' component')
    (hlisting : FromListing raw' component') :
    component.identityKey ≠ component'.identityKey := by
  rw [hpurl.identityKey hwritten h, hlisting.identityKey h']
  intro heq
  have hhead : some (unit 'p') = some (unit 'u') := congrArg List.head? heq
  exact absurd hhead (by decide)

/-- Components without a PURL have one key when they agree, or when a separator within
their texts is taken for the one between them. -/
theorem FromListing.identityKey_eq_iff (h : NormalizedFrom library raw component)
    (hlisting : FromListing raw component) (h' : NormalizedFrom library raw' component')
    (hlisting' : FromListing raw' component') :
    component.identityKey = component'.identityKey ↔
      (listedBomRef raw = listedBomRef raw' ∧ listedName raw = listedName raw') ∨
        SplitBySeparator raw raw' ∨ SplitBySeparator raw' raw := by
  rw [hlisting.identityKey h, hlisting'.identityKey h', List.append_cancel_left_eq,
    List.cons.injEq, append_separator_eq_iff]
  have hbomRef : ∀ {record record' : JsonRecord},
      (listedBomRef record).getD [] = (listedBomRef record').getD [] →
        listedBomRef record = listedBomRef record' := by
    intro record record' heq
    cases hleft : listedBomRef record with
    | none =>
        cases hright : listedBomRef record' with
        | none => rfl
        | some bomRef =>
            rw [hleft, hright] at heq
            have hlength := (presentText_eq_some.mp hright).2
            rw [← show [] = bomRef from heq] at hlength
            cases hlength
    | some bomRef =>
        cases hright : listedBomRef record' with
        | none =>
            rw [hleft, hright] at heq
            have hlength := (presentText_eq_some.mp hleft).2
            rw [show bomRef = [] from heq] at hlength
            cases hlength
        | some bomRef' =>
            rw [hleft, hright] at heq
            exact congrArg some heq
  have hpresent : ∀ {record : JsonRecord} {front t : JsString},
      (listedBomRef record).getD [] = front ++ keySeparator :: t →
        listedBomRef record = some (front ++ keySeparator :: t) := by
    intro record front t heq
    cases hlisted : listedBomRef record with
    | none =>
        rw [hlisted] at heq
        have hlength := congrArg List.length heq
        rw [List.length_append, List.length_cons] at hlength
        have hnil : (Option.getD (none : Option JsString) []).length = 0 := rfl
        omega
    | some bomRef =>
        rw [hlisted] at heq
        exact congrArg some heq
  constructor
  · rintro ⟨-, ⟨hleft, hright⟩ | ⟨t, hleft, hright⟩ | ⟨t, hleft, hright⟩⟩
    · exact .inl ⟨hbomRef hleft, by rw [h.name, h'.name, hright]⟩
    · exact .inr (.inl ⟨_, _, t, h.name, h'.name, hpresent hleft, hright⟩)
    · exact .inr (.inr ⟨_, _, t, h'.name, h.name, hpresent hleft, hright⟩)
  · rintro (⟨hleft, hright⟩ | ⟨name, name', t, hname, hname', hleft, hright⟩ |
      ⟨name, name', t, hname, hname', hleft, hright⟩)
    · rw [h.name, h'.name] at hright
      rw [hleft]
      exact ⟨rfl, .inl ⟨rfl, Option.some.inj hright⟩⟩
    · rw [h.name] at hname
      rw [h'.name] at hname'
      cases hname
      cases hname'
      rw [hleft]
      exact ⟨rfl, .inr (.inl ⟨t, rfl, hright⟩)⟩
    · rw [h'.name] at hname
      rw [h.name] at hname'
      cases hname
      cases hname'
      rw [hleft]
      exact ⟨rfl, .inr (.inr ⟨t, rfl, hright⟩)⟩

end

/-! ## Accepted documents -/

theorem collapsedInto_key {graph : NormalizedComponentGraph}
    {component kept : NormalizedComponent} (h : graph.collapsedInto component = some kept) :
    kept.occurrenceKey = component.occurrenceKey := by
  unfold NormalizedComponentGraph.collapsedInto at h
  have hfound := List.find?_some h
  exact of_decide_eq_true hfound

section

variable {prepared : List PreparedComponent} {graph : NormalizedComponentGraph}
  {kept : List CollapsedOccurrence} {direct : List JsString} {hasDependencyGraph : Bool}
  {candidate candidate' : PreparedComponent}

/-- Two listed components are collapsed into one exactly when they have one key. -/
theorem GraphOf.collapsedInto_eq_iff
    (h : GraphOf prepared graph kept direct hasDependencyGraph) (hmem : candidate ∈ prepared) :
    graph.collapsedInto candidate.component = graph.collapsedInto candidate'.component ↔
      candidate.component.occurrenceKey = candidate'.component.occurrenceKey := by
  constructor
  · intro heq
    have hkey := ((occurrences.run_keys h.run).2 candidate.component.occurrenceKey).mpr
      (List.mem_map_of_mem hmem)
    obtain ⟨entry, hentry, hkey⟩ := List.mem_map.mp hkey
    have hfound : (graph.collapsedInto candidate.component).isSome := by
      refine List.find?_isSome.mpr
        ⟨applyDirectness direct hasDependencyGraph entry.normalized, ?_, ?_⟩
      · rw [h.components]
        exact List.mem_map_of_mem hentry
      · refine decide_eq_true ?_
        rw [applyDirectness_occurrenceKey]
        exact hkey
    obtain ⟨component, hcomponent⟩ := Option.isSome_iff_exists.mp hfound
    have hleft := collapsedInto_key hcomponent
    rw [heq] at hcomponent
    exact hleft.symm.trans (collapsedInto_key hcomponent)
  · intro heq
    unfold NormalizedComponentGraph.collapsedInto
    rw [heq]

/-- What is collapsed has one version. -/
theorem GraphOf.version_eq (h : GraphOf prepared graph kept direct hasDependencyGraph)
    (hmem : candidate ∈ prepared) (hmem' : candidate' ∈ prepared)
    (hkey : candidate.component.occurrenceKey = candidate'.component.occurrenceKey) :
    candidate.component.version = candidate'.component.version := by
  have hgroup := occurrences_isOk_iff.mp ⟨kept, h.run⟩ candidate.component.occurrenceKey
  refine hgroup.version candidate ?_ candidate' ?_
  · exact List.mem_filter.mpr ⟨hmem, decide_eq_true rfl⟩
  · exact List.mem_filter.mpr ⟨hmem', decide_eq_true hkey.symm⟩

end

/-- An accepted document whose texts are unambiguous conflates nothing, and no other
accepted document does. -/
theorem neverConflates_iff {library : PackageUrlJs} (hwritten : library.Written)
    {document : JsonValue} {limits : SbomParserLimits}
    {parserVersion normalizationVersion : JsString}
    {specificationVersion : SbomSpecificationVersion} {graph : NormalizedComponentGraph}
    (h : normalizeCycloneDxDocument library document limits parserVersion normalizationVersion
      specificationVersion = .ok graph) :
    NeverConflates library limits document graph ↔ Unambiguous document := by
  obtain ⟨-, record, hrecord, -, -, prepared, hprepared, hgraph⟩ :=
    normalizeCycloneDxDocument_eq_ok.mp h
  obtain ⟨kept, direct, hasDependencyGraph, hgraph⟩ := normalizePrepared_graphOf hgraph
  obtain ⟨hall, hnodup, -⟩ := prepareComponents_eq_ok.mp hprepared
  have hlisted : listedComponents document = collectComponents record := by
    unfold listedComponents
    rw [hrecord]
    rfl
  have hprep : ∀ {raw candidate}, raw ∈ listedComponents document →
      normalizeOneComponent library limits raw = .ok candidate → candidate ∈ prepared := by
    intro raw candidate hraw hcandidate
    rw [hlisted] at hraw
    obtain ⟨found, hfound, hnormalized⟩ := mem_of_forall₂ hall hraw
    rw [hcandidate] at hnormalized
    cases hnormalized
    exact hfound
  have hnormalizes : ∀ {raw}, raw ∈ listedComponents document →
      ∃ candidate, normalizeOneComponent library limits raw = .ok candidate := by
    intro raw hraw
    rw [hlisted] at hraw
    obtain ⟨candidate, -, hcandidate⟩ := mem_of_forall₂ hall hraw
    exact ⟨candidate, hcandidate⟩
  have hlisting : ∀ {raw candidate},
      normalizeOneComponent library limits raw = .ok candidate → listedPurl raw = none →
        FromListing raw candidate.component := by
    intro raw candidate hcandidate hnone
    rcases (normalizeOneComponent_spec hcandidate).identity with ⟨_, _, hpurl⟩ | hlisting
    · rw [hpurl.listed] at hnone
      cases hnone
    · exact hlisting
  constructor
  · intro hnever
    -- components of one key are collapsed into one
    have hone : ∀ raw ∈ listedComponents document, ∀ raw' ∈ listedComponents document,
        listedPurl raw = none → listedPurl raw' = none →
          listedVersion raw = listedVersion raw' →
            ((listedBomRef raw = listedBomRef raw' ∧ listedName raw = listedName raw') ∨
              SplitBySeparator raw raw' ∨ SplitBySeparator raw' raw) →
              listedGroup raw = listedGroup raw' ∧ listedName raw = listedName raw' := by
      intro raw hraw raw' hraw' hnone hnone' hversion htexts
      obtain ⟨candidate, hcandidate⟩ := hnormalizes hraw
      obtain ⟨candidate', hcandidate'⟩ := hnormalizes hraw'
      have hspec := normalizeOneComponent_spec hcandidate
      have hspec' := normalizeOneComponent_spec hcandidate'
      have hfrom := hlisting hcandidate hnone
      have hfrom' := hlisting hcandidate' hnone'
      have hkey := (hfrom.identityKey_eq_iff hspec hspec' hfrom').mpr htexts
      have hversions : candidate.component.version = candidate'.component.version := by
        rw [hfrom.version, hfrom'.version, hversion]
      have hcollapsed := (hgraph.collapsedInto_eq_iff (hprep hraw hcandidate)).mpr
        ((occurrenceKey_inj hversions).mpr hkey)
      rcases hnever raw hraw raw' hraw' candidate candidate' hcandidate hcandidate'
        hcollapsed with ⟨hsome, -⟩ | ⟨-, -, hgroup, hname, -⟩
      · rw [hnone] at hsome
        cases hsome
      · exact ⟨hgroup, hname⟩
    refine ⟨?_, ?_⟩
    · intro raw hraw raw' hraw' hnone hnone' hversion hbomRef hbomRef' hname
      exact (hone raw hraw raw' hraw' hnone hnone' hversion
        (.inl ⟨hbomRef.trans hbomRef'.symm, hname⟩)).1
    · intro raw hraw raw' hraw' hnone hnone' hversion hsplit
      have hnames := (hone raw hraw raw' hraw' hnone hnone' hversion (.inr (.inl hsplit))).2
      obtain ⟨name, name', t, hname, hname', -, hsplit⟩ := hsplit
      rw [hname, hname'] at hnames
      have hlength := congrArg List.length hsplit
      rw [Option.some.inj hnames, List.length_append, List.length_cons] at hlength
      omega
  · intro hunambiguous raw hraw raw' hraw' candidate candidate' hcandidate hcandidate'
      hcollapsed
    have hmem := hprep hraw hcandidate
    have hmem' := hprep hraw' hcandidate'
    have hkeys := (hgraph.collapsedInto_eq_iff hmem).mp hcollapsed
    have hversion := hgraph.version_eq hmem hmem' hkeys
    have hkey := (occurrenceKey_inj hversion).mp hkeys
    have hspec := normalizeOneComponent_spec hcandidate
    have hspec' := normalizeOneComponent_spec hcandidate'
    rcases hspec.identity with ⟨purl, normalized, hpurl⟩ | hfrom
    · rcases hspec'.identity with ⟨purl', normalized', hpurl'⟩ | hfrom'
      · refine .inl ⟨?_, ?_, ?_, hversion⟩
        · rw [hpurl.listed]
          rfl
        · rw [hpurl'.listed]
          rfl
        · rw [hpurl.identityKey hwritten hspec, hpurl'.identityKey hwritten hspec',
            List.append_cancel_left_eq] at hkey
          rw [hpurl.versionlessPurl, hpurl'.versionlessPurl, hkey]
      · exact absurd hkey (hpurl.identityKey_ne hwritten hspec hspec' hfrom')
    · rcases hspec'.identity with ⟨purl', normalized', hpurl'⟩ | hfrom'
      · exact absurd hkey.symm (hpurl'.identityKey_ne hwritten hspec' hspec hfrom)
      · have hversions : listedVersion raw = listedVersion raw' := by
          rw [← hfrom.version, ← hfrom'.version, hversion]
        rcases (hfrom.identityKey_eq_iff hspec hspec' hfrom').mp hkey with
          ⟨hbomRef, hname⟩ | hsplit | hsplit
        · refine .inr ⟨hfrom.listed, hfrom'.listed, ?_, hname, hbomRef, hversion⟩
          cases hreference : listedBomRef raw with
          | none =>
              exact hunambiguous.group raw hraw raw' hraw' hfrom.listed hfrom'.listed
                hversions hreference (hbomRef ▸ hreference) hname
          | some bomRef =>
              -- no reference is listed twice
              have hsame := eq_of_filterMap_nodup hnodup hmem hmem'
                (hspec.bomRef.trans hreference)
                (hspec'.bomRef.trans (hbomRef.symm.trans hreference))
              rw [← hfrom.ns, ← hfrom'.ns, hsame]
        · exact absurd hsplit (hunambiguous.separator raw hraw raw' hraw' hfrom.listed
            hfrom'.listed hversions)
        · exact absurd hsplit (hunambiguous.separator raw' hraw' raw hraw hfrom'.listed
            hfrom.listed hversions.symm)

/-- A component that lists a name and a group. -/
def groupedComponent (name group : String) : JsonRecord :=
  [(js "name", .string (js name)), (js "group", .string (js group))]

/-- What `normalizeOneComponent` makes of it. -/
def groupedCandidate (name group : String) : PreparedComponent where
  component := {
    bomRef := none
    name := js name
    ns := some (js group)
    ecosystem := none
    identityState := .unsupported
    versionlessPurl := none
    versionedPurl := none
    version := .unknown
    isDirect := none
    identityKey := js "unresolved:unsupported" ++ keySeparator :: keySeparator :: js name }
  sha256Hex := none

/-- A document with these components. -/
def documentOf (components : List JsonRecord) : JsonValue :=
  .object [(js "components", .array (components.map .object))]

/-- `normalizeCycloneDxDocument`, of npm packages under the default limits. -/
def normalizeByDefault (document : JsonValue) :
    Except ParserWorkerFailure NormalizedComponentGraph :=
  normalizeCycloneDxDocument npmPackageUrls document defaultSbomParserLimits (js "1")
    currentSbomNormalizationVersion .v1_5

/-- Two components without a PURL, of one name in two groups. -/
def twoGroups : JsonValue :=
  documentOf [groupedComponent "core" "org.a", groupedComponent "core" "org.b"]

/-- They become one component. -/
theorem twoGroups_conflated : ∃ graph, normalizeByDefault twoGroups = .ok graph ∧
    ¬NeverConflates npmPackageUrls defaultSbomParserLimits twoGroups graph := by
  have haccepted : (normalizeByDefault twoGroups).toOption.isSome = true := by decide +kernel
  obtain ⟨graph, hgraph⟩ := Option.isSome_iff_exists.mp haccepted
  refine ⟨graph, ok_of_toOption hgraph, ?_⟩
  intro hnever
  have hfirst : normalizeOneComponent npmPackageUrls defaultSbomParserLimits
      (groupedComponent "core" "org.a") = .ok (groupedCandidate "core" "org.a") :=
    ok_of_toOption (by decide +kernel)
  have hsecond : normalizeOneComponent npmPackageUrls defaultSbomParserLimits
      (groupedComponent "core" "org.b") = .ok (groupedCandidate "core" "org.b") :=
    ok_of_toOption (by decide +kernel)
  have hkey : (groupedCandidate "core" "org.a").component.occurrenceKey =
      (groupedCandidate "core" "org.b").component.occurrenceKey := by decide +kernel
  have hcollapsed : graph.collapsedInto (groupedCandidate "core" "org.a").component =
      graph.collapsedInto (groupedCandidate "core" "org.b").component := by
    unfold NormalizedComponentGraph.collapsedInto
    rw [hkey]
  have hone := hnever _ List.mem_cons_self _ (List.mem_cons_of_mem _ List.mem_cons_self) _ _
    hfirst hsecond hcollapsed
  rcases hone with ⟨hpurl, -⟩ | ⟨-, -, hgroup, -⟩
  · exact absurd hpurl (by decide +kernel)
  · exact absurd hgroup (by decide +kernel)

/-- A document that lists one group for each name. -/
def oneGroup : JsonValue :=
  documentOf [groupedComponent "core" "org.a", groupedComponent "cli" "org.a"]

theorem oneGroup_conflates_iff : ∃ graph, normalizeByDefault oneGroup = .ok graph ∧
    (NeverConflates npmPackageUrls defaultSbomParserLimits oneGroup graph ↔
      Unambiguous oneGroup) := by
  have haccepted : (normalizeByDefault oneGroup).toOption.isSome = true := by decide +kernel
  obtain ⟨graph, hgraph⟩ := Option.isSome_iff_exists.mp haccepted
  exact ⟨graph, ok_of_toOption hgraph,
    neverConflates_iff npmPackageUrls_written (ok_of_toOption hgraph)⟩

end PatchPilot.Sbom
