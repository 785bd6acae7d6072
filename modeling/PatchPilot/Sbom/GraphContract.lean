import PatchPilot.Sbom.Closing

set_option autoImplicit false

/-!
# Sbom: what a graph owes its document

The edges of a graph are the listed pairs under the references that were kept, its counts
are those of what was left out, and the closing calls accept it.  Two texts decide this.
Edges are told apart by their ends around `U+0000`, which an end may contain, and a
component without a PURL is checked against a key in which its reference and its name are
around `U+001F`.
-/

namespace PatchPilot.Sbom

open PatchPilot.Foundation

/-! ## The count of `collapseOccurrences` -/

/-- One candidate, with `duplicateCount`. -/
def absorbCounting (state : List CollapsedOccurrence × Nat) (candidate : PreparedComponent) :
    Except ParserWorkerFailure (List CollapsedOccurrence × Nat) :=
  match state.1.find? fun entry =>
      entry.component.occurrenceKey = candidate.component.occurrenceKey with
  | none => .ok (state.1 ++ [openOccurrence candidate], state.2)
  | some existing => do
      let merged ← mergeOccurrence existing candidate
      .ok (occurrences.replace state.1 merged, state.2 + 1)

/-- The loop of `collapseOccurrences`, with `duplicateCount`. -/
def countOccurrences (prepared : List PreparedComponent) :
    Except ParserWorkerFailure (List CollapsedOccurrence × Nat) :=
  prepared.foldlM absorbCounting ([], 0)

theorem absorbCounting_eq_ok {kept kept' : List CollapsedOccurrence} {count count' : Nat}
    {candidate : PreparedComponent} :
    absorbCounting (kept, count) candidate = .ok (kept', count') ↔
      occurrences.absorb kept candidate = .ok kept' ∧
        kept.length + 1 + count = kept'.length + count' := by
  unfold absorbCounting Grouping.absorb
  change (match kept.find? fun entry => occurrences.key entry = occurrences.keyOf candidate with
    | none => _
    | some existing => _) = _ ↔ _
  cases kept.find? fun entry => occurrences.key entry = occurrences.keyOf candidate with
  | none =>
      constructor
      · intro h
        cases h
        refine ⟨rfl, ?_⟩
        rw [List.length_append, List.length_singleton]
      · rintro ⟨h, hcount⟩
        cases h
        rw [List.length_append, List.length_singleton] at hcount
        have hsame : count = count' := by omega
        rw [hsame]
        rfl
  | some existing =>
      have hlength : ∀ merged, (occurrences.replace kept merged).length = kept.length :=
        fun merged => List.length_map _
      constructor
      · intro h
        obtain ⟨merged, hmerged, h⟩ := bind_eq_ok.mp h
        cases h
        refine ⟨bind_eq_ok.mpr ⟨merged, hmerged, rfl⟩, ?_⟩
        rw [hlength]
        omega
      · rintro ⟨h, hcount⟩
        obtain ⟨merged, hmerged, h⟩ := bind_eq_ok.mp h
        cases h
        rw [hlength] at hcount
        have hsame : count' = count + 1 := by omega
        rw [hsame]
        exact bind_eq_ok.mpr ⟨merged, hmerged, rfl⟩

theorem foldlM_absorbCounting {prepared : List PreparedComponent} :
    ∀ {kept kept' : List CollapsedOccurrence} {count count' : Nat},
      prepared.foldlM absorbCounting (kept, count) = .ok (kept', count') ↔
        prepared.foldlM occurrences.absorb kept = .ok kept' ∧
          kept.length + prepared.length + count = kept'.length + count' := by
  induction prepared with
  | nil =>
      intro kept kept' count count'
      constructor
      · intro h
        cases h
        exact ⟨rfl, rfl⟩
      · rintro ⟨h, hcount⟩
        cases h
        have hsame : count = count' := by
          rw [List.length_nil] at hcount
          omega
        rw [hsame]
        rfl
  | cons candidate rest ih =>
      intro kept kept' count count'
      rw [List.foldlM_cons, List.foldlM_cons, bind_eq_ok, bind_eq_ok, List.length_cons]
      constructor
      · rintro ⟨⟨next, count''⟩, hnext, h⟩
        obtain ⟨habsorb, hstep⟩ := absorbCounting_eq_ok.mp hnext
        obtain ⟨hrest, hcount⟩ := ih.mp h
        exact ⟨⟨next, habsorb, hrest⟩, by omega⟩
      · rintro ⟨⟨next, habsorb, hrest⟩, hcount⟩
        have hshort : next.length ≤ kept.length + 1 := by
          rcases occurrences.absorb_cases habsorb with ⟨-, rfl⟩ | ⟨_, merged, -, -, rfl⟩
          · rw [List.length_append, List.length_singleton]
          · unfold Grouping.replace
            rw [List.length_map]
            omega
        refine ⟨(next, kept.length + 1 + count - next.length),
          absorbCounting_eq_ok.mpr ⟨habsorb, by omega⟩, ih.mpr ⟨hrest, by omega⟩⟩

/-- Every listed component opens an entry or is counted. -/
theorem countOccurrences_eq_ok {prepared : List PreparedComponent}
    {kept : List CollapsedOccurrence} {count : Nat} :
    countOccurrences prepared = .ok (kept, count) ↔
      occurrences.run prepared = .ok kept ∧ prepared.length = kept.length + count := by
  unfold countOccurrences Grouping.run
  rw [foldlM_absorbCounting, List.length_nil, Nat.zero_add, Nat.add_zero]

theorem length_le_of_run {prepared : List PreparedComponent} {kept : List CollapsedOccurrence}
    (h : occurrences.run prepared = .ok kept) : kept.length ≤ prepared.length := by
  obtain ⟨hnodup, hkeys⟩ := occurrences.run_keys h
  have hsubset : kept.map occurrences.key ⊆ prepared.map occurrences.keyOf :=
    fun key hmem => (hkeys key).mp hmem
  have hlength := (List.subperm_of_subset hnodup hsubset).length_le
  rwa [List.length_map, List.length_map] at hlength

/-- `duplicateCount` is what the loop counts. -/
theorem collapseOccurrences_counts {prepared : List PreparedComponent} {collapsed : Collapsed}
    (h : collapseOccurrences prepared = .ok collapsed) :
    ∃ kept, countOccurrences prepared = .ok (kept, collapsed.duplicateCount) ∧
      collapsed.components = kept.map CollapsedOccurrence.normalized := by
  obtain ⟨kept, hkept, h⟩ := bind_eq_ok.mp h
  cases h
  refine ⟨kept, countOccurrences_eq_ok.mpr ⟨hkept, ?_⟩, rfl⟩
  exact (Nat.add_sub_of_le (length_le_of_run hkept)).symm

/-! ## The contract -/

/-- The map `bomRefAlias` of a document, as `resolveAlias` reads it. -/
def bomRefAlias (library : PackageUrlJs) (limits : SbomParserLimits) (document : JsonRecord) :
    JsString → JsString :=
  match collapseOccurrences (listedCandidates library limits document) with
  | .ok collapsed => resolveAlias collapsed.bomRefAlias
  | .error _ => id

/-- How often a graph warns of a code. -/
def NormalizedComponentGraph.warned (graph : NormalizedComponentGraph)
    (code : ParseWarningCode) : Nat :=
  ((graph.warnings.filter (·.code = code)).map (·.count)).sum

/-- What is read of a graph agrees with what its document lists. -/
structure Faithful (library : PackageUrlJs) (limits : SbomParserLimits)
    (document : JsonRecord) (graph : NormalizedComponentGraph) : Prop where
  edgesNodup : graph.edges.Nodup
  /-- The edges are the listed pairs, without self pairs. -/
  edges : ∀ edge, edge ∈ graph.edges ↔ ∃ listed ∈ listedDependencies document,
    edge = resolveEdge (bomRefAlias library limits document) listed ∧
      edge.fromBomRef ≠ edge.toBomRef
  ends : ∀ edge ∈ graph.edges,
    (∃ component ∈ graph.components, component.bomRef = some edge.fromBomRef) ∧
      ∃ component ∈ graph.components, component.bomRef = some edge.toBomRef
  selfPairs : graph.warned .selfDependencySkipped =
    (listedDependencies document).countP fun listed =>
      bomRefAlias library limits document listed.fromBomRef =
        bomRefAlias library limits document listed.toBomRef
  collapsed : (collectComponents document).length =
    graph.components.length + graph.warned .duplicateIdentityCollapsed
  /-- The root is direct, and so are the ends of its edges. -/
  direct : listedDependencies document ≠ [] → ∀ component ∈ graph.components,
    component.isDirect = some true ↔ ∃ bomRef, component.bomRef = some bomRef ∧
      ∃ root, (metadataComponentBomRef document).map (bomRefAlias library limits document) =
          some root ∧
        (bomRef = root ∨ ⟨root, bomRef⟩ ∈ graph.edges)

/-- The closing calls do not fail, and an accepted document gets what it lists. -/
structure MeetsContract (library : PackageUrlJs) (limits : SbomParserLimits)
    (document : JsonRecord) (parserVersion normalizationVersion : JsString)
    (specificationVersion : SbomSpecificationVersion) : Prop where
  completeness : ∀ opened, openDocument library (.object document) limits parserVersion
    normalizationVersion specificationVersion = .ok opened → opened.completeness.isSome
  validated : ∀ opened graphCompleteness, openDocument library (.object document) limits
      parserVersion normalizationVersion specificationVersion = .ok opened →
    opened.completeness = some graphCompleteness →
      (validateNormalizedComponentGraph (opened.success graphCompleteness)).isSome
  faithful : ∀ graph, normalizeCycloneDxDocument library (.object document) limits
      parserVersion normalizationVersion specificationVersion = .ok graph →
    Faithful library limits document graph

/-- No two dependencies are one text around `U+0000`. -/
def KeysSeparate (dependencies : List NormalizedDependencyEdge) : Prop :=
  ∀ edge ∈ dependencies, ∀ edge' ∈ dependencies, ∀ text,
    edge'.fromBomRef = edge.fromBomRef ++ 0 :: text → edge.toBomRef ≠ text ++ 0 :: edge'.toBomRef

/-- Dependencies have distinct keys exactly when `U+0000` splits no text in two ways. -/
theorem keysSeparate_iff {dependencies : List NormalizedDependencyEdge} :
    KeysSeparate dependencies ↔ ∀ edge ∈ dependencies, ∀ edge' ∈ dependencies,
      edge.key = edge'.key → edge = edge' := by
  constructor
  · intro hseparate edge hedge edge' hedge' hkey
    rcases append_separator_eq_iff.mp hkey with
      ⟨hfrom, hto⟩ | ⟨text, hfrom, hto⟩ | ⟨text, hfrom, hto⟩
    · cases edge
      cases edge'
      cases hfrom
      cases hto
      rfl
    · exact absurd hto (hseparate edge hedge edge' hedge' text hfrom)
    · exact absurd hto (hseparate edge' hedge' edge hedge text hfrom)
  · intro hinj edge hedge edge' hedge' text hfrom hto
    have hsame := hinj edge hedge edge' hedge'
      (append_separator_eq_iff.mpr (.inr (.inl ⟨text, hfrom, hto⟩)))
    rw [hsame] at hfrom
    have hlength := congrArg List.length hfrom
    rw [List.length_append, List.length_cons] at hlength
    omega

/-! ## Accepted documents -/

theorem warned_eq {skipped duplicates : Nat} {graph : NormalizedComponentGraph}
    (h : graph.warnings = warningSummaries skipped duplicates) :
    graph.warned .selfDependencySkipped = skipped ∧
      graph.warned .duplicateIdentityCollapsed = duplicates := by
  unfold NormalizedComponentGraph.warned
  rw [h]
  unfold warningSummaries
  cases skipped with
  | zero =>
      cases duplicates with
      | zero => exact ⟨rfl, rfl⟩
      | succ duplicates => exact ⟨rfl, rfl⟩
  | succ skipped =>
      cases duplicates with
      | zero => exact ⟨rfl, rfl⟩
      | succ duplicates => exact ⟨rfl, rfl⟩

/-- With dependencies, the components of direct references are direct. -/
theorem applyDirectness_isDirect {direct : List JsString} {component : NormalizedComponent}
    (h : component.isDirect = none) :
    (applyDirectness direct true component).isDirect = some true ↔
      ∃ bomRef, component.bomRef = some bomRef ∧ bomRef ∈ direct := by
  unfold applyDirectness
  split
  · rename_i bomRef hbomRef
    rw [if_pos rfl, hbomRef]
    change some (decide (bomRef ∈ direct)) = some true ↔ _
    rw [Option.some.injEq, decide_eq_true_iff]
    constructor
    · exact fun hmem => ⟨bomRef, rfl, hmem⟩
    · rintro ⟨other, hother, hmem⟩
      cases hother
      exact hmem
  · rename_i hnone
    rw [h, hnone]
    refine iff_of_false (Option.some_ne_none true).symm ?_
    rintro ⟨_, hsome, -⟩
    cases hsome

section

variable {library : PackageUrlJs} {limits : SbomParserLimits} {document : JsonRecord}
  {parserVersion normalizationVersion : JsString}
  {specificationVersion : SbomSpecificationVersion} {prepared : List PreparedComponent}
  {kept : List CollapsedOccurrence} {listed : List NormalizedDependencyEdge}
  {graph : NormalizedComponentGraph}

/-- The map of aliases sends a reference to the one that is kept. -/
theorem bomRefAlias_eq (hcandidates : listedCandidates library limits document = prepared)
    (hcollapse : occurrences.run prepared = .ok kept)
    (hnodup : (prepared.filterMap (·.component.bomRef)).Nodup) :
    bomRefAlias library limits document = canonicalBomRef prepared := by
  have hcollapsed : collapseOccurrences prepared = .ok {
      components := kept.map CollapsedOccurrence.normalized
      bomRefAlias := kept.flatMap CollapsedOccurrence.aliases
      duplicateCount := prepared.length - kept.length } :=
    bind_eq_ok.mpr ⟨kept, hcollapse, rfl⟩
  unfold bomRefAlias
  rw [hcandidates, hcollapsed]
  exact funext (resolveAlias_eq hcollapse hnodup)

theorem mem_canonicalDependencies {edge : NormalizedDependencyEdge} :
    edge ∈ canonicalDependencies library limits document ↔
      ∃ listed ∈ listedDependencies document,
        edge = resolveEdge (canonicalBomRef (listedCandidates library limits document)) listed ∧
          edge.fromBomRef ≠ edge.toBomRef := by
  unfold canonicalDependencies resolvedEdges
  rw [List.mem_filter, List.mem_map, decide_eq_true_iff]
  constructor
  · rintro ⟨⟨listed, hlisted, rfl⟩, hdistinct⟩
    exact ⟨listed, hlisted, rfl, hdistinct⟩
  · rintro ⟨listed, hlisted, rfl, hdistinct⟩
    exact ⟨⟨listed, hlisted, rfl⟩, hdistinct⟩

/-- The graph has every dependency exactly when their keys are distinct. -/
theorem AssembledFrom.edges_iff
    (h : AssembledFrom library limits document parserVersion normalizationVersion
      specificationVersion prepared kept listed graph) :
    (∀ edge, edge ∈ graph.edges ↔ edge ∈ canonicalDependencies library limits document) ↔
      KeysSeparate (canonicalDependencies library limits document) := by
  rw [keysSeparate_iff, h.edges_eq]
  constructor
  · intro hall edge hedge edge' hedge' hkey
    have hfound := (mem_keepFirst _).mp ((hall edge).mpr hedge)
    have hfound' := (mem_keepFirst _).mp ((hall edge').mpr hedge')
    rw [hkey] at hfound
    exact Option.some.inj (hfound.symm.trans hfound')
  · intro hinj edge
    constructor
    · intro hedge
      exact List.mem_of_find?_eq_some ((mem_keepFirst _).mp hedge)
    · intro hedge
      have hsome : ((canonicalDependencies library limits document).find?
          fun other => other.key = edge.key).isSome :=
        List.find?_isSome.mpr ⟨edge, hedge, decide_eq_true rfl⟩
      obtain ⟨other, hother⟩ := Option.isSome_iff_exists.mp hsome
      have hkey := List.find?_some hother
      have hsame := hinj other (List.mem_of_find?_eq_some hother) edge hedge
        (of_decide_eq_true hkey)
      rw [hsame] at hother
      exact (mem_keepFirst _).mpr hother

/-- Everything but the edges of distinct texts agrees with the document at once. -/
theorem AssembledFrom.faithful_iff_separate
    (h : AssembledFrom library limits document parserVersion normalizationVersion
      specificationVersion prepared kept listed graph) :
    Faithful library limits document graph ↔
      KeysSeparate (canonicalDependencies library limits document) := by
  have hprepared := h.listedCandidates_eq
  have halias := bomRefAlias_eq hprepared h.assembles.collapse h.nodup
  have hlisted := listEdges_eq_ok h.assembles.dependencies
  have hwarned := @warned_eq _ _ graph (by rw [h.assembles.assembled]; rfl)
  rw [← h.edges_iff]
  have hdependencies : ∀ edge, edge ∈ canonicalDependencies library limits document ↔
      ∃ listed ∈ listedDependencies document,
        edge = resolveEdge (bomRefAlias library limits document) listed ∧
          edge.fromBomRef ≠ edge.toBomRef := by
    intro edge
    rw [mem_canonicalDependencies, halias, hprepared]
  constructor
  · intro hfaithful edge
    rw [hfaithful.edges, hdependencies]
  · intro hedges
    refine ⟨?_, ?_, ?_, ?_, ?_, ?_⟩
    · rw [h.edges_eq]
      exact (keepFirst_keys_nodup _).of_map
    · intro edge
      rw [hedges, hdependencies]
    · intro edge hedge
      have hends := (h.assembles.valid.edges edge hedge).2.2.2
      exact ⟨List.mem_filterMap.mp hends.1, List.mem_filterMap.mp hends.2⟩
    · rw [hwarned.1, halias, ← hlisted]
      rfl
    · have hlength : graph.components.length = kept.length := by
        rw [h.assembles.assembled]
        exact placedComponents_length _ _ _
      rw [hwarned.2, hlength, ← Nat.add_sub_assoc (length_le_of_run h.assembles.collapse),
        Nat.add_sub_cancel_left]
      exact h.candidates.length_eq
    · intro hlistedAny component hmem
      obtain ⟨entry, hentry, rfl⟩ := h.mem_components.mp hmem
      have hany : decide (listed.length > 0) = true := by
        rw [hlisted]
        exact decide_eq_true (List.length_pos_iff.mpr hlistedAny)
      have hkeeps : ∀ {direct : List JsString} {hasDependencyGraph : Bool},
          (applyDirectness direct hasDependencyGraph entry.normalized).bomRef =
            entry.normalized.bomRef :=
        fun {_ _} => congrArg (·.bomRef) applyDirectness_unplaced
      rw [hany, halias, applyDirectness_isDirect (h.isDirect_none hentry), hkeeps]
      refine exists_congr fun bomRef => and_congr_right fun _ => ?_
      rw [mem_directBomRefs]
      constructor
      · rintro (hroot | ⟨edge, hedge, hroot, rfl⟩)
        · exact ⟨bomRef, hroot, .inl rfl⟩
        · exact ⟨edge.fromBomRef, hroot, .inr hedge⟩
      · rintro ⟨root, hroot, rfl | hedge⟩
        · exact .inl hroot
        · exact .inr ⟨_, hedge, hroot, rfl⟩

end

/-- A document that is assembled meets its contract exactly when the keys of its components
are spelled again by what is kept, and the keys of its dependencies are distinct. -/
theorem meetsContract_iff {library : PackageUrlJs} (hwritten : library.Written)
    {limits : SbomParserLimits} {document : JsonRecord}
    {parserVersion normalizationVersion : JsString}
    {specificationVersion : SbomSpecificationVersion} {opened : OpenGraph}
    (h : openDocument library (.object document) limits parserVersion normalizationVersion
      specificationVersion = .ok opened) :
    MeetsContract library limits document parserVersion normalizationVersion
        specificationVersion ↔
      KeysRebuilt (listedCandidates library limits document) ∧
        KeysSeparate (canonicalDependencies library limits document) := by
  obtain ⟨input, prepared, kept, listed, hopened⟩ := openDocument_spec h
  have hprepared : listedCandidates library limits document = prepared :=
    (filterMap_of_forall₂ (hopened.candidates.imp fun _ _ hok => by rw [hok]; rfl)).trans
      (List.map_id prepared)
  obtain ⟨graphCompleteness, hcompleteness⟩ :=
    Option.isSome_iff_exists.mp hopened.completeness_isSome
  rw [hprepared]
  constructor
  · intro hmeets
    obtain ⟨validated, hvalidated⟩ := Option.isSome_iff_exists.mp
      (hmeets.validated opened graphCompleteness h hcompleteness)
    have hvalid := (validateNormalizedComponentGraph_eq_some.mp hvalidated).1
    refine ⟨(hopened.success_valid_iff hwritten hcompleteness).mp hvalid, ?_⟩
    have haccepted : normalizeCycloneDxDocument library (.object document) limits parserVersion
        normalizationVersion specificationVersion = .ok (opened.success graphCompleteness) := by
      rw [normalizeCycloneDxDocument_eq]
      exact bind_eq_ok.mpr ⟨opened, h,
        close_eq_ok.mpr ⟨graphCompleteness, hcompleteness, hvalid, rfl⟩⟩
    obtain ⟨_, _, _, hassembled⟩ := accepted_iff.mp haccepted
    exact hassembled.faithful_iff_separate.mp (hmeets.faithful _ haccepted)
  · rintro ⟨hrebuilt, hseparate⟩
    refine ⟨?_, ?_, ?_⟩
    · intro other hother
      cases h.symm.trans hother
      exact hopened.completeness_isSome
    · intro other completeness hother hcompleteness
      cases h.symm.trans hother
      rw [validateNormalizedComponentGraph_eq_some.mpr
        ⟨(hopened.success_valid_iff hwritten hcompleteness).mpr hrebuilt, rfl⟩]
      rfl
    · intro graph hgraph
      obtain ⟨_, _, _, hassembled⟩ := accepted_iff.mp hgraph
      exact hassembled.faithful_iff_separate.mpr hseparate

/-! ## Documents -/

/-- A component with a reference and a name. -/
def referencedComponent (bomRef name : JsString) : JsonValue :=
  .object [(js "bom-ref", .string bomRef), (js "name", .string name)]

/-- An entry of `dependencies` with one target. -/
def dependencyEntry (ref target : JsString) : JsonValue :=
  .object [(js "ref", .string ref), (js "dependsOn", .array [.string target])]

/-- A text around `U+0000`. -/
def joined (left right : JsString) : JsString := left ++ 0 :: right

/-- Two dependencies that are one text around `U+0000`. -/
def joinedDocument : JsonRecord :=
  [(js "components", .array [referencedComponent (js "a") (js "first"),
      referencedComponent (joined (js "a") (js "b")) (js "second"),
      referencedComponent (js "c") (js "third"),
      referencedComponent (joined (js "b") (js "c")) (js "fourth")]),
    (js "dependencies", .array [dependencyEntry (joined (js "a") (js "b")) (js "c"),
      dependencyEntry (js "a") (joined (js "b") (js "c"))])]

/-- Two components whose references and names are one text around `U+001F`.  The earlier
reference is that of the first, and the earlier name is that of the second. -/
def respelledDocument : JsonRecord :=
  [(js "components", .array [
      referencedComponent (js "b") (js "t" ++ keySeparator :: js "n"),
      referencedComponent (js "b" ++ keySeparator :: js "t") (js "n")])]

/-- The second dependency is lost, and the second document is rejected at the end. -/
theorem contract_broken :
    ¬MeetsContract npmPackageUrls defaultSbomParserLimits joinedDocument (js "1")
        currentSbomNormalizationVersion .v1_5 ∧
      ¬MeetsContract npmPackageUrls defaultSbomParserLimits respelledDocument (js "1")
        currentSbomNormalizationVersion .v1_5 := by
  constructor
  · intro hmeets
    have hedges : (normalizeByDefault (.object joinedDocument)).toOption.map (·.edges) =
        some [⟨joined (js "a") (js "b"), js "c"⟩] := by decide +kernel
    obtain ⟨graph, hgraph, hedges⟩ := Option.map_eq_some_iff.mp hedges
    have hfaithful := hmeets.faithful graph (ok_of_toOption hgraph)
    have hlisted : (⟨js "a", joined (js "b") (js "c")⟩ : NormalizedDependencyEdge) ∈
        listedDependencies joinedDocument := by decide +kernel
    have hlost := (hfaithful.edges ⟨js "a", joined (js "b") (js "c")⟩).mpr
      ⟨_, hlisted, by decide +kernel, by decide +kernel⟩
    rw [hedges] at hlost
    exact absurd hlost (by decide +kernel)
  · intro hmeets
    have hopened : (openDocument npmPackageUrls (.object respelledDocument)
        defaultSbomParserLimits (js "1") currentSbomNormalizationVersion
        .v1_5).toOption.map (fun opened => (opened.completeness,
          (validateNormalizedComponentGraph (opened.success .noDependencies)).isSome)) =
        some (some .noDependencies, false) := by decide +kernel
    obtain ⟨opened, hopened, hclosing⟩ := Option.map_eq_some_iff.mp hopened
    obtain ⟨hcompleteness, hinvalid⟩ := Prod.mk.inj hclosing
    have hvalid := hmeets.validated opened .noDependencies (ok_of_toOption hopened) hcompleteness
    rw [hinvalid] at hvalid
    cases hvalid

/-- Two components, one of which depends on the other. -/
def plainDocument : JsonRecord :=
  [(js "components", .array [referencedComponent (js "app") (js "shop"),
      referencedComponent (js "lib") (js "cart")]),
    (js "dependencies", .array [dependencyEntry (js "app") (js "lib")])]

theorem plainDocument_contract :
    ∃ opened, openDocument npmPackageUrls (.object plainDocument) defaultSbomParserLimits
        (js "1") currentSbomNormalizationVersion .v1_5 = .ok opened ∧
      (MeetsContract npmPackageUrls defaultSbomParserLimits plainDocument (js "1")
          currentSbomNormalizationVersion .v1_5 ↔
        KeysRebuilt (listedCandidates npmPackageUrls defaultSbomParserLimits plainDocument) ∧
          KeysSeparate
            (canonicalDependencies npmPackageUrls defaultSbomParserLimits plainDocument)) := by
  have hopens : (openDocument npmPackageUrls (.object plainDocument) defaultSbomParserLimits
      (js "1") currentSbomNormalizationVersion .v1_5).toOption.isSome = true := by
    decide +kernel
  obtain ⟨opened, hopened⟩ := Option.isSome_iff_exists.mp hopens
  exact ⟨opened, ok_of_toOption hopened,
    meetsContract_iff npmPackageUrls_written (ok_of_toOption hopened)⟩

end PatchPilot.Sbom
