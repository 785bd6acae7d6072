import Mathlib.Data.List.Nodup
import PatchPilot.Sbom.Component

set_option autoImplicit false

/-!
# Sbom: what the validators accept

`validateNormalizedComponent` and `validateNormalizedComponentGraph` return what they are
given, and they accept exactly the valid components and graphs.
-/

namespace PatchPilot.Sbom

open PatchPilot.Foundation

/-! ## Components -/

/-- What a component must be. -/
structure NormalizedComponent.Valid (component : NormalizedComponent) : Prop where
  name : component.name.length ≠ 0
  version : parseComponentVersion component.version = some component.version
  identityKey : buildComponentIdentityKey component.identityInput = some component.identityKey

theorem knownComponentVersion_eq {value : JsString} {version : ComponentVersion}
    (h : knownComponentVersion value = some version) : version = .known value := by
  unfold knownComponentVersion at h
  split at h
  · cases h
  · split at h
    · cases h
    · split at h
      · cases h
      · cases h
        rfl

theorem parseComponentVersion_eq {version version' : ComponentVersion}
    (h : parseComponentVersion version = some version') : version' = version := by
  cases version with
  | unknown =>
      cases h
      rfl
  | known value => exact knownComponentVersion_eq h

theorem validateNormalizedComponent_eq_some {component component' : NormalizedComponent} :
    validateNormalizedComponent component = some component' ↔
      component.Valid ∧ component' = component := by
  unfold validateNormalizedComponent
  constructor
  · intro h
    obtain ⟨_, hname, h⟩ := Option.bind_eq_some_iff.mp h
    obtain ⟨version, hversion, h⟩ := Option.bind_eq_some_iff.mp h
    obtain ⟨identityKey, hkey, h⟩ := Option.bind_eq_some_iff.mp h
    obtain ⟨_, hsame, h⟩ := Option.bind_eq_some_iff.mp h
    cases parseComponentVersion_eq hversion
    have hsame := check_eq_some.mp hsame
    cases h
    subst hsame
    exact ⟨⟨check_eq_some.mp hname, hversion, hkey⟩, rfl⟩
  · rintro ⟨hvalid, rfl⟩
    refine Option.bind_eq_some_iff.mpr ⟨(), check_eq_some.mpr hvalid.name, ?_⟩
    refine Option.bind_eq_some_iff.mpr ⟨_, hvalid.version, ?_⟩
    refine Option.bind_eq_some_iff.mpr ⟨_, hvalid.identityKey, ?_⟩
    exact Option.bind_eq_some_iff.mpr ⟨(), check_eq_some.mpr rfl, rfl⟩

/-! ## Graphs -/

/-- The references of components. -/
def bomRefsOf (components : List NormalizedComponent) : List JsString :=
  components.filterMap (·.bomRef)

theorem bomRefsOf_cons {component : NormalizedComponent} {rest : List NormalizedComponent} :
    bomRefsOf (component :: rest) = component.bomRef.toList ++ bomRefsOf rest := by
  unfold bomRefsOf
  rw [List.filterMap_cons]
  cases component.bomRef with
  | none => rfl
  | some bomRef => rfl

/-- The components of a graph, given the keys and the references that came before. -/
structure ValidComponents (components : List NormalizedComponent)
    (occurrenceKeys bomRefs : List JsString) : Prop where
  valid : ∀ component ∈ components, component.Valid
  keysNodup : (components.map (·.occurrenceKey)).Nodup
  keysNew : ∀ key ∈ components.map (·.occurrenceKey), key ∉ occurrenceKeys
  bomRefsNodup : (bomRefsOf components).Nodup
  bomRefsNew : ∀ bomRef ∈ bomRefsOf components, bomRef ∉ bomRefs
  bomRefsPresent : ∀ bomRef ∈ bomRefsOf components, bomRef.length ≠ 0

theorem validComponents_cons {component : NormalizedComponent}
    {rest : List NormalizedComponent} {occurrenceKeys bomRefs : List JsString} :
    ValidComponents (component :: rest) occurrenceKeys bomRefs ↔
      component.Valid ∧ component.occurrenceKey ∉ occurrenceKeys ∧
        (∀ bomRef, component.bomRef = some bomRef →
          ¬(bomRef.length = 0 ∨ bomRef ∈ bomRefs)) ∧
          ValidComponents rest (component.occurrenceKey :: occurrenceKeys)
            (component.bomRef.toList ++ bomRefs) := by
  constructor
  · rintro ⟨hvalid, hkeys, hnew, hrefs, hrefsNew, hpresent⟩
    rw [List.map_cons, List.nodup_cons] at hkeys
    rw [bomRefsOf_cons] at hrefs hrefsNew hpresent
    obtain ⟨-, hrest, hdisjoint⟩ := List.nodup_append.mp hrefs
    refine ⟨hvalid component List.mem_cons_self, hnew _ List.mem_cons_self, ?_, ?_⟩
    · intro bomRef hbomRef
      rw [hbomRef] at hpresent hrefsNew
      rintro (hzero | hmem)
      · exact hpresent bomRef List.mem_cons_self hzero
      · exact hrefsNew bomRef List.mem_cons_self hmem
    · refine ⟨fun c hc => hvalid c (List.mem_cons_of_mem _ hc), hkeys.2, ?_, hrest, ?_, ?_⟩
      · intro key hkey hmem
        rcases List.mem_cons.mp hmem with rfl | hmem
        · exact hkeys.1 hkey
        · exact hnew key (List.mem_cons_of_mem _ hkey) hmem
      · intro bomRef hbomRef hmem
        rcases List.mem_append.mp hmem with hmem | hmem
        · exact hdisjoint _ hmem _ hbomRef rfl
        · exact hrefsNew bomRef (List.mem_append_right _ hbomRef) hmem
      · exact fun bomRef hbomRef => hpresent bomRef (List.mem_append_right _ hbomRef)
  · rintro ⟨hvalid, hnew, hbomRef, hrest⟩
    refine ⟨?_, ?_, ?_, ?_, ?_, ?_⟩
    · intro c hc
      rcases List.mem_cons.mp hc with rfl | hc
      · exact hvalid
      · exact hrest.valid c hc
    · rw [List.map_cons, List.nodup_cons]
      exact ⟨fun hmem => hrest.keysNew _ hmem List.mem_cons_self, hrest.keysNodup⟩
    · intro key hkey
      rcases List.mem_cons.mp hkey with rfl | hkey
      · exact hnew
      · exact fun hmem => hrest.keysNew key hkey (List.mem_cons_of_mem _ hmem)
    · rw [bomRefsOf_cons, List.nodup_append]
      refine ⟨?_, hrest.bomRefsNodup, ?_⟩
      · cases component.bomRef with
        | none => exact List.nodup_nil
        | some bomRef => exact List.nodup_singleton bomRef
      · intro bomRef hmem other hother heq
        rw [← heq] at hother
        exact hrest.bomRefsNew bomRef hother (List.mem_append_left _ hmem)
    · intro bomRef hmem
      rw [bomRefsOf_cons] at hmem
      rcases List.mem_append.mp hmem with hmem | hmem
      · exact fun hseen => hbomRef bomRef (Option.mem_toList.mp hmem) (.inr hseen)
      · exact fun hseen => hrest.bomRefsNew bomRef hmem (List.mem_append_right _ hseen)
    · intro bomRef hmem
      rw [bomRefsOf_cons] at hmem
      rcases List.mem_append.mp hmem with hmem | hmem
      · exact fun hzero => hbomRef bomRef (Option.mem_toList.mp hmem) (.inl hzero)
      · exact hrest.bomRefsPresent bomRef hmem

theorem recordOccurrenceKey_eq_some {occurrenceKey : JsString}
    {occurrenceKeys seen : List JsString} :
    recordOccurrenceKey occurrenceKey occurrenceKeys = some seen ↔
      occurrenceKey ∉ occurrenceKeys ∧ seen = occurrenceKey :: occurrenceKeys := by
  unfold recordOccurrenceKey
  by_cases hseen : occurrenceKey ∈ occurrenceKeys
  · rw [if_pos hseen]
    exact iff_of_false nofun fun h => h.1 hseen
  · rw [if_neg hseen]
    constructor
    · intro h
      cases h
      exact ⟨hseen, rfl⟩
    · rintro ⟨-, rfl⟩
      rfl

theorem recordBomRef_eq_some {bomRef : Option JsString} {bomRefs seen : List JsString} :
    recordBomRef bomRef bomRefs = some seen ↔
      (∀ text, bomRef = some text → ¬(text.length = 0 ∨ text ∈ bomRefs)) ∧
        seen = bomRef.toList ++ bomRefs := by
  unfold recordBomRef
  cases bomRef with
  | none =>
      constructor
      · intro h
        cases h
        exact ⟨nofun, rfl⟩
      · rintro ⟨-, rfl⟩
        rfl
  | some text =>
      change (if text.length = 0 ∨ text ∈ bomRefs then none
        else some (text :: bomRefs)) = some seen ↔ _
      by_cases hseen : text.length = 0 ∨ text ∈ bomRefs
      · rw [if_pos hseen]
        exact iff_of_false nofun fun h => h.1 text rfl hseen
      · rw [if_neg hseen]
        constructor
        · intro h
          cases h
          refine ⟨?_, rfl⟩
          intro other hother
          cases hother
          exact hseen
        · rintro ⟨-, rfl⟩
          rfl

theorem reverse_bomRefsOf_cons {component : NormalizedComponent}
    {rest : List NormalizedComponent} {bomRefs : List JsString} :
    (bomRefsOf (component :: rest)).reverse ++ bomRefs =
      (bomRefsOf rest).reverse ++ (component.bomRef.toList ++ bomRefs) := by
  rw [bomRefsOf_cons, List.reverse_append, List.append_assoc]
  cases component.bomRef with
  | none => rfl
  | some bomRef => rfl

/-- The loop over the components returns them, with their references. -/
theorem validateComponents_eq_some {components : List NormalizedComponent} :
    ∀ {occurrenceKeys bomRefs : List JsString}
      {validated : List NormalizedComponent × List JsString},
      validateComponents components occurrenceKeys bomRefs = some validated ↔
        ValidComponents components occurrenceKeys bomRefs ∧
          validated = (components, (bomRefsOf components).reverse ++ bomRefs) := by
  induction components with
  | nil =>
      intro occurrenceKeys bomRefs validated
      unfold validateComponents
      constructor
      · intro h
        cases h
        refine ⟨⟨?_, List.nodup_nil, ?_, List.nodup_nil, ?_, ?_⟩, rfl⟩
        · exact fun _ hmem => (List.not_mem_nil hmem).elim
        · exact fun _ hmem => (List.not_mem_nil hmem).elim
        · exact fun _ hmem => (List.not_mem_nil hmem).elim
        · exact fun _ hmem => (List.not_mem_nil hmem).elim
      · rintro ⟨-, rfl⟩
        rfl
  | cons component rest ih =>
      intro occurrenceKeys bomRefs validated
      unfold validateComponents
      rw [validComponents_cons, reverse_bomRefsOf_cons]
      constructor
      · intro h
        obtain ⟨found, hfound, h⟩ := Option.bind_eq_some_iff.mp h
        obtain ⟨hvalid, hsame⟩ := validateNormalizedComponent_eq_some.mp hfound
        rw [hsame] at h
        obtain ⟨keys, hkeys, h⟩ := Option.bind_eq_some_iff.mp h
        obtain ⟨hkey, rfl⟩ := recordOccurrenceKey_eq_some.mp hkeys
        obtain ⟨seen, hseen, h⟩ := Option.bind_eq_some_iff.mp h
        obtain ⟨hbomRef, rfl⟩ := recordBomRef_eq_some.mp hseen
        obtain ⟨others, hothers, h⟩ := Option.bind_eq_some_iff.mp h
        cases h
        obtain ⟨hrest, rfl⟩ := ih.mp hothers
        exact ⟨⟨hvalid, hkey, hbomRef, hrest⟩, rfl⟩
      · rintro ⟨⟨hvalid, hkey, hbomRef, hrest⟩, rfl⟩
        refine Option.bind_eq_some_iff.mpr
          ⟨component, validateNormalizedComponent_eq_some.mpr ⟨hvalid, rfl⟩, ?_⟩
        refine Option.bind_eq_some_iff.mpr
          ⟨_, recordOccurrenceKey_eq_some.mpr ⟨hkey, rfl⟩, ?_⟩
        refine Option.bind_eq_some_iff.mpr
          ⟨_, recordBomRef_eq_some.mpr ⟨hbomRef, rfl⟩, ?_⟩
        exact Option.bind_eq_some_iff.mpr ⟨_, ih.mpr ⟨hrest, rfl⟩, rfl⟩

/-- What a graph must be. -/
structure NormalizedComponentGraph.Valid (graph : NormalizedComponentGraph) : Prop where
  componentCount : graph.componentCount = graph.components.length
  dependencyEdgeCount : graph.dependencyEdgeCount = graph.edges.length
  warningCount : graph.warningCount = (graph.warnings.map (·.count)).sum
  completeness : graphCompletenessMatchesCounts graph.graphCompleteness graph.componentCount
    graph.dependencyEdgeCount = true
  components : ValidComponents graph.components [] []
  edges : ∀ edge ∈ graph.edges, edge.fromBomRef.length ≠ 0 ∧ edge.toBomRef.length ≠ 0 ∧
    edge.fromBomRef ≠ edge.toBomRef ∧ edge.fromBomRef ∈ bomRefsOf graph.components ∧
      edge.toBomRef ∈ bomRefsOf graph.components
  warnings : ∀ warning ∈ graph.warnings, warning.count ≠ 0

/-- `validateNormalizedComponentGraph` returns exactly the valid graphs. -/
theorem validateNormalizedComponentGraph_eq_some {graph graph' : NormalizedComponentGraph} :
    validateNormalizedComponentGraph graph = some graph' ↔ graph.Valid ∧ graph' = graph := by
  unfold validateNormalizedComponentGraph
  constructor
  · intro h
    obtain ⟨_, hcounts, h⟩ := Option.bind_eq_some_iff.mp h
    obtain ⟨_, hwarningCount, h⟩ := Option.bind_eq_some_iff.mp h
    obtain ⟨_, hcompleteness, h⟩ := Option.bind_eq_some_iff.mp h
    obtain ⟨validated, hvalidated, h⟩ := Option.bind_eq_some_iff.mp h
    obtain ⟨_, hedges, h⟩ := Option.bind_eq_some_iff.mp h
    obtain ⟨_, hwarnings, h⟩ := Option.bind_eq_some_iff.mp h
    obtain ⟨hcomponents, rfl⟩ := validateComponents_eq_some.mp hvalidated
    have hcounts := check_eq_some.mp hcounts
    have hedges := check_eq_some.mp hedges
    cases h
    refine ⟨⟨hcounts.1, hcounts.2, check_eq_some.mp hwarningCount,
      check_eq_some.mp hcompleteness, hcomponents, ?_, ?_⟩, rfl⟩
    · intro edge hedge
      have hvalid := of_decide_eq_true (List.all_eq_true.mp hedges edge hedge)
      rw [List.append_nil, List.mem_reverse, List.mem_reverse] at hvalid
      exact hvalid
    · intro warning hwarning
      exact of_decide_eq_true (List.all_eq_true.mp (check_eq_some.mp hwarnings) warning hwarning)
  · rintro ⟨hvalid, rfl⟩
    refine Option.bind_eq_some_iff.mpr ⟨(), check_eq_some.mpr
      ⟨hvalid.componentCount, hvalid.dependencyEdgeCount⟩, ?_⟩
    refine Option.bind_eq_some_iff.mpr ⟨(), check_eq_some.mpr hvalid.warningCount, ?_⟩
    refine Option.bind_eq_some_iff.mpr ⟨(), check_eq_some.mpr hvalid.completeness, ?_⟩
    refine Option.bind_eq_some_iff.mpr
      ⟨_, validateComponents_eq_some.mpr ⟨hvalid.components, rfl⟩, ?_⟩
    refine Option.bind_eq_some_iff.mpr ⟨(), check_eq_some.mpr ?_, ?_⟩
    · refine List.all_eq_true.mpr fun edge hedge => decide_eq_true ?_
      rw [List.append_nil, List.mem_reverse, List.mem_reverse]
      exact hvalid.edges edge hedge
    · refine Option.bind_eq_some_iff.mpr ⟨(), check_eq_some.mpr ?_, rfl⟩
      exact List.all_eq_true.mpr fun warning hwarning =>
        decide_eq_true (hvalid.warnings warning hwarning)

end PatchPilot.Sbom
