import Mathlib.Data.List.Perm.Basic
import PatchPilot.Foundation.Comparator
import PatchPilot.Sbom.Collapse

set_option autoImplicit false

/-!
# Sbom: references and dependencies, without the order of a document

A listed reference is rewritten to the earliest reference of its occurrence, and of the
listed dependencies the first of each key is kept.  Both are stated here of the listed
components and dependencies, so that reordering a document can be compared.
-/

namespace PatchPilot.Sbom

open PatchPilot.Foundation

/-! ## Earliest texts -/

theorem earliestText_eq {values : List JsString} :
    earliestText values = leastBy compareCodeUnits values := by
  cases values with
  | nil => rfl
  | cons value rest => rfl

theorem earliestText_eq_of_perm {values values' : List JsString} (h : values.Perm values') :
    earliestText values = earliestText values' := by
  rw [earliestText_eq, earliestText_eq, leastBy_eq_of_perm compareCodeUnits h]

theorem earliestText_mem {values : List JsString} {text : JsString}
    (h : earliestText values = some text) : text ∈ values := by
  rw [earliestText_eq] at h
  exact ((leastBy_eq_some_iff compareCodeUnits).mp h).1

theorem earliestText_isSome {values : List JsString} {text : JsString} (h : text ∈ values) :
    ∃ earliest, earliestText values = some earliest := by
  cases hearliest : earliestText values with
  | some earliest => exact ⟨earliest, rfl⟩
  | none =>
      rw [earliestText_eq, leastBy_eq_none_iff] at hearliest
      rw [hearliest] at h
      exact (List.not_mem_nil h).elim

/-! ## Entries -/

/-- The references of one occurrence. -/
def occurrenceBomRefs (prepared : List PreparedComponent) (key : JsString) : List JsString :=
  (occurrenceGroup prepared key).filterMap (·.component.bomRef)

/-- The names of one occurrence. -/
def occurrenceNames (prepared : List PreparedComponent) (key : JsString) : List JsString :=
  (occurrenceGroup prepared key).map (·.component.name)

theorem mem_occurrenceGroup {prepared : List PreparedComponent} {key : JsString}
    {candidate : PreparedComponent} : candidate ∈ occurrenceGroup prepared key ↔
      candidate ∈ prepared ∧ candidate.component.occurrenceKey = key := by
  unfold occurrenceGroup
  rw [List.mem_filter, decide_eq_true_iff]

theorem occurrenceGroup_perm {prepared prepared' : List PreparedComponent}
    (h : prepared.Perm prepared') (key : JsString) :
    (occurrenceGroup prepared key).Perm (occurrenceGroup prepared' key) :=
  h.filter _

/-- What an entry is made of. -/
structure EntryOf (prepared : List PreparedComponent) (entry : CollapsedOccurrence)
    (first : PreparedComponent) : Prop where
  head : (occurrenceGroup prepared entry.component.occurrenceKey).head? = some first
  component : entry.component = { first.component with
    versionedPurl := firstStated
      ((occurrenceGroup prepared entry.component.occurrenceKey).map
        (·.component.versionedPurl)) }
  names : entry.names = occurrenceNames prepared entry.component.occurrenceKey
  bomRefs : entry.bomRefs = occurrenceBomRefs prepared entry.component.occurrenceKey

section

variable {prepared : List PreparedComponent} {kept : List CollapsedOccurrence}

theorem entryOf_of_mem (h : occurrences.run prepared = .ok kept)
    {entry : CollapsedOccurrence} (hentry : entry ∈ kept) :
    ∃ first, EntryOf prepared entry first := by
  have hfind := occurrences_find? h entry.component.occurrenceKey
  have hsome : (kept.find? fun other =>
      other.component.occurrenceKey = entry.component.occurrenceKey).isSome :=
    List.find?_isSome.mpr ⟨entry, hentry, decide_eq_true rfl⟩
  obtain ⟨found, hfound⟩ := Option.isSome_iff_exists.mp hsome
  have hkey := List.find?_some hfound
  have hsame := occurrences.eq_of_key h (List.mem_of_find?_eq_some hfound) hentry
    (of_decide_eq_true hkey)
  rw [hfound, hsame] at hfind
  cases hgroup : occurrenceGroup prepared entry.component.occurrenceKey with
  | nil =>
      rw [hgroup] at hfind
      cases hfind
  | cons first rest =>
      rw [hgroup] at hfind
      have hentryEq : entry = (openOccurrence first).absorbAll rest := Option.some.inj hfind
      refine ⟨first, ?_, ?_, ?_, ?_⟩
      · rw [hgroup]
        rfl
      · rw [hgroup, hentryEq]
        rfl
      · unfold occurrenceNames
        rw [hgroup, hentryEq]
        rfl
      · unfold occurrenceBomRefs
        rw [hgroup, hentryEq, List.filterMap_cons]
        unfold openOccurrence CollapsedOccurrence.absorbAll
        cases first.component.bomRef with
        | none => rfl
        | some bomRef => rfl

/-- A key that was read has an entry. -/
theorem exists_entry (h : occurrences.run prepared = .ok kept)
    {candidate : PreparedComponent} (hmem : candidate ∈ prepared) :
    ∃ entry ∈ kept, entry.component.occurrenceKey = candidate.component.occurrenceKey := by
  have hkey := ((occurrences.run_keys h).2 candidate.component.occurrenceKey).mpr
    (List.mem_map_of_mem hmem)
  exact List.mem_map.mp hkey

/-! ## References -/

/-- The reference that is kept for a listed one. -/
def canonicalBomRef (prepared : List PreparedComponent) (bomRef : JsString) : JsString :=
  match prepared.find? fun candidate => candidate.component.bomRef = some bomRef with
  | none => bomRef
  | some candidate =>
      (earliestText (occurrenceBomRefs prepared candidate.component.occurrenceKey)).getD bomRef

/-- The reference that is kept for the reference of a component. -/
theorem canonicalBomRef_of_mem (hnodup : (prepared.filterMap (·.component.bomRef)).Nodup)
    {candidate : PreparedComponent} {bomRef : JsString} (hmem : candidate ∈ prepared)
    (hlisted : candidate.component.bomRef = some bomRef) :
    canonicalBomRef prepared bomRef =
      (earliestText (occurrenceBomRefs prepared candidate.component.occurrenceKey)).getD
        bomRef := by
  have hsome : (prepared.find? fun candidate =>
      candidate.component.bomRef = some bomRef).isSome :=
    List.find?_isSome.mpr ⟨candidate, hmem, decide_eq_true hlisted⟩
  obtain ⟨found, hfound⟩ := Option.isSome_iff_exists.mp hsome
  have hfoundRef := List.find?_some hfound
  have hsame := eq_of_filterMap_nodup hnodup (List.mem_of_find?_eq_some hfound) hmem
    (of_decide_eq_true hfoundRef) hlisted
  unfold canonicalBomRef
  rw [hfound, hsame]

/-- A reference that no component has is kept as it is. -/
theorem canonicalBomRef_of_not_mem {bomRef : JsString}
    (h : ∀ candidate ∈ prepared, candidate.component.bomRef ≠ some bomRef) :
    canonicalBomRef prepared bomRef = bomRef := by
  have hnone : (prepared.find? fun candidate =>
      candidate.component.bomRef = some bomRef) = none := by
    refine List.find?_eq_none.mpr ?_
    intro candidate hmem hlisted
    exact h candidate hmem (of_decide_eq_true hlisted)
  unfold canonicalBomRef
  rw [hnone]

/-- The references that are kept do not depend on the order of the components. -/
theorem canonicalBomRef_eq_of_perm {prepared' : List PreparedComponent}
    (hperm : prepared.Perm prepared')
    (hnodup : (prepared.filterMap (·.component.bomRef)).Nodup) :
    canonicalBomRef prepared = canonicalBomRef prepared' := by
  funext bomRef
  have hnodup' := (hperm.filterMap (·.component.bomRef)).nodup_iff.mp hnodup
  by_cases hlisted : ∃ candidate ∈ prepared, candidate.component.bomRef = some bomRef
  · obtain ⟨candidate, hmem, hlisted⟩ := hlisted
    rw [canonicalBomRef_of_mem hnodup hmem hlisted,
      canonicalBomRef_of_mem hnodup' (hperm.mem_iff.mp hmem) hlisted]
    unfold occurrenceBomRefs
    rw [earliestText_eq_of_perm ((occurrenceGroup_perm hperm _).filterMap _)]
  · have hnone : ∀ candidate ∈ prepared, candidate.component.bomRef ≠ some bomRef :=
      fun candidate hmem hsome => hlisted ⟨candidate, hmem, hsome⟩
    rw [canonicalBomRef_of_not_mem hnone, canonicalBomRef_of_not_mem
      fun candidate hmem => hnone candidate (hperm.mem_iff.mpr hmem)]

/-- The references that are kept. -/
def IsKnownBomRef (prepared : List PreparedComponent) (bomRef : JsString) : Prop :=
  ∃ candidate ∈ prepared,
    earliestText (occurrenceBomRefs prepared candidate.component.occurrenceKey) = some bomRef

theorem mem_aliases {entry : CollapsedOccurrence} {bomRef canonical : JsString} :
    (bomRef, canonical) ∈ entry.aliases ↔
      earliestText entry.bomRefs = some canonical ∧ bomRef ∈ entry.bomRefs := by
  unfold CollapsedOccurrence.aliases
  cases earliestText entry.bomRefs with
  | none => exact iff_of_false List.not_mem_nil nofun
  | some earliest =>
      rw [List.mem_map]
      constructor
      · rintro ⟨other, hother, heq⟩
        cases heq
        exact ⟨rfl, hother⟩
      · rintro ⟨heq, hmem⟩
        cases heq
        exact ⟨bomRef, hmem, rfl⟩

/-- `resolveAlias` finds the earliest reference of the occurrence. -/
theorem resolveAlias_eq (h : occurrences.run prepared = .ok kept)
    (hnodup : (prepared.filterMap (·.component.bomRef)).Nodup) (bomRef : JsString) :
    resolveAlias (kept.flatMap CollapsedOccurrence.aliases) bomRef =
      canonicalBomRef prepared bomRef := by
  have hpairs : ∀ {canonical : JsString},
      (bomRef, canonical) ∈ kept.flatMap CollapsedOccurrence.aliases →
        canonicalBomRef prepared bomRef = canonical := by
    intro canonical hmem
    obtain ⟨entry, hentry, halias⟩ := List.mem_flatMap.mp hmem
    obtain ⟨hearliest, hbomRef⟩ := mem_aliases.mp halias
    obtain ⟨first, hof⟩ := entryOf_of_mem h hentry
    rw [hof.bomRefs] at hearliest hbomRef
    obtain ⟨candidate, hcandidate, hlisted⟩ := List.mem_filterMap.mp hbomRef
    obtain ⟨hmem, hkey⟩ := mem_occurrenceGroup.mp hcandidate
    rw [canonicalBomRef_of_mem hnodup hmem hlisted, hkey, hearliest]
    rfl
  unfold resolveAlias
  cases hlookup : (kept.flatMap CollapsedOccurrence.aliases).reverse.find?
      fun entry => entry.1 = bomRef with
  | some pair =>
      obtain ⟨other, canonical⟩ := pair
      have hfound := List.find?_some hlookup
      have hkey : other = bomRef := of_decide_eq_true hfound
      have hmem := List.mem_reverse.mp (List.mem_of_find?_eq_some hlookup)
      rw [hkey] at hmem
      exact (hpairs hmem).symm
  | none =>
      change bomRef = canonicalBomRef prepared bomRef
      cases hfound : prepared.find? fun candidate =>
          candidate.component.bomRef = some bomRef with
      | none =>
          unfold canonicalBomRef
          rw [hfound]
      | some candidate =>
          exfalso
          have hmem := List.mem_of_find?_eq_some hfound
          have hlisted := List.find?_some hfound
          obtain ⟨entry, hentry, hkey⟩ := exists_entry h hmem
          obtain ⟨first, hof⟩ := entryOf_of_mem h hentry
          have hbomRef : bomRef ∈ entry.bomRefs := by
            rw [hof.bomRefs, hkey]
            exact List.mem_filterMap.mpr
              ⟨candidate, mem_occurrenceGroup.mpr ⟨hmem, rfl⟩, of_decide_eq_true hlisted⟩
          obtain ⟨earliest, hearliest⟩ := earliestText_isSome hbomRef
          have hpair := List.mem_flatMap.mpr
            ⟨entry, hentry, mem_aliases.mpr ⟨hearliest, hbomRef⟩⟩
          have hnone := List.find?_eq_none.mp hlookup _ (List.mem_reverse.mpr hpair)
          exact hnone (decide_eq_true rfl)

theorem isKnownBomRef_iff_of_perm {prepared' : List PreparedComponent}
    (hperm : prepared.Perm prepared') {bomRef : JsString} :
    IsKnownBomRef prepared bomRef ↔ IsKnownBomRef prepared' bomRef := by
  refine exists_congr fun candidate => and_congr hperm.mem_iff ?_
  unfold occurrenceBomRefs
  rw [earliestText_eq_of_perm ((occurrenceGroup_perm hperm _).filterMap _)]

/-- `knownBomRefs`. -/
theorem mem_knownBomRefs (h : occurrences.run prepared = .ok kept) {bomRef : JsString} :
    bomRef ∈ (kept.map CollapsedOccurrence.normalized).filterMap (·.bomRef) ↔
      IsKnownBomRef prepared bomRef := by
  rw [List.filterMap_map, List.mem_filterMap]
  constructor
  · rintro ⟨entry, hentry, hbomRef⟩
    obtain ⟨first, hof⟩ := entryOf_of_mem h hentry
    have hbomRef : earliestText entry.bomRefs = some bomRef := hbomRef
    rw [hof.bomRefs] at hbomRef
    obtain ⟨hmem, hkey⟩ := mem_occurrenceGroup.mp (List.mem_of_mem_head? hof.head)
    refine ⟨first, hmem, ?_⟩
    rw [hkey]
    exact hbomRef
  · rintro ⟨candidate, hmem, hearliest⟩
    obtain ⟨entry, hentry, hkey⟩ := exists_entry h hmem
    obtain ⟨first, hof⟩ := entryOf_of_mem h hentry
    refine ⟨entry, hentry, ?_⟩
    change earliestText entry.bomRefs = some bomRef
    rw [hof.bomRefs, hkey, hearliest]

end

/-! ## Dependencies -/

section

variable {resolve : JsString → JsString} {knownBomRefs : List JsString}

theorem reject_congr {failing failing' : Prop} [Decidable failing] [Decidable failing']
    (h : failing ↔ failing') (code : SafeFailureCode) :
    reject failing code = reject failing' code := by
  unfold reject
  by_cases hfailing : failing
  · rw [if_pos hfailing, if_pos (h.mp hfailing)]
  · rw [if_neg hfailing, if_neg fun h' => hfailing (h.mpr h')]

/-- Only the membership of the known references is read. -/
theorem listEdges_congr {knownBomRefs' : List JsString}
    (h : ∀ bomRef, bomRef ∈ knownBomRefs ↔ bomRef ∈ knownBomRefs')
    (dependencies : Option JsonValue) :
    listEdges resolve knownBomRefs dependencies =
      listEdges resolve knownBomRefs' dependencies := by
  have hentry : listEntry resolve knownBomRefs = listEntry resolve knownBomRefs' := by
    funext entry
    unfold listEntry
    have hreject : ∀ source, reject (resolve source ∉ knownBomRefs) .unresolvedDependencyRef =
        reject (resolve source ∉ knownBomRefs') .unresolvedDependencyRef :=
      fun source => reject_congr (not_congr (h _)) _
    simp only [hreject]
  unfold listEdges
  rw [hentry]

/-- Two values that are equal, or arrays of the same items. -/
def ListShuffled (value value' : Option JsonValue) : Prop :=
  value = value' ∨ ∃ items items', value = some (.array items) ∧
    value' = some (.array items') ∧ items.Perm items'

theorem listEdges_shuffled {dependencies dependencies' : Option JsonValue}
    (h : ListShuffled dependencies dependencies') {listed : List NormalizedDependencyEdge}
    (hlisted : listEdges resolve knownBomRefs dependencies = .ok listed) :
    ∃ listed', listEdges resolve knownBomRefs dependencies' = .ok listed' ∧
      listed.Perm listed' := by
  rcases h with rfl | ⟨items, items', rfl, rfl, hperm⟩
  · exact ⟨listed, hlisted, .refl _⟩
  · obtain ⟨entries, hentries, hok⟩ := bind_eq_ok.mp hlisted
    cases hok
    obtain ⟨entries', hentries', hperm'⟩ :=
      List.perm_comp_forall₂ hperm.symm (mapM_eq_ok.mp hentries)
    refine ⟨entries'.flatten, bind_eq_ok.mpr ⟨entries', mapM_eq_ok.mpr hentries', rfl⟩, ?_⟩
    exact hperm'.symm.flatten

/-- The dependencies between distinct references, in the order in which they are listed. -/
def resolvedEdges (resolve : JsString → JsString) (listed : List NormalizedDependencyEdge) :
    List NormalizedDependencyEdge :=
  (listed.map (resolveEdge resolve)).filter fun edge => edge.fromBomRef ≠ edge.toBomRef

/-- How many dependencies are skipped. -/
def skippedEdges (resolve : JsString → JsString) (listed : List NormalizedDependencyEdge) :
    Nat :=
  listed.countP fun edge => resolve edge.fromBomRef = resolve edge.toBomRef

/-- Both ends of a dependency are known. -/
def EndsKnown (resolve : JsString → JsString) (knownBomRefs : List JsString)
    (edge : NormalizedDependencyEdge) : Prop :=
  resolve edge.fromBomRef ∈ knownBomRefs ∧ resolve edge.toBomRef ∈ knownBomRefs

/-- What a dependency with known ends adds. -/
def EdgeState.take (resolve : JsString → JsString) (state : EdgeState)
    (listed : NormalizedDependencyEdge) : EdgeState :=
  let edge := resolveEdge resolve listed
  if edge.fromBomRef = edge.toBomRef then
    { state with skippedListedEdgeCount := state.skippedListedEdgeCount + 1 }
  else { state with edges := keep NormalizedDependencyEdge.key state.edges edge }

theorem takeEdge_eq_ok {state state' : EdgeState} {listed : NormalizedDependencyEdge} :
    takeEdge resolve knownBomRefs state listed = .ok state' ↔
      EndsKnown resolve knownBomRefs listed ∧ state' = state.take resolve listed := by
  have htaken : ∀ edge : NormalizedDependencyEdge,
      (if edge.fromBomRef = edge.toBomRef then
          (.ok { state with skippedListedEdgeCount := state.skippedListedEdgeCount + 1 } :
            Except ParserWorkerFailure EdgeState)
        else if edge.key ∈ state.edges.map NormalizedDependencyEdge.key then .ok state
        else .ok { state with edges := state.edges ++ [edge] }) =
      .ok (if edge.fromBomRef = edge.toBomRef then
          { state with skippedListedEdgeCount := state.skippedListedEdgeCount + 1 }
        else { state with edges := keep NormalizedDependencyEdge.key state.edges edge }) := by
    intro edge
    unfold keep
    split
    · rfl
    · split
      · rfl
      · rfl
  unfold takeEdge
  rw [bind_eq_ok]
  constructor
  · rintro ⟨_, hknown, h⟩
    rw [htaken] at h
    cases h
    have hends := not_or.mp (reject_eq_ok.mp hknown)
    exact ⟨⟨not_not.mp hends.1, not_not.mp hends.2⟩, rfl⟩
  · rintro ⟨hknown, rfl⟩
    refine ⟨(), reject_eq_ok.mpr (not_or.mpr ⟨not_not.mpr hknown.1, not_not.mpr hknown.2⟩), ?_⟩
    exact htaken _

theorem foldl_take {listed : List NormalizedDependencyEdge} : ∀ {state : EdgeState},
    listed.foldl (EdgeState.take resolve) state =
      ⟨(resolvedEdges resolve listed).foldl (keep NormalizedDependencyEdge.key) state.edges,
        state.skippedListedEdgeCount + skippedEdges resolve listed⟩ := by
  induction listed with
  | nil =>
      intro state
      rfl
  | cons edge rest ih =>
      intro state
      unfold resolvedEdges skippedEdges
      rw [List.foldl_cons, ih, List.map_cons, List.filter_cons, List.countP_cons]
      unfold EdgeState.take
      by_cases hself : (resolveEdge resolve edge).fromBomRef = (resolveEdge resolve edge).toBomRef
      · have hcount : resolve edge.fromBomRef = resolve edge.toBomRef := hself
        simp only [hself, hcount, ne_eq, not_true, decide_false, decide_true, if_true,
          Bool.false_eq_true, if_false]
        unfold resolvedEdges skippedEdges
        rw [Nat.add_right_comm, Nat.add_assoc]
      · have hcount : ¬resolve edge.fromBomRef = resolve edge.toBomRef := hself
        simp only [hself, hcount, ne_eq, not_false_eq_true, decide_true, decide_false, if_true,
          Bool.false_eq_true, if_false, List.foldl_cons, Nat.add_zero]
        rfl

/-- The loop over the listed dependencies: every end is known, and of the dependencies
between distinct references the first of each key is kept. -/
theorem foldlM_takeEdge {listed : List NormalizedDependencyEdge} {state : EdgeState} :
    listed.foldlM (takeEdge resolve knownBomRefs) ⟨[], 0⟩ = .ok state ↔
      (∀ edge ∈ listed, EndsKnown resolve knownBomRefs edge) ∧
        state = ⟨keepFirst NormalizedDependencyEdge.key (resolvedEdges resolve listed),
          skippedEdges resolve listed⟩ := by
  have hgeneral : ∀ {listed : List NormalizedDependencyEdge} {before after : EdgeState},
      listed.foldlM (takeEdge resolve knownBomRefs) before = .ok after ↔
        (∀ edge ∈ listed, EndsKnown resolve knownBomRefs edge) ∧
          after = listed.foldl (EdgeState.take resolve) before := by
    intro listed
    induction listed with
    | nil =>
        intro before after
        constructor
        · intro h
          cases h
          exact ⟨fun _ hmem => (List.not_mem_nil hmem).elim, rfl⟩
        · rintro ⟨-, rfl⟩
          rfl
    | cons edge rest ih =>
        intro before after
        rw [List.foldlM_cons, bind_eq_ok, List.foldl_cons, List.forall_mem_cons]
        constructor
        · rintro ⟨next, hnext, h⟩
          obtain ⟨hknown, rfl⟩ := takeEdge_eq_ok.mp hnext
          obtain ⟨hrest, rfl⟩ := ih.mp h
          exact ⟨⟨hknown, hrest⟩, rfl⟩
        · rintro ⟨⟨hknown, hrest⟩, rfl⟩
          exact ⟨_, takeEdge_eq_ok.mpr ⟨hknown, rfl⟩, ih.mpr ⟨hrest, rfl⟩⟩
  rw [hgeneral, foldl_take, Nat.zero_add]
  rfl

end

end PatchPilot.Sbom
