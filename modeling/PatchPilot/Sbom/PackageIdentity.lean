import PatchPilot.Sbom.Conflation
import PatchPilot.Sbom.GraphAtomicity

set_option autoImplicit false

/-!
# Sbom: the identity of a package from upload to matching

A package is named by a listed name, by a package URL, by the row of its component and by
the matcher.  The row of a component is that of the first ingestion that stored its
identity key; the matcher reads the namespace, the name and the package URL of that row
(`selection.ts`, `eligibility.ts`).
-/

namespace PatchPilot.Sbom

open PatchPilot.Foundation
open PatchPilot.Matching

/-! ## The matcher -/

/-- `productMatchIdentityKeyForGroup`. -/
def productMatchIdentityKeyForGroup (ecosystem ns : Option JsString) (name : JsString) :
    Option JsString :=
  match ecosystem with
  | none => none
  | some ecosystem =>
      match classifyNpmPackageIdentityFromParts ⟨ecosystem, ns, name, canonicalName ns name⟩ with
      | .valid identity => some identity.identityKey
      | _ => none

/-- The stored package URL names another package than the one that was classified. -/
def purlMismatch (purl : Option JsString) (canonicalName : JsString) : Bool :=
  match purl with
  | none => false
  | some purl =>
      decide (purl ≠ js "pkg:npm/" ++ canonicalName) &&
        !(js "pkg:npm/" ++ canonicalName ++ [unit '@']).isPrefixOf purl

/-- The package checks of `assessProductMatchEligibility`: the identity key of the package
that they accept; `none` is `package_mismatch`. -/
def assessPackage (component : ComponentRow) (expectedNpmPackageIdentity : JsString) :
    Option JsString :=
  if component.identityState ≠ .resolved ∨ component.ecosystem ≠ some selectedFirstEcosystem then
    none
  else
    match classifyNpmPackageIdentityFromParts ⟨selectedFirstEcosystem, component.ns,
        component.name, canonicalName component.ns component.name⟩ with
    | .valid identity =>
        if identity.identityKey ≠ expectedNpmPackageIdentity then none
        else if purlMismatch component.purl identity.canonicalName then none
        else some identity.identityKey
    | _ => none

/-- The identity key of a package survived in the row of its component. -/
def IdentitySurvives (component : ComponentRow) (identityKey : JsString) : Prop :=
  productMatchIdentityKeyForGroup component.ecosystem component.ns component.name =
      some identityKey ∧
    assessPackage component identityKey = some identityKey

/-! ## Valid identities -/

/-- A valid identity is made of its parts. -/
structure ValidIdentity (identity : NpmIdentity) : Prop where
  ns : ∀ scope ∈ identity.ns, validNamespace scope = true
  name : validNpmName identity.name = true
  identityKey : identity.identityKey = npmIdentityKey identity.ns identity.name
  parts : ∃ observed, classifyNpmPackageIdentityFromParts
    ⟨selectedFirstEcosystem, identity.ns, identity.name,
      canonicalName identity.ns identity.name⟩ = .valid observed

theorem classifyParts_valid {input : NpmIdentityParts} {identity : NpmIdentity}
    (h : classifyNpmPackageIdentityFromParts input = .valid identity) :
    input.ecosystem = selectedFirstEcosystem ∧ identity.ns = input.observedNamespace ∧
      identity.name = input.observedName ∧
      identity.canonicalName = canonicalName input.observedNamespace input.observedName ∧
      identity.identityKey = npmIdentityKey input.observedNamespace input.observedName ∧
      (∀ scope ∈ input.observedNamespace, validNamespace scope = true) ∧
      validNpmName input.observedName = true := by
  unfold classifyNpmPackageIdentityFromParts at h
  split at h
  · cases h
  · rename_i hecosystem
    dsimp only at h
    split at h
    · cases h
    · rename_i hns
      split at h
      · cases h
      · rename_i hname
        split at h
        · cases h
        · split at h
          · cases h
          · split at h
            · cases h
            · cases h
              refine ⟨not_not.mp hecosystem, rfl, rfl, rfl, rfl, ?_, ?_⟩
              · intro scope hscope
                rw [Option.mem_def.mp hscope] at hns
                cases hvalid : validNamespace scope with
                | true => rfl
                | false => exact absurd (by rw [Option.any_some, hvalid]; rfl) hns
              · cases hvalid : validNpmName input.observedName with
                | true => rfl
                | false => exact absurd (by rw [hvalid]; rfl) hname

theorem classifyPurl_valid {purl : JsString} {identity : NpmIdentity}
    {version : Option JsString}
    (h : classifyNpmPackageIdentityFromPurl purl = (.valid identity, version)) :
    ValidIdentity identity := by
  unfold classifyNpmPackageIdentityFromPurl at h
  split at h
  · cases h
  · cases h
  · rename_i parsed hparsed
    split at h
    · rename_i observed hobserved
      obtain ⟨-, hns, hname, -, hkey, hscope, hvalid⟩ := classifyParts_valid hobserved
      cases h
      refine ⟨?_, ?_, ?_, observed, ?_⟩
      · rw [hns]
        exact hscope
      · rw [hname]
        exact hvalid
      · change observed.identityKey = npmIdentityKey observed.ns observed.name
        rw [hkey, hns, hname]
      · change classifyNpmPackageIdentityFromParts ⟨selectedFirstEcosystem, observed.ns,
          observed.name, canonicalName observed.ns observed.name⟩ = .valid observed
        rw [hns, hname]
        exact hobserved
    · cases h
    · cases h
    · cases h

theorem npmIdentityKey_inj {ns : Option JsString} {name name' : JsString}
    (h : npmIdentityKey ns name = npmIdentityKey ns name') : name = name' := by
  unfold npmIdentityKey at h
  rw [List.append_assoc, List.append_assoc] at h
  have htail := List.append_cancel_left h
  obtain ⟨-, htail⟩ := List.cons.inj htail
  obtain ⟨-, hname⟩ := List.cons.inj (List.append_cancel_left htail)
  exact hname

/-- The URL that is stored for an unscoped package is the one that the matcher expects; for
a scoped package it is not, because the `@` of the scope is percent-encoded. -/
theorem purlMismatch_npmPackageUrl {ns : Option JsString} (name : JsString)
    (hns : ∀ scope ∈ ns, validNamespace scope = true) :
    purlMismatch (some (npmPackageUrl ns name)) (canonicalName ns name) = ns.isSome := by
  cases ns with
  | none =>
      change (decide (js "pkg:npm/" ++ name ≠ js "pkg:npm/" ++ name) && _) = false
      rw [decide_eq_false (not_not.mpr rfl)]
      rfl
  | some scope =>
      have hscope := hns scope rfl
      cases scope with
      | nil => cases hscope
      | cons first rest =>
          have hfirst : first = unit '@' := by
            unfold validNamespace at hscope
            exact eq_of_beq (Bool.and_eq_true_iff.mp hscope).1
          have hsplit : ∀ tail : JsString, js "pkg:npm/%40" ++ tail =
              js "pkg:npm/" ++ (unit '%' :: (js "40" ++ tail)) := fun _ => rfl
          change (decide (js "pkg:npm/%40" ++ rest ++ unit '/' :: name ≠
            js "pkg:npm/" ++ (first :: (rest ++ unit '/' :: name))) &&
              !(js "pkg:npm/" ++ (first :: (rest ++ unit '/' :: name)) ++
                [unit '@']).isPrefixOf (js "pkg:npm/%40" ++ rest ++ unit '/' :: name)) = true
          rw [List.append_assoc, hsplit, hfirst]
          have hne : js "pkg:npm/" ++ (unit '%' :: (js "40" ++ (rest ++ unit '/' :: name))) ≠
              js "pkg:npm/" ++ (unit '@' :: (rest ++ unit '/' :: name)) := by
            intro heq
            obtain ⟨hunit, -⟩ := List.cons.inj (List.append_cancel_left heq)
            exact absurd hunit (by decide)
          rw [decide_eq_true hne, List.append_assoc]
          rfl

/-! ## The component of a key in a graph -/

/-- What the first item with a property is, when it has a narrower one. -/
theorem find?_of_imp {α : Type} {p q : α → Bool} {l : List α} {a : α}
    (hfound : l.find? p = some a) (hq : q a = true) (himp : ∀ b ∈ l, q b = true → p b = true) :
    l.find? q = some a := by
  obtain ⟨-, before, after, rfl, hbefore⟩ := List.find?_eq_some_iff_append.mp hfound
  refine List.find?_eq_some_iff_append.mpr ⟨hq, before, after, rfl, ?_⟩
  intro b hb
  have hp := hbefore b hb
  cases hcase : q b with
  | false => rfl
  | true =>
      rw [himp b (List.mem_append_left _ hb) hcase] at hp
      cases hp

theorem applyDirectness_identity (direct : List JsString) (hasDependencyGraph : Bool)
    (component : NormalizedComponent) :
    ∃ isDirect, applyDirectness direct hasDependencyGraph component =
      { component with isDirect } := by
  unfold applyDirectness
  split
  · split
    · exact ⟨_, rfl⟩
    · exact ⟨_, rfl⟩
  · exact ⟨_, rfl⟩

section

variable {prepared : List PreparedComponent} {graph : NormalizedComponentGraph}
  {kept : List CollapsedOccurrence} {direct : List JsString} {hasDependencyGraph : Bool}
  {key : JsString}

/-- Candidates of one occurrence have one identity key. -/
theorem GraphOf.identityKey_eq (h : GraphOf prepared graph kept direct hasDependencyGraph)
    {candidate candidate' : PreparedComponent} (hmem : candidate ∈ prepared)
    (hmem' : candidate' ∈ prepared)
    (hkey : candidate.component.occurrenceKey = candidate'.component.occurrenceKey) :
    candidate.component.identityKey = candidate'.component.identityKey :=
  (occurrenceKey_inj (h.version_eq hmem hmem' hkey)).mp hkey

/-- The entry that the first candidate with an identity key opens. -/
theorem GraphOf.find?_kept (h : GraphOf prepared graph kept direct hasDependencyGraph) :
    kept.find? (fun entry => entry.component.identityKey = key) =
      (prepared.find? fun candidate => candidate.component.identityKey = key).map fun first =>
        (openOccurrence first).absorbAll
          (occurrenceGroup prepared first.component.occurrenceKey).tail := by
  have hkeys := occurrences.run_find?
    (p := fun candidate => decide (candidate.component.identityKey = key))
    (q := fun entry => decide (entry.component.identityKey = key))
    (fun _ => rfl) (fun existing candidate merged hmerged => by
      obtain ⟨-, -, -, rfl⟩ := mergeOccurrence_eq_ok.mp hmerged
      rfl)
    (fun candidate hcandidate candidate' hcandidate' hkey => by
      rw [h.identityKey_eq hcandidate hcandidate' hkey]) h.run
  cases hfirst : prepared.find? fun candidate => decide (candidate.component.identityKey = key)
    with
  | none =>
      rw [hfirst] at hkeys
      exact Option.map_eq_none_iff.mp hkeys
  | some first =>
      rw [hfirst] at hkeys
      obtain ⟨entry, hentry, hkey⟩ := Option.map_eq_some_iff.mp hkeys
      change entry.component.occurrenceKey = first.component.occurrenceKey at hkey
      have hmem := List.mem_of_find?_eq_some hfirst
      have hhead : prepared.find? (fun candidate => decide (candidate.component.occurrenceKey =
          first.component.occurrenceKey)) = some first := by
        refine find?_of_imp hfirst (decide_eq_true rfl) ?_
        intro candidate hcandidate hsame
        have hfound := List.find?_some hfirst
        exact decide_eq_true ((h.identityKey_eq hcandidate hmem (of_decide_eq_true hsame)).trans
          (of_decide_eq_true hfound))
      have hread := occurrences_find? h.run first.component.occurrenceKey
      have hgroup : (occurrenceGroup prepared first.component.occurrenceKey).head? =
          some first := by
        rw [← hhead]
        exact List.head?_filter
      rw [hgroup, ← hkey] at hread
      have hsome := List.mem_of_find?_eq_some hread
      have hunique := occurrences.eq_of_key h.run (List.mem_of_find?_eq_some hentry) hsome (by
        have hfound := List.find?_some hread
        exact (of_decide_eq_true hfound).symm)
      rw [hentry, hunique, hkey]
      rfl

end

/-! ## The component of a key in a document -/

/-- The components of a document with a versionless package URL. -/
def listings (library : PackageUrlJs) (document : JsonValue) (versionless : JsString) :
    List JsonRecord :=
  (listedComponents document).filter fun raw =>
    decide (listedVersionless library raw = some versionless)

/-- The names of the listings that state the version of the first one. -/
def namesOfFirst (library : PackageUrlJs) (document : JsonValue) (versionless : JsString) :
    List JsString :=
  match listings library document versionless with
  | [] => []
  | first :: rest =>
      ((first :: rest).filter fun raw =>
        decide (statedVersion library raw = statedVersion library first)).filterMap listedName

/-- The name under which a document stores the component of a versionless package URL:
the earliest one of the listings that state the version of the first one. -/
def nameOfFirst (library : PackageUrlJs) (document : JsonValue) (versionless : JsString) :
    Option JsString :=
  earliestText (namesOfFirst library document versionless)

/-- The key of a versionless package URL. -/
def purlKey (versionless : JsString) : JsString := js "purl:" ++ versionless

section

variable {library : PackageUrlJs} {limits : SbomParserLimits}

/-- A normalized component has the key of a versionless package URL exactly when it was
listed with one. -/
theorem identityKey_eq_purlKey (hwritten : library.Written) {raw : JsonRecord}
    {candidate : PreparedComponent} {versionless : JsString}
    (h : normalizeOneComponent library limits raw = .ok candidate) :
    candidate.component.identityKey = purlKey versionless ↔
      listedVersionless library raw = some versionless := by
  have hspec := normalizeOneComponent_spec h
  rw [← (normalizeOneComponent_version h).2]
  rcases hspec.identity with ⟨purl, normalized, hpurl⟩ | hlisting
  · rw [hpurl.identityKey hwritten hspec, hpurl.versionlessPurl, Option.some_inj]
    unfold purlKey
    rw [List.append_cancel_left_eq]
  · rw [hlisting.identityKey hspec, hlisting.versionlessPurl]
    refine iff_of_false ?_ nofun
    intro heq
    have hhead : some (unit 'u') = some (unit 'p') := congrArg List.head? heq
    exact absurd hhead (by decide)

end

/-- What an accepted document makes of the component of a package URL. -/
theorem GraphOf.find?_purlKey {library : PackageUrlJs} (hwritten : library.Written)
    {limits : SbomParserLimits} {document : JsonValue} {prepared : List PreparedComponent}
    {graph : NormalizedComponentGraph} {kept : List CollapsedOccurrence}
    {direct : List JsString} {hasDependencyGraph : Bool}
    (h : GraphOf prepared graph kept direct hasDependencyGraph)
    (hall : List.Forall₂ (fun raw candidate =>
      normalizeOneComponent library limits raw = .ok candidate)
        (listedComponents document) prepared) (versionless : JsString) :
    (listings library document versionless = [] ∧
      graph.components.find? (fun component => component.identityKey = purlKey versionless) =
        none) ∨
    ∃ first ∈ listedComponents document, listedVersionless library first = some versionless ∧
      ∃ candidate component, normalizeOneComponent library limits first = .ok candidate ∧
        graph.components.find? (fun component => component.identityKey = purlKey versionless) =
          some component ∧
        component.ns = candidate.component.ns ∧
        component.ecosystem = candidate.component.ecosystem ∧
        component.identityState = candidate.component.identityState ∧
        component.versionlessPurl = candidate.component.versionlessPurl ∧
        component.identityKey = candidate.component.identityKey ∧
        nameOfFirst library document versionless = some component.name := by
  have hpairs : List.Forall₂ (fun raw candidate =>
      normalizeOneComponent library limits raw = .ok candidate)
        (listings library document versionless)
        (prepared.filter fun candidate =>
          decide (candidate.component.identityKey = purlKey versionless)) := by
    refine List.rel_filter ?_ hall
    intro raw candidate hcandidate
    change decide _ = true ↔ decide _ = true
    rw [decide_eq_true_iff, decide_eq_true_iff, identityKey_eq_purlKey hwritten hcandidate]
  have hfind : graph.components.find?
      (fun component => component.identityKey = purlKey versionless) =
        (kept.find? fun entry => entry.component.identityKey = purlKey versionless).map
          fun entry => applyDirectness direct hasDependencyGraph entry.normalized := by
    rw [h.components, List.find?_map]
    refine congrArg _ (Grouping.find?_congr_of_mem ?_)
    intro entry _
    obtain ⟨isDirect, hidentity⟩ :=
      applyDirectness_identity direct hasDependencyGraph entry.normalized
    change decide ((applyDirectness direct hasDependencyGraph entry.normalized).identityKey =
      purlKey versionless) = _
    rw [hidentity]
    rfl
  rw [h.find?_kept, ← List.head?_filter (p := fun candidate : PreparedComponent =>
    decide (candidate.component.identityKey = purlKey versionless))] at hfind
  cases hlisted : listings library document versionless with
  | nil =>
      rw [hlisted] at hpairs
      cases hfiltered : prepared.filter fun candidate =>
          decide (candidate.component.identityKey = purlKey versionless) with
      | nil =>
          rw [hfiltered] at hfind
          exact .inl ⟨rfl, hfind⟩
      | cons candidate rest =>
          rw [hfiltered] at hpairs
          cases hpairs
  | cons first rest =>
      rw [hlisted] at hpairs
      cases hfiltered : prepared.filter fun candidate =>
          decide (candidate.component.identityKey = purlKey versionless) with
      | nil =>
          rw [hfiltered] at hpairs
          cases hpairs
      | cons candidate others =>
          rw [hfiltered] at hpairs hfind
          have hfirst : first ∈ listings library document versionless := by
            rw [hlisted]
            exact List.mem_cons_self
          obtain ⟨hmem, hversionless⟩ := List.mem_filter.mp hfirst
          have hopened : candidate ∈ prepared.filter fun candidate =>
              decide (candidate.component.identityKey = purlKey versionless) := by
            rw [hfiltered]
            exact List.mem_cons_self
          obtain ⟨hprepared, hkey⟩ := List.mem_filter.mp hopened
          have hcandidate : normalizeOneComponent library limits first = .ok candidate := by
            cases hpairs with
            | cons hcandidate _ => exact hcandidate
          have hgroup : occurrenceGroup prepared candidate.component.occurrenceKey =
              (candidate :: others).filter fun other =>
                decide (other.component.version = candidate.component.version) := by
            rw [← hfiltered, List.filter_filter]
            refine List.filter_congr ?_
            intro other hother
            rw [Bool.eq_iff_iff, decide_eq_true_iff, Bool.and_eq_true_iff, decide_eq_true_iff,
              decide_eq_true_iff]
            constructor
            · intro hsame
              exact ⟨h.version_eq hother hprepared hsame,
                (h.identityKey_eq hother hprepared hsame).trans (of_decide_eq_true hkey)⟩
            · rintro ⟨hversion, hidentity⟩
              exact (occurrenceKey_inj hversion).mpr
                (hidentity.trans (of_decide_eq_true hkey).symm)
          have hnames : namesOfFirst library document versionless =
              (occurrenceGroup prepared candidate.component.occurrenceKey).map
                (·.component.name) := by
            unfold namesOfFirst
            rw [hlisted, hgroup]
            refine filterMap_of_forall₂ ((List.rel_filter ?_ hpairs).imp ?_)
            · intro raw other hother
              change decide _ = true ↔ decide _ = true
              rw [decide_eq_true_iff, decide_eq_true_iff,
                ← (normalizeOneComponent_version hother).1,
                ← (normalizeOneComponent_version hcandidate).1]
            · intro raw other hother
              exact (normalizeOneComponent_spec hother).name
          have hhead : occurrenceGroup prepared candidate.component.occurrenceKey =
              candidate :: (occurrenceGroup prepared
                candidate.component.occurrenceKey).tail := by
            have hself : decide (candidate.component.version = candidate.component.version) =
                true := decide_eq_true rfl
            rw [hgroup, List.filter_cons, if_pos hself]
            rfl
          obtain ⟨isDirect, hidentity⟩ := applyDirectness_identity direct hasDependencyGraph
            ((openOccurrence candidate).absorbAll (occurrenceGroup prepared
              candidate.component.occurrenceKey).tail).normalized
          rw [List.head?_cons, Option.map_some, Option.map_some, hidentity] at hfind
          refine .inr ⟨first, hmem, of_decide_eq_true hversionless, candidate, _, hcandidate,
            hfind, rfl, rfl, rfl, rfl, rfl, ?_⟩
          unfold nameOfFirst
          rw [hnames, hhead]
          rfl

/-! ## The rows of the components -/

/-- No component of an organization has two rows. -/
def OneRowEach (stored : List ComponentRow) : Prop :=
  stored.Pairwise fun row row' =>
    ¬(row.organizationId = row'.organizationId ∧ row.identityKey = row'.identityKey)

/-- The row of a component. -/
def rowOf (organizationId : Uuid) (key : JsString) (stored : List ComponentRow) :
    Option ComponentRow :=
  stored.find? fun row => decide (row.organizationId = organizationId ∧ row.identityKey = key)

theorem rowOf_eq_some {organizationId : Uuid} {key : JsString} {stored : List ComponentRow}
    {row : ComponentRow} (h : rowOf organizationId key stored = some row) :
    row ∈ stored ∧ row.organizationId = organizationId ∧ row.identityKey = key := by
  have hfound := List.find?_some h
  exact ⟨List.mem_of_find?_eq_some h, of_decide_eq_true hfound⟩

theorem rowOf_eq_none {organizationId : Uuid} {key : JsString} {stored : List ComponentRow}
    (h : rowOf organizationId key stored = none) :
    ∀ row ∈ stored, ¬(row.organizationId = organizationId ∧ row.identityKey = key) := by
  intro row hrow
  exact of_decide_eq_false (Bool.eq_false_iff.mpr (List.find?_eq_none.mp h row hrow))

/-- The row of a component is the only one with its key. -/
theorem OneRowEach.rowOf_of_mem {stored : List ComponentRow} (h : OneRowEach stored)
    {row : ComponentRow} (hrow : row ∈ stored) :
    rowOf row.organizationId row.identityKey stored = some row := by
  induction h with
  | nil => exact (List.not_mem_nil hrow).elim
  | cons hfirst _ ih =>
      unfold rowOf
      rcases List.mem_cons.mp hrow with rfl | hrest
      · exact List.find?_cons_of_pos (decide_eq_true ⟨rfl, rfl⟩)
      · rw [List.find?_cons, decide_eq_false (hfirst row hrest)]
        exact ih hrest

theorem OneRowEach.upsertRow {stored : List ComponentRow} (h : OneRowEach stored)
    (id organizationId : Uuid) (component : NormalizedComponent) :
    OneRowEach (upsertRow id organizationId component stored) := by
  unfold Sbom.upsertRow
  split
  · exact h
  · rename_i hnone
    refine List.pairwise_append.mpr ⟨h, List.pairwise_singleton _ _, ?_⟩
    intro row hrow created hcreated
    rw [List.mem_singleton.mp hcreated]
    exact rowOf_eq_none hnone row hrow

/-- The first of the components with a key makes its row, unless there is one. -/
theorem rowOf_upsertRow {id organizationId : Uuid} {component : NormalizedComponent}
    {stored : List ComponentRow} (organizationId' : Uuid) (key : JsString) :
    rowOf organizationId' key (upsertRow id organizationId component stored) =
      (rowOf organizationId' key stored).or
        (if organizationId = organizationId' ∧ component.identityKey = key then
          some (newComponentRow id organizationId component)
        else none) := by
  unfold upsertRow
  split
  · rename_i row hfound
    cases hstored : rowOf organizationId' key stored with
    | some row => rfl
    | none =>
        rw [if_neg, Option.none_or]
        rintro ⟨rfl, rfl⟩
        obtain ⟨hmem, hsame⟩ := rowOf_eq_some hfound
        exact rowOf_eq_none hstored row hmem hsame
  · unfold rowOf
    rw [List.find?_append, List.find?_singleton]
    congr 1
    exact if_congr decide_eq_true_iff rfl rfl

theorem OneRowEach.upsertRows {organizationId : Uuid} {components : List NormalizedComponent} :
    ∀ {id : Uuid} {stored : List ComponentRow}, OneRowEach stored →
      OneRowEach (upsertRows organizationId id components stored) := by
  induction components with
  | nil =>
      intro id stored h
      exact h
  | cons component rest ih =>
      intro id stored h
      exact ih (h.upsertRow id organizationId component)

theorem rowOf_upsertRows (organizationId : Uuid) (components : List NormalizedComponent)
    (organizationId' : Uuid) (key : JsString) :
    ∀ (id : Uuid) (stored : List ComponentRow), ∃ id',
      rowOf organizationId' key (upsertRows organizationId id components stored) =
        (rowOf organizationId' key stored).or
          (if organizationId = organizationId' then
            (components.find? fun component => component.identityKey = key).map
              (newComponentRow id' organizationId)
          else none) := by
  induction components with
  | nil =>
      intro id stored
      refine ⟨id, ?_⟩
      rw [List.find?_nil, Option.map_none, ite_self, Option.or_none]
      rfl
  | cons component rest ih =>
      intro id stored
      obtain ⟨id', hrest⟩ := ih (id + 2) (upsertRow id organizationId component stored)
      unfold upsertRows
      rw [hrest, rowOf_upsertRow, Option.or_assoc]
      by_cases hkey : component.identityKey = key
      · refine ⟨id, ?_⟩
        rw [List.find?_cons, decide_eq_true hkey]
        by_cases horganization : organizationId = organizationId'
        · rw [if_pos ⟨horganization, hkey⟩, if_pos horganization, if_pos horganization]
          rfl
        · rw [if_neg (fun h => horganization h.1), if_neg horganization, if_neg horganization]
          rfl
      · refine ⟨id', ?_⟩
        rw [if_neg (fun h => hkey h.2), Option.none_or, List.find?_cons,
          decide_eq_false hkey]

/-! ## Histories -/

/-- The graph of an organization that an action persists. -/
def persistedGraph (organizationId : Uuid) : Action → Option NormalizedComponentGraph
  | .persist input _ _ =>
      if input.organizationId = organizationId then some input.graph else none
  | _ => none

/-- The graphs of an organization that actions persist, in their order. -/
def persistedGraphs (organizationId : Uuid) (actions : List Action) :
    List NormalizedComponentGraph :=
  actions.filterMap (persistedGraph organizationId)

/-- The components after an action. -/
def afterAction (stored : List ComponentRow) : Action → List ComponentRow
  | .persist input id _ => upsertRows input.organizationId id input.graph.components stored
  | _ => stored

theorem persist_components {db db' : Database} {input : PersistComponentGraphInput} {id : Uuid}
    {completedAt : Timestamp} (hattained : Attained db)
    (hvalid : validateNormalizedComponentGraph input.graph ≠ none)
    (h : db.persist input id completedAt = some db') :
    db'.components = upsertRows input.organizationId id input.graph.components
      db.components := by
  obtain ⟨system, hreachable, rfl, -⟩ := hattained
  have hsound := (consistent_of_reachable hreachable).sound
  unfold Database.persist at h
  split at h
  · rename_i ingestion hadmitted
    have hopen := openOk_of_admitted hvalid hadmitted
    split at h
    · rename_i writes hwrite
      split at h
      · rename_i writes' hfinish
        cases h
        obtain ⟨finishing, hran, hfinished⟩ :=
          finishGraph_run completedAt input (applyAll writes system.db)
        rw [hfinish] at hran
        cases hran
        rw [components_applyAll, List.flatMap_append, hfinished.components, List.append_nil]
        rcases hopen.writeGraph_run hsound id completedAt with
          ⟨next, wrote, -, hrun, hwrote⟩ | ⟨wrote, hrun⟩
        · rw [hwrite] at hrun
          cases hrun
          exact hwrote.created
        · rw [hwrite] at hrun
          cases hrun
      · cases h
    · cases h
  · cases h

theorem perform_components {db db' : Database} {action : Action} (hattained : Attained db)
    (h : db.perform action = some db') :
    db'.components = afterAction db.components action := by
  unfold Database.perform at h
  split at h
  · split at h
    · cases h
      rfl
    · cases h
  · split at h
    · cases h
      rfl
    · cases h
  · split at h
    · cases h
      rfl
    · cases h
  · split at h
    · unfold Database.transition at h
      split at h
      · split at h
        · cases h
          rfl
        · cases h
      · cases h
    · cases h
  · split at h
    · rename_i hready
      exact persist_components hattained hready.1 h
    · cases h

/-- The components after actions that run one after the other. -/
theorem performAll_components {actions : List Action} : ∀ {db db' : Database}, Attained db →
    db.performAll actions = some db' →
      db'.components = actions.foldl afterAction db.components := by
  induction actions with
  | nil =>
      intro db db' _ h
      cases h
      rfl
  | cons action rest ih =>
      intro db db' hattained h
      obtain ⟨after, hafter, hrest⟩ := Option.bind_eq_some_iff.mp h
      rw [List.foldl_cons, ← perform_components hattained hafter]
      exact ih (hattained.perform hafter) hrest

/-- Of one component the first graph that has it makes the row. -/
theorem rowOf_foldl_afterAction (organizationId : Uuid) (key : JsString)
    (actions : List Action) : ∀ stored : List ComponentRow, OneRowEach stored →
      OneRowEach (actions.foldl afterAction stored) ∧
      ∃ id, rowOf organizationId key (actions.foldl afterAction stored) =
        (rowOf organizationId key stored).or
          (((persistedGraphs organizationId actions).findSome? fun graph =>
            graph.components.find? fun component => component.identityKey = key).map
              (newComponentRow id organizationId)) := by
  induction actions with
  | nil =>
      intro stored h
      refine ⟨h, 0, ?_⟩
      exact Option.or_none.symm
  | cons action rest ih =>
      intro stored h
      rw [List.foldl_cons]
      cases action with
      | persist input id completedAt =>
          have hone : OneRowEach (afterAction stored (.persist input id completedAt)) :=
            h.upsertRows
          obtain ⟨hrest, later, hlater⟩ := ih _ hone
          refine ⟨hrest, ?_⟩
          rw [hlater]
          obtain ⟨created, hcreated⟩ := rowOf_upsertRows input.organizationId
            input.graph.components organizationId key id stored
          change ∃ id', (rowOf organizationId key (upsertRows input.organizationId id
            input.graph.components stored)).or _ = _
          rw [hcreated, Option.or_assoc]
          unfold persistedGraphs
          by_cases horganization : input.organizationId = organizationId
          · have hgraph : persistedGraph organizationId (.persist input id completedAt) =
                some input.graph := if_pos horganization
            rw [if_pos horganization, List.filterMap_cons_some hgraph, List.findSome?_cons]
            cases hfound : input.graph.components.find? fun component =>
                decide (component.identityKey = key) with
            | some component =>
                refine ⟨created, ?_⟩
                rw [horganization]
                rfl
            | none => exact ⟨later, rfl⟩
          · have hgraph : persistedGraph organizationId (.persist input id completedAt) =
                none := if_neg horganization
            refine ⟨later, ?_⟩
            rw [if_neg horganization, List.filterMap_cons_none hgraph, Option.none_or]
      | createAsset row => exact ih stored h
      | receive row => exact ih stored h
      | accept row => exact ih stored h
      | transition _ _ _ _ => exact ih stored h

/-! ## Documents -/

/-- A document, and the graph that was made of it. -/
structure AcceptedDocument (library : PackageUrlJs) where
  document : JsonValue
  limits : SbomParserLimits
  parserVersion : JsString
  normalizationVersion : JsString
  specificationVersion : SbomSpecificationVersion
  graph : NormalizedComponentGraph
  accepted : normalizeCycloneDxDocument library document limits parserVersion
    normalizationVersion specificationVersion = .ok graph

/-- The name under which the first document that lists a package URL stores it. -/
def firstName (library : PackageUrlJs) (documents : List (AcceptedDocument library))
    (versionless : JsString) : Option JsString :=
  documents.findSome? fun accepted => nameOfFirst library accepted.document versionless

/-- What a stored component takes from the listings of a package URL. -/
structure StoredOfListing (library : PackageUrlJs) (versionless name : JsString)
    (component : NormalizedComponent) (purl : JsString) (url : PackageURL) : Prop where
  parsed : library.fromString purl = some url
  written : library.toString url.withoutVersion = some versionless
  name : component.name = name
  ns : component.ns = url.withoutVersion.ns
  ecosystem : component.ecosystem = some url.withoutVersion.type
  identityState : component.identityState = .resolved
  versionlessPurl : component.versionlessPurl = some versionless

theorem nameOfFirst_eq_none {library : PackageUrlJs} {document : JsonValue}
    {versionless : JsString} (h : listings library document versionless = []) :
    nameOfFirst library document versionless = none := by
  unfold nameOfFirst namesOfFirst
  rw [h]
  rfl

/-- The component of a package URL in the graph of a document. -/
theorem AcceptedDocument.find?_purlKey {library : PackageUrlJs} (hwritten : library.Written)
    (accepted : AcceptedDocument library) (versionless : JsString) :
    (listings library accepted.document versionless = [] ∧
      accepted.graph.components.find?
        (fun component => component.identityKey = purlKey versionless) = none) ∨
    ∃ component name purl url, accepted.graph.components.find?
        (fun component => component.identityKey = purlKey versionless) = some component ∧
      nameOfFirst library accepted.document versionless = some name ∧
      StoredOfListing library versionless name component purl url := by
  obtain ⟨-, record, hrecord, -, -, prepared, hprepared, hgraph⟩ :=
    normalizeCycloneDxDocument_eq_ok.mp accepted.accepted
  obtain ⟨kept, direct, hasDependencyGraph, hgraph⟩ := normalizePrepared_graphOf hgraph
  obtain ⟨hall, -, -⟩ := prepareComponents_eq_ok.mp hprepared
  have hlisted : listedComponents accepted.document = collectComponents record := by
    unfold listedComponents
    rw [hrecord]
    rfl
  rw [← hlisted] at hall
  rcases hgraph.find?_purlKey hwritten hall versionless with hnone |
    ⟨first, -, hversionless, candidate, component, hcandidate, hfound, hns, hecosystem,
      hstate, hpurl, -, hname⟩
  · exact .inl hnone
  · refine .inr ⟨component, component.name, ?_⟩
    have hspec := normalizeOneComponent_spec hcandidate
    rcases hspec.identity with ⟨purl, normalized, hfrom⟩ | hlisting
    · obtain ⟨url, hparsed, hurl, htype, hnamespace, -⟩ :=
        normalizePackageUrl_spec library hfrom.parsed
      rw [← (normalizeOneComponent_version hcandidate).2, hfrom.versionlessPurl]
        at hversionless
      rw [Option.some.inj hversionless] at hurl
      refine ⟨purl, url, hfound, hname, hparsed, hurl, rfl, ?_, ?_, ?_, ?_⟩
      · rw [hns, hfrom.ns, hnamespace]
        rfl
      · rw [hecosystem, hfrom.ecosystem, htype]
        rfl
      · rw [hstate, hfrom.identityState]
      · rw [hpurl, hfrom.versionlessPurl, hversionless]
    · rw [← (normalizeOneComponent_version hcandidate).2, hlisting.versionlessPurl]
        at hversionless
      cases hversionless

/-- The first component of a package URL among the graphs of documents. -/
theorem findSome?_purlKey {library : PackageUrlJs} (hwritten : library.Written)
    (versionless : JsString) {documents : List (AcceptedDocument library)}
    (hlisted : ∃ accepted ∈ documents, listings library accepted.document versionless ≠ []) :
    ∃ component name purl url,
      (documents.map (·.graph)).findSome? (fun graph => graph.components.find?
        fun component => component.identityKey = purlKey versionless) = some component ∧
      firstName library documents versionless = some name ∧
      StoredOfListing library versionless name component purl url := by
  induction documents with
  | nil =>
      obtain ⟨accepted, hmem, -⟩ := hlisted
      exact (List.not_mem_nil hmem).elim
  | cons accepted rest ih =>
      unfold firstName
      rw [List.map_cons, List.findSome?_cons, List.findSome?_cons]
      rcases accepted.find?_purlKey hwritten versionless with ⟨hnil, hnone⟩ |
        ⟨component, name, purl, url, hfound, hname, hstored⟩
      · rw [hnone, nameOfFirst_eq_none hnil]
        refine ih ?_
        obtain ⟨other, hmem, hother⟩ := hlisted
        rcases List.mem_cons.mp hmem with rfl | hmem
        · exact absurd hnil hother
        · exact ⟨other, hmem, hother⟩
      · rw [hfound, hname]
        exact ⟨component, name, purl, url, rfl, rfl, hstored⟩

/-! ## Survival -/

/-- On a row of an npm package the identity survives exactly when the package has no scope
and the row has its name. -/
theorem identitySurvives_row {identity : NpmIdentity} (hvalid : ValidIdentity identity)
    {row : ComponentRow} (hecosystem : row.ecosystem = some selectedFirstEcosystem)
    (hns : row.ns = identity.ns) (hstate : row.identityState = .resolved)
    (hpurl : row.purl = some (npmPackageUrl identity.ns identity.name)) :
    IdentitySurvives row identity.identityKey ↔
      identity.ns = none ∧ row.name = identity.name := by
  have hnpm : ¬(row.identityState ≠ .resolved ∨ row.ecosystem ≠ some selectedFirstEcosystem) :=
    not_or.mpr ⟨not_not.mpr hstate, not_not.mpr hecosystem⟩
  unfold IdentitySurvives productMatchIdentityKeyForGroup assessPackage
  rw [if_neg hnpm, hecosystem, hns, hpurl]
  dsimp only
  cases hparts : classifyNpmPackageIdentityFromParts ⟨selectedFirstEcosystem, identity.ns,
      row.name, canonicalName identity.ns row.name⟩ with
  | valid observed =>
      obtain ⟨-, -, -, hcanonical, hkey, hscope, -⟩ := classifyParts_valid hparts
      have hmismatch := purlMismatch_npmPackageUrl identity.name hscope
      dsimp only
      rw [hcanonical, hkey, hvalid.identityKey]
      constructor
      · rintro ⟨hsame, hassessed⟩
        have hname := npmIdentityKey_inj (Option.some.inj hsame)
        rw [hname, if_neg (not_not.mpr rfl), hmismatch] at hassessed
        cases hscoped : identity.ns with
        | none => exact ⟨rfl, hname⟩
        | some scope =>
            rw [hscoped] at hassessed
            cases hassessed
      · rintro ⟨hunscoped, hname⟩
        rw [hname, if_neg (not_not.mpr rfl), hmismatch, hunscoped]
        exact ⟨rfl, rfl⟩
  | invalid ecosystem observed | unsupportedEcosystem ecosystem observed
  | capacityExceeded ecosystem observed =>
      refine iff_of_false (fun h => by cases h.1) ?_
      rintro ⟨-, hname⟩
      obtain ⟨observed, hobserved⟩ := hvalid.parts
      rw [hname, hobserved] at hparts
      cases hparts

/-- The state of the tables before anything was uploaded. -/
def Database.empty : Database := ⟨[], [], [], [], [], [], [], []⟩

/-- A listed component, its row after a history, and what the matcher makes of it. -/
def Survives (db : Database) (organizationId : Uuid) (candidate : PreparedComponent)
    (identityKey : JsString) : Prop :=
  ∃ row ∈ db.components, row.organizationId = organizationId ∧
    row.identityKey = candidate.component.identityKey ∧
      (∀ other ∈ db.components, other.organizationId = organizationId →
        other.identityKey = candidate.component.identityKey → other = row) ∧
      IdentitySurvives row identityKey

/-- The identity of an npm package survives from a document to the matcher exactly when the
package has no scope, and the first document that lists it stores it under its own name. -/
theorem identity_survives_iff {library : PackageUrlJs} (hlibrary : library.Documented)
    {actions : List Action} {db : Database}
    (hrun : Database.empty.performAll actions = some db) {organizationId : Uuid}
    {documents : List (AcceptedDocument library)}
    (hdocuments : persistedGraphs organizationId actions = documents.map (·.graph))
    {accepted : AcceptedDocument library} (haccepted : accepted ∈ documents)
    {raw : JsonRecord} (hraw : raw ∈ listedComponents accepted.document)
    {candidate : PreparedComponent}
    (hcandidate : normalizeOneComponent library accepted.limits raw = .ok candidate)
    {purl : JsString} (hpurl : listedPurl raw = some purl) {identity : NpmIdentity}
    {version : Option JsString}
    (hidentity : classifyNpmPackageIdentityFromPurl purl = (.valid identity, version)) :
    Survives db organizationId candidate identity.identityKey ↔
      identity.ns = none ∧
        firstName library documents (npmPackageUrl identity.ns identity.name) =
          some identity.name := by
  have hvalid := classifyPurl_valid hidentity
  have hspec := normalizeOneComponent_spec hcandidate
  -- the versionless package URL of the component
  obtain ⟨url, hparsed, hurl, hlisted⟩ : ∃ url, library.fromString purl = some url ∧
      url.withoutVersion = ⟨selectedFirstEcosystem, identity.ns, identity.name, none⟩ ∧
        listedVersionless library raw =
          some (npmPackageUrl identity.ns identity.name) := by
    rcases hspec.identity with ⟨purl', normalized, hfrom⟩ | hlisting
    · have hsame := hfrom.listed
      rw [hpurl] at hsame
      cases hsame
      obtain ⟨url, hparsed, hwritten, -⟩ := normalizePackageUrl_spec library hfrom.parsed
      have hurl := hlibrary.decodes hidentity hparsed
      rw [hurl, hlibrary.encodes hvalid.ns hvalid.name] at hwritten
      refine ⟨url, hparsed, hurl, ?_⟩
      rw [← (normalizeOneComponent_version hcandidate).2, hfrom.versionlessPurl]
      exact hwritten.symm
    · rw [hlisting.listed] at hpurl
      cases hpurl
  have hkey := (identityKey_eq_purlKey hlibrary.written hcandidate).mpr hlisted
  have hany : listings library accepted.document
      (npmPackageUrl identity.ns identity.name) ≠ [] :=
    List.ne_nil_of_mem (List.mem_filter.mpr ⟨hraw, decide_eq_true hlisted⟩)
  obtain ⟨component, name, purl', url', hfound, hname, hparsed', hwritten', hcomponent, hns,
    hecosystem, hstate, hversionless⟩ :=
      findSome?_purlKey hlibrary.written _ ⟨accepted, haccepted, hany⟩
  -- its row is the one that the first document made
  have hcomponents := performAll_components attained_empty hrun
  obtain ⟨hone, id, hrow⟩ := rowOf_foldl_afterAction organizationId
    (purlKey (npmPackageUrl identity.ns identity.name)) actions [] List.Pairwise.nil
  rw [hdocuments, hfound] at hrow
  have hsame : url'.withoutVersion =
      ⟨selectedFirstEcosystem, identity.ns, identity.name, none⟩ := by
    rw [← hurl]
    refine hlibrary.canonical hparsed' hparsed hwritten' ?_
    rw [hurl]
    exact hlibrary.encodes hvalid.ns hvalid.name
  rw [hsame] at hns hecosystem
  have hsurvives := @identitySurvives_row _ hvalid
    (newComponentRow id organizationId component) hecosystem hns hstate hversionless
  have htable : actions.foldl afterAction [] = db.components := hcomponents.symm
  rw [htable] at hrow hone
  obtain ⟨hmem, horganization, hidentityKey⟩ := rowOf_eq_some hrow
  rw [hname, Option.some_inj, ← hcomponent]
  constructor
  · rintro ⟨row, hother, horganization', hkey', -, hsurvived⟩
    have hunique := hone.rowOf_of_mem hother
    rw [horganization', hkey', hkey, hrow] at hunique
    exact hsurvives.mp ((Option.some.inj hunique) ▸ hsurvived)
  · intro hcondition
    refine ⟨_, hmem, horganization, hidentityKey.trans hkey.symm, ?_, hsurvives.mpr hcondition⟩
    intro other hother horganization' hkey'
    have hunique := hone.rowOf_of_mem hother
    rw [horganization', hkey', hkey, hrow] at hunique
    exact (Option.some.inj hunique).symm

/-! ## npm package URLs -/

theorem isNpmNameUnit_of_mem {name : JsString} (h : validNpmName name = true) {u : UInt16}
    (hu : u ∈ name) : isNpmNameUnit u = true := by
  unfold validNpmName at h
  have hpattern := (Bool.and_eq_true_iff.mp h).1
  cases name with
  | nil => exact (List.not_mem_nil hu).elim
  | cons first rest =>
      obtain ⟨hfirst, hrest⟩ := Bool.and_eq_true_iff.mp hpattern
      rcases List.mem_cons.mp hu with rfl | hu
      · unfold isNpmNameUnit
        rw [hfirst]
        rfl
      · exact List.all_eq_true.mp hrest u hu

theorem validNamespace_eq {scope : JsString} (h : validNamespace scope = true) :
    ∃ name, scope = unit '@' :: name ∧ validNpmName name = true := by
  cases scope with
  | nil => cases h
  | cons first rest =>
      obtain ⟨hfirst, hrest⟩ := Bool.and_eq_true_iff.mp h
      exact ⟨rest, by rw [eq_of_beq hfirst], hrest⟩

/-- The package URLs of npm packages name one package each. -/
theorem npmPackageUrl_inj {ns ns' : Option JsString} {name name' : JsString}
    (hns : ∀ scope ∈ ns, validNamespace scope = true)
    (hns' : ∀ scope ∈ ns', validNamespace scope = true) (hname : validNpmName name = true)
    (hname' : validNpmName name' = true)
    (h : npmPackageUrl ns name = npmPackageUrl ns' name') : ns = ns' ∧ name = name' := by
  have hpercent : ∀ {plain tail : JsString}, validNpmName plain = true →
      js "pkg:npm/" ++ plain ≠ js "pkg:npm/%40" ++ tail := by
    intro plain tail hplain heq
    have hcut : plain = unit '%' :: (js "40" ++ tail) :=
      @List.append_cancel_left _ (js "pkg:npm/") _ _ heq
    have hunit := isNpmNameUnit_of_mem hplain (by rw [hcut]; exact List.mem_cons_self)
    exact absurd hunit (by decide)
  have hslash : ∀ {front back : JsString}, validNpmName (front ++ unit '/' :: back) = true →
      False := by
    intro front back hvalid
    have hunit := isNpmNameUnit_of_mem hvalid
      (List.mem_append_right front List.mem_cons_self)
    exact absurd hunit (by decide)
  cases ns with
  | none =>
      cases ns' with
      | none => exact ⟨rfl, List.append_cancel_left h⟩
      | some scope =>
          change js "pkg:npm/" ++ name = js "pkg:npm/%40" ++ scope.drop 1 ++ unit '/' :: name'
            at h
          rw [List.append_assoc] at h
          exact absurd h (hpercent hname)
  | some scope =>
      cases ns' with
      | none =>
          change js "pkg:npm/%40" ++ scope.drop 1 ++ unit '/' :: name = js "pkg:npm/" ++ name'
            at h
          rw [List.append_assoc] at h
          exact absurd h.symm (hpercent hname')
      | some scope' =>
          obtain ⟨rest, rfl, hrest⟩ := validNamespace_eq (hns scope rfl)
          obtain ⟨rest', rfl, hrest'⟩ := validNamespace_eq (hns' scope' rfl)
          change js "pkg:npm/%40" ++ rest ++ unit '/' :: name =
            js "pkg:npm/%40" ++ rest' ++ unit '/' :: name' at h
          rw [List.append_assoc, List.append_assoc] at h
          have htail : rest ++ unit '/' :: name = rest' ++ unit '/' :: name' :=
            List.append_cancel_left h
          rcases append_separator_eq_iff.mp htail with ⟨rfl, rfl⟩ | ⟨t, rfl, -⟩ | ⟨t, rfl, -⟩
          · exact ⟨rfl, rfl⟩
          · exact (hslash hrest').elim
          · exact (hslash hrest).elim

theorem npmPackageUrls_fromString {purl : JsString} {url : PackageURL}
    (h : npmPackageUrls.fromString purl = some url) :
    ∃ identity version, classifyNpmPackageIdentityFromPurl purl = (.valid identity, version) ∧
      url.withoutVersion = ⟨selectedFirstEcosystem, identity.ns, identity.name, none⟩ := by
  unfold npmPackageUrls at h
  dsimp only at h
  split at h
  · rename_i identity version hidentity
    cases h
    refine ⟨identity, version, hidentity, ?_⟩
    have hvalid := classifyPurl_valid hidentity
    have hpresent : optionalPurlPart identity.ns = identity.ns := by
      cases hns : identity.ns with
      | none => rfl
      | some scope =>
          obtain ⟨name, rfl, -⟩ := validNamespace_eq (hvalid.ns scope hns)
          rfl
    unfold PackageURL.withoutVersion
    rw [hpresent]
  · cases h

theorem npmPackageUrls_toString (ns : Option JsString) (name : JsString) :
    npmPackageUrls.toString ⟨selectedFirstEcosystem, ns, name, none⟩ =
      some (npmPackageUrl ns name) := by
  change some (npmPackageUrl ns name ++ []) = _
  rw [List.append_nil]

theorem npmPackageUrls_documented : npmPackageUrls.Documented where
  decodes := by
    intro purl identity version url hidentity hparsed
    obtain ⟨identity', version', hidentity', hurl⟩ := npmPackageUrls_fromString hparsed
    rw [hidentity] at hidentity'
    cases hidentity'
    exact hurl
  encodes := by
    intro ns name _ _
    exact npmPackageUrls_toString ns name
  canonical := by
    intro purl other url url' text hparsed hparsed' hwritten hwritten'
    obtain ⟨identity, _, hidentity, hurl⟩ := npmPackageUrls_fromString hparsed
    obtain ⟨identity', _, hidentity', hurl'⟩ := npmPackageUrls_fromString hparsed'
    have hvalid := classifyPurl_valid hidentity
    have hvalid' := classifyPurl_valid hidentity'
    rw [hurl, npmPackageUrls_toString] at hwritten
    rw [hurl', npmPackageUrls_toString] at hwritten'
    obtain ⟨hns, hname⟩ := npmPackageUrl_inj hvalid.ns hvalid'.ns hvalid.name hvalid'.name
      (Option.some.inj (hwritten.trans hwritten'.symm))
    rw [hurl, hurl', hns, hname]
  written := npmPackageUrls_written

/-! ## One upload -/

instance (component : ComponentRow) (identityKey : JsString) :
    Decidable (IdentitySurvives component identityKey) :=
  inferInstanceAs (Decidable (_ ∧ _))

instance (db : Database) (organizationId : Uuid) (candidate : PreparedComponent)
    (identityKey : JsString) : Decidable (Survives db organizationId candidate identityKey) :=
  inferInstanceAs (Decidable (∃ row ∈ db.components, _))

/-- A component that lists a name and a package URL. -/
def npmComponent (name purl : String) : JsonRecord :=
  [(js "name", .string (js name)), (js "purl", .string (js purl))]

/-- The upload of a document with one graph. -/
def uploadOf (graph : NormalizedComponentGraph) : List Action :=
  [.createAsset ⟨1, 9, none, none⟩, .receive ⟨11, 9, 1, 10, none, none⟩,
    .accept ⟨21, 9, 11, 1, acceptedSnapshot, 1, 10⟩,
    .transition 9 21 1 (.startProcessing 30 .validate),
    .persist ⟨9, 1, 11, 21, graph, [], none⟩ 100 40]

/-- The upload of a document with one component, and whether the identity of the component
survives it. -/
def survivesUpload (raw : JsonRecord) (identityKey : JsString) : Option Bool := do
  let graph ← (normalizeByDefault (documentOf [raw])).toOption
  let candidate ←
    (normalizeOneComponent npmPackageUrls defaultSbomParserLimits raw).toOption
  let db ← Database.empty.performAll (uploadOf graph)
  some (decide (Survives db 9 candidate identityKey))

/-- What such an upload consists of. -/
structure Uploaded (raw : JsonRecord) (accepted : AcceptedDocument npmPackageUrls)
    (candidate : PreparedComponent) (db : Database) : Prop where
  listed : raw ∈ listedComponents accepted.document
  normalized : normalizeOneComponent npmPackageUrls accepted.limits raw = .ok candidate
  run : Database.empty.performAll (uploadOf accepted.graph) = some db
  documents : persistedGraphs 9 (uploadOf accepted.graph) = [accepted].map (·.graph)

theorem listedComponents_documentOf (raw : JsonRecord) :
    raw ∈ listedComponents (documentOf [raw]) := by
  have hother : js "components" ≠ js "metadata" := by decide
  have hmetadata : metadataOf [(js "components", .array [.object raw])] = none := by
    unfold metadataOf JsonRecord.get
    rw [List.find?_cons, decide_eq_false hother]
    rfl
  have hcomponents : JsonRecord.get [(js "components", .array [.object raw])]
      (js "components") = some (.array [.object raw]) := by
    unfold JsonRecord.get
    rw [List.find?_cons, decide_eq_true rfl]
    rfl
  change raw ∈ collectComponents [(js "components", .array [.object raw])]
  unfold collectComponents
  rw [hmetadata, hcomponents]
  exact List.mem_cons_self

theorem survivesUpload_eq_some {raw : JsonRecord} {identityKey : JsString} {survived : Bool}
    (h : survivesUpload raw identityKey = some survived) :
    ∃ accepted candidate db, Uploaded raw accepted candidate db ∧
      decide (Survives db 9 candidate identityKey) = survived := by
  obtain ⟨graph, hgraph, h⟩ := Option.bind_eq_some_iff.mp h
  obtain ⟨candidate, hcandidate, h⟩ := Option.bind_eq_some_iff.mp h
  obtain ⟨db, hrun, h⟩ := Option.bind_eq_some_iff.mp h
  exact ⟨⟨documentOf [raw], defaultSbomParserLimits, js "1", currentSbomNormalizationVersion,
    .v1_5, graph, ok_of_toOption hgraph⟩, candidate, db,
    ⟨listedComponents_documentOf raw, ok_of_toOption hcandidate, hrun, rfl⟩, Option.some.inj h⟩

/-- The identity of a scoped package is lost: the stored package URL has `%40` where the
matcher expects `@`. -/
theorem scoped_identity_lost : ∃ raw accepted candidate db purl identity,
    Uploaded raw accepted candidate db ∧ listedPurl raw = some purl ∧
      classifyNpmPackageIdentityFromPurl purl = (.valid identity, none) ∧
        ¬Survives db 9 candidate identity.identityKey := by
  have hlost : survivesUpload (npmComponent "left-pad" "pkg:npm/%40scope/left-pad")
      (npmIdentityKey (some (js "@scope")) (js "left-pad")) = some false := by decide +kernel
  obtain ⟨accepted, candidate, db, huploaded, hdecided⟩ :=
    survivesUpload_eq_some hlost
  refine ⟨_, accepted, candidate, db, js "pkg:npm/%40scope/left-pad",
    ⟨js "npm", some (js "@scope"), js "left-pad", js "@scope/left-pad",
      js "pkg:npm/%40scope/left-pad", npmIdentityKey (some (js "@scope")) (js "left-pad"),
      .absent, .absent⟩, huploaded, ?_, ?_, of_decide_eq_false hdecided⟩
  · decide +kernel
  · decide +kernel

/-- The identity of a package without a scope survives its upload. -/
theorem plain_identity_survives_iff : ∃ raw accepted candidate db,
    Uploaded raw accepted candidate db ∧
      (Survives db 9 candidate (npmIdentityKey none (js "left-pad")) ↔
        (none : Option JsString) = none ∧
          firstName npmPackageUrls [accepted] (npmPackageUrl none (js "left-pad")) =
            some (js "left-pad")) := by
  have hkept : survivesUpload (npmComponent "left-pad" "pkg:npm/left-pad")
      (npmIdentityKey none (js "left-pad")) = some true := by decide +kernel
  obtain ⟨accepted, candidate, db, huploaded, -⟩ :=
    survivesUpload_eq_some hkept
  have hpurl : listedPurl (npmComponent "left-pad" "pkg:npm/left-pad") =
      some (js "pkg:npm/left-pad") := by decide +kernel
  have hidentity : classifyNpmPackageIdentityFromPurl (js "pkg:npm/left-pad") =
      (.valid ⟨js "npm", none, js "left-pad", js "left-pad", js "pkg:npm/left-pad",
        npmIdentityKey none (js "left-pad"), .absent, .absent⟩, none) := by decide +kernel
  exact ⟨_, accepted, candidate, db, huploaded, identity_survives_iff
    npmPackageUrls_documented huploaded.run huploaded.documents List.mem_cons_self
    huploaded.listed huploaded.normalized hpurl hidentity⟩

end PatchPilot.Sbom
