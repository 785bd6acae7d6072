import PatchPilot.Foundation.JsString

set_option autoImplicit false

/-!
# Sbom: normalized components and graphs (`component.ts`, `version.ts`, `graph.ts`)

A component is identified by its versionless package URL, by its ecosystem, namespace
and name, or, where neither is known, by what the document lists.  A graph is what a
parser hands to the persistence.
-/

namespace PatchPilot.Sbom

open PatchPilot.Foundation

/-! ## Versions -/

/-- `ComponentVersion`. -/
inductive ComponentVersion
  | known (value : JsString)
  | unknown
  deriving DecidableEq

/-- `FORBIDDEN_KNOWN_VERSION_STRINGS`. -/
def forbiddenKnownVersionStrings : List JsString := [js "*", js "latest", js "unknown"]

/-- `toLowerCase`, of the letters whose lower case is in ASCII: the Kelvin sign is one. -/
def lowerUnit (u : UInt16) : UInt16 :=
  if isUpper u then u + 0x20 else if u = 0x212A then unit 'k' else u

/-- `isForbiddenKnownVersion`. -/
def isForbiddenKnownVersion (value : JsString) : Bool :=
  forbiddenKnownVersionStrings.contains ((trim value).map lowerUnit)

/-- `knownComponentVersion`; `none` is its error. -/
def knownComponentVersion (value : JsString) : Option ComponentVersion :=
  if value.length = 0 then none
  else if trim value ≠ value then none
  else if isForbiddenKnownVersion value then none
  else some (.known value)

/-- `parseComponentVersion`. -/
def parseComponentVersion : ComponentVersion → Option ComponentVersion
  | .unknown => some .unknown
  | .known value => knownComponentVersion value

/-- `OccurrenceVersionColumns`. -/
structure OccurrenceVersionColumns where
  versionKnown : Bool
  version : JsString
  deriving DecidableEq

/-- `toOccurrenceVersionColumns`. -/
def toOccurrenceVersionColumns (version : ComponentVersion) : Option OccurrenceVersionColumns :=
  (parseComponentVersion version).map fun
    | .unknown => ⟨false, []⟩
    | .known value => ⟨true, value⟩

/-! ## Components -/

/-- `ComponentIdentityState`. -/
inductive ComponentIdentityState
  | resolved | ambiguous | unsupported
  deriving DecidableEq

/-- The text of an identity state. -/
def ComponentIdentityState.text : ComponentIdentityState → JsString
  | .resolved => js "resolved"
  | .ambiguous => js "ambiguous"
  | .unsupported => js "unsupported"

/-- `NormalizedComponent`. -/
structure NormalizedComponent where
  bomRef : Option JsString
  name : JsString
  ns : Option JsString
  ecosystem : Option JsString
  identityState : ComponentIdentityState
  versionlessPurl : Option JsString
  versionedPurl : Option JsString
  version : ComponentVersion
  isDirect : Option Bool
  identityKey : JsString
  deriving DecidableEq

/-- `IDENTITY_SEPARATOR` and `OCCURRENCE_KEY_SEPARATOR`. -/
def keySeparator : UInt16 := 0x1F

/-- `SBOM_IDENTITY_KEY_MAX_LENGTH`. -/
def sbomIdentityKeyMaxLength : Nat := 2048

/-- `ComponentIdentityInput`. -/
structure ComponentIdentityInput where
  identityState : ComponentIdentityState
  versionlessPurl : Option JsString
  ecosystem : Option JsString
  ns : Option JsString
  name : JsString
  bomRef : Option JsString
  deriving DecidableEq

/-- The key of `buildComponentIdentityKey`, before its length is checked. -/
def componentIdentityKey (input : ComponentIdentityInput) : JsString :=
  match input.versionlessPurl.filter (·.length > 0) with
  | some purl => js "purl:" ++ purl
  | none =>
      match input.identityState, input.ecosystem.filter (·.length > 0) with
      | .resolved, some ecosystem =>
          js "eco:" ++ ecosystem ++ keySeparator :: input.ns.getD [] ++
            keySeparator :: input.name
      | state, _ =>
          js "unresolved:" ++ state.text ++ keySeparator :: input.bomRef.getD [] ++
            keySeparator :: input.name

/-- `buildComponentIdentityKey`. -/
def buildComponentIdentityKey (input : ComponentIdentityInput) : Option JsString :=
  if input.name.length = 0 then none
  else
    let key := componentIdentityKey input
    if key.length > sbomIdentityKeyMaxLength then none else some key

/-- The identity input of a component. -/
def NormalizedComponent.identityInput (component : NormalizedComponent) :
    ComponentIdentityInput where
  identityState := component.identityState
  versionlessPurl := component.versionlessPurl
  ecosystem := component.ecosystem
  ns := component.ns
  name := component.name
  bomRef := component.bomRef

/-- `componentOccurrenceNormalizationKey`. -/
def componentOccurrenceNormalizationKey (identityKey : JsString) : ComponentVersion → JsString
  | .unknown => identityKey ++ keySeparator :: js "unknown"
  | .known value => identityKey ++ keySeparator :: js "known" ++ keySeparator :: value

/-- The occurrence key of a component. -/
def NormalizedComponent.occurrenceKey (component : NormalizedComponent) : JsString :=
  componentOccurrenceNormalizationKey component.identityKey component.version

/-- `OccurrenceAliasFacts`.  A set of digests that is present has one element. -/
structure OccurrenceAliasFacts where
  version : ComponentVersion
  versionedPurl : Option JsString
  sha256Hex : Option JsString
  deriving DecidableEq

/-- `OccurrenceAliasConflict`. -/
inductive OccurrenceAliasConflict
  | version | versionedPurl | sha256
  deriving DecidableEq

/-- Both facts are present and they disagree. -/
def disagree (kept candidate : Option JsString) : Bool :=
  kept.isSome && candidate.isSome && decide (kept ≠ candidate)

/-- `occurrenceAliasConflict`. -/
def occurrenceAliasConflict (kept candidate : OccurrenceAliasFacts) :
    Option OccurrenceAliasConflict :=
  if kept.version ≠ candidate.version then some .version
  else if disagree kept.versionedPurl candidate.versionedPurl then some .versionedPurl
  else if disagree kept.sha256Hex candidate.sha256Hex then some .sha256
  else none

/-- A check of a validator; `none` is its error. -/
def check (holds : Prop) [Decidable holds] : Option Unit := if holds then some () else none

theorem check_eq_some {holds : Prop} [Decidable holds] : check holds = some () ↔ holds := by
  unfold check
  split
  · rename_i h
    exact iff_of_true rfl h
  · rename_i h
    exact iff_of_false nofun h

/-- `validateNormalizedComponent`; `none` is its error. -/
def validateNormalizedComponent (component : NormalizedComponent) :
    Option NormalizedComponent := do
  check (component.name.length ≠ 0)
  let version ← parseComponentVersion component.version
  let identityKey ← buildComponentIdentityKey component.identityInput
  check (identityKey = component.identityKey)
  some { component with version, identityKey }

/-! ## Graphs -/

/-- `GraphCompleteness`. -/
inductive GraphCompleteness
  | empty | noDependencies | partialGraph | complete
  deriving DecidableEq

/-- `deriveGraphCompleteness`, of counts; `none` is its error. -/
def deriveGraphCompleteness (componentCount dependencyEdgeCount skippedListedEdgeCount : Nat) :
    Option GraphCompleteness :=
  if componentCount = 0 then
    if dependencyEdgeCount ≠ 0 ∨ skippedListedEdgeCount ≠ 0 then none else some .empty
  else if dependencyEdgeCount = 0 then some .noDependencies
  else if skippedListedEdgeCount > 0 then some .partialGraph
  else some .complete

/-- `graphCompletenessMatchesCounts`. -/
def graphCompletenessMatchesCounts (completeness : GraphCompleteness)
    (componentCount dependencyEdgeCount : Nat) : Bool :=
  match completeness with
  | .empty => decide (componentCount = 0 ∧ dependencyEdgeCount = 0)
  | .noDependencies => decide (componentCount > 0 ∧ dependencyEdgeCount = 0)
  | .partialGraph => decide (componentCount > 0 ∧ dependencyEdgeCount > 0)
  | .complete => decide (componentCount > 0 ∧ dependencyEdgeCount > 0)

/-- `ParseWarningCode`. -/
inductive ParseWarningCode
  | selfDependencySkipped | duplicateIdentityCollapsed
  deriving DecidableEq

/-- `CountOnlyWarningSummary`. -/
structure CountOnlyWarningSummary where
  code : ParseWarningCode
  count : Nat
  deriving DecidableEq

/-- `NormalizedDependencyEdge`.  Its relationship is always `depends_on`. -/
structure NormalizedDependencyEdge where
  fromBomRef : JsString
  toBomRef : JsString
  deriving DecidableEq

/-- `SbomSpecificationVersion`. -/
inductive SbomSpecificationVersion
  | v1_4 | v1_5 | v1_6
  deriving DecidableEq

/-- `NormalizedComponentGraph`. -/
structure NormalizedComponentGraph where
  specificationVersion : SbomSpecificationVersion
  graphCompleteness : GraphCompleteness
  components : List NormalizedComponent
  edges : List NormalizedDependencyEdge
  warnings : List CountOnlyWarningSummary
  componentCount : Nat
  dependencyEdgeCount : Nat
  warningCount : Nat
  capturedAt : Option JsString
  parserVersion : JsString
  normalizationVersion : JsString
  deriving DecidableEq

/-- The occurrence keys seen so far, with one more. -/
def recordOccurrenceKey (occurrenceKey : JsString) (occurrenceKeys : List JsString) :
    Option (List JsString) :=
  if occurrenceKey ∈ occurrenceKeys then none else some (occurrenceKey :: occurrenceKeys)

/-- The references seen so far, with one more if a component has one. -/
def recordBomRef (bomRef : Option JsString) (bomRefs : List JsString) :
    Option (List JsString) :=
  match bomRef with
  | none => some bomRefs
  | some bomRef =>
      if bomRef.length = 0 ∨ bomRef ∈ bomRefs then none else some (bomRef :: bomRefs)

/-- The loop over the components of `validateNormalizedComponentGraph`, with the
occurrence keys and the references seen so far. -/
def validateComponents : List NormalizedComponent → List JsString → List JsString →
    Option (List NormalizedComponent × List JsString)
  | [], _, bomRefs => some ([], bomRefs)
  | component :: rest, occurrenceKeys, bomRefs => do
      let validated ← validateNormalizedComponent component
      let occurrenceKeys ← recordOccurrenceKey validated.occurrenceKey occurrenceKeys
      let bomRefs ← recordBomRef validated.bomRef bomRefs
      let others ← validateComponents rest occurrenceKeys bomRefs
      some (validated :: others.1, others.2)

/-- The checks of an edge. -/
def edgeValid (bomRefs : List JsString) (edge : NormalizedDependencyEdge) : Bool :=
  decide (edge.fromBomRef.length ≠ 0 ∧ edge.toBomRef.length ≠ 0 ∧
    edge.fromBomRef ≠ edge.toBomRef ∧ edge.fromBomRef ∈ bomRefs ∧ edge.toBomRef ∈ bomRefs)

/-- `validateNormalizedComponentGraph`; `none` is its error. -/
def validateNormalizedComponentGraph (graph : NormalizedComponentGraph) :
    Option NormalizedComponentGraph := do
  check (graph.componentCount = graph.components.length ∧
    graph.dependencyEdgeCount = graph.edges.length)
  check (graph.warningCount = (graph.warnings.map (·.count)).sum)
  check (graphCompletenessMatchesCounts graph.graphCompleteness graph.componentCount
    graph.dependencyEdgeCount = true)
  let validated ← validateComponents graph.components [] []
  check (graph.edges.all (edgeValid validated.2) = true)
  check (graph.warnings.all (·.count ≠ 0) = true)
  some { graph with components := validated.1 }

end PatchPilot.Sbom
