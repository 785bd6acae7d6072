import PatchPilot.Foundation.Grouping
import PatchPilot.Foundation.JsValue
import PatchPilot.Sbom.Failures
import PatchPilot.Sbom.Purl

set_option autoImplicit false

/-!
# Sbom: normalization of CycloneDX documents (`normalize-cyclonedx.ts`)

A parsed document is read into a graph.  Its components are collected, normalized one
by one and collapsed when they stand for one observed version of one component; the
dependencies are rewritten to the references that were kept.
-/

namespace PatchPilot.Sbom

open PatchPilot.Foundation

/-- `SbomParserLimits`. -/
structure SbomParserLimits where
  maxBytes : Nat
  jsonMaxDepth : Nat
  jsonMaxNodes : Nat
  jsonMaxStringBytes : Nat
  maxComponents : Nat
  maxDependencyEdges : Nat
  maxBomRefBytes : Nat
  maxPurlBytes : Nat
  maxComponentNameChars : Nat
  maxVersionChars : Nat
  maxMetadataTools : Nat
  maxExternalRefsPerComponent : Nat
  maxPropertiesPerComponent : Nat
  deriving DecidableEq

/-- `defaultSbomParserLimits`. -/
def defaultSbomParserLimits : SbomParserLimits where
  maxBytes := 20971520
  jsonMaxDepth := 32
  jsonMaxNodes := 200000
  jsonMaxStringBytes := 65536
  maxComponents := 10000
  maxDependencyEdges := 50000
  maxBomRefBytes := 2048
  maxPurlBytes := 2048
  maxComponentNameChars := 512
  maxVersionChars := 256
  maxMetadataTools := 64
  maxExternalRefsPerComponent := 32
  maxPropertiesPerComponent := 64

/-- `PreparedComponent`.  A set of digests that is present has one element. -/
structure PreparedComponent where
  component : NormalizedComponent
  sha256Hex : Option JsString
  deriving DecidableEq

/-! ## Reading -/

/-- `asString`. -/
def asString (value : Option JsonValue) : Option JsString := value.bind JsonValue.string?

/-- The entries of a property, if `isObjectRecord` holds of it. -/
def asRecord (value : Option JsonValue) : Option JsonRecord := value.bind JsonValue.record?

/-- The items of a property, if `Array.isArray` holds of it. -/
def asArray (value : Option JsonValue) : Option (List JsonValue) := value.bind JsonValue.array?

/-- `arrayLength`. -/
def arrayLength (value : Option JsonValue) : Nat := ((asArray value).getD []).length

/-- A text that is present and not empty. -/
def presentText (value : Option JsString) : Option JsString := value.filter (·.length > 0)

/-- `observedVersion`. -/
def observedVersion (raw : Option JsString) : ComponentVersion :=
  (raw.bind knownComponentVersion).getD .unknown

/-- `resolveObservedVersion`. -/
def resolveObservedVersion (listedRaw purlVersion : Option JsString) :
    Except ParserWorkerFailure ComponentVersion :=
  let listed := presentText listedRaw
  let purl := presentText purlVersion
  if disagree listed purl then .error (parserFailure .componentVersionConflict)
  else .ok (observedVersion (listed.or purl))

/-- `SHA256_CONTENT`. -/
def sha256Content (content : JsString) : Bool :=
  content.length = 64 &&
    content.all fun u => isDigit u || (0x61 ≤ u && u ≤ 0x66) || (0x41 ≤ u && u ≤ 0x46)

/-- The loop of `collectSha256`: the digests that are added to the set. -/
def collectDigests : List JsonValue → Except ParserWorkerFailure (List JsString)
  | [] => .ok []
  | hash :: rest =>
      match hash.record? with
      | none => .error (parserFailure .schemaInvalid)
      | some record =>
          if asString (record.get (js "alg")) ≠ some (js "SHA-256") then collectDigests rest
          else
            match (asString (record.get (js "content"))).filter sha256Content with
            | none => .error (parserFailure .componentHashConflict)
            | some content => do
                let digests ← collectDigests rest
                .ok (content.map lowerUnit :: digests)

/-- `collectSha256`. -/
def collectSha256 (raw : JsonRecord) : Except ParserWorkerFailure (Option JsString) :=
  match raw.get (js "hashes") with
  | none => .ok none
  | some hashes =>
      match hashes.array? with
      | none => .error (parserFailure .schemaInvalid)
      | some items => do
          let digests ← collectDigests items
          match digests.dedup with
          | [] => .ok none
          | [digest] => .ok (some digest)
          | _ => .error (parserFailure .componentHashConflict)

mutual

/-- `visit`: an object, and what is nested in it. -/
def visit : JsonValue → List JsonRecord
  | .object entries => entries :: visitNested entries
  | _ => []

/-- The property `components` of an object. -/
def visitNested : List (JsString × JsonValue) → List JsonRecord
  | [] => []
  | (name, value) :: rest =>
      if name = js "components" then visitArray value else visitNested rest

/-- The items of an array. -/
def visitArray : JsonValue → List JsonRecord
  | .array items => visitItems items
  | _ => []

/-- Each item. -/
def visitItems : List JsonValue → List JsonRecord
  | [] => []
  | item :: rest => visit item ++ visitItems rest

end

/-- `document['metadata']`, if it is an object. -/
def metadataOf (document : JsonRecord) : Option JsonRecord :=
  asRecord (document.get (js "metadata"))

/-- `collectComponents`. -/
def collectComponents (document : JsonRecord) : List JsonRecord :=
  (((metadataOf document).bind (·.get (js "component"))).map visit).getD [] ++
    ((document.get (js "components")).map visitArray).getD []

/-- `countMetadataTools`. -/
def countMetadataTools (document : JsonRecord) : Nat :=
  match (metadataOf document).bind (·.get (js "tools")) with
  | some (.array tools) => tools.length
  | some (.object tools) =>
      arrayLength (JsonRecord.get tools (js "components")) +
        arrayLength (JsonRecord.get tools (js "services"))
  | _ => 0

/-- The fixed part of `UTC_TIMESTAMP`; `none` is a digit. -/
def timestampShape : List (Option UInt16) :=
  [none, none, none, none, some (unit '-'), none, none, some (unit '-'), none, none,
    some (unit 'T'), none, none, some (unit ':'), none, none, some (unit ':'), none, none]

/-- `UTC_TIMESTAMP`. -/
def utcTimestamp (value : JsString) : Bool :=
  let (head, tail) := value.splitAt timestampShape.length
  head.length = timestampShape.length &&
    (head.zip timestampShape).all (fun
      | (u, none) => isDigit u
      | (u, some expected) => u == expected) &&
    match tail with
    | [z] => z == unit 'Z'
    | dot :: rest =>
        dot == unit '.' && rest.getLast? == some (unit 'Z') && isDecimal rest.dropLast
    | [] => false

/-- `capturedAtFromMetadata`. -/
def capturedAtFromMetadata (document : JsonRecord) : Option JsString :=
  ((metadataOf document).bind fun metadata => asString (metadata.get (js "timestamp"))).filter
    utcTimestamp

/-- `metadataComponentBomRef`. -/
def metadataComponentBomRef (document : JsonRecord) : Option JsString := do
  let metadata ← metadataOf document
  let component ← asRecord (metadata.get (js "component"))
  asString (component.get (js "bom-ref"))

/-! ## One component -/

/-- The name of a component that lists one. -/
def listedName (raw : JsonRecord) : Option JsString :=
  presentText (asString (raw.get (js "name")))

/-- `bomRef` of `normalizeOneComponent`. -/
def listedBomRef (raw : JsonRecord) : Option JsString :=
  presentText (asString (raw.get (js "bom-ref")))

/-- The PURL of a component that lists one. -/
def listedPurl (raw : JsonRecord) : Option JsString :=
  presentText (asString (raw.get (js "purl")))

/-- The group of a component that lists one. -/
def listedGroup (raw : JsonRecord) : Option JsString :=
  presentText (asString (raw.get (js "group")))

/-- The version that a component without a PURL lists. -/
def listedVersion (raw : JsonRecord) : ComponentVersion :=
  observedVersion (presentText (asString (raw.get (js "version"))))

/-- The bound on a known version. -/
def versionTooLong (version : ComponentVersion) (limits : SbomParserLimits) : Bool :=
  match version with
  | .known value => decide (value.length > limits.maxVersionChars)
  | .unknown => false

/-- `versionedPurl` of a component with a PURL. -/
def observedVersionedPurl (library : PackageUrlJs) (normalized : NormalizedPackageUrl)
    (version : ComponentVersion) : Except ParserWorkerFailure (Option JsString) :=
  match version, normalized.versioned with
  | .unknown, _ => .ok none
  | .known _, some versioned => .ok (some versioned)
  | .known value, none => do
      let encoded ← orReject (versionedPackageUrl library normalized value) .invalidPurl
      .ok (some encoded)

/-- `normalizeOneComponent`, from a listed name, reference and digest on, for a component
with a PURL. -/
def normalizeWithPurl (library : PackageUrlJs) (limits : SbomParserLimits) (raw : JsonRecord)
    (name : JsString) (bomRef sha256Hex : Option JsString) (purlRaw : JsString) :
    Except ParserWorkerFailure PreparedComponent := do
  reject (utf8ByteLength purlRaw > limits.maxPurlBytes) .identifierLength
  let normalized ← orReject (normalizePackageUrl library purlRaw) .invalidPurl
  reject (utf8ByteLength normalized.versionless > limits.maxPurlBytes) .identifierLength
  let version ← resolveObservedVersion (asString (raw.get (js "version"))) normalized.version
  reject (versionTooLong version limits) .identifierLength
  let versionedPurl ← observedVersionedPurl library normalized version
  reject (versionedPurl.any (utf8ByteLength · > limits.maxPurlBytes)) .identifierLength
  let identityKey ← orReject (buildComponentIdentityKey
    ⟨.resolved, some normalized.versionless, some normalized.type, normalized.ns, name,
      bomRef⟩) .identifierLength
  .ok {
    component := {
      bomRef
      name
      ns := normalized.ns
      ecosystem := some normalized.type
      identityState := .resolved
      versionlessPurl := some normalized.versionless
      versionedPurl
      version
      isDirect := none
      identityKey }
    sha256Hex }

/-- `normalizeOneComponent`, from a listed name, reference and digest on, for a component
without a PURL. -/
def normalizeWithoutPurl (limits : SbomParserLimits) (raw : JsonRecord) (name : JsString)
    (bomRef sha256Hex : Option JsString) : Except ParserWorkerFailure PreparedComponent := do
  let version ← resolveObservedVersion (asString (raw.get (js "version"))) none
  reject (versionTooLong version limits) .identifierLength
  let identityKey ← orReject (buildComponentIdentityKey
    ⟨.unsupported, none, none, listedGroup raw, name, bomRef⟩) .identifierLength
  .ok {
    component := {
      bomRef
      name
      ns := listedGroup raw
      ecosystem := none
      identityState := .unsupported
      versionlessPurl := none
      versionedPurl := none
      version
      isDirect := none
      identityKey }
    sha256Hex }

/-- `normalizeOneComponent`. -/
def normalizeOneComponent (library : PackageUrlJs) (limits : SbomParserLimits)
    (raw : JsonRecord) : Except ParserWorkerFailure PreparedComponent := do
  let name ← orReject (listedName raw) .schemaInvalid
  reject (name.length > limits.maxComponentNameChars) .identifierLength
  reject (arrayLength (raw.get (js "externalReferences")) > limits.maxExternalRefsPerComponent)
    .referenceLimit
  reject (arrayLength (raw.get (js "properties")) > limits.maxPropertiesPerComponent)
    .propertyLimit
  reject ((listedBomRef raw).any (utf8ByteLength · > limits.maxBomRefBytes)) .identifierLength
  let sha256Hex ← collectSha256 raw
  match listedPurl raw with
  | some purlRaw =>
      normalizeWithPurl library limits raw name (listedBomRef raw) sha256Hex purlRaw
  | none => normalizeWithoutPurl limits raw name (listedBomRef raw) sha256Hex

/-- The loop over the collected components, with the references seen so far. -/
def prepareComponents (library : PackageUrlJs) (limits : SbomParserLimits) :
    List JsonRecord → List JsString → Except ParserWorkerFailure (List PreparedComponent)
  | [], _ => .ok []
  | raw :: rest, seenBomRefs => do
      let prepared ← normalizeOneComponent library limits raw
      reject (prepared.component.bomRef.any (· ∈ seenBomRefs)) .duplicateBomRef
      let others ← prepareComponents library limits rest
        (prepared.component.bomRef.toList ++ seenBomRefs)
      .ok (prepared :: others)

/-! ## Collapsing -/

/-- `CollapsedOccurrence`. -/
structure CollapsedOccurrence where
  component : NormalizedComponent
  sha256Hex : Option JsString
  names : List JsString
  bomRefs : List JsString
  deriving DecidableEq

/-- `earliestText`. -/
def earliestText : List JsString → Option JsString
  | [] => none
  | value :: rest =>
      some (rest.foldl (fun selected value =>
        if compareCodeUnits value selected = .lt then value else selected) value)

/-- What an entry and a candidate state of themselves. -/
def aliasFacts (component : NormalizedComponent) (sha256Hex : Option JsString) :
    OccurrenceAliasFacts :=
  ⟨component.version, component.versionedPurl, sha256Hex⟩

/-- The entry that a candidate opens. -/
def openOccurrence (candidate : PreparedComponent) : CollapsedOccurrence where
  component := candidate.component
  sha256Hex := candidate.sha256Hex
  names := [candidate.component.name]
  bomRefs := candidate.component.bomRef.toList

/-- A candidate of an occurrence that was seen. -/
def mergeOccurrence (existing : CollapsedOccurrence) (candidate : PreparedComponent) :
    Except ParserWorkerFailure CollapsedOccurrence :=
  match occurrenceAliasConflict (aliasFacts existing.component existing.sha256Hex)
      (aliasFacts candidate.component candidate.sha256Hex) with
  | some .sha256 => .error (parserFailure .componentHashConflict)
  | some _ => .error (parserFailure .componentVersionConflict)
  | none => .ok {
      component := { existing.component with
        versionedPurl := existing.component.versionedPurl.or candidate.component.versionedPurl }
      sha256Hex := existing.sha256Hex.or candidate.sha256Hex
      names := existing.names ++ [candidate.component.name]
      bomRefs := existing.bomRefs ++ candidate.component.bomRef.toList }

/-- The loop of `collapseOccurrences`. -/
def occurrences :
    Grouping PreparedComponent CollapsedOccurrence JsString ParserWorkerFailure where
  keyOf candidate := candidate.component.occurrenceKey
  key entry := entry.component.occurrenceKey
  create := openOccurrence
  merge := mergeOccurrence
  key_create _ := rfl
  key_merge existing candidate merged h := by
    unfold mergeOccurrence at h
    split at h
    · cases h
    · cases h
    · cases h
      rfl

/-- The component of an entry, under its earliest name and reference. -/
def CollapsedOccurrence.normalized (entry : CollapsedOccurrence) : NormalizedComponent :=
  { entry.component with
    name := (earliestText entry.names).getD entry.component.name
    bomRef := earliestText entry.bomRefs }

/-- What an entry sets in `bomRefAlias`. -/
def CollapsedOccurrence.aliases (entry : CollapsedOccurrence) : List (JsString × JsString) :=
  match earliestText entry.bomRefs with
  | none => []
  | some canonicalBomRef => entry.bomRefs.map fun bomRef => (bomRef, canonicalBomRef)

/-- The result of `collapseOccurrences`. -/
structure Collapsed where
  components : List NormalizedComponent
  bomRefAlias : List (JsString × JsString)
  duplicateCount : Nat
  deriving DecidableEq

/-- `collapseOccurrences`.  A candidate that opens no entry is a duplicate. -/
def collapseOccurrences (prepared : List PreparedComponent) :
    Except ParserWorkerFailure Collapsed := do
  let kept ← occurrences.run prepared
  .ok {
    components := kept.map CollapsedOccurrence.normalized
    bomRefAlias := kept.flatMap CollapsedOccurrence.aliases
    duplicateCount := prepared.length - kept.length }

/-- `resolveAlias`: what was set last for a reference. -/
def resolveAlias (bomRefAlias : List (JsString × JsString)) (bomRef : JsString) : JsString :=
  ((bomRefAlias.reverse.find? fun entry => entry.1 = bomRef).map Prod.snd).getD bomRef

/-! ## Dependencies -/

/-- The targets of one entry of `dependencies`. -/
def listTargets (source : JsString) : List JsonValue →
    Except ParserWorkerFailure (List NormalizedDependencyEdge)
  | [] => .ok []
  | target :: rest =>
      match presentText target.string? with
      | none => .error (parserFailure .unresolvedDependencyRef)
      | some dest => do
          let others ← listTargets source rest
          .ok (⟨source, dest⟩ :: others)

/-- One entry of `dependencies`. -/
def listEntry (resolve : JsString → JsString) (knownBomRefs : List JsString)
    (entry : JsonValue) : Except ParserWorkerFailure (List NormalizedDependencyEdge) :=
  match entry.record? with
  | none => .error (parserFailure .schemaInvalid)
  | some record =>
      match presentText (asString (record.get (js "ref"))) with
      | none => .error (parserFailure .unresolvedDependencyRef)
      | some source => do
          reject (resolve source ∉ knownBomRefs) .unresolvedDependencyRef
          match record.get (js "dependsOn") with
          | none => .ok []
          | some dependsOn =>
              match dependsOn.array? with
              | none => .error (parserFailure .schemaInvalid)
              | some targets => listTargets source targets

/-- `listedEdges`. -/
def listEdges (resolve : JsString → JsString) (knownBomRefs : List JsString)
    (dependencies : Option JsonValue) :
    Except ParserWorkerFailure (List NormalizedDependencyEdge) :=
  match dependencies with
  | none => .ok []
  | some dependencies =>
      match dependencies.array? with
      | none => .error (parserFailure .schemaInvalid)
      | some entries => do
          let listed ← entries.mapM (listEntry resolve knownBomRefs)
          .ok listed.flatten

/-- `edges` and `skippedListedEdgeCount`. -/
structure EdgeState where
  edges : List NormalizedDependencyEdge
  skippedListedEdgeCount : Nat
  deriving DecidableEq

/-- The key of `seenEdges`. -/
def NormalizedDependencyEdge.key (edge : NormalizedDependencyEdge) : JsString :=
  edge.fromBomRef ++ 0 :: edge.toBomRef

/-- A listed edge between the references that were kept. -/
def resolveEdge (resolve : JsString → JsString) (edge : NormalizedDependencyEdge) :
    NormalizedDependencyEdge :=
  ⟨resolve edge.fromBomRef, resolve edge.toBomRef⟩

/-- One listed edge.  The keys of `seenEdges` are those of the edges. -/
def takeEdge (resolve : JsString → JsString) (knownBomRefs : List JsString)
    (state : EdgeState) (listed : NormalizedDependencyEdge) :
    Except ParserWorkerFailure EdgeState := do
  let edge := resolveEdge resolve listed
  reject (edge.fromBomRef ∉ knownBomRefs ∨ edge.toBomRef ∉ knownBomRefs)
    .unresolvedDependencyRef
  if edge.fromBomRef = edge.toBomRef then
    .ok { state with skippedListedEdgeCount := state.skippedListedEdgeCount + 1 }
  else if edge.key ∈ state.edges.map NormalizedDependencyEdge.key then .ok state
  else .ok { state with edges := state.edges ++ [edge] }

/-- `directBomRefs`. -/
def directBomRefs (aliasedRoot : Option JsString) (edges : List NormalizedDependencyEdge) :
    List JsString :=
  match aliasedRoot with
  | none => []
  | some root =>
      root :: (edges.filter fun edge => edge.fromBomRef = root).map (·.toBomRef)

/-- `applyDirectness`, to one component. -/
def applyDirectness (direct : List JsString) (hasDependencyGraph : Bool)
    (component : NormalizedComponent) : NormalizedComponent :=
  match component.bomRef with
  | some bomRef =>
      if hasDependencyGraph then { component with isDirect := some (decide (bomRef ∈ direct)) }
      else component
  | none => component

/-- `warningSummaries`: the positive counts, in the order of the codes. -/
def warningSummaries (selfDependencySkipped duplicateIdentityCollapsed : Nat) :
    List CountOnlyWarningSummary :=
  [⟨.selfDependencySkipped, selfDependencySkipped⟩,
    ⟨.duplicateIdentityCollapsed, duplicateIdentityCollapsed⟩].filter (·.count > 0)

/-! ## Documents -/

/-- `CURRENT_SBOM_NORMALIZATION_VERSION`. -/
def currentSbomNormalizationVersion : JsString := js "2"

/-- `normalizeCycloneDxDocument`, from the prepared components on. -/
def normalizePrepared (limits : SbomParserLimits) (document : JsonRecord)
    (parserVersion normalizationVersion : JsString)
    (specificationVersion : SbomSpecificationVersion) (prepared : List PreparedComponent) :
    Except ParserWorkerFailure NormalizedComponentGraph := do
  let collapsed ← collapseOccurrences prepared
  let resolve := resolveAlias collapsed.bomRefAlias
  let knownBomRefs := collapsed.components.filterMap (·.bomRef)
  let listedEdges ← listEdges resolve knownBomRefs (document.get (js "dependencies"))
  reject (listedEdges.length > limits.maxDependencyEdges) .edgeLimit
  let state ← listedEdges.foldlM (takeEdge resolve knownBomRefs) ⟨[], 0⟩
  reject (state.edges.length > limits.maxDependencyEdges) .edgeLimit
  let aliasedRoot := (metadataComponentBomRef document).map resolve
  let components := collapsed.components.map
    (applyDirectness (directBomRefs aliasedRoot state.edges) (decide (listedEdges.length > 0)))
  let graphCompleteness ← orReject (deriveGraphCompleteness components.length
    state.edges.length state.skippedListedEdgeCount) .schemaInvalid
  let warnings := warningSummaries state.skippedListedEdgeCount collapsed.duplicateCount
  let success : NormalizedComponentGraph := {
    specificationVersion
    graphCompleteness
    components
    edges := state.edges
    warnings
    componentCount := components.length
    dependencyEdgeCount := state.edges.length
    warningCount := (warnings.map (·.count)).sum
    capturedAt := capturedAtFromMetadata document
    parserVersion
    normalizationVersion }
  let _ ← orReject (validateNormalizedComponentGraph success) .schemaInvalid
  .ok success

/-- `normalizeCycloneDxDocument`. -/
def normalizeCycloneDxDocument (library : PackageUrlJs) (document : JsonValue)
    (limits : SbomParserLimits) (parserVersion normalizationVersion : JsString)
    (specificationVersion : SbomSpecificationVersion) :
    Except ParserWorkerFailure NormalizedComponentGraph := do
  reject (normalizationVersion ≠ currentSbomNormalizationVersion)
    .unsupportedNormalizationVersion
  let record ← orReject document.record? .notCyclonedx
  reject (countMetadataTools record > limits.maxMetadataTools) .toolLimit
  let rawComponents := collectComponents record
  reject (rawComponents.length > limits.maxComponents) .componentLimit
  let prepared ← prepareComponents library limits rawComponents []
  normalizePrepared limits record parserVersion normalizationVersion specificationVersion
    prepared

end PatchPilot.Sbom
