import PatchPilot.Foundation.Fallible
import PatchPilot.Sbom.Validation
import PatchPilot.Sbom.Database

set_option autoImplicit false

/-!
# Sbom: persisting a graph (`component-graph-persistence.ts`)

The rows of a graph, the completion of its ingestion and the pointer of its asset are
written in one transaction.  An error that the body returns does not undo the writes that
came before it; one that it throws does.
-/

namespace PatchPilot.Sbom

open PatchPilot.Foundation

/-! ## The body of the transaction -/

/-- `PersistComponentGraphInput`. -/
structure PersistComponentGraphInput where
  organizationId : Uuid
  assetId : Uuid
  sbomId : Uuid
  sbomIngestionId : Uuid
  graph : NormalizedComponentGraph
  correlationId : JsString
  ownedJob : Option OwnedJob
  deriving DecidableEq

/-- How a body stops: with an error that it returns, or by throwing. -/
inductive Stop
  | returned (error : SbomError)
  | thrown
  deriving DecidableEq

/-- A part of the transaction. -/
abbrev Tx (α : Type) : Type := Work Write Database Stop α

/-- What is decided on the ingestion that was read under its lock. -/
inductive Admission
  | replayed
  | refused (error : SbomError)
  | admitted (ingestion : SbomIngestionRow)
  deriving DecidableEq

/-- The checks of `persistOnceForIngestion` before it writes. -/
def decideAdmission (input : PersistComponentGraphInput) : Option SbomIngestionRow → Admission
  | none => .refused .invalidTransition
  | some ingestion =>
      if ingestion.assetId ≠ input.assetId ∨ ingestion.sbomId ≠ input.sbomId ∨
          ingestion.organizationId ≠ input.organizationId then .refused .invalidTransition
      else if ingestion.snapshot.state = .completed then .replayed
      else if ingestion.snapshot.state.isTerminal then .refused .terminalState
      else if ingestion.snapshot.state ≠ .processing then .refused .invalidTransition
      else if ingestion.snapshot.startedAt = none then .refused .processingRequiresStartedAt
      else .admitted ingestion

/-- The row of a component that is new in its organization. -/
def newComponentRow (id organizationId : Uuid) (component : NormalizedComponent) :
    ComponentRow where
  id := id
  organizationId := organizationId
  identityKey := component.identityKey
  purl := component.versionlessPurl
  ecosystem := component.ecosystem
  ns := component.ns
  name := component.name
  identityState := component.identityState

/-- `upsertComponent`: the row that is there stays as it is.  `id` is the id of a row that
is created.  A row that another transaction creates at the same time is waited for, and
then the creation throws. -/
def upsertComponent (id organizationId : Uuid) (component : NormalizedComponent) :
    Tx Uuid := do
  let existing ← Work.read (·.component organizationId component.identityKey)
  match existing with
  | some row => pure row.id
  | none => do
      Work.write (.createComponent (newComponentRow id organizationId component))
      pure id

/-- The row of an occurrence. -/
def occurrenceRow (input : PersistComponentGraphInput) (component : NormalizedComponent)
    (id componentId : Uuid) (version : OccurrenceVersionColumns) : ComponentOccurrenceRow where
  id := id
  organizationId := input.organizationId
  assetId := input.assetId
  sbomId := input.sbomId
  sbomIngestionId := input.sbomIngestionId
  componentId := componentId
  bomRef := component.bomRef
  version := version
  versionedPurl := component.versionedPurl
  isDirect := component.isDirect

/-- `occurrenceByBomRef`, the latest entry first. -/
abbrev OccurrenceByBomRef : Type := List (JsString × Uuid)

/-- `occurrenceByBomRef.get`. -/
def OccurrenceByBomRef.get (entries : OccurrenceByBomRef) (bomRef : JsString) : Option Uuid :=
  (entries.find? fun entry => decide (entry.1 = bomRef)).map (·.2)

/-- `toOccurrenceVersionColumns`, with its error. -/
def versionColumns (version : ComponentVersion) : Except Stop OccurrenceVersionColumns :=
  match toOccurrenceVersionColumns version with
  | none => .error (.returned .validation)
  | some columns => .ok columns

/-- The loop over the components.  The ids of the rows count up from `id`. -/
def writeOccurrences (input : PersistComponentGraphInput) :
    Uuid → List NormalizedComponent → OccurrenceByBomRef → Tx OccurrenceByBomRef
  | _, [], occurrenceByBomRef => pure occurrenceByBomRef
  | id, component :: rest, occurrenceByBomRef => do
      let version ← Work.ofExcept (versionColumns component.version)
      let componentId ← upsertComponent id input.organizationId component
      Work.write (.createOccurrence
        (occurrenceRow input component (id + 1) componentId version))
      writeOccurrences input (id + 2) rest
        ((component.bomRef.map (·, id + 1)).toList ++ occurrenceByBomRef)

/-- The row of an edge. -/
def edgeRow (input : PersistComponentGraphInput) (fromOccurrenceId toOccurrenceId : Uuid) :
    DependencyRelationshipRow where
  organizationId := input.organizationId
  sbomId := input.sbomId
  sbomIngestionId := input.sbomIngestionId
  fromOccurrenceId := fromOccurrenceId
  toOccurrenceId := toOccurrenceId

/-- The loop over the edges. -/
def edgeData (input : PersistComponentGraphInput) (occurrenceByBomRef : OccurrenceByBomRef) :
    List NormalizedDependencyEdge → Except Stop (List DependencyRelationshipRow)
  | [] => .ok []
  | edge :: rest =>
      if edge.fromBomRef = edge.toBomRef then edgeData input occurrenceByBomRef rest
      else
        match occurrenceByBomRef.get edge.fromBomRef, occurrenceByBomRef.get edge.toBomRef with
        | some fromOccurrenceId, some toOccurrenceId => do
            let rows ← edgeData input occurrenceByBomRef rest
            .ok (edgeRow input fromOccurrenceId toOccurrenceId :: rows)
        | _, _ => .error (.returned .invalidGraph)

/-- `createMany` of the edges. -/
def writeEdges (rows : List DependencyRelationshipRow) : Tx Unit :=
  if rows.length > 0 then Work.write (.createEdges rows) else pure ()

/-- An ASCII letter or digit. -/
def isAlphanumeric (u : UInt16) : Bool := isDigit u || isUpper u || (0x61 ≤ u && u ≤ 0x7A)

/-- A character of `VERSION_LABEL`. -/
def isVersionLabelUnit (u : UInt16) : Bool :=
  isAlphanumeric u || [unit '.', unit '_', unit '+', unit '-'].contains u

/-- `requireVersionLabel` does not throw. -/
def isVersionLabel (text : JsString) : Bool :=
  match text with
  | [] => false
  | first :: rest =>
      isAlphanumeric first && rest.all isVersionLabelUnit && decide (rest.length ≤ 63)

/-- The command that completes the ingestion of a graph. -/
def completeCommand (graph : NormalizedComponentGraph) (completedAt : Timestamp) :
    Session8IngestionCommand :=
  .complete completedAt graph.graphCompleteness graph.componentCount graph.dependencyEdgeCount
    graph.warningCount

/-- `applySession8IngestionTransition`, with an error that is returned. -/
def completedSnapshot (ingestion : SbomIngestionRow) (graph : NormalizedComponentGraph)
    (completedAt : Timestamp) : Except Stop Session8IngestionSnapshot :=
  (applySession8IngestionTransition (some ingestion.snapshot)
    (completeCommand graph completedAt)).mapError .returned

/-- The body from the read of the SBOM to its update. -/
def writeGraph (id : Uuid) (completedAt : Timestamp) (input : PersistComponentGraphInput)
    (ingestion : SbomIngestionRow) : Tx Unit := do
  let sbom ← Work.read (·.sbom input.organizationId input.sbomId input.assetId)
  Work.require (sbom.isSome = true) (.returned .invalidTransition)
  let occurrenceByBomRef ← writeOccurrences input id input.graph.components []
  let edges ← Work.ofExcept (edgeData input occurrenceByBomRef input.graph.edges)
  writeEdges edges
  let complete ← Work.ofExcept (completedSnapshot ingestion input.graph completedAt)
  let transitioned ← Work.read fun view => view.ingestions.countP
    (·.completes input.organizationId input.sbomIngestionId ingestion.version)
  Work.write (.completeIngestion input.organizationId input.sbomIngestionId ingestion.version
    complete)
  Work.require (transitioned ≠ 0) (.returned .invalidTransition)
  Work.require (isVersionLabel input.graph.parserVersion = true) .thrown
  Work.write (.updateSbom input.organizationId input.sbomId input.graph.parserVersion
    input.graph.specificationVersion)

/-- `replaceAssetPointerIfCandidateIsCurrent`, under the lock of the asset. -/
def replaceAssetPointerIfCandidateIsCurrent (input : PersistComponentGraphInput)
    (completedAt : Timestamp) : Tx Unit := do
  let currentIngestionId ← Work.read (·.pointer input.organizationId input.assetId)
  let currentWins ← Work.read fun view => currentIngestionId.bind fun currentId =>
    view.currentWins input.organizationId input.assetId currentId input.sbomIngestionId
  if currentWins = some true then pure ()
  else Work.write (.replacePointer input.organizationId input.assetId input.sbomIngestionId
    completedAt)

/-- The audit event of a completion. -/
def completedAudit (input : PersistComponentGraphInput) : CompletedAuditRow where
  organizationId := input.organizationId
  subjectId := input.sbomIngestionId
  correlationId := input.correlationId
  sbomId := input.sbomId
  graphCompleteness := input.graph.graphCompleteness
  componentCount := input.graph.componentCount
  dependencyEdgeCount := input.graph.dependencyEdgeCount
  warningCount := input.graph.warningCount
  parserVersion := input.graph.parserVersion
  normalizationVersion := input.graph.normalizationVersion

/-- The update of the job that the caller owns. -/
def succeedOwnedJob (input : PersistComponentGraphInput) (completedAt : Timestamp) : Tx Unit :=
  match input.ownedJob with
  | none => pure ()
  | some job => Work.write (.succeedJob input.organizationId job completedAt)

/-- The body from the pointer of the asset to its end. -/
def finishGraph (completedAt : Timestamp) (input : PersistComponentGraphInput) : Tx Unit := do
  replaceAssetPointerIfCandidateIsCurrent input completedAt
  Work.write (.createAudit (completedAudit input))
  succeedOwnedJob input completedAt

/-! ## What is stored for a graph -/

/-- Whose graph rows are. -/
structure GraphOwner where
  organizationId : Uuid
  assetId : Uuid
  sbomId : Uuid
  sbomIngestionId : Uuid
  deriving DecidableEq

/-- The owner of the rows of an ingestion. -/
def SbomIngestionRow.owner (ingestion : SbomIngestionRow) : GraphOwner :=
  ⟨ingestion.organizationId, ingestion.assetId, ingestion.sbomId, ingestion.id⟩

/-- The owner of the rows that a call writes. -/
def PersistComponentGraphInput.owner (input : PersistComponentGraphInput) : GraphOwner :=
  ⟨input.organizationId, input.assetId, input.sbomId, input.sbomIngestionId⟩

/-- The row of a component, over the stored components. -/
structure StoredOccurrence (owner : GraphOwner) (components : List ComponentRow)
    (component : NormalizedComponent) (row : ComponentOccurrenceRow) : Prop where
  owned : (⟨row.organizationId, row.assetId, row.sbomId, row.sbomIngestionId⟩ : GraphOwner) =
    owner
  bomRef : row.bomRef = component.bomRef
  version : toOccurrenceVersionColumns component.version = some row.version
  versionedPurl : row.versionedPurl = component.versionedPurl
  isDirect : row.isDirect = component.isDirect
  component : ∃ stored ∈ components, stored.id = row.componentId ∧
    stored.organizationId = owner.organizationId ∧ stored.identityKey = component.identityKey

/-- The row of an edge, over the stored occurrences. -/
structure StoredEdge (owner : GraphOwner) (occurrences : List ComponentOccurrenceRow)
    (edge : NormalizedDependencyEdge) (row : DependencyRelationshipRow) : Prop where
  organizationId : row.organizationId = owner.organizationId
  sbomId : row.sbomId = owner.sbomId
  sbomIngestionId : row.sbomIngestionId = owner.sbomIngestionId
  source : ∃ occurrence ∈ occurrences, occurrence.id = row.fromOccurrenceId ∧
    occurrence.bomRef = some edge.fromBomRef
  target : ∃ occurrence ∈ occurrences, occurrence.id = row.toOccurrenceId ∧
    occurrence.bomRef = some edge.toBomRef

/-! ## What the body writes -/

/-- A write of the loop over the components. -/
def Write.isComponentRow : Write → Bool
  | .createComponent _ | .createOccurrence _ => true
  | _ => false

theorem versionColumns_eq_ok {version : ComponentVersion}
    (h : parseComponentVersion version = some version) :
    ∃ columns, versionColumns version = .ok columns ∧
      toOccurrenceVersionColumns version = some columns := by
  unfold versionColumns
  cases hcolumns : toOccurrenceVersionColumns version with
  | none =>
      unfold toOccurrenceVersionColumns at hcolumns
      rw [h] at hcolumns
      cases hcolumns
  | some columns => exact ⟨columns, rfl, rfl⟩

/-- What `upsertComponent` does to the stored components. -/
def upsertRow (id organizationId : Uuid) (component : NormalizedComponent)
    (stored : List ComponentRow) : List ComponentRow :=
  match stored.find? fun row =>
      decide (row.organizationId = organizationId ∧ row.identityKey = component.identityKey) with
  | some _ => stored
  | none => stored ++ [newComponentRow id organizationId component]

/-- What the loop over the components does to the stored components. -/
def upsertRows (organizationId : Uuid) :
    Uuid → List NormalizedComponent → List ComponentRow → List ComponentRow
  | _, [], stored => stored
  | id, component :: rest, stored =>
      upsertRows organizationId (id + 2) rest (upsertRow id organizationId component stored)

/-- `upsertComponent` returns the id of a row with the identity key of the component. -/
theorem upsertComponent_run (id organizationId : Uuid) (component : NormalizedComponent)
    (view : Database) :
    ∃ componentId writes,
      upsertComponent id organizationId component view = (.ok componentId, writes) ∧
      (∀ write ∈ writes, ∃ row, write = .createComponent row) ∧
      view.components ++ writes.flatMap Write.components =
        upsertRow id organizationId component view.components ∧
      ∃ stored ∈ upsertRow id organizationId component view.components,
        stored.id = componentId ∧ stored.organizationId = organizationId ∧
          stored.identityKey = component.identityKey := by
  unfold upsertComponent upsertRow
  rw [Work.read_bind_run]
  unfold Database.component
  cases hexisting : view.components.find? fun row => decide (row.organizationId =
      organizationId ∧ row.identityKey = component.identityKey) with
  | none =>
      refine ⟨id, [.createComponent (newComponentRow id organizationId component)], rfl, ?_, rfl,
        newComponentRow id organizationId component, ?_, rfl, rfl, rfl⟩
      · intro write hwrite
        exact ⟨_, List.mem_singleton.mp hwrite⟩
      · exact List.mem_append_right _ List.mem_cons_self
  | some row =>
      have hmem := List.mem_of_find?_eq_some hexisting
      have hfound := List.find?_some hexisting
      obtain ⟨horganization, hkey⟩ := of_decide_eq_true hfound
      refine ⟨row.id, [], rfl, ?_, List.append_nil _, row, hmem, rfl, horganization, hkey⟩
      intro write hwrite
      cases hwrite

/-- The entries of `occurrenceByBomRef` that rows make, in their order. -/
def entriesOf (rows : List ComponentOccurrenceRow) : OccurrenceByBomRef :=
  rows.filterMap fun row => row.bomRef.map (·, row.id)

/-- What the loop over the components did: its writes, and the entries it added. -/
structure WroteOccurrences (input : PersistComponentGraphInput) (stored : List ComponentRow)
    (id : Uuid) (components : List NormalizedComponent)
    (entries entries' : OccurrenceByBomRef) (writes : List Write) : Prop where
  rows : ∀ write ∈ writes, write.isComponentRow = true
  created : stored ++ writes.flatMap Write.components =
    upsertRows input.organizationId id components stored
  occurrences : List.Forall₂
    (StoredOccurrence input.owner (stored ++ writes.flatMap Write.components)) components
    (writes.flatMap Write.occurrences)
  ids : (writes.flatMap Write.occurrences).Pairwise fun row row' => row.id < row'.id
  idsFrom : ∀ row ∈ writes.flatMap Write.occurrences, id < row.id
  entries : entries' = (entriesOf (writes.flatMap Write.occurrences)).reverse ++ entries

theorem StoredOccurrence.mono {owner : GraphOwner} {components components' : List ComponentRow}
    {component : NormalizedComponent} {row : ComponentOccurrenceRow}
    (h : StoredOccurrence owner components component row)
    (hsub : ∀ stored ∈ components, stored ∈ components') :
    StoredOccurrence owner components' component row := by
  obtain ⟨stored, hstored, hfields⟩ := h.component
  exact { h with component := ⟨stored, hsub stored hstored, hfields⟩ }

/-- The loop over the components succeeds when their versions are valid. -/
theorem writeOccurrences_run (input : PersistComponentGraphInput)
    {components : List NormalizedComponent} :
    ∀ (id : Uuid) (entries : OccurrenceByBomRef) (view : Database),
      (∀ component ∈ components,
        parseComponentVersion component.version = some component.version) →
      ∃ entries' writes,
        writeOccurrences input id components entries view = (.ok entries', writes) ∧
        WroteOccurrences input view.components id components entries entries' writes := by
  induction components with
  | nil =>
      intro id entries view _
      refine ⟨entries, [], rfl, ?_, List.append_nil _, List.Forall₂.nil, List.Pairwise.nil, ?_,
        rfl⟩
      · exact fun _ hwrite => (List.not_mem_nil hwrite).elim
      · exact fun _ hrow => (List.not_mem_nil hrow).elim
  | cons component rest ih =>
      intro id entries view hversions
      obtain ⟨version, hversion, hcolumns⟩ :=
        versionColumns_eq_ok (hversions component List.mem_cons_self)
      obtain ⟨componentId, upserts, hupsert, hcreates, hstored, stored, hmem, hid⟩ :=
        upsertComponent_run id input.organizationId component view
      let row := occurrenceRow input component (id + 1) componentId version
      let view' := applyAll (upserts ++ [.createOccurrence row]) view
      obtain ⟨entries', writes, hrest, hwrote⟩ := ih (id + 2)
        ((component.bomRef.map (·, id + 1)).toList ++ entries) view'
        (fun c hc => hversions c (List.mem_cons_of_mem _ hc))
      have hnoRows : upserts.flatMap Write.occurrences = [] := by
        refine List.flatMap_eq_nil_iff.mpr fun write hwrite => ?_
        obtain ⟨created, rfl⟩ := hcreates write hwrite
        rfl
      have hcomponents : view'.components =
          upsertRow id input.organizationId component view.components := by
        rw [← hstored]
        change (applyAll (upserts ++ [.createOccurrence row]) view).components = _
        rw [components_applyAll, List.flatMap_append]
        exact congrArg (view.components ++ ·) (List.append_nil _)
      have hall : (upserts ++ .createOccurrence row :: writes).flatMap Write.occurrences =
          row :: writes.flatMap Write.occurrences := by
        rw [List.flatMap_append, hnoRows]
        rfl
      have hallComponents : view.components ++
          (upserts ++ .createOccurrence row :: writes).flatMap Write.components =
            view'.components ++ writes.flatMap Write.components := by
        rw [hcomponents, ← hstored, List.flatMap_append, List.append_assoc]
        rfl
      refine ⟨entries', upserts ++ .createOccurrence row :: writes, ?_, ?_, ?_, ?_, ?_, ?_, ?_⟩
      · unfold writeOccurrences
        rw [Work.ofExcept_bind_run hversion]
        refine Work.bind_run hupsert (Work.bind_run (Work.write_run _ _) ?_)
        have hview : Writable.apply (Write.createOccurrence row) (applyAll upserts view) =
            view' := by
          change _ = applyAll (upserts ++ [.createOccurrence row]) view
          rw [applyAll_append]
          rfl
        rw [← hview] at hrest
        exact hrest
      · intro write hwrite
        rcases List.mem_append.mp hwrite with hwrite | hwrite
        · obtain ⟨created, rfl⟩ := hcreates write hwrite
          rfl
        · rcases List.mem_cons.mp hwrite with rfl | hwrite
          · rfl
          · exact hwrote.rows write hwrite
      · rw [hallComponents, hwrote.created, hcomponents]
        rfl
      · rw [hall, hallComponents]
        have hrow : StoredOccurrence input.owner
            (view'.components ++ writes.flatMap Write.components) component row := by
          refine ⟨rfl, rfl, hcolumns, rfl, rfl, stored, ?_, hid⟩
          rw [hcomponents]
          exact List.mem_append_left _ hmem
        exact List.Forall₂.cons hrow hwrote.occurrences
      · rw [hall]
        refine List.Pairwise.cons (fun later hlater => ?_) hwrote.ids
        exact Nat.lt_trans (Nat.lt_succ_self (id + 1)) (hwrote.idsFrom later hlater)
      · rw [hall]
        intro later hlater
        rcases List.mem_cons.mp hlater with rfl | hlater
        · exact Nat.lt_succ_self id
        · exact Nat.lt_trans (Nat.lt_add_of_pos_right Nat.two_pos)
            (hwrote.idsFrom later hlater)
      · rw [hwrote.entries, hall]
        unfold entriesOf
        cases hbomRef : component.bomRef with
        | none =>
            rw [List.filterMap_cons_none (by rw [show row.bomRef = none from hbomRef]; rfl)]
            rfl
        | some bomRef =>
            rw [List.filterMap_cons_some (by rw [show row.bomRef = some bomRef from hbomRef]; rfl),
              List.reverse_cons, List.append_assoc]
            rfl

theorem get_of_mem {entries : OccurrenceByBomRef} {bomRef : JsString} {id : Uuid}
    (h : (bomRef, id) ∈ entries) :
    ∃ found, entries.get bomRef = some found ∧ (bomRef, found) ∈ entries := by
  unfold OccurrenceByBomRef.get
  cases hfind : entries.find? fun entry => decide (entry.1 = bomRef) with
  | none => exact absurd rfl (of_decide_eq_false (Bool.eq_false_iff.mpr
      (List.find?_eq_none.mp hfind _ h)))
  | some entry =>
      have hfound := List.find?_some hfind
      have hkey := of_decide_eq_true hfound
      refine ⟨entry.2, rfl, ?_⟩
      rw [← hkey]
      exact List.mem_of_find?_eq_some hfind

theorem mem_entriesOf {rows : List ComponentOccurrenceRow} {bomRef : JsString} {id : Uuid} :
    (bomRef, id) ∈ entriesOf rows ↔ ∃ row ∈ rows, row.id = id ∧ row.bomRef = some bomRef := by
  unfold entriesOf
  rw [List.mem_filterMap]
  constructor
  · rintro ⟨row, hrow, hentry⟩
    obtain ⟨found, hfound, hpair⟩ := Option.map_eq_some_iff.mp hentry
    cases hpair
    exact ⟨row, hrow, rfl, hfound⟩
  · rintro ⟨row, hrow, rfl, hbomRef⟩
    exact ⟨row, hrow, by rw [hbomRef]; rfl⟩

/-- A reference of a component leads to its row. -/
theorem get_entriesOf {owner : GraphOwner} {stored : List ComponentRow}
    {components : List NormalizedComponent} {rows : List ComponentOccurrenceRow}
    {bomRef : JsString} (hrows : List.Forall₂ (StoredOccurrence owner stored) components rows)
    (h : bomRef ∈ bomRefsOf components) :
    ∃ id, OccurrenceByBomRef.get (entriesOf rows).reverse bomRef = some id ∧
      ∃ row ∈ rows, row.id = id ∧ row.bomRef = some bomRef := by
  obtain ⟨component, hcomponent, hbomRef⟩ := List.mem_filterMap.mp h
  obtain ⟨row, hrow, hstored⟩ := mem_of_forall₂ hrows hcomponent
  have hentry : (bomRef, row.id) ∈ (entriesOf rows).reverse :=
    List.mem_reverse.mpr (mem_entriesOf.mpr ⟨row, hrow, rfl, by rw [hstored.bomRef, hbomRef]⟩)
  obtain ⟨id, hget, hmem⟩ := get_of_mem hentry
  exact ⟨id, hget, mem_entriesOf.mp (List.mem_reverse.mp hmem)⟩

/-- The loop over the edges of a valid graph finds both ends of every edge. -/
theorem edgeData_eq_ok (input : PersistComponentGraphInput) {stored : List ComponentRow}
    {components : List NormalizedComponent} {rows : List ComponentOccurrenceRow}
    (hrows : List.Forall₂ (StoredOccurrence input.owner stored) components rows)
    {edges : List NormalizedDependencyEdge}
    (hedges : ∀ edge ∈ edges, edge.fromBomRef ≠ edge.toBomRef ∧
      edge.fromBomRef ∈ bomRefsOf components ∧ edge.toBomRef ∈ bomRefsOf components) :
    ∃ data, edgeData input (entriesOf rows).reverse edges = .ok data ∧
      List.Forall₂ (StoredEdge input.owner rows) edges data := by
  induction edges with
  | nil => exact ⟨[], rfl, List.Forall₂.nil⟩
  | cons edge rest ih =>
      obtain ⟨data, hdata, hstored⟩ := ih fun e he => hedges e (List.mem_cons_of_mem _ he)
      obtain ⟨hself, hfrom, hto⟩ := hedges edge List.mem_cons_self
      obtain ⟨fromId, hgetFrom, hsource⟩ := get_entriesOf hrows hfrom
      obtain ⟨toId, hgetTo, htarget⟩ := get_entriesOf hrows hto
      refine ⟨edgeRow input fromId toId :: data, ?_, ?_⟩
      · unfold edgeData
        rw [if_neg hself, hgetFrom, hgetTo, hdata]
        rfl
      · exact List.Forall₂.cons ⟨rfl, rfl, rfl, hsource, htarget⟩ hstored

/-- What writes that complete an ingestion with its graph do to each table but that of the
assets.  `next` is the snapshot of the completed ingestion. -/
structure Completing (input : PersistComponentGraphInput) (ingestion : SbomIngestionRow)
    (next : Session8IngestionSnapshot) (stored : List ComponentRow) (writes : List Write) :
    Prop where
  occurrences : List.Forall₂
    (StoredOccurrence input.owner (stored ++ writes.flatMap Write.components))
    input.graph.components (writes.flatMap Write.occurrences)
  ids : (writes.flatMap Write.occurrences).Pairwise fun row row' => row.id < row'.id
  edges : List.Forall₂ (StoredEdge input.owner (writes.flatMap Write.occurrences))
    input.graph.edges (writes.flatMap Write.edges)
  onIngestion : ∀ row : SbomIngestionRow, writes.foldl Write.onIngestion row =
    if row.completes input.organizationId input.sbomIngestionId ingestion.version then
      row.completeWith next else row
  onSbom : ∀ row : SbomRow, ∃ parserVersion specificationVersion,
    writes.foldl Write.onSbom row =
      { row with
        parserVersionLastSucceeded := parserVersion,
        specificationVersion := specificationVersion }

/-- What the writes of a graph do. -/
structure WroteGraph (input : PersistComponentGraphInput) (ingestion : SbomIngestionRow)
    (next : Session8IngestionSnapshot) (id : Uuid) (stored : List ComponentRow)
    (writes : List Write) : Prop extends Completing input ingestion next stored writes where
  created : stored ++ writes.flatMap Write.components =
    upsertRows input.organizationId id input.graph.components stored
  onAsset : ∀ row : AssetRow, writes.foldl Write.onAsset row = row

/-- The writes of the edges. -/
def edgeWrites (rows : List DependencyRelationshipRow) : List Write :=
  if rows.length > 0 then [.createEdges rows] else []

theorem writeEdges_run (rows : List DependencyRelationshipRow) (view : Database) :
    writeEdges rows view = (.ok (), edgeWrites rows) := by
  unfold writeEdges edgeWrites
  split
  · rfl
  · rfl

theorem edgeWrites_eq (rows : List DependencyRelationshipRow) :
    edgeWrites rows = [.createEdges rows] ∨ edgeWrites rows = [] ∧ rows = [] := by
  unfold edgeWrites
  by_cases hlength : rows.length > 0
  · exact .inl (if_pos hlength)
  · exact .inr ⟨if_neg hlength, List.eq_nil_of_length_eq_zero (by omega)⟩

/-- The writes before the completion: rows of components, occurrences and edges. -/
def Write.isGraphRow : Write → Bool
  | .createComponent _ | .createOccurrence _ | .createEdges _ => true
  | _ => false

theorem isGraphRow_of_isComponentRow {write : Write} (h : write.isComponentRow = true) :
    write.isGraphRow = true := by
  cases write with
  | createComponent row => rfl
  | createOccurrence row => rfl
  | _ => cases h

theorem edges_of_isComponentRow {write : Write} (h : write.isComponentRow = true) :
    write.edges = [] := by
  cases write with
  | createComponent row => rfl
  | createOccurrence row => rfl
  | _ => cases h

/-- A row of a graph updates no row of another table. -/
theorem unchanged_of_isGraphRow {write : Write} (h : write.isGraphRow = true) :
    (∀ row : SbomIngestionRow, write.onIngestion row = row) ∧
      (∀ row : SbomRow, write.onSbom row = row) ∧
        ∀ row : AssetRow, write.onAsset row = row := by
  cases write with
  | createComponent row => exact ⟨fun _ => rfl, fun _ => rfl, fun _ => rfl⟩
  | createOccurrence row => exact ⟨fun _ => rfl, fun _ => rfl, fun _ => rfl⟩
  | createEdges rows => exact ⟨fun _ => rfl, fun _ => rfl, fun _ => rfl⟩
  | _ => cases h

theorem ingestions_applyAll_graphRows {writes : List Write}
    (h : ∀ write ∈ writes, write.isGraphRow = true) (view : Database) :
    (applyAll writes view).ingestions = view.ingestions := by
  rw [ingestions_applyAll]
  have hsame : (fun row => writes.foldl Write.onIngestion row) = id := by
    funext row
    exact foldl_unchanged fun write hwrite => (unchanged_of_isGraphRow (h write hwrite)).1 row
  rw [hsame, List.map_id]

theorem graphRows_of {writes : List Write} (rows : List DependencyRelationshipRow)
    (h : ∀ write ∈ writes, write.isComponentRow = true) :
    ∀ write ∈ writes ++ edgeWrites rows, write.isGraphRow = true := by
  intro write hwrite
  rcases List.mem_append.mp hwrite with hwrite | hwrite
  · exact isGraphRow_of_isComponentRow (h write hwrite)
  · rcases edgeWrites_eq rows with hrows | ⟨hrows, -⟩
    · rw [hrows] at hwrite
      rw [List.mem_singleton.mp hwrite]
      rfl
    · rw [hrows] at hwrite
      cases hwrite

/-- The writes that complete the ingestion. -/
def completionWrites (input : PersistComponentGraphInput) (ingestion : SbomIngestionRow)
    (next : Session8IngestionSnapshot) : List Write :=
  [.completeIngestion input.organizationId input.sbomIngestionId ingestion.version next,
    .updateSbom input.organizationId input.sbomId input.graph.parserVersion
      input.graph.specificationVersion]

/-- The writes of a whole graph, put together. -/
theorem wroteGraph_of {input : PersistComponentGraphInput} {ingestion : SbomIngestionRow}
    {next : Session8IngestionSnapshot} {id : Uuid} {stored : List ComponentRow}
    {entries : OccurrenceByBomRef} {writes : List Write}
    {rows : List DependencyRelationshipRow}
    (hwrote : WroteOccurrences input stored id input.graph.components [] entries writes)
    (hedges : List.Forall₂ (StoredEdge input.owner (writes.flatMap Write.occurrences))
      input.graph.edges rows) :
    WroteGraph input ingestion next id stored (writes ++ edgeWrites rows ++
      completionWrites input ingestion next) := by
  have hcomponents : (edgeWrites rows).flatMap Write.components = [] := by
    rcases edgeWrites_eq rows with h | ⟨h, -⟩
    · rw [h]; rfl
    · rw [h]; rfl
  have hoccurrences : (edgeWrites rows).flatMap Write.occurrences = [] := by
    rcases edgeWrites_eq rows with h | ⟨h, -⟩
    · rw [h]; rfl
    · rw [h]; rfl
  have hrows : (edgeWrites rows).flatMap Write.edges = rows := by
    rcases edgeWrites_eq rows with h | ⟨h, hnil⟩
    · rw [h]; exact List.append_nil rows
    · rw [h, hnil]; rfl
  have hnoEdges : writes.flatMap Write.edges = [] :=
    List.flatMap_eq_nil_iff.mpr fun write hwrite =>
      edges_of_isComponentRow (hwrote.rows write hwrite)
  have hgraphRows := graphRows_of rows hwrote.rows
  have hallComponents : (writes ++ edgeWrites rows ++
      completionWrites input ingestion next).flatMap Write.components =
      writes.flatMap Write.components := by
    rw [List.flatMap_append, List.flatMap_append, hcomponents, List.append_nil]
    exact List.append_nil _
  have hallOccurrences : (writes ++ edgeWrites rows ++
      completionWrites input ingestion next).flatMap Write.occurrences =
      writes.flatMap Write.occurrences := by
    rw [List.flatMap_append, List.flatMap_append, hoccurrences, List.append_nil]
    exact List.append_nil _
  refine ⟨⟨?_, ?_, ?_, ?_, ?_⟩, ?_, ?_⟩
  · rw [hallComponents, hallOccurrences]
    exact hwrote.occurrences
  · rw [hallOccurrences]
    exact hwrote.ids
  · rw [hallOccurrences, List.flatMap_append, List.flatMap_append, hnoEdges, hrows]
    exact (List.append_nil rows).symm ▸ hedges
  · intro row
    rw [List.foldl_append, foldl_unchanged fun write hwrite =>
      (unchanged_of_isGraphRow (hgraphRows write hwrite)).1 row]
    rfl
  · intro row
    rw [List.foldl_append, foldl_unchanged fun write hwrite =>
      (unchanged_of_isGraphRow (hgraphRows write hwrite)).2.1 row]
    change ∃ parserVersion specificationVersion,
      (if row.organizationId = input.organizationId ∧ row.id = input.sbomId then
        { row with
          parserVersionLastSucceeded := some input.graph.parserVersion,
          specificationVersion := some input.graph.specificationVersion } else row) = _
    split
    · exact ⟨_, _, rfl⟩
    · exact ⟨row.parserVersionLastSucceeded, row.specificationVersion, rfl⟩
  · rw [hallComponents]
    exact hwrote.created
  · intro row
    rw [List.foldl_append, foldl_unchanged fun write hwrite =>
      (unchanged_of_isGraphRow (hgraphRows write hwrite)).2.2 row]
    rfl

/-- The snapshot of an ingestion that is completed with a graph. -/
theorem completedSnapshot_eq_ok {ingestion : SbomIngestionRow}
    {graph : NormalizedComponentGraph} (completedAt : Timestamp) (hvalid : graph.Valid)
    (hstate : ingestion.snapshot.state = .processing)
    (hstarted : ingestion.snapshot.startedAt ≠ none)
    (hstage : ingestion.snapshot.stage.any SbomIngestionStage.isUnused = false) :
    ∃ next, completedSnapshot ingestion graph completedAt = .ok next ∧
      next.state = .completed ∧ next.stage = some .persistGraph ∧
        next.graphCompleteness = some graph.graphCompleteness ∧
          next.componentCount = some graph.components.length ∧
            next.dependencyEdgeCount = some graph.edges.length ∧
              next.warningCount = some graph.warningCount := by
  refine ⟨_, mapError_eq_ok.mpr (complete_eq_ok hstate hstarted hstage hvalid.completeness),
    rfl, rfl, rfl, ?_, ?_, rfl⟩
  · exact congrArg some hvalid.componentCount
  · exact congrArg some hvalid.dependencyEdgeCount

/-- On a row that its transaction has locked the body writes the whole graph, unless the
label of the parser makes it throw: no error is returned after a write. -/
theorem writeGraph_run {id : Uuid} {completedAt : Timestamp}
    {input : PersistComponentGraphInput} {ingestion : SbomIngestionRow} {view : Database}
    {next : Session8IngestionSnapshot} (hvalid : input.graph.Valid)
    (hsbom : (view.sbom input.organizationId input.sbomId input.assetId).isSome = true)
    (hnext : completedSnapshot ingestion input.graph completedAt = .ok next)
    (hrow : view.ingestions.countP
      (·.completes input.organizationId input.sbomIngestionId ingestion.version) ≠ 0) :
    (∃ writes, writeGraph id completedAt input ingestion view = (.ok (), writes) ∧
      WroteGraph input ingestion next id view.components writes) ∨
    ∃ writes, writeGraph id completedAt input ingestion view = (.error .thrown, writes) := by
  have hversions : ∀ component ∈ input.graph.components,
      parseComponentVersion component.version = some component.version :=
    fun component hcomponent => (hvalid.components.valid component hcomponent).version
  obtain ⟨entries, writes, hloop, hwrote⟩ :=
    writeOccurrences_run input id [] view hversions
  have hentries : entries = (entriesOf (writes.flatMap Write.occurrences)).reverse := by
    rw [hwrote.entries]
    exact List.append_nil _
  obtain ⟨rows, hrows, hstored⟩ := edgeData_eq_ok input hwrote.occurrences
    fun edge hedge => (hvalid.edges edge hedge).2.2
  rw [← hentries] at hrows
  have hcount : (applyAll (edgeWrites rows) (applyAll writes view)).ingestions.countP
      (·.completes input.organizationId input.sbomIngestionId ingestion.version) ≠ 0 := by
    rw [← applyAll_append, ingestions_applyAll_graphRows (graphRows_of rows hwrote.rows)]
    exact hrow
  unfold writeGraph
  rw [Work.read_bind_run, Work.require_bind_run hsbom]
  by_cases hlabel : isVersionLabel input.graph.parserVersion = true
  · refine .inl ⟨_, ?_, wroteGraph_of hwrote hstored⟩
    rw [List.append_assoc]
    refine Work.bind_run hloop ?_
    rw [Work.ofExcept_bind_run hrows]
    refine Work.bind_run (writeEdges_run rows _) ?_
    rw [Work.ofExcept_bind_run hnext, Work.read_bind_run]
    refine Work.bind_run (Work.write_run _ _) ?_
    rw [Work.require_bind_run hcount, Work.require_bind_run hlabel]
    exact Work.write_run _ _
  · refine .inr ⟨writes ++ (edgeWrites rows ++ [.completeIngestion input.organizationId
      input.sbomIngestionId ingestion.version next]), ?_⟩
    refine Work.bind_run hloop ?_
    rw [Work.ofExcept_bind_run hrows]
    refine Work.bind_run (writeEdges_run rows _) ?_
    rw [Work.ofExcept_bind_run hnext, Work.read_bind_run]
    refine Work.bind_run (Work.write_run _ _) ?_
    rw [Work.require_bind_run hcount, Work.require_bind_run_error hlabel]

/-! ## How the transaction ends -/

/-- The pointer of the asset stays: what it names is not older than the candidate. -/
def CurrentWins (view : Database) (input : PersistComponentGraphInput) : Prop :=
  ((view.pointer input.organizationId input.assetId).bind fun currentId =>
    view.currentWins input.organizationId input.assetId currentId input.sbomIngestionId) =
      some true

instance (view : Database) (input : PersistComponentGraphInput) :
    Decidable (CurrentWins view input) :=
  inferInstanceAs (Decidable (_ = _))

/-- The asset of the graph. -/
def AssetRow.isOf (row : AssetRow) (input : PersistComponentGraphInput) : Prop :=
  row.organizationId = input.organizationId ∧ row.id = input.assetId

/-- What the writes at the end of the transaction do to each table. -/
structure Finished (input : PersistComponentGraphInput) (completedAt : Timestamp)
    (currentWins : Prop) (writes : List Write) : Prop where
  components : writes.flatMap Write.components = []
  occurrences : writes.flatMap Write.occurrences = []
  edges : writes.flatMap Write.edges = []
  onIngestion : ∀ row : SbomIngestionRow, writes.foldl Write.onIngestion row = row
  onSbom : ∀ row : SbomRow, writes.foldl Write.onSbom row = row
  kept : ∀ row : AssetRow, currentWins ∨ ¬row.isOf input →
    writes.foldl Write.onAsset row = row
  replaced : ∀ row : AssetRow, ¬currentWins → row.isOf input →
    writes.foldl Write.onAsset row =
      { row with
        lastSuccessfulSbomIngestionId := some input.sbomIngestionId,
        lastSuccessfulSbomIngestionAt := some completedAt }

/-- The writes of the pointer. -/
def pointerWrites (view : Database) (input : PersistComponentGraphInput)
    (completedAt : Timestamp) : List Write :=
  if CurrentWins view input then []
  else [.replacePointer input.organizationId input.assetId input.sbomIngestionId completedAt]

/-- The writes of the job. -/
def jobWrites (input : PersistComponentGraphInput) (completedAt : Timestamp) : List Write :=
  (input.ownedJob.map (Write.succeedJob input.organizationId · completedAt)).toList

theorem replaceAssetPointer_run (input : PersistComponentGraphInput) (completedAt : Timestamp)
    (view : Database) :
    replaceAssetPointerIfCandidateIsCurrent input completedAt view =
      (.ok (), pointerWrites view input completedAt) := by
  unfold replaceAssetPointerIfCandidateIsCurrent pointerWrites
  rw [Work.read_bind_run, Work.read_bind_run]
  change (if CurrentWins view input then _ else _ : Tx Unit) view = _
  by_cases hwins : CurrentWins view input
  · rw [if_pos hwins, if_pos hwins]
    rfl
  · rw [if_neg hwins, if_neg hwins]
    rfl

theorem succeedOwnedJob_run (input : PersistComponentGraphInput) (completedAt : Timestamp)
    (view : Database) :
    succeedOwnedJob input completedAt view = (.ok (), jobWrites input completedAt) := by
  unfold succeedOwnedJob jobWrites
  cases input.ownedJob with
  | none => rfl
  | some job => rfl

theorem foldl_onAsset_pointerWrites (view : Database) (input : PersistComponentGraphInput)
    (completedAt : Timestamp) (row : AssetRow) :
    (pointerWrites view input completedAt).foldl Write.onAsset row =
      if CurrentWins view input then row
      else Write.onAsset row (.replacePointer input.organizationId input.assetId
        input.sbomIngestionId completedAt) := by
  unfold pointerWrites
  split
  · rfl
  · rfl

/-- The writes at the end of the transaction. -/
def finishWrites (view : Database) (input : PersistComponentGraphInput)
    (completedAt : Timestamp) : List Write :=
  pointerWrites view input completedAt ++
    .createAudit (completedAudit input) :: jobWrites input completedAt

/-- A write that touches no row of a graph. -/
structure Write.Unrelated (write : Write) : Prop where
  components : write.components = []
  occurrences : write.occurrences = []
  edges : write.edges = []
  onIngestion : ∀ row : SbomIngestionRow, write.onIngestion row = row
  onSbom : ∀ row : SbomRow, write.onSbom row = row

theorem unrelated_of_mem_finishWrites {view : Database} {input : PersistComponentGraphInput}
    {completedAt : Timestamp} {write : Write} (h : write ∈ finishWrites view input completedAt) :
    write.Unrelated := by
  unfold finishWrites pointerWrites jobWrites at h
  rcases List.mem_append.mp h with h | h
  · split at h
    · cases h
    · rw [List.mem_singleton.mp h]
      exact ⟨rfl, rfl, rfl, fun _ => rfl, fun _ => rfl⟩
  · rcases List.mem_cons.mp h with rfl | h
    · exact ⟨rfl, rfl, rfl, fun _ => rfl, fun _ => rfl⟩
    · obtain ⟨job, -, rfl⟩ := Option.map_eq_some_iff.mp (Option.mem_toList.mp h)
      exact ⟨rfl, rfl, rfl, fun _ => rfl, fun _ => rfl⟩

theorem foldl_onAsset_finishWrites (view : Database) (input : PersistComponentGraphInput)
    (completedAt : Timestamp) (row : AssetRow) :
    (finishWrites view input completedAt).foldl Write.onAsset row =
      if CurrentWins view input then row
      else Write.onAsset row (.replacePointer input.organizationId input.assetId
        input.sbomIngestionId completedAt) := by
  unfold finishWrites
  rw [List.foldl_append, foldl_onAsset_pointerWrites]
  unfold jobWrites
  cases input.ownedJob with
  | none => rfl
  | some job => rfl

/-- The end of the body never fails. -/
theorem finishGraph_run (completedAt : Timestamp) (input : PersistComponentGraphInput)
    (view : Database) :
    ∃ writes, finishGraph completedAt input view = (.ok (), writes) ∧
      Finished input completedAt (CurrentWins view input) writes := by
  refine ⟨finishWrites view input completedAt, ?_, ?_, ?_, ?_, ?_, ?_, ?_, ?_⟩
  · unfold finishGraph
    refine Work.bind_run (replaceAssetPointer_run input completedAt view) ?_
    exact Work.bind_run (Work.write_run _ _) (succeedOwnedJob_run input completedAt _)
  · exact List.flatMap_eq_nil_iff.mpr fun _ h => (unrelated_of_mem_finishWrites h).components
  · exact List.flatMap_eq_nil_iff.mpr fun _ h => (unrelated_of_mem_finishWrites h).occurrences
  · exact List.flatMap_eq_nil_iff.mpr fun _ h => (unrelated_of_mem_finishWrites h).edges
  · exact fun row => foldl_unchanged fun _ h =>
      (unrelated_of_mem_finishWrites h).onIngestion row
  · exact fun row => foldl_unchanged fun _ h => (unrelated_of_mem_finishWrites h).onSbom row
  · intro row hkept
    rw [foldl_onAsset_finishWrites]
    rcases hkept with hwins | hother
    · exact if_pos hwins
    · split
      · rfl
      · exact if_neg hother
  · intro row hwins hsame
    rw [foldl_onAsset_finishWrites, if_neg hwins]
    exact if_pos hsame

/-- The end of the body adds no row of the graph. -/
theorem Completing.append {input : PersistComponentGraphInput} {ingestion : SbomIngestionRow}
    {next : Session8IngestionSnapshot} {stored : List ComponentRow} {writes writes' : List Write}
    {completedAt : Timestamp} {currentWins : Prop}
    (h : Completing input ingestion next stored writes)
    (h' : Finished input completedAt currentWins writes') :
    Completing input ingestion next stored (writes ++ writes') := by
  refine ⟨?_, ?_, ?_, ?_, ?_⟩
  · rw [List.flatMap_append, List.flatMap_append, h'.components, h'.occurrences,
      List.append_nil, List.append_nil]
    exact h.occurrences
  · rw [List.flatMap_append, h'.occurrences, List.append_nil]
    exact h.ids
  · rw [List.flatMap_append, List.flatMap_append, h'.occurrences, h'.edges, List.append_nil,
      List.append_nil]
    exact h.edges
  · intro row
    rw [List.foldl_append, h'.onIngestion]
    exact h.onIngestion row
  · intro row
    rw [List.foldl_append, h'.onSbom]
    exact h.onSbom row

/-- More stored components do no harm. -/
theorem Completing.mono {input : PersistComponentGraphInput} {ingestion : SbomIngestionRow}
    {next : Session8IngestionSnapshot} {stored stored' : List ComponentRow}
    {writes : List Write} (h : Completing input ingestion next stored writes)
    (hsub : ∀ row ∈ stored, row ∈ stored') :
    Completing input ingestion next stored' writes := by
  refine { h with occurrences := h.occurrences.imp fun component row hrow => hrow.mono ?_ }
  intro stored hstored
  rcases List.mem_append.mp hstored with hstored | hstored
  · exact List.mem_append_left _ (hsub stored hstored)
  · exact List.mem_append_right _ hstored

end PatchPilot.Sbom
