import Mathlib.Data.List.Nodup
import PatchPilot.Sbom.PersistenceRuns

set_option autoImplicit false

/-!
# Sbom: a graph is stored as a whole or not at all

The rows of an ingestion are those of one valid graph once it is completed, and there are
none before.  The lock on the row of an ingestion is what keeps it as it was read until its
transaction ends.
-/

namespace PatchPilot.Sbom

open PatchPilot.Foundation

/-! ## Stored graphs -/

/-- The rows and the counts of an ingestion are those of a valid graph. -/
structure StoredGraph (db : Database) (ingestion : SbomIngestionRow)
    (graph : NormalizedComponentGraph) : Prop where
  valid : graph.Valid
  occurrences : List.Forall₂ (StoredOccurrence ingestion.owner db.components) graph.components
    (db.occurrencesOf ingestion.organizationId ingestion.id)
  ids : ((db.occurrencesOf ingestion.organizationId ingestion.id).map (·.id)).Nodup
  edges : List.Forall₂
    (StoredEdge ingestion.owner (db.occurrencesOf ingestion.organizationId ingestion.id))
    graph.edges (db.edgesOf ingestion.organizationId ingestion.id)
  componentCount : ingestion.snapshot.componentCount = some graph.components.length
  dependencyEdgeCount : ingestion.snapshot.dependencyEdgeCount = some graph.edges.length
  warningCount : ingestion.snapshot.warningCount = some graph.warningCount
  graphCompleteness : ingestion.snapshot.graphCompleteness = some graph.graphCompleteness

/-- An ingestion has a whole graph when it is completed, and no rows before. -/
structure GraphStored (db : Database) (ingestion : SbomIngestionRow) : Prop where
  completed : ingestion.snapshot.state = .completed → ∃ graph, StoredGraph db ingestion graph
  occurrences : ingestion.snapshot.state ≠ .completed →
    db.occurrencesOf ingestion.organizationId ingestion.id = []
  edges : ingestion.snapshot.state ≠ .completed →
    db.edgesOf ingestion.organizationId ingestion.id = []

/-- Tables that hold whole graphs. -/
structure Sound (db : Database) : Prop where
  ids : (db.ingestions.map (·.id)).Nodup
  sboms : ∀ row ∈ db.ingestions,
    (db.sbom row.organizationId row.sbomId row.assetId).isSome = true
  stages : ∀ row ∈ db.ingestions, row.snapshot.stage.any SbomIngestionStage.isUnused = false
  occurrenceOwners : ∀ row ∈ db.occurrences, ∃ ingestion ∈ db.ingestions,
    ingestion.id = row.sbomIngestionId
  edgeOwners : ∀ row ∈ db.edges, ∃ ingestion ∈ db.ingestions, ingestion.id = row.sbomIngestionId
  graphs : ∀ row ∈ db.ingestions, GraphStored db row

/-! ## What time does to the tables -/

/-- Components stay, and an ingestion that changes has a greater version. -/
structure Later (db db' : Database) : Prop where
  components : ∀ row ∈ db.components, row ∈ db'.components
  ingestions : ∀ row ∈ db.ingestions, ∃ row' ∈ db'.ingestions, row'.id = row.id ∧
    (row' = row ∨ row.version < row'.version)

theorem later_of_map {db db' : Database} {update : SbomIngestionRow → SbomIngestionRow}
    (hcomponents : ∀ row ∈ db.components, row ∈ db'.components)
    (hmap : db'.ingestions = db.ingestions.map update)
    (hupdate : ∀ row, (update row).id = row.id ∧
      (update row = row ∨ row.version < (update row).version)) : Later db db' := by
  refine ⟨hcomponents, ?_⟩
  intro row hrow
  refine ⟨update row, ?_, hupdate row⟩
  rw [hmap]
  exact List.mem_map_of_mem hrow

theorem later_of_append {db db' : Database} {rows : List SbomIngestionRow}
    (hcomponents : db'.components = db.components)
    (happend : db'.ingestions = db.ingestions ++ rows) : Later db db' := by
  refine ⟨fun row hrow => ?_, fun row hrow => ⟨row, ?_, rfl, .inl rfl⟩⟩
  · rw [hcomponents]
    exact hrow
  · rw [happend]
    exact List.mem_append_left _ hrow

theorem eq_of_id {rows : List SbomIngestionRow} (hids : (rows.map (·.id)).Nodup)
    {row row' : SbomIngestionRow} (hrow : row ∈ rows) (hrow' : row' ∈ rows)
    (hid : row.id = row'.id) : row = row' :=
  List.inj_on_of_nodup_map hids hrow hrow' hid

/-! ## Prepared updates -/

/-- What is known of a prepared update. -/
structure UpdateOk (db : Database) (update : PreparedUpdate) : Prop where
  expected : update.expectedVersion ≤ update.current.version
  notCompleted : update.current.snapshot.state ≠ .completed
  next : update.next.state ≠ .completed
  stage : update.next.stage.any SbomIngestionStage.isUnused = false
  current : ∃ row ∈ db.ingestions, row.id = update.current.id ∧
    (row = update.current ∨ update.current.version < row.version)

theorem UpdateOk.later {db db' : Database} {update : PreparedUpdate} (h : UpdateOk db update)
    (hlater : Later db db') : UpdateOk db' update := by
  obtain ⟨row, hrow, hid, hversion⟩ := h.current
  obtain ⟨row', hrow', hid', hversion'⟩ := hlater.ingestions row hrow
  refine { h with current := ⟨row', hrow', hid'.trans hid, ?_⟩ }
  rcases hversion' with rfl | hgrown
  · exact hversion
  · rcases hversion with rfl | hversion
    · exact .inr hgrown
    · exact .inr (Nat.lt_trans hversion hgrown)

/-- The row that an update changes is the one that was read. -/
theorem UpdateOk.eq_current {db : Database} {update : PreparedUpdate}
    (h : UpdateOk db update) (hids : (db.ingestions.map (·.id)).Nodup)
    {row : SbomIngestionRow} (hrow : row ∈ db.ingestions) (hid : row.id = update.current.id)
    (hversion : row.version = update.expectedVersion) : row = update.current := by
  obtain ⟨read, hread, hreadId, hsame⟩ := h.current
  have heq := eq_of_id hids hrow hread (hid.trans hreadId.symm)
  rcases hsame with hsame | hgrown
  · rw [heq, hsame]
  · rw [← heq, hversion] at hgrown
    exact absurd h.expected (Nat.not_le_of_lt hgrown)

theorem completes_of_not_target {command : Session8IngestionCommand}
    (h : command.completes = false) : command.target ≠ .completed := by
  cases command with
  | complete completedAt graphCompleteness componentCount dependencyEdgeCount warningCount =>
      cases h
  | _ => exact nofun

/-- What `applyTransition` prepares. -/
theorem updateOk_of_plan {db : Database} {organizationId id : Uuid} {expectedVersion : Nat}
    {command : Session8IngestionCommand} {update : PreparedUpdate}
    (hcommand : command.completes = false)
    (hplan : planTransition (db.ingestion organizationId id) expectedVersion command =
      .ok (some update))
    (hversion : expectedVersion ≤ update.current.version) : UpdateOk db update := by
  unfold planTransition at hplan
  cases hcurrent : db.ingestion organizationId id with
  | none =>
      rw [hcurrent] at hplan
      cases hplan
  | some current =>
      rw [hcurrent] at hplan
      change (if current.snapshot.state.isTerminal then _ else _ : Except _ _) = _ at hplan
      split at hplan
      · split at hplan
        · cases hplan
        · cases hplan
      · rename_i hterminal
        obtain ⟨next, hnext, hupdate⟩ := bind_eq_ok.mp hplan
        cases hupdate
        have htransitioned := transitioned_of_eq_ok hnext
        refine ⟨hversion, ?_, ?_, htransitioned.stage, current,
          List.mem_of_find?_eq_some hcurrent, rfl, .inl rfl⟩
        · intro hcompleted
          rw [hcompleted] at hterminal
          exact hterminal rfl
        · rw [htransitioned.state]
          exact completes_of_not_target hcommand

theorem onIngestion_id (update : PreparedUpdate) (row : SbomIngestionRow) :
    (update.onIngestion row).id = row.id ∧
      (update.onIngestion row = row ∨ row.version < (update.onIngestion row).version) := by
  unfold PreparedUpdate.onIngestion
  split
  · exact ⟨rfl, .inr (Nat.lt_succ_self _)⟩
  · exact ⟨rfl, .inl rfl⟩

/-! ## Steps that write no graph -/

theorem StoredGraph.congr {db db' : Database} {ingestion : SbomIngestionRow}
    {graph : NormalizedComponentGraph} (h : StoredGraph db ingestion graph)
    (hcomponents : ∀ row ∈ db.components, row ∈ db'.components)
    (hoccurrences : db'.occurrencesOf ingestion.organizationId ingestion.id =
      db.occurrencesOf ingestion.organizationId ingestion.id)
    (hedges : db'.edgesOf ingestion.organizationId ingestion.id =
      db.edgesOf ingestion.organizationId ingestion.id) :
    StoredGraph db' ingestion graph := by
  refine { h with occurrences := ?_, ids := ?_, edges := ?_ }
  · rw [hoccurrences]
    exact h.occurrences.imp fun component row hrow => hrow.mono hcomponents
  · rw [hoccurrences]
    exact h.ids
  · rw [hoccurrences, hedges]
    exact h.edges

theorem GraphStored.congr {db db' : Database} {ingestion : SbomIngestionRow}
    (h : GraphStored db ingestion)
    (hcomponents : ∀ row ∈ db.components, row ∈ db'.components)
    (hoccurrences : db'.occurrencesOf ingestion.organizationId ingestion.id =
      db.occurrencesOf ingestion.organizationId ingestion.id)
    (hedges : db'.edgesOf ingestion.organizationId ingestion.id =
      db.edgesOf ingestion.organizationId ingestion.id) : GraphStored db' ingestion := by
  refine ⟨fun hcompleted => ?_, fun hopen => ?_, fun hopen => ?_⟩
  · obtain ⟨graph, hgraph⟩ := h.completed hcompleted
    exact ⟨graph, hgraph.congr hcomponents hoccurrences hedges⟩
  · rw [hoccurrences]
    exact h.occurrences hopen
  · rw [hedges]
    exact h.edges hopen

theorem sbom_isSome {db : Database} {organizationId id assetId : Uuid} :
    (db.sbom organizationId id assetId).isSome = true ↔
      ∃ sbom ∈ db.sboms, sbom.organizationId = organizationId ∧ sbom.id = id ∧
        sbom.assetId = assetId := by
  unfold Database.sbom
  rw [List.find?_isSome]
  constructor
  · rintro ⟨sbom, hsbom, hfields⟩
    exact ⟨sbom, hsbom, of_decide_eq_true hfields⟩
  · rintro ⟨sbom, hsbom, hfields⟩
    exact ⟨sbom, hsbom, decide_eq_true hfields⟩

/-- Tables in which only assets, audit events and jobs differ and SBOMs are added. -/
theorem Sound.of_sboms {db db' : Database} (h : Sound db)
    (hingestions : db'.ingestions = db.ingestions) (hcomponents : db'.components = db.components)
    (hoccurrences : db'.occurrences = db.occurrences) (hedges : db'.edges = db.edges)
    (hsboms : ∀ sbom ∈ db.sboms, sbom ∈ db'.sboms) : Sound db' := by
  refine ⟨?_, ?_, ?_, ?_, ?_, ?_⟩
  · rw [hingestions]
    exact h.ids
  · rw [hingestions]
    intro row hrow
    obtain ⟨sbom, hsbom, hfields⟩ := sbom_isSome.mp (h.sboms row hrow)
    exact sbom_isSome.mpr ⟨sbom, hsboms sbom hsbom, hfields⟩
  · rw [hingestions]
    exact h.stages
  · rw [hoccurrences, hingestions]
    exact h.occurrenceOwners
  · rw [hedges, hingestions]
    exact h.edgeOwners
  · rw [hingestions]
    intro row hrow
    refine (h.graphs row hrow).congr (fun component hcomponent => ?_) ?_ ?_
    · rw [hcomponents]
      exact hcomponent
    · unfold Database.occurrencesOf
      rw [hoccurrences]
    · unfold Database.edgesOf
      rw [hedges]

/-- A new ingestion has no rows. -/
theorem Sound.accept {db : Database} (h : Sound db) {row : SbomIngestionRow}
    (hnew : ∀ other ∈ db.ingestions, other.id ≠ row.id)
    (hsnapshot : applySession8IngestionTransition none .createAccepted = .ok row.snapshot)
    (hsbom : ∃ sbom ∈ db.sboms, sbom.organizationId = row.organizationId ∧
      sbom.id = row.sbomId ∧ sbom.assetId = row.assetId) :
    Sound { db with ingestions := db.ingestions ++ [row] } := by
  have haccepted : acceptedSnapshot = row.snapshot := Except.ok.inj hsnapshot
  refine ⟨?_, ?_, ?_, ?_, ?_, ?_⟩
  · rw [List.map_append, List.nodup_append]
    refine ⟨h.ids, List.nodup_singleton _, ?_⟩
    intro id hid other hother heq
    obtain ⟨ingestion, hingestion, rfl⟩ := List.mem_map.mp hid
    rw [List.mem_singleton.mp hother] at heq
    exact hnew ingestion hingestion heq
  · intro other hother
    rcases List.mem_append.mp hother with hother | hother
    · exact h.sboms other hother
    · rw [List.mem_singleton.mp hother]
      exact sbom_isSome.mpr hsbom
  · intro other hother
    rcases List.mem_append.mp hother with hother | hother
    · exact h.stages other hother
    · rw [List.mem_singleton.mp hother, ← haccepted]
      rfl
  · intro occurrence hoccurrence
    obtain ⟨ingestion, hingestion, hid⟩ := h.occurrenceOwners occurrence hoccurrence
    exact ⟨ingestion, List.mem_append_left _ hingestion, hid⟩
  · intro edge hedge
    obtain ⟨ingestion, hingestion, hid⟩ := h.edgeOwners edge hedge
    exact ⟨ingestion, List.mem_append_left _ hingestion, hid⟩
  · intro other hother
    rcases List.mem_append.mp hother with hother | hother
    · exact (h.graphs other hother).congr (fun _ hcomponent => hcomponent) rfl rfl
    · rw [List.mem_singleton.mp hother]
      refine ⟨fun hcompleted => ?_, fun _ => ?_, fun _ => ?_⟩
      · rw [← haccepted] at hcompleted
        cases hcompleted
      · refine List.filter_eq_nil_iff.mpr fun occurrence hoccurrence hfields => ?_
        obtain ⟨ingestion, hingestion, hid⟩ := h.occurrenceOwners occurrence hoccurrence
        exact hnew ingestion hingestion (hid.trans (of_decide_eq_true hfields).2)
      · refine List.filter_eq_nil_iff.mpr fun edge hedge hfields => ?_
        obtain ⟨ingestion, hingestion, hid⟩ := h.edgeOwners edge hedge
        exact hnew ingestion hingestion (hid.trans (of_decide_eq_true hfields).2)

/-- Tables of which the ingestions are updated one by one. -/
theorem Sound.of_map {db db' : Database} (h : Sound db)
    {update : SbomIngestionRow → SbomIngestionRow}
    (hmap : db'.ingestions = db.ingestions.map update)
    (hids : ∀ row ∈ db.ingestions, (update row).id = row.id)
    (hsboms : ∀ row ∈ db.ingestions, (db'.sbom (update row).organizationId (update row).sbomId
      (update row).assetId).isSome = true)
    (hstages : ∀ row ∈ db.ingestions,
      (update row).snapshot.stage.any SbomIngestionStage.isUnused = false)
    (hoccurrences : ∀ row ∈ db'.occurrences, ∃ ingestion ∈ db.ingestions,
      ingestion.id = row.sbomIngestionId)
    (hedges : ∀ row ∈ db'.edges, ∃ ingestion ∈ db.ingestions,
      ingestion.id = row.sbomIngestionId)
    (hgraphs : ∀ row ∈ db.ingestions, GraphStored db' (update row)) : Sound db' := by
  have howner : ∀ id, (∃ ingestion ∈ db.ingestions, ingestion.id = id) →
      ∃ ingestion ∈ db'.ingestions, ingestion.id = id := by
    rintro id ⟨ingestion, hingestion, rfl⟩
    refine ⟨update ingestion, ?_, hids ingestion hingestion⟩
    rw [hmap]
    exact List.mem_map_of_mem hingestion
  have hall : ∀ {P : SbomIngestionRow → Prop}, (∀ row ∈ db.ingestions, P (update row)) →
      ∀ row ∈ db'.ingestions, P row := by
    intro P hP row hrow
    rw [hmap] at hrow
    obtain ⟨old, hold, rfl⟩ := List.mem_map.mp hrow
    exact hP old hold
  refine ⟨?_, hall hsboms, hall hstages, fun row hrow => howner _ (hoccurrences row hrow),
    fun row hrow => howner _ (hedges row hrow), hall hgraphs⟩
  rw [hmap, List.map_map, List.map_congr_left (g := (·.id)) hids]
  exact h.ids

/-- An update of `applyTransition` neither starts from nor leads to a completed ingestion. -/
theorem Sound.update {db : Database} (h : Sound db) {update : PreparedUpdate}
    (hupdate : UpdateOk db update) : Sound (update.apply db) := by
  have hrow : ∀ row ∈ db.ingestions, update.onIngestion row = row ∨
      row.snapshot.state ≠ .completed ∧
        update.onIngestion row =
          { row with snapshot := update.next, version := row.version + 1 } := by
    intro row hrow
    unfold PreparedUpdate.onIngestion
    split
    · rename_i hfields
      obtain ⟨-, hid, hversion⟩ := hfields
      have hcurrent := hupdate.eq_current h.ids hrow hid hversion
      refine .inr ⟨?_, rfl⟩
      rw [hcurrent]
      exact hupdate.notCompleted
    · exact .inl rfl
  refine h.of_map rfl (fun row _ => (onIngestion_id update row).1) ?_ ?_ h.occurrenceOwners
    h.edgeOwners ?_
  · intro row hmem
    rcases hrow row hmem with hsame | ⟨-, hchanged⟩
    · rw [hsame]
      exact h.sboms row hmem
    · rw [hchanged]
      exact h.sboms row hmem
  · intro row hmem
    rcases hrow row hmem with hsame | ⟨-, hchanged⟩
    · rw [hsame]
      exact h.stages row hmem
    · rw [hchanged]
      exact hupdate.stage
  · intro row hmem
    rcases hrow row hmem with hsame | ⟨hopen, hchanged⟩
    · rw [hsame]
      exact (h.graphs row hmem).congr (fun _ hcomponent => hcomponent) rfl rfl
    · rw [hchanged]
      exact ⟨fun hcompleted => absurd hcompleted hupdate.next,
        fun _ => (h.graphs row hmem).occurrences hopen,
        fun _ => (h.graphs row hmem).edges hopen⟩

/-! ## Open transactions -/

/-- What is known of an open transaction: its ingestion is still as it was read, and once
the graph is written the writes complete it. -/
structure OpenOk (db : Database) (transaction : OpenTransaction) : Prop where
  member : transaction.ingestion ∈ db.ingestions
  owner : transaction.ingestion.owner = transaction.input.owner
  state : transaction.ingestion.snapshot.state = .processing
  startedAt : transaction.ingestion.snapshot.startedAt ≠ none
  valid : transaction.input.graph.Valid
  completing : transaction.phase ≠ .locked → ∃ next,
    completedSnapshot transaction.ingestion transaction.input.graph transaction.completedAt =
      .ok next ∧
    Completing transaction.input transaction.ingestion next db.components transaction.writes

theorem OpenOk.later {db db' : Database} {transaction : OpenTransaction}
    (h : OpenOk db transaction) (hlater : Later db db')
    (hmember : transaction.ingestion ∈ db'.ingestions) : OpenOk db' transaction := by
  refine { h with member := hmember, completing := fun hphase => ?_ }
  obtain ⟨next, hnext, hcompleting⟩ := h.completing hphase
  exact ⟨next, hnext, hcompleting.mono hlater.components⟩

theorem ingestion_mem {db : Database} {organizationId id : Uuid}
    {ingestion : SbomIngestionRow} (h : db.ingestion organizationId id = some ingestion) :
    ingestion ∈ db.ingestions ∧ ingestion.organizationId = organizationId ∧
      ingestion.id = id := by
  have hfound := List.find?_some h
  exact ⟨List.mem_of_find?_eq_some h, of_decide_eq_true hfound⟩

/-- What the checks before the first write let through. -/
theorem decideAdmission_eq_admitted {input : PersistComponentGraphInput}
    {found : Option SbomIngestionRow} {ingestion : SbomIngestionRow}
    (h : decideAdmission input found = .admitted ingestion) :
    found = some ingestion ∧ ingestion.assetId = input.assetId ∧
      ingestion.sbomId = input.sbomId ∧ ingestion.snapshot.state = .processing ∧
        ingestion.snapshot.startedAt ≠ none := by
  unfold decideAdmission at h
  split at h
  · cases h
  · rename_i found
    split at h
    · cases h
    · rename_i hsame
      obtain ⟨hasset, hrest⟩ := not_or.mp hsame
      split at h
      · cases h
      · split at h
        · cases h
        · split at h
          · cases h
          · rename_i hstate
            split at h
            · cases h
            · rename_i hstarted
              cases h
              exact ⟨rfl, not_not.mp hasset, not_not.mp (not_or.mp hrest).1, not_not.mp hstate,
                hstarted⟩

theorem openOk_of_admitted {db : Database} {input : PersistComponentGraphInput}
    {ingestion : SbomIngestionRow} (hvalid : validateNormalizedComponentGraph input.graph ≠ none)
    (hadmitted : decideAdmission input (db.ingestion input.organizationId input.sbomIngestionId) =
      .admitted ingestion) :
    OpenOk db ⟨input, ingestion, .locked, 0, []⟩ := by
  obtain ⟨hfound, hasset, hsbom, hstate, hstarted⟩ := decideAdmission_eq_admitted hadmitted
  obtain ⟨hmember, horganization, hid⟩ := ingestion_mem hfound
  obtain ⟨graph, hgraph⟩ := Option.ne_none_iff_exists'.mp hvalid
  refine ⟨hmember, ?_, hstate, hstarted, (validateNormalizedComponentGraph_eq_some.mp hgraph).1,
    fun hphase => absurd rfl hphase⟩
  unfold SbomIngestionRow.owner PersistComponentGraphInput.owner
  rw [horganization, hasset, hsbom, hid]

section Locked

variable {db : Database} {transaction : OpenTransaction}

theorem OpenOk.organizationId (h : OpenOk db transaction) :
    transaction.ingestion.organizationId = transaction.input.organizationId :=
  congrArg GraphOwner.organizationId h.owner

theorem OpenOk.assetId (h : OpenOk db transaction) :
    transaction.ingestion.assetId = transaction.input.assetId :=
  congrArg GraphOwner.assetId h.owner

theorem OpenOk.sbomId (h : OpenOk db transaction) :
    transaction.ingestion.sbomId = transaction.input.sbomId :=
  congrArg GraphOwner.sbomId h.owner

theorem OpenOk.id (h : OpenOk db transaction) :
    transaction.ingestion.id = transaction.input.sbomIngestionId :=
  congrArg GraphOwner.sbomIngestionId h.owner

/-- The row that the completion updates is the one under the lock. -/
theorem OpenOk.completes (h : OpenOk db transaction)
    (hids : (db.ingestions.map (·.id)).Nodup) {row : SbomIngestionRow}
    (hrow : row ∈ db.ingestions) :
    row.completes transaction.input.organizationId transaction.input.sbomIngestionId
        transaction.ingestion.version = true ↔ row = transaction.ingestion := by
  unfold SbomIngestionRow.completes
  constructor
  · intro hcompletes
    obtain ⟨-, hid, -⟩ := of_decide_eq_true hcompletes
    exact eq_of_id hids hrow h.member (hid.trans h.id.symm)
  · rintro rfl
    exact decide_eq_true ⟨h.organizationId, h.id, rfl, h.state⟩

/-- The body of a locked transaction writes the graph, or it throws. -/
theorem OpenOk.writeGraph_run (h : OpenOk db transaction) (hsound : Sound db) (id : Uuid)
    (completedAt : Timestamp) :
    (∃ next writes, completedSnapshot transaction.ingestion transaction.input.graph
        completedAt = .ok next ∧
      writeGraph id completedAt transaction.input transaction.ingestion db =
        (.ok (), writes) ∧
      WroteGraph transaction.input transaction.ingestion next id db.components writes) ∨
    ∃ writes, writeGraph id completedAt transaction.input transaction.ingestion db =
      (.error .thrown, writes) := by
  obtain ⟨next, hnext, -⟩ := completedSnapshot_eq_ok completedAt h.valid h.state h.startedAt
    (hsound.stages _ h.member)
  have hsbom := hsound.sboms _ h.member
  rw [h.organizationId, h.sbomId, h.assetId] at hsbom
  have hcount : db.ingestions.countP (·.completes transaction.input.organizationId
      transaction.input.sbomIngestionId transaction.ingestion.version) ≠ 0 := by
    refine Nat.pos_iff_ne_zero.mp (List.countP_pos_iff.mpr ⟨_, h.member, ?_⟩)
    exact (h.completes hsound.ids h.member).mpr rfl
  rcases PatchPilot.Sbom.writeGraph_run h.valid hsbom hnext hcount with
    ⟨writes, hrun, hwrote⟩ | hthrown
  · exact .inl ⟨next, writes, hnext, hrun, hwrote⟩
  · exact .inr hthrown

/-- What a commit does to the ingestions: the one under the lock is completed. -/
theorem OpenOk.ingestions_commit (h : OpenOk db transaction)
    (hids : (db.ingestions.map (·.id)).Nodup) {next : Session8IngestionSnapshot}
    (hcompleting : Completing transaction.input transaction.ingestion next db.components
      transaction.writes) :
    (applyAll transaction.writes db).ingestions = db.ingestions.map fun row =>
      if row = transaction.ingestion then row.completeWith next else row := by
  rw [ingestions_applyAll]
  refine List.map_congr_left fun row hrow => ?_
  rw [hcompleting.onIngestion row]
  by_cases hsame : row = transaction.ingestion
  · rw [if_pos hsame, if_pos ((h.completes hids hrow).mpr hsame)]
  · rw [if_neg hsame, if_neg fun hcompletes => hsame ((h.completes hids hrow).mp hcompletes)]

theorem later_applyAll (writes : List Write) (db : Database) : Later db (applyAll writes db) := by
  refine later_of_map (fun row hrow => ?_) (ingestions_applyAll writes db) ?_
  · rw [components_applyAll]
    exact List.mem_append_left _ hrow
  · intro row
    induction writes generalizing row with
    | nil => exact ⟨rfl, .inl rfl⟩
    | cons write rest ih =>
        have hwrite : (write.onIngestion row).id = row.id ∧ (write.onIngestion row = row ∨
            row.version < (write.onIngestion row).version) := by
          cases write with
          | completeIngestion organizationId id version next =>
              change (if _ then _ else _ : SbomIngestionRow).id = _ ∧ ((if _ then _ else _) = _ ∨
                _ < (if _ then _ else _ : SbomIngestionRow).version)
              split
              · exact ⟨rfl, .inr (Nat.lt_succ_self _)⟩
              · exact ⟨rfl, .inl rfl⟩
          | _ => exact ⟨rfl, .inl rfl⟩
        obtain ⟨hid, hversion⟩ := ih (write.onIngestion row)
        refine ⟨hid.trans hwrite.1, ?_⟩
        rcases hwrite.2 with hsame | hgrown
        · rw [hsame] at hversion
          rw [List.foldl_cons, hsame]
          exact hversion
        · rcases hversion with hsame | hmore
          · rw [List.foldl_cons, hsame]
            exact .inr hgrown
          · exact .inr (Nat.lt_trans hgrown hmore)

end Locked

/-! ## The commit of a graph -/

theorem occurrencesOf_append {db db' : Database} {rows : List ComponentOccurrenceRow}
    (h : db'.occurrences = db.occurrences ++ rows) (organizationId id : Uuid) :
    db'.occurrencesOf organizationId id = db.occurrencesOf organizationId id ++
      rows.filter fun row =>
        decide (row.organizationId = organizationId ∧ row.sbomIngestionId = id) := by
  unfold Database.occurrencesOf
  rw [h, List.filter_append]

theorem edgesOf_append {db db' : Database} {rows : List DependencyRelationshipRow}
    (h : db'.edges = db.edges ++ rows) (organizationId id : Uuid) :
    db'.edgesOf organizationId id = db.edgesOf organizationId id ++
      rows.filter fun row =>
        decide (row.organizationId = organizationId ∧ row.sbomIngestionId = id) := by
  unfold Database.edgesOf
  rw [h, List.filter_append]

theorem Completing.owned_occurrences {input : PersistComponentGraphInput}
    {ingestion : SbomIngestionRow} {next : Session8IngestionSnapshot}
    {stored : List ComponentRow} {writes : List Write}
    (h : Completing input ingestion next stored writes) :
    ∀ row ∈ writes.flatMap Write.occurrences,
      row.organizationId = input.organizationId ∧ row.sbomIngestionId = input.sbomIngestionId := by
  intro row hrow
  obtain ⟨component, -, hstored⟩ := mem_of_forall₂ h.occurrences.flip hrow
  exact ⟨congrArg GraphOwner.organizationId hstored.owned,
    congrArg GraphOwner.sbomIngestionId hstored.owned⟩

theorem Completing.owned_edges {input : PersistComponentGraphInput}
    {ingestion : SbomIngestionRow} {next : Session8IngestionSnapshot}
    {stored : List ComponentRow} {writes : List Write}
    (h : Completing input ingestion next stored writes) :
    ∀ row ∈ writes.flatMap Write.edges,
      row.organizationId = input.organizationId ∧ row.sbomIngestionId = input.sbomIngestionId := by
  intro row hrow
  obtain ⟨edge, -, hstored⟩ := mem_of_forall₂ h.edges.flip hrow
  exact ⟨hstored.organizationId, hstored.sbomIngestionId⟩

section Commit

variable {db : Database} {transaction : OpenTransaction} {next : Session8IngestionSnapshot}

/-- The ingestion of a commit gets the rows of its graph. -/
theorem OpenOk.storedGraph (h : OpenOk db transaction) (hsound : Sound db)
    (hnext : completedSnapshot transaction.ingestion transaction.input.graph
      transaction.completedAt = .ok next)
    (hcompleting : Completing transaction.input transaction.ingestion next db.components
      transaction.writes) :
    StoredGraph (applyAll transaction.writes db) (transaction.ingestion.completeWith next)
      transaction.input.graph := by
  have hopen : transaction.ingestion.snapshot.state ≠ .completed := by
    rw [h.state]
    exact nofun
  have hgraph := hsound.graphs _ h.member
  have hoccurrences : (applyAll transaction.writes db).occurrencesOf
      transaction.ingestion.organizationId transaction.ingestion.id =
        transaction.writes.flatMap Write.occurrences := by
    rw [occurrencesOf_append (occurrences_applyAll _ db), hgraph.occurrences hopen,
      List.nil_append]
    refine List.filter_eq_self.mpr fun row hrow => decide_eq_true ?_
    rw [h.organizationId, h.id]
    exact hcompleting.owned_occurrences row hrow
  have hedges : (applyAll transaction.writes db).edgesOf
      transaction.ingestion.organizationId transaction.ingestion.id =
        transaction.writes.flatMap Write.edges := by
    rw [edgesOf_append (edges_applyAll _ db), hgraph.edges hopen, List.nil_append]
    refine List.filter_eq_self.mpr fun row hrow => decide_eq_true ?_
    rw [h.organizationId, h.id]
    exact hcompleting.owned_edges row hrow
  obtain ⟨found, hfound, -, -, hcompleteness, hcomponents, hedgeCount, hwarnings⟩ :=
    completedSnapshot_eq_ok transaction.completedAt h.valid h.state h.startedAt
      (hsound.stages _ h.member)
  rw [hnext] at hfound
  cases hfound
  refine ⟨h.valid, ?_, ?_, ?_, hcomponents, hedgeCount, hwarnings, hcompleteness⟩
  · change List.Forall₂ (StoredOccurrence transaction.ingestion.owner _) _ _
    rw [components_applyAll]
    change List.Forall₂ _ _ ((applyAll transaction.writes db).occurrencesOf
      transaction.ingestion.organizationId transaction.ingestion.id)
    rw [hoccurrences, h.owner]
    exact hcompleting.occurrences
  · change (((applyAll transaction.writes db).occurrencesOf
      transaction.ingestion.organizationId transaction.ingestion.id).map (·.id)).Nodup
    rw [hoccurrences]
    exact List.pairwise_map.mpr (hcompleting.ids.imp fun hlt => Nat.ne_of_lt hlt)
  · change List.Forall₂ (StoredEdge transaction.ingestion.owner
      ((applyAll transaction.writes db).occurrencesOf transaction.ingestion.organizationId
        transaction.ingestion.id)) _ ((applyAll transaction.writes db).edgesOf
          transaction.ingestion.organizationId transaction.ingestion.id)
    rw [hoccurrences, hedges, h.owner]
    exact hcompleting.edges

/-- The other ingestions keep their rows. -/
theorem OpenOk.graphStored_other (h : OpenOk db transaction) (hsound : Sound db)
    (hcompleting : Completing transaction.input transaction.ingestion next db.components
      transaction.writes)
    {row : SbomIngestionRow} (hrow : row ∈ db.ingestions) (hother : row ≠ transaction.ingestion) :
    GraphStored (applyAll transaction.writes db) row := by
  have hid : transaction.input.sbomIngestionId ≠ row.id := fun hid =>
    hother (eq_of_id hsound.ids hrow h.member (hid.symm.trans h.id.symm))
  refine (hsound.graphs row hrow).congr (fun component hcomponent => ?_) ?_ ?_
  · rw [components_applyAll]
    exact List.mem_append_left _ hcomponent
  · rw [occurrencesOf_append (occurrences_applyAll _ db)]
    refine (congrArg _ (List.filter_eq_nil_iff.mpr ?_)).trans (List.append_nil _)
    intro occurrence hoccurrence hfields
    have howned := (hcompleting.owned_occurrences occurrence hoccurrence).2
    exact hid (howned.symm.trans (of_decide_eq_true hfields).2)
  · rw [edgesOf_append (edges_applyAll _ db)]
    refine (congrArg _ (List.filter_eq_nil_iff.mpr ?_)).trans (List.append_nil _)
    intro edge hedge hfields
    have howned := (hcompleting.owned_edges edge hedge).2
    exact hid (howned.symm.trans (of_decide_eq_true hfields).2)

theorem sbom_isSome_commit {writes : List Write}
    (honSbom : ∀ row : SbomRow, ∃ parserVersion specificationVersion,
      writes.foldl Write.onSbom row =
        { row with
          parserVersionLastSucceeded := parserVersion,
          specificationVersion := specificationVersion })
    {organizationId id assetId : Uuid}
    (hsbom : (db.sbom organizationId id assetId).isSome = true) :
    ((applyAll writes db).sbom organizationId id assetId).isSome = true := by
  obtain ⟨sbom, hmem, hfields⟩ := sbom_isSome.mp hsbom
  obtain ⟨parserVersion, specificationVersion, hchanged⟩ := honSbom sbom
  refine sbom_isSome.mpr ⟨writes.foldl Write.onSbom sbom, ?_, ?_⟩
  · rw [sboms_applyAll]
    exact List.mem_map_of_mem hmem
  · rw [hchanged]
    exact hfields

/-- A commit stores a whole graph. -/
theorem Sound.commit (hsound : Sound db) (h : OpenOk db transaction)
    (hphase : transaction.phase ≠ .locked) : Sound (applyAll transaction.writes db) := by
  obtain ⟨next, hnext, hcompleting⟩ := h.completing hphase
  refine hsound.of_map (h.ingestions_commit hsound.ids hcompleting) ?_ ?_ ?_ ?_ ?_ ?_
  · intro row _
    split
    · rfl
    · rfl
  · intro row hrow
    refine sbom_isSome_commit hcompleting.onSbom ?_
    split
    · exact hsound.sboms row hrow
    · exact hsound.sboms row hrow
  · intro row hrow
    split
    · obtain ⟨found, hfound, -, hstage, -⟩ := completedSnapshot_eq_ok transaction.completedAt
        h.valid h.state h.startedAt (hsound.stages _ h.member)
      rw [hnext] at hfound
      cases hfound
      change next.stage.any SbomIngestionStage.isUnused = false
      rw [hstage]
      rfl
    · exact hsound.stages row hrow
  · intro row hrow
    rw [occurrences_applyAll] at hrow
    rcases List.mem_append.mp hrow with hrow | hrow
    · exact hsound.occurrenceOwners row hrow
    · exact ⟨_, h.member, h.id.trans (hcompleting.owned_occurrences row hrow).2.symm⟩
  · intro row hrow
    rw [edges_applyAll] at hrow
    rcases List.mem_append.mp hrow with hrow | hrow
    · exact hsound.edgeOwners row hrow
    · exact ⟨_, h.member, h.id.trans (hcompleting.owned_edges row hrow).2.symm⟩
  · intro row hrow
    by_cases hsame : row = transaction.ingestion
    · rw [if_pos hsame, hsame]
      have hgraph := h.storedGraph hsound hnext hcompleting
      obtain ⟨found, hfound, hcompleted, -⟩ := completedSnapshot_eq_ok transaction.completedAt
        h.valid h.state h.startedAt (hsound.stages _ h.member)
      rw [hnext] at hfound
      cases hfound
      exact ⟨fun _ => ⟨_, hgraph⟩, fun hopen => absurd hcompleted hopen,
        fun hopen => absurd hcompleted hopen⟩
    · rw [if_neg hsame]
      exact h.graphStored_other hsound hcompleting hrow hsame

end Commit

/-! ## Every step keeps the system consistent -/

/-- The invariant of the system. -/
structure Consistent (system : System) : Prop where
  sound : Sound system.db
  updates : ∀ update ∈ system.updates, UpdateOk system.db update
  opened : ∀ tx transaction, system.transactions tx = some transaction →
    OpenOk system.db transaction
  locks : ∀ tx tx' transaction transaction', system.transactions tx = some transaction →
    system.transactions tx' = some transaction' →
    transaction.input.sbomIngestionId = transaction'.input.sbomIngestionId → tx = tx'

theorem Consistent.initial {system : System} (h : system.Initial) : Consistent system := by
  refine ⟨⟨?_, ?_, ?_, ?_, ?_, ?_⟩, ?_, ?_, ?_⟩
  · rw [h.ingestions]
    exact List.nodup_nil
  · rw [h.ingestions]
    exact fun row hrow => (List.not_mem_nil hrow).elim
  · rw [h.ingestions]
    exact fun row hrow => (List.not_mem_nil hrow).elim
  · rw [h.occurrences]
    exact fun row hrow => (List.not_mem_nil hrow).elim
  · rw [h.edges]
    exact fun row hrow => (List.not_mem_nil hrow).elim
  · rw [h.ingestions]
    exact fun row hrow => (List.not_mem_nil hrow).elim
  · rw [h.updates]
    exact fun update hupdate => (List.not_mem_nil hupdate).elim
  · intro tx transaction hopen
    rw [h.transactions tx] at hopen
    cases hopen
  · intro tx tx' transaction transaction' hopen
    rw [h.transactions tx] at hopen
    cases hopen

/-- Other tables, with the rows under locks as they were. -/
theorem Consistent.withDb {system : System} (h : Consistent system) {db : Database}
    (hsound : Sound db) (hlater : Later system.db db)
    (hlocked : ∀ tx transaction, system.transactions tx = some transaction →
      transaction.ingestion ∈ db.ingestions) : Consistent (system.withDb db) :=
  ⟨hsound, fun update hupdate => (h.updates update hupdate).later hlater,
    fun tx transaction hopen =>
      (h.opened tx transaction hopen).later hlater (hlocked tx transaction hopen), h.locks⟩

/-- A transaction is closed. -/
theorem Consistent.close {system : System} (h : Consistent system) (tx : Nat) :
    Consistent (system.setTransaction tx none) := by
  have hstill : ∀ tx' transaction,
      (system.setTransaction tx none).transactions tx' = some transaction →
        system.transactions tx' = some transaction := by
    intro tx' transaction hopen
    by_cases hsame : tx' = tx
    · rw [hsame, setTransaction_self] at hopen
      cases hopen
    · rw [setTransaction_of_ne hsame] at hopen
      exact hopen
  exact ⟨h.sound, h.updates,
    fun tx' transaction hopen => h.opened tx' transaction (hstill tx' transaction hopen),
    fun tx' tx'' transaction transaction' hopen hopen' =>
      h.locks tx' tx'' transaction transaction' (hstill tx' transaction hopen)
        (hstill tx'' transaction' hopen')⟩

/-- A transaction is opened or moved on, on a row that no other one holds. -/
theorem Consistent.setTransaction {system : System} (h : Consistent system) {tx : Nat}
    {transaction : OpenTransaction} (hok : OpenOk system.db transaction)
    (hfree : ∀ tx' other, tx' ≠ tx → system.transactions tx' = some other →
      other.input.sbomIngestionId ≠ transaction.input.sbomIngestionId) :
    Consistent (system.setTransaction tx (some transaction)) := by
  refine ⟨h.sound, h.updates, ?_, ?_⟩
  · intro tx' other hopen
    by_cases hsame : tx' = tx
    · rw [hsame, setTransaction_self] at hopen
      cases hopen
      exact hok
    · rw [setTransaction_of_ne hsame] at hopen
      exact h.opened tx' other hopen
  · intro tx' tx'' other other' hopen hopen' hid
    by_cases hsame : tx' = tx
    · by_cases hsame' : tx'' = tx
      · rw [hsame, hsame']
      · rw [hsame, setTransaction_self] at hopen
        rw [setTransaction_of_ne hsame'] at hopen'
        cases hopen
        exact absurd hid.symm (hfree tx'' other' hsame' hopen')
    · rw [setTransaction_of_ne hsame] at hopen
      by_cases hsame' : tx'' = tx
      · rw [hsame', setTransaction_self] at hopen'
        cases hopen'
        exact absurd hid (hfree tx' other hsame hopen)
      · rw [setTransaction_of_ne hsame'] at hopen'
        exact h.locks tx' tx'' other other' hopen hopen' hid

/-- A transaction that moves on holds the row that it held. -/
theorem Consistent.moveOn {system : System} (h : Consistent system) {tx : Nat}
    {transaction moved : OpenTransaction} (hopen : system.transactions tx = some transaction)
    (hinput : moved.input = transaction.input) (hok : OpenOk system.db moved) :
    Consistent (system.setTransaction tx (some moved)) := by
  refine h.setTransaction hok fun tx' other hne hother hid => hne ?_
  rw [hinput] at hid
  exact h.locks tx' tx other transaction hother hopen hid

/-- A commit, and the end of its transaction. -/
theorem Consistent.commit {system : System} (h : Consistent system) {tx : Nat}
    {transaction : OpenTransaction} (hopen : system.transactions tx = some transaction)
    (hphase : transaction.phase ≠ .locked) :
    Consistent ((system.withDb (applyAll transaction.writes system.db)).setTransaction tx
      none) := by
  have hok := h.opened tx transaction hopen
  obtain ⟨next, -, hcompleting⟩ := hok.completing hphase
  have hclosed : ((system.withDb (applyAll transaction.writes system.db)).setTransaction tx none) =
      (system.setTransaction tx none).withDb (applyAll transaction.writes system.db) := rfl
  rw [hclosed]
  refine (h.close tx).withDb (h.sound.commit hok hphase) (later_applyAll _ _) ?_
  intro tx' other hother
  have hne : tx' ≠ tx := by
    rintro rfl
    rw [setTransaction_self] at hother
    cases hother
  rw [setTransaction_of_ne hne] at hother
  have hotherOk := h.opened tx' other hother
  rw [hok.ingestions_commit h.sound.ids hcompleting]
  refine List.mem_map.mpr ⟨other.ingestion, hotherOk.member, if_neg fun hsame => hne ?_⟩
  refine h.locks tx' tx other transaction hother hopen ?_
  rw [← hotherOk.id, ← hok.id, hsame]

/-- No error is returned once something was written. -/
theorem Consistent.no_writeError {system : System} (h : Consistent system) {tx : Nat}
    {transaction : OpenTransaction} {id : Uuid} {completedAt : Timestamp} {error : SbomError}
    {writes : List Write} (hopen : system.transactions tx = some transaction) :
    writeGraph id completedAt transaction.input transaction.ingestion system.db ≠
      (.error (.returned error), writes) := by
  intro hrun
  rcases (h.opened tx transaction hopen).writeGraph_run h.sound id completedAt with
    ⟨next, writes', -, hok, -⟩ | ⟨writes', hthrown⟩
  · rw [hok] at hrun
    cases hrun
  · rw [hthrown] at hrun
    cases hrun

theorem no_pointError {completedAt : Timestamp} {input : PersistComponentGraphInput}
    {view : Database} {error : Stop} {writes : List Write} :
    finishGraph completedAt input view ≠ (.error error, writes) := by
  intro hrun
  obtain ⟨writes', hok, -⟩ := finishGraph_run completedAt input view
  rw [hok] at hrun
  cases hrun

theorem consistent_step {system system' : System} {event : Event} (h : Consistent system)
    (hstep : System.Step system event system') : Consistent system' := by
  cases hstep with
  | createAsset row hnew hpointer =>
      refine h.withDb (h.sound.of_sboms rfl rfl rfl rfl fun _ hsbom => hsbom)
        (later_of_append rfl (List.append_nil _).symm) ?_
      exact fun tx transaction hopen => (h.opened tx transaction hopen).member
  | receive row hnew hasset =>
      refine h.withDb (h.sound.of_sboms rfl rfl rfl rfl fun _ hsbom =>
        List.mem_append_left _ hsbom) (later_of_append rfl (List.append_nil _).symm) ?_
      exact fun tx transaction hopen => (h.opened tx transaction hopen).member
  | accept row hnew hsnapshot hsbom =>
      refine h.withDb (h.sound.accept hnew hsnapshot hsbom) (later_of_append rfl rfl) ?_
      exact fun tx transaction hopen =>
        List.mem_append_left _ (h.opened tx transaction hopen).member
  | others jobs audits =>
      refine h.withDb (h.sound.of_sboms rfl rfl rfl rfl fun _ hsbom => hsbom)
        (later_of_append rfl (List.append_nil _).symm) ?_
      exact fun tx transaction hopen => (h.opened tx transaction hopen).member
  | prepare organizationId id expectedVersion command update hcommand hplan hversion =>
      refine ⟨h.sound, fun other hother => ?_, h.opened, h.locks⟩
      rcases List.mem_cons.mp hother with rfl | hother
      · exact updateOk_of_plan hcommand hplan hversion
      · exact h.updates other hother
  | update update hupdate hfree =>
      refine h.withDb (h.sound.update (h.updates update hupdate))
        (later_of_map (fun _ hcomponent => hcomponent) rfl (onIngestion_id update)) ?_
      intro tx transaction hopen
      have hok := h.opened tx transaction hopen
      refine List.mem_map.mpr ⟨transaction.ingestion, hok.member, if_neg fun hfields => ?_⟩
      exact hfree tx transaction hopen (hok.id.symm.trans hfields.2.1)
  | invalid input hinvalid => exact h
  | refuse input error hfree hrefused => exact h
  | replay input hfree hreplayed => exact h
  | lock tx input ingestion hclosed hvalid hfree hadmitted =>
      exact h.setTransaction (openOk_of_admitted hvalid hadmitted)
        fun tx' other _ hother => hfree tx' other hother
  | write tx transaction id completedAt writes hopen hphase hunused hrun hconflict =>
      have hok := h.opened tx transaction hopen
      refine h.moveOn hopen rfl { hok with completing := fun _ => ?_ }
      rcases hok.writeGraph_run h.sound id completedAt with
        ⟨next, writes', hnext, hran, hwrote⟩ | ⟨writes', hthrown⟩
      · rw [hrun] at hran
        cases hran
        exact ⟨next, hnext, hwrote.toCompleting⟩
      · rw [hrun] at hthrown
        cases hthrown
  | writeError tx transaction id completedAt error writes hopen hphase hunused hrun =>
      exact absurd hrun (h.no_writeError hopen)
  | point tx transaction writes hopen hphase hfree hrun =>
      have hok := h.opened tx transaction hopen
      have hwritten : transaction.phase ≠ .locked := by
        rw [hphase]
        exact nofun
      obtain ⟨next, hnext, hcompleting⟩ := hok.completing hwritten
      obtain ⟨writes', hran, hfinished⟩ := finishGraph_run transaction.completedAt
        transaction.input (applyAll transaction.writes system.db)
      rw [hrun] at hran
      cases hran
      exact h.moveOn hopen rfl
        { hok with completing := fun _ => ⟨next, hnext, hcompleting.append hfinished⟩ }
  | pointError tx transaction error writes hopen hphase hfree hrun =>
      exact absurd hrun no_pointError
  | commit tx transaction hopen hphase =>
      refine h.commit hopen ?_
      rw [hphase]
      exact nofun
  | rollback tx => exact h.close tx

/-- Every system that runs reach is consistent. -/
theorem consistent_of_reachable {system : System} (h : system.Reachable) :
    Consistent system := by
  induction h with
  | initial system hinitial => exact Consistent.initial hinitial
  | step system event system' _ hstep ih => exact consistent_step ih hstep

/-- A call that returns an error leaves the tables as they are. -/
theorem db_of_error {system system' : System} {input : PersistComponentGraphInput}
    {error : SbomError} (h : Consistent system)
    (hstep : System.Step system (.returned input (.error error)) system') :
    system'.db = system.db := by
  cases hstep with
  | invalid hinvalid => rfl
  | refuse hfree hrefused => rfl
  | writeError tx transaction id completedAt _ writes hopen hphase hunused hrun =>
      exact absurd hrun (h.no_writeError hopen)
  | pointError tx transaction _ writes hopen hphase hfree hrun =>
      exact absurd hrun no_pointError

/-- In every system that runs reach an ingestion that is completed has the rows and the
counts of one valid graph, and one that is not has no rows; and a call of
`persistOnceForIngestion` that returns an error has changed no table. -/
theorem graph_stored_whole_or_not_at_all {system : System} (h : system.Reachable) :
    (∀ ingestion ∈ system.db.ingestions, GraphStored system.db ingestion) ∧
      ∀ (input : PersistComponentGraphInput) (error : SbomError) (system' : System),
        System.Step system (.returned input (.error error)) system' →
          system'.db = system.db :=
  ⟨(consistent_of_reachable h).sound.graphs,
    fun _ _ _ hstep => db_of_error (consistent_of_reachable h) hstep⟩

/-- A component of an npm package without a version. -/
def exampleComponent (name : JsString) : NormalizedComponent where
  bomRef := some name
  name := name
  ns := none
  ecosystem := some (js "npm")
  identityState := .resolved
  versionlessPurl := some (js "pkg:npm/" ++ name)
  versionedPurl := none
  version := .unknown
  isDirect := none
  identityKey := js "purl:pkg:npm/" ++ name

/-- Two components, of which the first depends on the second. -/
def exampleGraph : NormalizedComponentGraph where
  specificationVersion := .v1_6
  graphCompleteness := .complete
  components := [exampleComponent (js "a"), exampleComponent (js "b")]
  edges := [⟨js "a", js "b"⟩]
  warnings := []
  componentCount := 2
  dependencyEdgeCount := 1
  warningCount := 0
  capturedAt := none
  parserVersion := js "1"
  normalizationVersion := js "1"

/-- Two uploads for one asset, of which the later one is completed first. -/
def exampleActions : List Action :=
  [.createAsset ⟨1, 9, none, none⟩, .receive ⟨11, 9, 1, 10, none, none⟩,
    .receive ⟨12, 9, 1, 20, none, none⟩, .accept ⟨21, 9, 11, 1, acceptedSnapshot, 1, 10⟩,
    .accept ⟨22, 9, 12, 1, acceptedSnapshot, 1, 20⟩,
    .transition 9 22 1 (.startProcessing 30 .validate),
    .persist ⟨9, 1, 12, 22, exampleGraph, [], none⟩ 100 40,
    .transition 9 21 1 (.startProcessing 50 .validate),
    .persist ⟨9, 1, 11, 21, exampleGraph, [], none⟩ 200 60]

/-- The tables after the two uploads. -/
theorem exampleActions_attained {P : Database → Prop} [DecidablePred P]
    (h : ((Database.performAll ⟨[], [], [], [], [], [], [], []⟩ exampleActions).any
      fun db => decide (P db)) = true) :
    ∃ system : System, system.Reachable ∧ P system.db := by
  cases hperform : Database.performAll ⟨[], [], [], [], [], [], [], []⟩ exampleActions with
  | none =>
      rw [hperform] at h
      cases h
  | some db =>
      rw [hperform] at h
      obtain ⟨system, hreachable, hdb, -⟩ := attained_empty.performAll hperform
      exact ⟨system, hreachable, hdb ▸ of_decide_eq_true h⟩

theorem graph_stored_whole_of_two_uploads :
    ∃ system : System, system.Reachable ∧
      (∃ ingestion ∈ system.db.ingestions, ingestion.snapshot.state = .completed) ∧
        ∀ ingestion ∈ system.db.ingestions, GraphStored system.db ingestion := by
  obtain ⟨system, hreachable, hcompleted⟩ :=
    @exampleActions_attained
      (fun db => ∃ ingestion ∈ db.ingestions, ingestion.snapshot.state = .completed) _
      (by decide +kernel)
  exact ⟨system, hreachable, hcompleted, (graph_stored_whole_or_not_at_all hreachable).1⟩

end PatchPilot.Sbom
