import PatchPilot.Foundation.Fallible
import PatchPilot.Foundation.Keyset
import PatchPilot.Policy.Definition
import PatchPilot.Risk.RemediationOrder
import PatchPilot.Risk.RemediationQueue

set_option autoImplicit false

/-!
# Risk: following the pages of the remediation queue

The predicate of a cursor selects exactly the rows that the order of the section puts
after the row it was made of, and the token gives the cursor back.  So a page is the next
stretch of the section, and following the cursors enumerates the section.
-/

namespace PatchPilot.Risk.RemediationQueue

open PatchPilot.Foundation
open PatchPilot.Policy

/-! ## A cursor is its row -/

theorem compareLex_lt_iff {α : Type} {cmp₁ cmp₂ : α → α → Ordering} {a b : α} :
    compareLex cmp₁ cmp₂ a b = .lt ↔
      cmp₁ a b = .lt ∨ (cmp₁ a b = .eq ∧ cmp₂ a b = .lt) := by
  unfold compareLex
  cases cmp₁ a b <;> simp

theorem compareBytes_gt_iff {s t : JsString} : compareBytes t s = .gt ↔ compareBytes s t = .lt := by
  rw [@Std.OrientedCmp.eq_swap _ compareBytes _ t s]
  cases compareBytes s t <;> simp

theorem compareBytes_eq_comm {s t : JsString} :
    compareBytes t s = .eq ↔ compareBytes s t = .eq := by
  rw [@Std.OrientedCmp.eq_swap _ compareBytes _ t s]
  cases compareBytes s t <;> simp

section

variable {row next : QueueSqlRow}

theorem afterFinding_iff {findingId : JsString} (h : row.findingId = findingId) :
    afterFinding findingId next = true ↔ findingIdOrder row next = .lt := by
  rw [afterFinding, decide_eq_true_eq, compareBytes_gt_iff, findingIdOrder, comapCmp, h]

theorem afterObservation_iff {firstObservedAt findingId : JsString}
    (hobserved : row.firstObservedText = firstObservedAt) (hid : row.findingId = findingId) :
    afterObservation firstObservedAt findingId next = true ↔
      compareLex firstObservedOrder findingIdOrder row next = .lt := by
  rw [afterObservation, Bool.or_eq_true, Bool.and_eq_true, decide_eq_true_eq,
    decide_eq_true_eq, compareBytes_gt_iff, compareBytes_eq_comm, afterFinding_iff hid,
    compareLex_lt_iff, firstObservedOrder, comapCmp, hobserved]

/-- The predicate of a ranked key selects what the ranked order puts after the row. -/
theorem afterRank_iff {fields fields' : RemediationQueueCalculationFields} {key : RankedKey}
    (hrow : CalculationColumns row fields) (hnext : CalculationColumns next fields')
    (hpriority : key.priorityText = fields.priorityText)
    (hescalation : key.escalationRecommended = fields.escalationRecommended)
    (hkev : key.kevListed = fields.kevListed)
    (hseverity : key.severityText = fields.severityText)
    (hobserved : row.firstObservedText = key.firstObservedAt)
    (hid : row.findingId = key.findingId) :
    afterRank key next = true ↔ rankedOrder row next = .lt := by
  have hp : row.priorityNumeric = some (decimalValue key.priorityText) ∧
      next.priorityNumeric = some (decimalValue fields'.priorityText) := by
    unfold QueueSqlRow.priorityNumeric
    rw [hrow.priorityText, hnext.priorityText, hpriority]
    exact ⟨rfl, rfl⟩
  have hs : row.severityNumeric = some (decimalValue key.severityText) ∧
      next.severityNumeric = some (decimalValue fields'.severityText) := by
    unfold QueueSqlRow.severityNumeric
    rw [hrow.severityText, hnext.severityText, hseverity]
    exact ⟨rfl, rfl⟩
  have he : row.escalationRank = some (rankOf key.escalationRecommended) ∧
      next.escalationRank = some (rankOf fields'.escalationRecommended) := by
    unfold QueueSqlRow.escalationRank
    rw [hrow.escalation, hnext.escalation, hescalation]
    exact ⟨rfl, rfl⟩
  have hk : row.kevRank = some (rankOf key.kevListed) ∧
      next.kevRank = some (rankOf fields'.kevListed) := by
    unfold QueueSqlRow.kevRank
    rw [hrow.kev, hnext.kev, hkev]
    exact ⟨rfl, rfl⟩
  rw [rankedOrder, compareLex_lt_iff, compareLex_lt_iff, compareLex_lt_iff, compareLex_lt_iff,
    ← afterObservation_iff hobserved hid, afterRank]
  simp only [comapCmp, hp.1, hp.2, hs.1, hs.2, he.1, he.2, hk.1, hk.2, nullsLast, descending,
    holds, Option.any_some, Bool.or_eq_true, Bool.and_eq_true, decide_eq_true_eq,
    compare_lt_iff_lt, compare_eq_iff_eq, gt_iff_lt]
  simp only [eq_comm (a := rankOf key.escalationRecommended), eq_comm (a := rankOf key.kevListed)]

end

/-! ## Well-formed rows -/

/-- A text that the database clock shows. -/
def IsClockText (asOf : JsString) : Prop :=
  isIsoText asOf = true ∧ (dateOfText asOf).isSome = true

/-- A row as the port hands it on and as a page shows it, at some time. -/
def Accepted (dependencies : ReadRemediationQueueDependencies) (hash asOf : JsString)
    (activeKevGenerationId : Option JsString) (row : QueueSqlRow) (raw : RemediationQueueRawRow)
    (shown : RemediationQueueRow) : Prop :=
  mapQueueRow row row.section_ asOf = some raw ∧
    mapRow row.section_ hash dependencies activeKevGenerationId raw = some shown

/-- A row that the statement does not call malformed and that the checks of the adapter
and of the use case accept at any time. -/
def WellFormed (dependencies : ReadRemediationQueueDependencies) (hash : JsString)
    (row : QueueSqlRow) : Prop :=
  row.malformed = false ∧
    ∀ asOf activeKevGenerationId, IsClockText asOf →
      ∃ raw shown, Accepted dependencies hash asOf activeKevGenerationId row raw shown

/-- A page shows a row. -/
def Shows (dependencies : ReadRemediationQueueDependencies) (hash : JsString)
    (row : QueueSqlRow) (shown : RemediationQueueRow) : Prop :=
  ∃ asOf activeKevGenerationId raw,
    Accepted dependencies hash asOf activeKevGenerationId row raw shown

/-- What the use case has checked of a row that it shows. -/
theorem checks_of_mapRow {dependencies : ReadRemediationQueueDependencies}
    {queueSection : RemediationQueueSection} {hash : JsString}
    {activeKevGenerationId : Option JsString} {raw : RemediationQueueRawRow}
    {shown : RemediationQueueRow}
    (h : mapRow queueSection hash dependencies activeKevGenerationId raw = some shown) :
    identityOk raw = true ∧
      (queueSection = .notCalculated ∨
        ∃ calculation, raw.calculation = some calculation ∧
          calculationMatches calculation queueSection hash dependencies = true) := by
  unfold mapRow at h
  split at h
  · cases h
  · rename_i hok
    refine ⟨by simpa using (not_or.mp hok).2, ?_⟩
    split at h
    · rename_i hlast
      exact .inl hlast
    · obtain ⟨calculation, hcalculation, h⟩ := Option.bind_eq_some_iff.mp h
      split at h
      · cases h
      · rename_i hmatches
        exact .inr ⟨calculation, hcalculation, by simpa using hmatches⟩

/-- The texts of a calculation that matches. -/
theorem texts_of_calculationMatches {dependencies : ReadRemediationQueueDependencies}
    {calculation : RemediationQueueCalculationFields} {queueSection : RemediationQueueSection}
    {hash : JsString}
    (h : calculationMatches calculation queueSection hash dependencies = true) :
    isIsoText calculation.calculatedAt = true ∧ isDecimalText calculation.priorityText = true ∧
      isDecimalText calculation.severityText = true := by
  unfold calculationMatches at h
  split at h
  · cases h
  · split at h
    · cases h
    · simp only [Bool.and_eq_true] at h
      obtain ⟨⟨⟨⟨⟨⟨⟨⟨⟨⟨⟨-, -⟩, hcalculated⟩, -⟩, -⟩, hpriority⟩, -⟩, hseverity⟩, -⟩, -⟩, -⟩, -⟩ := h
      exact ⟨hcalculated, hpriority, hseverity⟩

section

variable {dependencies : ReadRemediationQueueDependencies} {hash asOf : JsString}
  {activeKevGenerationId : Option JsString} {row next : QueueSqlRow}
  {raw raw' : RemediationQueueRawRow} {shown : RemediationQueueRow}

/-- An accepted row has a cursor, which the reader of tokens accepts. -/
theorem exists_cursorFor (hhash : isSha256Text hash = true)
    (hengine : isEngineText dependencies.referenceEngineVersion = true)
    (h : Accepted dependencies hash asOf activeKevGenerationId row raw shown) :
    ∃ cursor, cursorFor row.section_ hash dependencies raw = some cursor ∧
      cursor.wellFormed = true ∧ cursor.queueSection = row.section_ ∧
      cursor.reference = ⟨hash, dependencies.referenceEngineVersion⟩ := by
  obtain ⟨hraw, hshown⟩ := h
  obtain ⟨hidentity, hcalculation⟩ := checks_of_mapRow hshown
  simp only [identityOk, Bool.and_eq_true] at hidentity
  obtain ⟨⟨⟨⟨⟨⟨hid, -⟩, hobserved⟩, -⟩, -⟩, -⟩, -⟩ := hidentity
  cases hsection : row.section_ with
  | notCalculated =>
      refine ⟨_, rfl, ?_, rfl, rfl⟩
      simp [RemediationQueueCursor.wellFormed, RemediationQueueCursor.reference, hhash, hengine,
        hobserved, hid]
  | incomparable =>
      rw [hsection] at hcalculation
      obtain ⟨calculation, hsome, hmatches⟩ := hcalculation.resolve_left (by decide)
      obtain ⟨hcalculated, -, -⟩ := texts_of_calculationMatches hmatches
      unfold cursorFor
      rw [hsome]
      refine ⟨_, rfl, ?_, rfl, rfl⟩
      simp [RemediationQueueCursor.wellFormed, RemediationQueueCursor.reference, hhash, hengine,
        hcalculated, hid]
  | ranked =>
      rw [hsection] at hcalculation
      obtain ⟨calculation, hsome, hmatches⟩ := hcalculation.resolve_left (by decide)
      obtain ⟨-, hpriority, hseverity⟩ := texts_of_calculationMatches hmatches
      unfold cursorFor
      rw [hsome]
      refine ⟨_, rfl, ?_, rfl, rfl⟩
      simp [RemediationQueueCursor.wellFormed, RemediationQueueCursor.reference, hhash, hengine,
        hobserved, hid, hpriority, hseverity]

/-- The predicate of the cursor of a row selects what its section puts after the row. -/
theorem cursorPredicate_iff {queueSection : RemediationQueueSection}
    {cursor : RemediationQueueCursor} {asOf' : JsString}
    (hrow : mapQueueRow row queueSection asOf = some raw)
    (hnext : mapQueueRow next queueSection asOf' = some raw')
    (hcursor : cursorFor queueSection hash dependencies raw = some cursor) :
    ∃ predicate, cursorPredicate queueSection (some cursor) = some predicate ∧
      (predicate next = true ↔ sectionOrder queueSection row next = .lt) := by
  have hr := mapQueueRow_eq_some hrow
  have hn := mapQueueRow_eq_some hnext
  cases queueSection with
  | notCalculated =>
      cases hcursor
      exact ⟨_, rfl, afterObservation_iff hr.firstObserved.symm hr.findingId.symm⟩
  | incomparable =>
      obtain ⟨fields, hfields⟩ := Option.isSome_iff_exists.mp (hr.calculated (by decide))
      obtain ⟨fields', hfields'⟩ := Option.isSome_iff_exists.mp (hn.calculated (by decide))
      have hcolumns := hr.calculation fields hfields
      have hcolumns' := hn.calculation fields' hfields'
      unfold cursorFor at hcursor
      rw [hfields] at hcursor
      cases hcursor
      refine ⟨_, rfl, ?_⟩
      rw [sectionOrder, incomparableOrder, compareLex_lt_iff,
        ← afterFinding_iff hr.findingId.symm]
      simp only [hcolumns'.calculatedAt, holds, Option.any_some, Bool.or_eq_true,
        Bool.and_eq_true, decide_eq_true_eq, comapCmp, hcolumns.calculatedAt, nullsLast,
        compareBytes_gt_iff, compareBytes_eq_comm (s := fields.calculatedAt)]
  | ranked =>
      obtain ⟨fields, hfields⟩ := Option.isSome_iff_exists.mp (hr.calculated (by decide))
      obtain ⟨fields', hfields'⟩ := Option.isSome_iff_exists.mp (hn.calculated (by decide))
      unfold cursorFor at hcursor
      rw [hfields] at hcursor
      cases hcursor
      exact ⟨_, rfl, afterRank_iff (hr.calculation fields hfields)
        (hn.calculation fields' hfields') rfl rfl rfl rfl hr.firstObserved.symm
        hr.findingId.symm⟩

end

/-! ## One page -/

/-- The sections partition rows that are not malformed. -/
theorem sectionCounts_sum {rows : List QueueSqlRow} (h : ∀ row ∈ rows, row.malformed = false) :
    sectionCount rows .ranked + sectionCount rows .incomparable +
      sectionCount rows .notCalculated = rows.length := by
  unfold sectionCount
  induction rows with
  | nil => rfl
  | cons row rows ih =>
      have hrow := h row List.mem_cons_self
      have hrest := ih fun row hrow => h row (List.mem_cons_of_mem _ hrow)
      simp only [List.filter_cons, hrow, Bool.not_false, Bool.true_and, decide_eq_true_eq,
        List.length_cons]
      cases row.section_ <;> simp <;> omega

/-- What the kept rows of a page are. -/
theorem kept_eq_take {α : Type} (rows : List α) (limit : Nat) :
    (if decide ((rows.take (limit + 1)).length > limit) = true
      then (rows.take (limit + 1)).take limit else rows.take (limit + 1)) = rows.take limit ∧
    decide ((rows.take (limit + 1)).length > limit) = decide (limit < rows.length) := by
  have hmore : (rows.take (limit + 1)).length > limit ↔ limit < rows.length := by
    rw [List.length_take]
    omega
  refine ⟨?_, decide_eq_decide.mpr hmore⟩
  split
  · rw [List.take_take]
    congr 1
    omega
  · rename_i hlast
    have hle : rows.length ≤ limit := by
      rw [decide_eq_true_eq, hmore] at hlast
      omega
    rw [List.take_of_length_le hle, List.take_of_length_le (by omega)]

/-- The published policy is admitted, and what a read sees of the database is in order. -/
structure InService (dependencies : ReadRemediationQueueDependencies) (database : QueueDatabase)
    (policy : StoredPriorityPolicyView) (hash : JsString) : Prop where
  engineText : isEngineText dependencies.referenceEngineVersion = true
  policies : database.publishedPolicies = [policy]
  published : isPublishedPolicy policy = true
  admitted : admitDefinition dependencies policy.definition = some hash
  generation : database.activeKevGenerationId.all isUuidLower = true

theorem isSha256Text_iff {s : JsString} :
    isSha256Text s = true ↔ s.length = 64 ∧ s.all isLowerHex = true := by
  unfold isSha256Text
  generalize 64 = n
  induction n generalizing s with
  | zero =>
      cases s with
      | nil => exact iff_of_true rfl ⟨rfl, rfl⟩
      | cons u s => exact iff_of_false nofun (by simp)
  | succ n ih =>
      cases s with
      | nil => exact iff_of_false nofun (by simp)
      | cons u s =>
          rw [List.replicate_succ, hasShape, Bool.and_eq_true, ih, List.all_cons,
            Bool.and_eq_true, List.length_cons, Nat.succ_inj]
          tauto

section

variable {dependencies : ReadRemediationQueueDependencies} {database : QueueDatabase}
  {policy : StoredPriorityPolicyView} {hash organizationId asOf : JsString}
  {queueSection : RemediationQueueSection} {limit : Nat}

theorem isSha256Text_of_admitted {definition : JsValue}
    (h : admitDefinition dependencies definition = some hash) : isSha256Text hash = true := by
  obtain ⟨hash', -, h⟩ := Option.bind_eq_some_iff.mp h
  split at h
  · rename_i hpair
    cases h
    unfold isAdmittedPriorityPolicyPair at hpair
    split at hpair
    · cases hpair
    · rename_i hshape
      exact isSha256Text_iff.mpr (not_not.mp (not_or.mp hshape).2)
  · cases h

/-- The scope under which the use case reads. -/
def readScope (dependencies : ReadRemediationQueueDependencies) (hash : JsString) :
    QueueClassificationScope :=
  ⟨hash, dependencies.referenceEngineVersion⟩

/-- The port over a database, at a time. -/
def portOf (database : QueueDatabase) (policy : StoredPriorityPolicyView) (asOf : JsString) :
    RemediationQueuePersistencePort where
  findPublishedBuiltinPriorityPolicy := .found policy
  readRemediationQueue := readRemediationQueuePage database asOf

/-- The adapter answers with the next stretch of what its predicate selects. -/
theorem readRemediationQueuePage_page (hservice : InService dependencies database policy hash)
    (horganization : isUuidLower organizationId = true) (hclock : IsClockText asOf)
    (hlimit : 1 ≤ limit ∧ limit ≤ 50)
    (hrows : ∀ row ∈ classifiedFindings database (readScope dependencies hash),
      WellFormed dependencies hash row)
    {cursor : Option RemediationQueueCursor} {predicate : QueueSqlRow → Bool}
    (hpredicate : cursorPredicate queueSection cursor = some predicate) :
    let selected := classifiedSection
      (classifiedFindings database (readScope dependencies hash)) queueSection predicate
    ∃ raws counts, countsPartition counts database.findings.length = true ∧
      List.Forall₂ (fun row raw => mapQueueRow row queueSection asOf = some raw)
        (selected.take limit) raws ∧
      readRemediationQueuePage database asOf
          ⟨organizationId, queueSection, readScope dependencies hash, limit, cursor⟩ =
        .page {
          asOf
          publishedPolicyId := policy.id
          publishedPolicyKey := builtinPriorityPolicyKey
          publishedPolicyVersion := builtinPriorityPolicyVersion
          publishedDefinition := policy.definition
          activeKevGenerationId := database.activeKevGenerationId
          counts
          findingCount := database.findings.length
          rows := raws
          hasMore := decide (limit < selected.length) } := by
  intro selected
  have hengine := hservice.engineText
  simp only [isEngineText, Bool.and_eq_true, decide_eq_true_eq] at hengine
  have hquery : isQueueQuery
      ⟨organizationId, queueSection, readScope dependencies hash, limit, cursor⟩ = true := by
    simp only [isQueueQuery, readScope, horganization, isSha256Text_of_admitted hservice.admitted,
      Bool.and_eq_true, decide_eq_true_eq, Bool.true_and]
    exact ⟨⟨⟨decide_eq_true hengine.1.1, decide_eq_true hengine.1.2⟩, hlimit.1⟩, hlimit.2⟩
  have hmalformed : ∀ row ∈ classifiedFindings database (readScope dependencies hash),
      row.malformed = false := fun row hrow => (hrows row hrow).1
  have hnone : (classifiedFindings database (readScope dependencies hash)).filter
      QueueSqlRow.malformed = [] :=
    List.filter_eq_nil_iff.mpr fun row hrow => by simp [hmalformed row hrow]
  have hsum := sectionCounts_sum hmalformed
  have hlength : (classifiedFindings database (readScope dependencies hash)).length =
      database.findings.length := List.length_map _
  have hmapped : ∀ row ∈ selected.take limit, ∃ raw,
      mapQueueRow row queueSection asOf = some raw := by
    intro row hrow
    have hmem := (sortBy_perm _ _).mem_iff.mp (List.mem_of_mem_take hrow)
    obtain ⟨hclassified, hselected⟩ := List.mem_filter.mp hmem
    simp only [Bool.and_eq_true, decide_eq_true_eq] at hselected
    obtain ⟨raw, shown, hraw, -⟩ := (hrows row hclassified).2 asOf none hclock
    rw [hselected.1.2] at hraw
    exact ⟨raw, hraw⟩
  obtain ⟨raws, hraws, hall⟩ := exists_mapM hmapped
  obtain ⟨hkept, hmore⟩ := kept_eq_take selected limit
  refine ⟨raws, ⟨sectionCount (classifiedFindings database (readScope dependencies hash)) .ranked,
    sectionCount (classifiedFindings database (readScope dependencies hash)) .incomparable,
    sectionCount (classifiedFindings database (readScope dependencies hash)) .notCalculated⟩,
    ?_, hall, ?_⟩
  · rw [countsPartition, decide_eq_true_eq, ← hlength]
    exact hsum
  · unfold readRemediationQueuePage
    rw [if_neg (by rw [hquery]; decide)]
    unfold readInTransaction
    rw [hservice.policies]
    simp only [ne_eq, not_true_eq_false, hservice.published, Bool.true_eq_false, or_self, if_false,
      hclock.1, hservice.generation, hnone, List.length_nil, lt_self_iff_false, hsum,
      hpredicate]
    rw [hlength]
    rw [hkept, hraws, ← hmore]

/-! ## What a token stands for -/

/-- The rows of a section, in its order. -/
def sectionListing (dependencies : ReadRemediationQueueDependencies) (database : QueueDatabase)
    (hash : JsString) (queueSection : RemediationQueueSection) : List QueueSqlRow :=
  classifiedSection (classifiedFindings database (readScope dependencies hash)) queueSection
    fun _ => true

/-- The rows that a token stands for: all without one, and those behind the row it was
made of otherwise. -/
inductive StandsFor (dependencies : ReadRemediationQueueDependencies) (hash : JsString)
    (queueSection : RemediationQueueSection) (listing : List QueueSqlRow) :
    Option JsString → List QueueSqlRow → Prop
  | start : StandsFor dependencies hash queueSection listing none listing
  | behind {before behind : List QueueSqlRow} {row : QueueSqlRow} {asOf : JsString}
      {activeKevGenerationId : Option JsString} {raw : RemediationQueueRawRow}
      {shown : RemediationQueueRow} {cursor : RemediationQueueCursor}
      (split : listing = before ++ row :: behind)
      (accepted : Accepted dependencies hash asOf activeKevGenerationId row raw shown)
      (made : cursorFor queueSection hash dependencies raw = some cursor) :
      StandsFor dependencies hash queueSection listing
        (some (encodeRemediationQueueCursor cursor)) behind

/-- The finding ids of a section are distinct. -/
def DistinctFindings (rows : List QueueSqlRow) (queueSection : RemediationQueueSection) : Prop :=
  ((rows.filter fun row => row.section_ = queueSection).map (·.findingId)).Nodup

theorem findingIdOrder_of_sectionOrder {row next : QueueSqlRow}
    (h : sectionOrder queueSection row next = .eq) : findingIdOrder row next = .eq := by
  cases queueSection with
  | ranked =>
      unfold sectionOrder rankedOrder at h
      exact (compareLex_eq_eq.mp (compareLex_eq_eq.mp (compareLex_eq_eq.mp (compareLex_eq_eq.mp
        (compareLex_eq_eq.mp h).2).2).2).2).2
  | incomparable => exact (compareLex_eq_eq.mp h).2
  | notCalculated => exact (compareLex_eq_eq.mp h).2

/-- The rows of a section that are not malformed. -/
def sectionRows (rows : List QueueSqlRow) (queueSection : RemediationQueueSection) :
    List QueueSqlRow :=
  rows.filter fun row => !row.malformed && decide (row.section_ = queueSection)

theorem classifiedSection_eq (rows : List QueueSqlRow) (predicate : QueueSqlRow → Bool) :
    classifiedSection rows queueSection predicate =
      sortBy (sectionOrder queueSection) ((sectionRows rows queueSection).filter predicate) := by
  unfold classifiedSection sectionRows
  rw [List.filter_filter]
  congr 2
  funext row
  rw [Bool.and_comm]

/-- The order of a section tells its rows apart. -/
theorem sectionRows_separates {scope : QueueClassificationScope}
    (hids : DistinctFindings (classifiedFindings database scope) queueSection) :
    (sectionRows (classifiedFindings database scope) queueSection).Nodup ∧
      Separates (sectionOrder queueSection)
        (sectionRows (classifiedFindings database scope) queueSection) := by
  have hsublist : (sectionRows (classifiedFindings database scope) queueSection).Sublist
      ((classifiedFindings database scope).filter fun row => row.section_ = queueSection) := by
    unfold sectionRows
    refine List.monotone_filter_right _ fun row hrow => ?_
    exact ((Bool.and_eq_true _ _).mp hrow).2
  refine ⟨hsublist.nodup (List.Nodup.of_map _ hids), ?_⟩
  intro a ha b hb heq
  have hid := findingIdOrder_of_sectionOrder heq
  refine List.inj_on_of_nodup_map hids (hsublist.subset ha) (hsublist.subset hb) ?_
  obtain ⟨f, -, rfl⟩ := List.mem_map.mp (List.mem_filter.mp ha).1
  obtain ⟨g, -, rfl⟩ := List.mem_map.mp (List.mem_filter.mp hb).1
  change compareBytes f.findingId.text g.findingId.text = .eq at hid
  rw [compareBytes_ascii (isAscii_uuidColumn _) (isAscii_uuidColumn _)] at hid
  exact Std.LawfulEqCmp.eq_of_compare hid

theorem mem_sectionListing {row : QueueSqlRow} :
    row ∈ sectionListing dependencies database hash queueSection ↔
      row ∈ classifiedFindings database (readScope dependencies hash) ∧
        row.malformed = false ∧ row.section_ = queueSection := by
  unfold sectionListing classifiedSection
  rw [(sortBy_perm _ _).mem_iff, List.mem_filter]
  simp

/-- The statement selects what the token of a page stands for. -/
theorem selected_of_standsFor (hservice : InService dependencies database policy hash)
    (hids : DistinctFindings (classifiedFindings database (readScope dependencies hash))
      queueSection)
    (hrows : ∀ row ∈ classifiedFindings database (readScope dependencies hash),
      WellFormed dependencies hash row) (hclock : IsClockText asOf)
    {token : Option JsString} {rows : List QueueSqlRow}
    (htoken : StandsFor dependencies hash queueSection
      (sectionListing dependencies database hash queueSection) token rows) :
    ∃ cursor predicate, readCursor token queueSection hash dependencies = .cursor cursor ∧
      cursorPredicate queueSection cursor = some predicate ∧
      classifiedSection (classifiedFindings database (readScope dependencies hash)) queueSection
        predicate = rows := by
  cases htoken with
  | start => exact ⟨none, _, rfl, rfl, rfl⟩
  | @behind before behind row asOf' activeKevGenerationId raw shown cursor split accepted made =>
      have hrow : row ∈ sectionListing dependencies database hash queueSection := by
        rw [split]
        simp
      obtain ⟨-, -, hsection⟩ := mem_sectionListing.mp hrow
      obtain ⟨cursor', hmade, hwellFormed, hcursorSection, hreference⟩ :=
        exists_cursorFor (isSha256Text_of_admitted hservice.admitted) hservice.engineText accepted
      obtain ⟨hraw, -⟩ := accepted
      rw [hsection] at hmade hcursorSection hraw
      cases Option.some.inj (hmade.symm.trans made)
      obtain ⟨predicate, hpredicate, -⟩ := cursorPredicate_iff hraw hraw made
      refine ⟨some cursor, predicate, ?_, hpredicate, ?_⟩
      · unfold readCursor
        simp only [decode_encodeRemediationQueueCursor hwellFormed, hcursorSection, hreference]
        simp
      · obtain ⟨hnodup, hseparates⟩ := sectionRows_separates hids
        have hlisting : sectionListing dependencies database hash queueSection =
            sortBy (sectionOrder queueSection) (sectionRows
              (classifiedFindings database (readScope dependencies hash)) queueSection) := by
          unfold sectionListing
          rw [classifiedSection_eq, List.filter_eq_self.mpr fun _ _ => rfl]
        have hsorted := sortBy_pairwise_lt hseparates hnodup
        rw [classifiedSection_eq, sortBy_filter hseparates, ← hlisting, split]
        rw [← hlisting, split] at hsorted
        refine filter_after hsorted fun next hnext => ?_
        rw [← split] at hnext
        obtain ⟨hclassified, -, hnextSection⟩ := mem_sectionListing.mp hnext
        obtain ⟨raw', shown', hraw', -⟩ := (hrows next hclassified).2 asOf none hclock
        rw [hnextSection] at hraw'
        obtain ⟨predicate', hpredicate', hiff⟩ := cursorPredicate_iff hraw hraw' made
        cases Option.some.inj (hpredicate.symm.trans hpredicate')
        exact hiff

/-! ## Following the cursors -/

/-- A request for a page: the rows of the answer and its next cursor.  The clock shows a
time for every request. -/
def requestPage (dependencies : ReadRemediationQueueDependencies) (database : QueueDatabase)
    (policy : StoredPriorityPolicyView) (clock : Nat → JsString) (organizationId : JsString)
    (queueSection : RemediationQueueSection) (limit : Nat) (request : Nat)
    (cursor : Option JsString) : Option (List RemediationQueueRow × Option JsString) :=
  match executeRead dependencies (portOf database policy (clock request))
      ⟨organizationId, queueSection, limit, cursor⟩ with
  | .page page => some (page.rows, page.nextCursor)
  | _ => none

theorem forall₂_getLast? {α β : Type} {R : α → β → Prop} {before : List α} {a : α} {l : List β}
    (h : List.Forall₂ R (before ++ [a]) l) : ∃ b, l.getLast? = some b ∧ R a b := by
  rw [← List.forall₂_reverse_iff, List.reverse_append] at h
  obtain ⟨b, rest, hab, -, hrest⟩ := List.forall₂_cons_left_iff.mp h
  refine ⟨b, ?_, hab⟩
  rw [List.getLast?_eq_head?_reverse, hrest]
  rfl

/-- What a token stands for ends the listing. -/
theorem exists_prefix_of_standsFor {listing : List QueueSqlRow} {token : Option JsString}
    {rows : List QueueSqlRow}
    (h : StandsFor dependencies hash queueSection listing token rows) :
    ∃ before, listing = before ++ rows := by
  cases h with
  | start => exact ⟨[], rfl⟩
  | @behind before _ row _ _ _ _ _ split =>
      exact ⟨before ++ [row], by rw [split, List.append_assoc]; rfl⟩

/-- What the use case makes of a page of the port. -/
theorem requestPage_of_read (next : Option RemediationQueueCursor)
    (hservice : InService dependencies database policy hash)
    {clock : Nat → JsString} {request : Nat} {token : Option JsString}
    {cursor : Option RemediationQueueCursor} {read : RemediationQueueReadPage}
    {shownRows : List RemediationQueueRow}
    (hcursor : readCursor token queueSection hash dependencies = .cursor cursor)
    (hread : readRemediationQueuePage database (clock request)
      ⟨organizationId, queueSection, readScope dependencies hash, limit, cursor⟩ = .page read)
    (hdefinition : read.publishedDefinition = policy.definition)
    (hkey : read.publishedPolicyKey = builtinPriorityPolicyKey)
    (hversion : read.publishedPolicyVersion = builtinPriorityPolicyVersion)
    (hasOf : isIsoText read.asOf = true)
    (hcounts : countsPartition read.counts read.findingCount = true)
    (hrows : read.rows.mapM (mapRow queueSection hash dependencies read.activeKevGenerationId) =
      some shownRows)
    (hlength : shownRows.length ≤ limit)
    (hfull : read.hasMore = true → shownRows.length = limit)
    (hnext : if read.hasMore = true
      then ∃ made, read.rows.getLast?.bind (cursorFor queueSection hash dependencies) = some made ∧
        next = some made
      else next = none) :
    requestPage dependencies database policy clock organizationId queueSection limit request token =
      some (shownRows, next.map encodeRemediationQueueCursor) := by
  have hengine : dependencies.referenceEngineVersion.length ≠ 0 := by
    have h := hservice.engineText
    simp only [isEngineText, Bool.and_eq_true, decide_eq_true_eq] at h
    omega
  have hpublished : policy.policyKey = builtinPriorityPolicyKey ∧
      policy.version = builtinPriorityPolicyVersion := by
    have h := hservice.published
    simp only [isPublishedPolicy, Bool.and_eq_true, decide_eq_true_eq] at h
    exact ⟨h.1.1.2, h.1.2⟩
  have hadmitted : admitDefinition dependencies read.publishedDefinition = some hash := by
    rw [hdefinition]
    exact hservice.admitted
  unfold readScope at hread
  unfold requestPage executeRead
  rw [if_neg hengine]
  simp only [portOf, hservice.admitted, hpublished.1, hpublished.2, ne_eq, not_true_eq_false,
    or_self, if_false, hcursor, hread, hadmitted, hkey, hversion, hasOf, hcounts, hrows]
  rw [if_neg (by simp), if_neg (by
    rintro (hlong | ⟨hmore, hshort⟩)
    · exact absurd hlong (Nat.not_lt.mpr hlength)
    · exact hshort (hfull hmore))]
  cases hmore : read.hasMore with
  | false =>
      rw [hmore] at hnext
      cases hnext
      rfl
  | true =>
      rw [hmore, if_pos rfl] at hnext
      obtain ⟨made, hmade, rfl⟩ := hnext
      simp only [hmade, if_true, Option.map_some]

/-- The use case serves the next stretch of the section. -/
theorem requestPage_serves (hservice : InService dependencies database policy hash)
    (horganization : isUuidLower organizationId = true) {clock : Nat → JsString}
    (hclock : ∀ request, IsClockText (clock request)) (hlimit : 1 ≤ limit ∧ limit ≤ 50)
    (hids : DistinctFindings (classifiedFindings database (readScope dependencies hash))
      queueSection)
    (hrows : ∀ row ∈ classifiedFindings database (readScope dependencies hash),
      WellFormed dependencies hash row) :
    Serves (requestPage dependencies database policy clock organizationId queueSection limit)
      (Shows dependencies hash) limit
      (StandsFor dependencies hash queueSection
        (sectionListing dependencies database hash queueSection)) := by
  intro request token rows htoken
  obtain ⟨cursor, predicate, hcursor, hpredicate, hselected⟩ :=
    selected_of_standsFor hservice hids hrows (hclock request) htoken
  obtain ⟨raws, counts, hcounts, hraws, hread⟩ :=
    readRemediationQueuePage_page hservice horganization (hclock request) hlimit hrows hpredicate
  rw [hselected] at hraws hread
  obtain ⟨before, hlisting⟩ := exists_prefix_of_standsFor htoken
  have haccepted : ∀ row ∈ rows, row.section_ = queueSection ∧ ∀ raw,
      mapQueueRow row queueSection (clock request) = some raw →
        ∃ shown, Accepted dependencies hash (clock request) database.activeKevGenerationId row raw
          shown := by
    intro row hrow
    obtain ⟨hclassified, -, hsection⟩ := mem_sectionListing.mp
      (show row ∈ sectionListing dependencies database hash queueSection by
        rw [hlisting]; exact List.mem_append_right _ hrow)
    refine ⟨hsection, fun raw hraw => ?_⟩
    obtain ⟨raw', shown, hraw', hshown⟩ :=
      (hrows row hclassified).2 (clock request) database.activeKevGenerationId (hclock request)
    rw [hsection] at hraw'
    cases Option.some.inj (hraw.symm.trans hraw')
    exact ⟨shown, by rw [hsection]; exact hraw, hshown⟩
  have hkept : List.Forall₂ (fun row raw =>
      (row ∈ rows.take limit) ∧ mapQueueRow row queueSection (clock request) = some raw)
      (rows.take limit) raws := (List.forall₂_and_left _ _).mpr ⟨fun row hrow => hrow, hraws⟩
  obtain ⟨shownRows, hshownRows, hall⟩ := exists_mapM_of_forall₂
    (g := mapRow queueSection hash dependencies database.activeKevGenerationId) hkept (by
      rintro row raw ⟨hrow, hraw⟩
      obtain ⟨hsection, hshown⟩ := haccepted row (List.mem_of_mem_take hrow)
      obtain ⟨shown, -, hshown⟩ := hshown raw hraw
      rw [hsection] at hshown
      exact ⟨shown, hshown⟩)
  have hshows : List.Forall₂ (Shows dependencies hash) (rows.take limit) shownRows := by
    refine hall.imp ?_
    rintro row shown ⟨raw, ⟨hrow, hraw⟩, hshown⟩
    obtain ⟨hsection, -⟩ := haccepted row (List.mem_of_mem_take hrow)
    refine ⟨clock request, database.activeKevGenerationId, raw, ?_, ?_⟩
    · rw [hsection]
      exact hraw
    · rw [hsection]
      exact hshown
  have hlength : shownRows.length = min limit rows.length := by
    rw [← hshows.length_eq, List.length_take]
  have hmore : limit < rows.length → shownRows.length = limit := by
    intro h
    omega
  by_cases hlast : rows.length ≤ limit
  · refine ⟨shownRows, none, ?_, hshows, by rw [if_pos hlast]⟩
    refine requestPage_of_read none hservice hcursor hread rfl rfl rfl
      (hclock request).1 hcounts hshownRows (by omega) (by simpa using hmore) ?_
    rw [if_neg (by simpa using hlast)]
  · have hlong : limit < rows.length := by omega
    have hnonempty : rows.take limit ≠ [] := by
      intro hnil
      have h := congrArg List.length hnil
      rw [List.length_take, List.length_nil] at h
      omega
    have hlastRow := List.dropLast_append_getLast hnonempty
    rw [← hlastRow] at hkept
    obtain ⟨raw, hraw, hmem, hmapped⟩ := forall₂_getLast? hkept
    rw [hlastRow] at hmem
    obtain ⟨hsection, hshown⟩ := haccepted _ (List.mem_of_mem_take hmem)
    obtain ⟨shown, hshown⟩ := hshown raw hmapped
    obtain ⟨made, hmade, -⟩ := exists_cursorFor (isSha256Text_of_admitted hservice.admitted)
      hservice.engineText hshown
    rw [hsection] at hmade
    refine ⟨shownRows, some (encodeRemediationQueueCursor made), ?_, hshows, ?_⟩
    · refine requestPage_of_read (some made) hservice hcursor hread rfl rfl rfl
        (hclock request).1 hcounts hshownRows (by omega) (fun _ => hmore hlong) ?_
      rw [if_pos (by simpa using hlong)]
      refine ⟨made, ?_, rfl⟩
      rw [hraw]
      exact hmade
    · rw [if_neg hlast]
      have hsplit : sectionListing dependencies database hash queueSection =
          (before ++ (rows.take limit).dropLast) ++ (rows.take limit).getLast hnonempty ::
            rows.drop limit := by
        rw [hlisting, List.append_assoc, ← List.singleton_append, ← List.append_assoc _ [_],
          hlastRow, List.take_append_drop]
      exact ⟨_, rfl, .behind hsplit hshown hmade⟩

/-! ## The pages together -/

/-- Following the cursors from the first page on shows every row of the section exactly
once, in the order of the section.  Every request may see another time, and the times
decide nothing about the listing. -/
theorem queue_pages_enumerate_section (hservice : InService dependencies database policy hash)
    (horganization : isUuidLower organizationId = true) {clock : Nat → JsString}
    (hclock : ∀ request, IsClockText (clock request)) (hlimit : 1 ≤ limit ∧ limit ≤ 50)
    (hids : DistinctFindings (classifiedFindings database (readScope dependencies hash))
      queueSection)
    (hrows : ∀ row ∈ classifiedFindings database (readScope dependencies hash),
      WellFormed dependencies hash row) :
    ∃ listing pages,
      listing.Perm ((classifiedFindings database (readScope dependencies hash)).filter
        fun row => row.section_ = queueSection) ∧
      listing.Pairwise (fun row next => sectionOrder queueSection row next = .lt) ∧
      followKeys (requestPage dependencies database policy clock organizationId queueSection limit)
        (listing.length + 1) 0 none = some pages ∧
      List.Forall₂ (Shows dependencies hash) listing pages.flatten ∧
      ∀ page ∈ pages, page.length ≤ limit := by
  have hsection : sectionRows (classifiedFindings database (readScope dependencies hash))
      queueSection = (classifiedFindings database (readScope dependencies hash)).filter
        fun row => row.section_ = queueSection := by
    refine List.filter_congr fun row hrow => ?_
    rw [(hrows row hrow).1]
    rfl
  have hlisting : sectionListing dependencies database hash queueSection =
      sortBy (sectionOrder queueSection) (sectionRows
        (classifiedFindings database (readScope dependencies hash)) queueSection) := by
    unfold sectionListing
    rw [classifiedSection_eq, List.filter_eq_self.mpr fun _ _ => rfl]
  obtain ⟨hnodup, hseparates⟩ := sectionRows_separates hids
  obtain ⟨pages, hpages, hshown, hlimits⟩ := followKeys_enumerates hlimit.1
    (requestPage_serves hservice horganization hclock hlimit hids hrows) _ 0 none _ .start
    (Nat.lt_succ_self _)
  refine ⟨_, pages, ?_, ?_, hpages, hshown, hlimits⟩
  · rw [hlisting, ← hsection]
    exact sortBy_perm _ _
  · rw [hlisting]
    exact sortBy_pairwise_lt hseparates hnodup

end

/-! ## An instance -/

/-- Without a review the time decides nothing about a row. -/
theorem projectQueueReview_of_unreviewed {row : QueueSqlRow} {asOf asOf' : JsString}
    (hreview : row.review = none) (h : IsClockText asOf) (h' : IsClockText asOf') :
    projectQueueReview row asOf = projectQueueReview row asOf' := by
  obtain ⟨time, htime⟩ := Option.isSome_iff_exists.mp h.2
  obtain ⟨time', htime'⟩ := Option.isSome_iff_exists.mp h'.2
  unfold projectQueueReview
  rw [if_neg (by rw [h.1]; decide), if_neg (by rw [h'.1]; decide), hreview, htime, htime']
  rfl

/-- Whether a row is shown does not depend on the generation that is live. -/
theorem isSome_mapRow {dependencies : ReadRemediationQueueDependencies}
    {queueSection : RemediationQueueSection} {hash : JsString} {raw : RemediationQueueRawRow}
    (generationId generationId' : Option JsString)
    (h : (mapRow queueSection hash dependencies generationId raw).isSome = true) :
    (mapRow queueSection hash dependencies generationId' raw).isSome = true := by
  unfold mapRow at h ⊢
  split
  · rename_i hrefused
    rw [if_pos hrefused] at h
    exact h
  · rename_i hok
    rw [if_neg hok] at h
    split
    · rename_i hlast
      rw [if_pos hlast] at h
      exact h
    · rename_i hcalculated
      rw [if_neg hcalculated] at h
      cases hcalculation : raw.calculation with
      | none =>
          rw [hcalculation] at h
          cases h
      | some calculation =>
          rw [hcalculation, Option.bind_eq_bind, Option.bind_some] at h
          rw [Option.bind_eq_bind, Option.bind_some]
          split
          · rename_i hmismatch
            rw [if_pos hmismatch] at h
            cases h
          · rename_i hmatches
            rw [if_neg hmatches] at h
            obtain ⟨shown, hshown⟩ := Option.isSome_iff_exists.mp h
            obtain ⟨report, hreport, -⟩ := Option.bind_eq_some_iff.mp hshown
            have hchanges : ∃ report', classifyPriorityInputChanges
                (inputComparison calculation hash dependencies generationId') = some report' := by
              unfold classifyPriorityInputChanges inputComparison at hreport ⊢
              split at hreport
              · rename_i hlast hasset hdone
                rw [hlast, hasset, hdone]
                dsimp only
                split <;> exact ⟨_, rfl⟩
              · cases hreport
            obtain ⟨report', hreport'⟩ := hchanges
            rw [hreport']
            rfl

/-- A row without a review that is shown at one time is well-formed. -/
theorem wellFormed_of_unreviewed {dependencies : ReadRemediationQueueDependencies}
    {hash : JsString} {row : QueueSqlRow} (asOf : JsString)
    (hmalformed : row.malformed = false) (hreview : row.review = none) (hclock : IsClockText asOf)
    (h : ((mapQueueRow row row.section_ asOf).bind
      (mapRow row.section_ hash dependencies none)).isSome = true) :
    WellFormed dependencies hash row := by
  refine ⟨hmalformed, fun asOf' generationId hclock' => ?_⟩
  obtain ⟨shown, hshown⟩ := Option.isSome_iff_exists.mp h
  obtain ⟨raw, hraw, hshown⟩ := Option.bind_eq_some_iff.mp hshown
  obtain ⟨shown', hshown'⟩ := Option.isSome_iff_exists.mp
    (isSome_mapRow none generationId (Option.isSome_iff_exists.mpr ⟨shown, hshown⟩))
  refine ⟨raw, shown', ?_, hshown'⟩
  unfold mapQueueRow at hraw ⊢
  rw [projectQueueReview_of_unreviewed hreview hclock' hclock]
  exact hraw

/-- The deployed dependencies of a read; the hash is that of the builtin definition. -/
def sampleDependencies : ReadRemediationQueueDependencies where
  admittedPairs := admittedPriorityPolicyPairs
  referenceEngineVersion := priorityCalculationEngineVersion
  hashPolicyDefinition := fun _ => some admittedBuiltinSha256

/-- The published builtin policy. -/
def samplePolicy : StoredPriorityPolicyView where
  id := js "dddddddd-dddd-4ddd-8ddd-dddddddddddd"
  policyKey := builtinPriorityPolicyKey
  version := builtinPriorityPolicyVersion
  definition := builtinPolicyDocument

/-- A database with two findings. -/
def sampleDatabase : QueueDatabase where
  publishedPolicies := [samplePolicy]
  findings := sampleFindings
  activeKevGenerationId := none

/-- A time. -/
def sampleTime : JsString := js "2026-11-06T00:00:00.000Z"

theorem sampleRows_wellFormed :
    ∀ row ∈ classifiedFindings sampleDatabase (readScope sampleDependencies admittedBuiltinSha256),
      WellFormed sampleDependencies admittedBuiltinSha256 row := by
  intro row hrow
  have hall : ∀ row ∈ classifiedFindings sampleDatabase
      (readScope sampleDependencies admittedBuiltinSha256), row.malformed = false ∧
        row.review.isNone = true ∧ ((mapQueueRow row row.section_ sampleTime).bind
          (mapRow row.section_ admittedBuiltinSha256 sampleDependencies none)).isSome = true := by
    decide +kernel
  obtain ⟨hmalformed, hreview, hshown⟩ := hall row hrow
  exact wellFormed_of_unreviewed sampleTime hmalformed (Option.isNone_iff_eq_none.mp hreview)
    ⟨by decide +kernel, by decide +kernel⟩ hshown

theorem queue_pages_enumerate_section_sample :
    ∃ listing pages,
      listing.Perm ((classifiedFindings sampleDatabase
        (readScope sampleDependencies admittedBuiltinSha256)).filter
          fun row => row.section_ = .ranked) ∧
      listing.Pairwise (fun row next => sectionOrder .ranked row next = .lt) ∧
      followKeys (requestPage sampleDependencies sampleDatabase samplePolicy (fun _ => sampleTime)
        samplePolicy.id .ranked 1) (listing.length + 1) 0 none = some pages ∧
      List.Forall₂ (Shows sampleDependencies admittedBuiltinSha256) listing pages.flatten ∧
      ∀ page ∈ pages, page.length ≤ 1 :=
  queue_pages_enumerate_section
    { engineText := by decide +kernel
      policies := rfl
      published := by decide +kernel
      admitted := by decide +kernel
      generation := rfl }
    (by decide +kernel) (fun _ => ⟨by decide +kernel, by decide +kernel⟩) (by decide)
    (by unfold DistinctFindings; decide +kernel) sampleRows_wellFormed

end PatchPilot.Risk.RemediationQueue
