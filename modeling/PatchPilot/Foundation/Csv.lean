/-
  Foundation/Csv.lean --- records of comma-separated cells, written and read.

  A cell that holds a comma, a quotation mark or a line break is written between quotation
  marks, and a quotation mark inside is doubled.  The reader ends a record at a line feed
  that stands outside of quotation marks; whatever a cell holds, reading the records that
  were written gives them back.
-/
import PatchPilot.Foundation.WellFormedText

set_option autoImplicit false

namespace PatchPilot.Foundation

/-- The line feed. -/
def lineFeed : UInt16 := 0x0A

/-- The carriage return. -/
def carriageReturn : UInt16 := 0x0D

/-! ## Writing -/

/-- The code units that a cell holds only between quotation marks: `/[",\n\r]/`. -/
def isCsvSpecial (u : UInt16) : Bool :=
  u = unit '"' || u = unit ',' || u = lineFeed || u = carriageReturn

/-- `value.replaceAll('"', '""')`. -/
def doubleQuotes (value : JsString) : JsString :=
  value.flatMap fun u => if u = unit '"' then [unit '"', unit '"'] else [u]

/-- A cell. -/
def csvCell (value : JsString) : JsString :=
  if value.any isCsvSpecial then unit '"' :: doubleQuotes value ++ [unit '"'] else value

/-- A record, with the line feed that ends it. -/
def csvRecord (cells : List JsString) : JsString :=
  [unit ','].intercalate (cells.map csvCell) ++ [lineFeed]

/-- Lines that are joined, and a line feed at the end. -/
theorem intercalate_lineFeed {lines : List JsString} (h : lines ≠ []) :
    [lineFeed].intercalate lines ++ [lineFeed] = lines.flatMap (· ++ [lineFeed]) := by
  induction lines with
  | nil => exact absurd rfl h
  | cons line lines ih =>
      cases lines with
      | nil => rw [List.intercalate_singleton, List.flatMap_cons, List.flatMap_nil, List.append_nil]
      | cons next lines =>
          have htail := ih (List.cons_ne_nil next lines)
          rw [List.intercalate_cons_cons, List.append_assoc, List.append_assoc, htail,
            List.flatMap_cons (f := (· ++ [lineFeed])) (x := line), List.append_assoc]

/-! ## Reading -/

/-- Where in a cell the reader is. -/
inductive CsvPlace
  | opening | plain | quoted | closed
  deriving DecidableEq

/-- What the reader has read: whole records, whole cells of a record and part of a cell. -/
structure CsvReader where
  place : CsvPlace
  cell : JsString
  cells : List JsString
  records : List (List JsString)
  deriving DecidableEq

namespace CsvReader

/-- The reader at the start of a record. -/
def atRecord (records : List (List JsString)) : CsvReader := ⟨.opening, [], [], records⟩

/-- One code unit.  Text behind a closing quotation mark, a quotation mark inside a plain cell
and a carriage return outside of quotation marks are refused. -/
def step (s : CsvReader) (u : UInt16) : Option CsvReader :=
  if s.place = .quoted then
    if u = unit '"' then some { s with place := .closed } else some { s with cell := s.cell ++ [u] }
  else if u = unit ',' then some ⟨.opening, [], s.cells ++ [s.cell], s.records⟩
  else if u = lineFeed then some (atRecord (s.records ++ [s.cells ++ [s.cell]]))
  else if u = carriageReturn then none
  else if u = unit '"' then
    match s.place with
    | .opening => some { s with place := .quoted }
    | .closed => some { s with place := .quoted, cell := s.cell ++ [u] }
    | _ => none
  else if s.place = .closed then none
  else some { s with place := .plain, cell := s.cell ++ [u] }

/-- The records, at the end of the text.  The last record may lack its line feed. -/
def finish (s : CsvReader) : Option (List (List JsString)) :=
  if s.place = .quoted then none
  else if s.place = .opening ∧ s.cells = [] then some s.records
  else some (s.records ++ [s.cells ++ [s.cell]])

/-- The code units of a text. -/
def read (s : CsvReader) (text : JsString) : Option CsvReader := text.foldlM step s

theorem read_append {s t : CsvReader} {text : JsString} (h : s.read text = some t)
    (rest : JsString) : s.read (text ++ rest) = t.read rest := by
  unfold read at h ⊢
  rw [List.foldlM_append, h]
  rfl

theorem read_cons {s t : CsvReader} {u : UInt16} (h : s.step u = some t) (rest : JsString) :
    s.read (u :: rest) = t.read rest := by
  unfold read
  rw [List.foldlM_cons, h]
  rfl

end CsvReader

/-- The records of a text. -/
def readCsv (text : JsString) : Option (List (List JsString)) :=
  ((CsvReader.atRecord []).read text).bind CsvReader.finish

/-! ## Reading what was written -/

namespace CsvReader

/-- A doubled quotation mark does not end a quoted cell. -/
theorem read_doubleQuotes (value : JsString) : ∀ {s : CsvReader}, s.place = .quoted →
    s.read (doubleQuotes value) = some { s with cell := s.cell ++ value } := by
  induction value with
  | nil =>
      intro s hs
      rw [List.append_nil]
      rfl
  | cons u value ih =>
      intro s hs
      have hsplit : doubleQuotes (u :: value) =
          (if u = unit '"' then [unit '"', unit '"'] else [u]) ++ doubleQuotes value :=
        List.flatMap_cons
      have hfirst : s.read (if u = unit '"' then [unit '"', unit '"'] else [u]) =
          some { s with cell := s.cell ++ [u] } := by
        by_cases hquote : u = unit '"'
        · subst hquote
          rw [if_pos rfl]
          have hclosed : s.step (unit '"') = some { s with place := .closed } := by
            rw [step, if_pos hs, if_pos rfl]
          rw [read_cons hclosed]
          change some (CsvReader.mk .quoted (s.cell ++ [unit '"']) s.cells s.records) = _
          rw [← hs]
        · rw [if_neg hquote]
          have hstep : s.step u = some { s with cell := s.cell ++ [u] } := by
            rw [step, if_pos hs, if_neg hquote]
          exact read_cons hstep []
      have hrest := @ih { s with cell := s.cell ++ [u] } hs
      rw [hsplit, read_append hfirst, hrest, ← List.append_cons]

/-- A code unit that is not special is part of the cell. -/
theorem step_plain {s : CsvReader} (hs : s.place = .opening ∨ s.place = .plain) {u : UInt16}
    (hu : isCsvSpecial u = false) :
    s.step u = some { s with place := .plain, cell := s.cell ++ [u] } := by
  unfold isCsvSpecial at hu
  simp only [Bool.or_eq_false_iff, decide_eq_false_iff_not] at hu
  obtain ⟨⟨⟨hquote, hcomma⟩, hline⟩, hreturn⟩ := hu
  have hquoted : s.place ≠ .quoted := by
    rcases hs with hs | hs <;> rw [hs] <;> nofun
  have hclosed : s.place ≠ .closed := by
    rcases hs with hs | hs <;> rw [hs] <;> nofun
  rw [step, if_neg hquoted, if_neg hcomma, if_neg hline, if_neg hreturn, if_neg hquote,
    if_neg hclosed]

/-- A cell without special code units is read as it stands. -/
theorem read_plain {value : JsString} (h : ∀ u ∈ value, isCsvSpecial u = false) :
    ∀ {s : CsvReader}, s.place = .plain →
      s.read value = some { s with cell := s.cell ++ value } := by
  induction value with
  | nil =>
      intro s hs
      rw [List.append_nil]
      rfl
  | cons u value ih =>
      intro s hs
      obtain ⟨hu, hvalue⟩ := List.forall_mem_cons.mp h
      rw [read_cons (step_plain (.inr hs) hu), ih hvalue rfl, List.append_cons s.cell u value, hs]

/-- After a cell the reader has the cell, and is where a comma or a line feed ends it. -/
theorem read_cell (value : JsString) (cells : List JsString) (records : List (List JsString)) :
    ∃ place, place ≠ .quoted ∧
      (CsvReader.mk .opening [] cells records).read (csvCell value) =
        some ⟨place, value, cells, records⟩ := by
  unfold csvCell
  by_cases hspecial : value.any isCsvSpecial = true
  · refine ⟨.closed, nofun, ?_⟩
    have hopen : (CsvReader.mk .opening [] cells records).step (unit '"') =
        some ⟨.quoted, [], cells, records⟩ := rfl
    have hbody := @read_doubleQuotes value ⟨.quoted, [], cells, records⟩ rfl
    rw [if_pos hspecial, List.cons_append, read_cons hopen, read_append hbody]
    rfl
  · have hplain : ∀ u ∈ value, isCsvSpecial u = false := by
      intro u hu
      exact eq_false_of_ne_true fun h => hspecial (List.any_eq_true.mpr ⟨u, hu, h⟩)
    rw [if_neg hspecial]
    cases value with
    | nil => exact ⟨.opening, nofun, rfl⟩
    | cons u value =>
        obtain ⟨hu, hvalue⟩ := List.forall_mem_cons.mp hplain
        refine ⟨.plain, nofun, ?_⟩
        rw [read_cons (step_plain (.inl rfl) hu), read_plain hvalue rfl]
        rfl

theorem step_comma {place : CsvPlace} (hplace : place ≠ .quoted) (cell : JsString)
    (cells : List JsString) (records : List (List JsString)) :
    (CsvReader.mk place cell cells records).step (unit ',') =
      some ⟨.opening, [], cells ++ [cell], records⟩ := by
  rw [step, if_neg hplace, if_pos rfl]

theorem step_lineFeed {place : CsvPlace} (hplace : place ≠ .quoted) (cell : JsString)
    (cells : List JsString) (records : List (List JsString)) :
    (CsvReader.mk place cell cells records).step lineFeed =
      some (atRecord (records ++ [cells ++ [cell]])) := by
  rw [step, if_neg hplace, if_neg (by decide), if_pos rfl]

/-- A record is read up to its line feed. -/
theorem read_record {record : List JsString} (h : record ≠ []) :
    ∀ (cells : List JsString) (records : List (List JsString)),
      (CsvReader.mk .opening [] cells records).read (csvRecord record) =
        some (atRecord (records ++ [cells ++ record])) := by
  induction record with
  | nil => exact absurd rfl h
  | cons value record ih =>
      intro cells records
      obtain ⟨place, hplace, hcell⟩ := read_cell value cells records
      unfold csvRecord at ih ⊢
      cases record with
      | nil =>
          rw [List.map_singleton, List.intercalate_singleton, read_append hcell,
            read_cons (step_lineFeed hplace value cells records)]
          rfl
      | cons next record =>
          rw [List.map_cons, List.map_cons, List.intercalate_cons_cons, List.append_assoc,
            List.append_assoc, read_append hcell, List.singleton_append,
            read_cons (step_comma hplace value cells records)]
          exact (ih (List.cons_ne_nil next record) (cells ++ [value]) records).trans
            (by rw [← List.append_cons])

theorem read_records {records : List (List JsString)} (h : ∀ record ∈ records, record ≠ []) :
    ∀ before : List (List JsString),
      (atRecord before).read (records.flatMap csvRecord) = some (atRecord (before ++ records)) := by
  induction records with
  | nil =>
      intro before
      rw [List.append_nil]
      rfl
  | cons record records ih =>
      intro before
      obtain ⟨hrecord, hrecords⟩ := List.forall_mem_cons.mp h
      have hfirst : (atRecord before).read (csvRecord record) =
          some (atRecord (before ++ [record])) := read_record hrecord [] before
      rw [List.flatMap_cons, read_append hfirst, ih hrecords, ← List.append_cons]

end CsvReader

/-- Records are read as they were written. -/
theorem readCsv_records {records : List (List JsString)} (h : ∀ record ∈ records, record ≠ []) :
    readCsv (records.flatMap csvRecord) = some records := by
  rw [readCsv, CsvReader.read_records h]
  rfl

/-! ## Well-formed records -/

theorem isWellFormed_doubleQuotes {value : JsString} (h : isWellFormed value = true) :
    isWellFormed (doubleQuotes value) = true := by
  have hunit : ∀ u, isSurrogate u = false →
      isWellFormed (if u = unit '"' then [unit '"', unit '"'] else [u]) = true := by
    intro u hu
    split
    · decide
    · exact isWellFormed_singleton hu
  induction value using isWellFormed.induct with
  | case1 => rfl
  | case2 u =>
      rw [isWellFormed, Bool.not_eq_true'] at h
      unfold doubleQuotes
      rw [List.flatMap_cons, List.flatMap_nil, List.append_nil]
      exact hunit u h
  | case3 u v rest hpair ih =>
      rw [isWellFormed, if_pos hpair] at h
      rw [Bool.and_eq_true] at hpair
      have hu : u ≠ unit '"' := fun heq => by
        rw [heq] at hpair
        exact absurd hpair.1 (by decide)
      have hv : v ≠ unit '"' := fun heq => by
        rw [heq] at hpair
        exact absurd hpair.2 (by decide)
      unfold doubleQuotes
      rw [List.flatMap_cons, List.flatMap_cons, if_neg hu, if_neg hv, List.singleton_append,
        List.singleton_append, isWellFormed, if_pos (Bool.and_eq_true _ _ ▸ hpair)]
      exact ih h
  | case4 u v rest hpair ih =>
      rw [isWellFormed, if_neg hpair, Bool.and_eq_true, Bool.not_eq_true'] at h
      unfold doubleQuotes at ih ⊢
      rw [List.flatMap_cons]
      exact isWellFormed_append (hunit u h.1) (ih h.2)

theorem isWellFormed_csvCell {value : JsString} (h : isWellFormed value = true) :
    isWellFormed (csvCell value) = true := by
  unfold csvCell
  split
  · exact isWellFormed_append (isWellFormed_cons (by decide) (isWellFormed_doubleQuotes h))
      (isWellFormed_singleton (by decide))
  · exact h

theorem isWellFormed_csvRecord {cells : List JsString}
    (h : ∀ cell ∈ cells, isWellFormed cell = true) : isWellFormed (csvRecord cells) = true := by
  refine isWellFormed_append (isWellFormed_intercalate (by decide) fun part hpart => ?_)
    (by decide)
  obtain ⟨cell, hcell, rfl⟩ := List.mem_map.mp hpart
  exact isWellFormed_csvCell (h cell hcell)

theorem isWellFormed_csvRecords {records : List (List JsString)}
    (h : ∀ record ∈ records, ∀ cell ∈ record, isWellFormed cell = true) :
    isWellFormed (records.flatMap csvRecord) = true := by
  induction records with
  | nil => rfl
  | cons record records ih =>
      obtain ⟨hrecord, hrecords⟩ := List.forall_mem_cons.mp h
      rw [List.flatMap_cons]
      exact isWellFormed_append (isWellFormed_csvRecord hrecord) (ih hrecords)

end PatchPilot.Foundation
