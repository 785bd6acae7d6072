/-
  Foundation/JsonWriting.lean --- `JSON.stringify`, and its text read back.

  A writer puts the texts of strings and numbers between brackets, braces, commas and
  colons.  When the reader gives the texts of strings and numbers back, it gives every
  document back whose names are distinct; so the text of a document is the text of no
  other.
-/
import PatchPilot.Foundation.JsonText
import PatchPilot.Foundation.JsonTree

set_option autoImplicit false

namespace PatchPilot.Foundation

/-- The texts of strings and of numbers. -/
structure JsonTexts where
  string : JsString → JsString
  number : Rat → JsString

section

variable (texts : JsonTexts)

mutual

/-- The text of a document; a number that is not finite is written as `null`. -/
def writeJson : JsonValue → JsString
  | .null => js "null"
  | .boolean value => if value then js "true" else js "false"
  | .number (.finite value) => texts.number value
  | .number _ => js "null"
  | .string value => texts.string value
  | .array items => unit '[' :: [unit ','].intercalate (writeItems items) ++ [unit ']']
  | .object entries => unit '{' :: [unit ','].intercalate (writeEntries entries) ++ [unit '}']

/-- The texts of the items of an array. -/
def writeItems : List JsonValue → List JsString
  | [] => []
  | item :: rest => writeJson item :: writeItems rest

/-- The texts of the members of an object. -/
def writeEntries : List (JsString × JsonValue) → List JsString
  | [] => []
  | (name, value) :: rest => (texts.string name ++ unit ':' :: writeJson value) :: writeEntries rest

end

theorem writeItems_eq (items : List JsonValue) :
    writeItems texts items = items.map (writeJson texts) := by
  induction items with
  | nil => rfl
  | cons item rest ih => rw [writeItems, ih, List.map_cons]

/-- The text of a member. -/
def entryText (entry : JsString × JsonValue) : JsString :=
  texts.string entry.1 ++ unit ':' :: writeJson texts entry.2

theorem writeEntries_eq (entries : List (JsString × JsonValue)) :
    writeEntries texts entries = entries.map (entryText texts) := by
  induction entries with
  | nil => rfl
  | cons entry rest ih =>
      rw [writeEntries, ih, List.map_cons]
      rfl

end

/-! ## What the reader gives back -/

/-- What may stand behind a value. -/
def EndsValue (rest : JsString) : Prop :=
  rest = [] ∨ ∃ tail, rest = unit ',' :: tail ∨ rest = unit '}' :: tail ∨ rest = unit ']' :: tail

/-- The text of a number that the reader gives back. -/
structure NumberReadsBack (text : JsString) (value : Rat) : Prop where
  start : ∃ u tail, text = u :: tail ∧ (isDigit u || u = unit '-') = true
  parse : ∀ rest, EndsValue rest → parseNumber (text ++ rest) = some (.finite value, rest)

/-- The text of a string that the reader gives back. -/
def StringReadsBack (text value : JsString) : Prop :=
  ∃ body, text = unit '"' :: body ∧ ∀ rest, parseChars (body ++ rest) = some (value, rest)

/-- The numbers that texts are for. -/
def IsDouble (value : Rat) : Prop := binary64 value = .finite value

instance (value : Rat) : Decidable (IsDouble value) := inferInstanceAs (Decidable (_ = _))

/-- Texts that the reader gives back. -/
structure JsonTexts.ReadBack (texts : JsonTexts) : Prop where
  string : ∀ value, StringReadsBack (texts.string value) value
  number : ∀ value, IsDouble value → NumberReadsBack (texts.number value) value

/-- A document whose numbers are finite doubles and whose names are distinct. -/
inductive JsonWritable : JsonValue → Prop
  | null : JsonWritable .null
  | boolean (value : Bool) : JsonWritable (.boolean value)
  | number {value : Rat} (double : IsDouble value) : JsonWritable (.number (.finite value))
  | string (value : JsString) : JsonWritable (.string value)
  | array {items : List JsonValue} (each : ∀ item ∈ items, JsonWritable item) :
      JsonWritable (.array items)
  | object {entries : JsonRecord} (names : (entries.map Prod.fst).Nodup)
      (each : ∀ entry ∈ entries, JsonWritable entry.2) : JsonWritable (.object entries)

/-- The reader gives a document back, with what stands behind it. -/
def ValueReadsBack (texts : JsonTexts) (value : JsonValue) : Prop :=
  ∀ (fuel : Nat) (rest : JsString), (writeJson texts value).length ≤ fuel → EndsValue rest →
    parseValue fuel (writeJson texts value ++ rest) = some (value, rest)

theorem EndsValue.comma (tail : JsString) : EndsValue (unit ',' :: tail) := .inr ⟨tail, .inl rfl⟩

theorem EndsValue.brace (tail : JsString) : EndsValue (unit '}' :: tail) :=
  .inr ⟨tail, .inr (.inl rfl)⟩

theorem EndsValue.bracket (tail : JsString) : EndsValue (unit ']' :: tail) :=
  .inr ⟨tail, .inr (.inr rfl)⟩

section

variable {texts : JsonTexts}

/-! ## Scalars -/

theorem readsBack_null : ValueReadsBack texts .null := by
  intro fuel rest hfuel _
  cases fuel with
  | zero => cases hfuel
  | succ fuel => rfl

theorem readsBack_boolean (value : Bool) : ValueReadsBack texts (.boolean value) := by
  intro fuel rest hfuel _
  cases value with
  | true =>
      cases fuel with
      | zero => cases hfuel
      | succ fuel => rfl
  | false =>
      cases fuel with
      | zero => cases hfuel
      | succ fuel => rfl

theorem readsBack_string (h : texts.ReadBack) (value : JsString) :
    ValueReadsBack texts (.string value) := by
  intro fuel rest hfuel _
  obtain ⟨body, hbody, hparse⟩ := h.string value
  have hfuel : (texts.string value).length ≤ fuel := hfuel
  change parseValue fuel (texts.string value ++ rest) = _
  rw [hbody] at hfuel ⊢
  cases fuel with
  | zero => cases hfuel
  | succ fuel => exact parseValue_string (hparse rest)

/-- What a number starts with is no other character. -/
theorem ne_of_startsNumber {u : UInt16} (hu : (isDigit u || u = unit '-') = true) {v : UInt16}
    (hv : (isDigit v || v = unit '-') = false) : u ≠ v := by
  rintro rfl
  rw [hu] at hv
  cases hv

theorem isJsonSpace_of_startsNumber {u : UInt16} (hu : (isDigit u || u = unit '-') = true) :
    isJsonSpace u = false := by
  refine eq_false_of_ne_true fun hspace => ?_
  simp only [isJsonSpace, Bool.or_eq_true, beq_iff_eq] at hspace
  rcases hspace with ((h | h) | h) | h
  all_goals exact ne_of_startsNumber hu (by decide) h

/-- A number at the start of a text. -/
theorem parseValue_number {fuel : Nat} {u : UInt16} {s tail : JsString} {value : JsNumber}
    (hu : (isDigit u || u = unit '-') = true) (h : parseNumber (u :: s) = some (value, tail)) :
    parseValue (fuel + 1) (u :: s) = some (.number value, tail) := by
  have hbrace := ne_of_startsNumber hu (v := unit '{') (by decide)
  have hbracket := ne_of_startsNumber hu (v := unit '[') (by decide)
  have hquote := ne_of_startsNumber hu (v := unit '"') (by decide)
  have hstart : isDigit u = true ∨ decide (u = unit '-') = true := (Bool.or_eq_true _ _).mp hu
  rw [parseValue, skipSpace_cons s (isJsonSpace_of_startsNumber hu)]
  simp only [if_neg hbrace, if_neg hbracket, if_neg hquote, Bool.or_eq_true, if_pos hstart, h,
    Option.map_some]

theorem readsBack_number (h : texts.ReadBack) {value : Rat} (hdouble : IsDouble value) :
    ValueReadsBack texts (.number (.finite value)) := by
  intro fuel rest hfuel hrest
  obtain ⟨⟨u, tail, htext, hu⟩, hparse⟩ := h.number value hdouble
  have hfuel : (texts.number value).length ≤ fuel := hfuel
  have hparse := hparse rest hrest
  change parseValue fuel (texts.number value ++ rest) = _
  rw [htext] at hfuel hparse ⊢
  cases fuel with
  | zero => cases hfuel
  | succ fuel => exact parseValue_number hu hparse

/-! ## Containers -/

/-- The start of a value. -/
def StartsValue (text : JsString) : Prop :=
  ∃ u tail, text = u :: tail ∧ isJsonSpace u = false ∧ u ≠ unit ']' ∧ u ≠ unit '}'

theorem startsValue_write (h : texts.ReadBack) {value : JsonValue}
    (hwritable : JsonWritable value) :
    StartsValue (writeJson texts value) := by
  cases hwritable with
  | null => exact ⟨_, _, rfl, by decide⟩
  | boolean value => cases value <;> exact ⟨_, _, rfl, by decide⟩
  | @number value hdouble =>
      obtain ⟨u, tail, htext, hu⟩ := (h.number value hdouble).start
      exact ⟨u, tail, htext, isJsonSpace_of_startsNumber hu, ne_of_startsNumber hu (by decide),
        ne_of_startsNumber hu (by decide)⟩
  | string value =>
      obtain ⟨body, hbody, -⟩ := h.string value
      exact ⟨_, body, hbody, by decide⟩
  | array each => exact ⟨_, _, rfl, by decide⟩
  | object names each => exact ⟨_, _, rfl, by decide⟩

theorem parseItems_more {fuel : Nat} {items : List JsonValue} {s tail : JsString}
    {value : JsonValue} (hvalue : parseValue fuel s = some (value, unit ',' :: tail)) :
    parseItems (fuel + 1) items s = parseItems fuel (items ++ [value]) tail := by
  rw [parseItems]
  simp only [Option.bind_eq_bind, hvalue, Option.bind_some,
    isJsonSpace_unit (show isJsonSpace (unit ',') = false by decide), expectUnit_self]

theorem parseItems_last {fuel : Nat} {items : List JsonValue} {s tail : JsString}
    {value : JsonValue} (hvalue : parseValue fuel s = some (value, unit ']' :: tail)) :
    parseItems (fuel + 1) items s = some (.array (items ++ [value]), tail) := by
  rw [parseItems]
  simp only [Option.bind_eq_bind, hvalue, Option.bind_some,
    isJsonSpace_unit (show isJsonSpace (unit ']') = false by decide), expectUnit_self,
    expectUnit_ne tail (show unit ']' ≠ unit ',' by decide)]

/-- An array with items at the start of a text. -/
theorem parseValue_array {fuel : Nat} {s : JsString} (h : StartsValue s) (rest : JsString) :
    parseValue (fuel + 1) (unit '[' :: (s ++ rest)) = parseItems fuel [] (s ++ rest) := by
  obtain ⟨u, tail, rfl, hspace, hbracket, -⟩ := h
  rw [parseValue, isJsonSpace_unit (by decide)]
  simp only [if_neg (show unit '[' ≠ unit '{' by decide), if_true, List.cons_append,
    skipSpace_cons _ hspace, expectUnit_ne _ hbracket]

/-- Items, one after another. -/
theorem parseItems_write {items : List JsonValue} :
    ∀ {acc : List JsonValue} {fuel : Nat} (rest : JsString), items ≠ [] →
      (∀ item ∈ items, ValueReadsBack texts item) →
        ([unit ','].intercalate (items.map (writeJson texts))).length < fuel →
          parseItems fuel acc ([unit ','].intercalate (items.map (writeJson texts)) ++
            unit ']' :: rest) = some (.array (acc ++ items), rest) := by
  induction items with
  | nil => exact fun _ hne _ _ => absurd rfl hne
  | cons item items ih =>
      intro acc fuel rest _ heach hfuel
      have hitem := heach item List.mem_cons_self
      cases fuel with
      | zero => cases hfuel
      | succ fuel =>
          cases items with
          | nil =>
              rw [List.map_singleton, List.intercalate_singleton] at hfuel ⊢
              exact parseItems_last (hitem fuel _ (Nat.le_of_lt_succ hfuel) (.bracket rest))
          | cons next items =>
              have htext : [unit ','].intercalate ((item :: next :: items).map (writeJson texts)) =
                  writeJson texts item ++ unit ',' ::
                    [unit ','].intercalate ((next :: items).map (writeJson texts)) := by
                rw [List.map_cons, List.map_cons, List.intercalate_cons_cons, List.append_assoc]
                rfl
              rw [htext, List.length_append, List.length_cons] at hfuel
              rw [htext, List.append_assoc, List.cons_append,
                parseItems_more (hitem fuel _ (by omega) (.comma _)),
                ih rest (List.cons_ne_nil _ _)
                  (fun other hother => heach other (List.mem_cons_of_mem _ hother)) (by omega),
                List.append_assoc]
              rfl

/-- The first item of an array decides how the array is read. -/
theorem parseValue_items {fuel : Nat} {item : JsonValue}
    (h : StartsValue (writeJson texts item)) (items : List JsonValue) (rest : JsString) :
    parseValue (fuel + 1)
        (unit '[' :: ([unit ','].intercalate ((item :: items).map (writeJson texts)) ++
          unit ']' :: rest)) =
      parseItems fuel [] ([unit ','].intercalate ((item :: items).map (writeJson texts)) ++
        unit ']' :: rest) := by
  cases items with
  | nil =>
      rw [List.map_singleton, List.intercalate_singleton]
      exact parseValue_array h _
  | cons next items =>
      rw [List.map_cons, List.map_cons, List.intercalate_cons_cons, List.append_assoc,
        List.append_assoc]
      exact parseValue_array h _

theorem parseValue_entries (h : texts.ReadBack) {fuel : Nat} (entry : JsString × JsonValue)
    (entries : JsonRecord) (rest : JsString) :
    parseValue (fuel + 1)
        (unit '{' :: ([unit ','].intercalate ((entry :: entries).map (entryText texts)) ++
          unit '}' :: rest)) =
      parseMembers fuel [] ([unit ','].intercalate ((entry :: entries).map (entryText texts)) ++
        unit '}' :: rest) := by
  obtain ⟨body, hbody, -⟩ := h.string entry.1
  have hspace : isJsonSpace (unit '"') = false := by decide
  have hbrace : unit '"' ≠ unit '}' := by decide
  cases entries with
  | nil =>
      rw [List.map_singleton, List.intercalate_singleton]
      unfold entryText
      rw [hbody, List.append_assoc, List.cons_append]
      exact parseValue_object hspace hbrace
  | cons next entries =>
      rw [List.map_cons, List.map_cons, List.intercalate_cons_cons, List.append_assoc,
        List.append_assoc, entryText]
      rw [hbody, List.append_assoc, List.cons_append]
      exact parseValue_object hspace hbrace

/-- Members, one after another. -/
theorem parseMembers_write (h : texts.ReadBack) {entries : JsonRecord} :
    ∀ {acc : JsonRecord} {fuel : Nat} (rest : JsString), entries ≠ [] →
      ((acc ++ entries).map Prod.fst).Nodup →
        (∀ entry ∈ entries, ValueReadsBack texts entry.2) →
          ([unit ','].intercalate (entries.map (entryText texts))).length < fuel →
            parseMembers fuel acc ([unit ','].intercalate (entries.map (entryText texts)) ++
              unit '}' :: rest) = some (.object (acc ++ entries), rest) := by
  induction entries with
  | nil => exact fun _ hne _ _ _ => absurd rfl hne
  | cons entry entries ih =>
      intro acc fuel rest _ hnodup heach hfuel
      obtain ⟨name, value⟩ := entry
      have hvalue : ValueReadsBack texts value := heach _ List.mem_cons_self
      obtain ⟨body, hbody, hchars⟩ := h.string name
      have hnew : name ∉ acc.map Prod.fst := by
        rw [List.map_append, List.map_cons] at hnodup
        exact fun hmem => (List.nodup_append.mp hnodup).2.2 name hmem name List.mem_cons_self rfl
      have hset : (acc.set name value) = acc ++ [(name, value)] := JsonRecord.set_new hnew
      cases fuel with
      | zero => cases hfuel
      | succ fuel =>
          cases entries with
          | nil =>
              rw [List.map_singleton, List.intercalate_singleton] at hfuel ⊢
              unfold entryText at hfuel ⊢
              rw [List.length_append, List.length_cons] at hfuel
              dsimp only at hfuel ⊢
              rw [hbody, List.append_assoc, List.cons_append, List.cons_append,
                parseMembers_last (hchars _) (hvalue fuel _ (by omega) (.brace rest)), hset]
          | cons next entries =>
              have htext : [unit ','].intercalate
                    (((name, value) :: next :: entries).map (entryText texts)) =
                  entryText texts (name, value) ++ unit ',' ::
                    [unit ','].intercalate ((next :: entries).map (entryText texts)) := by
                rw [List.map_cons, List.map_cons, List.intercalate_cons_cons, List.append_assoc]
                rfl
              rw [htext, List.length_append, List.length_cons] at hfuel
              have hmember : (entryText texts (name, value)).length =
                  (texts.string name).length + ((writeJson texts value).length + 1) := by
                unfold entryText
                rw [List.length_append, List.length_cons]
              have hacc : acc ++ (name, value) :: next :: entries =
                  (acc ++ [(name, value)]) ++ (next :: entries) := by
                rw [List.append_assoc]
                rfl
              rw [htext, List.append_assoc, List.cons_append]
              unfold entryText
              dsimp only
              rw [hbody, List.append_assoc, List.cons_append, List.cons_append,
                parseMembers_more (hchars _) (hvalue fuel _ (by omega) (.comma _)), hset, hacc]
              refine ih rest (List.cons_ne_nil _ _) (hacc ▸ hnodup)
                (fun other hother => heach other (List.mem_cons_of_mem _ hother)) ?_
              omega

/-- The reader gives a document back, with what stands behind it. -/
theorem valueReadsBack (h : texts.ReadBack) (value : JsonValue) :
    JsonWritable value → ValueReadsBack texts value := by
  induction value using JsonValue.tree with
  | null => exact fun _ => readsBack_null
  | boolean value => exact fun _ => readsBack_boolean value
  | number value =>
      intro hwritable
      cases hwritable with
      | number double => exact readsBack_number h double
  | string value => exact fun _ => readsBack_string h value
  | array items ih =>
      intro hwritable
      cases hwritable with
      | array each =>
          intro fuel rest hfuel _
          have heach := fun item hitem => ih item hitem (each item hitem)
          rw [writeJson, writeItems_eq] at hfuel ⊢
          rw [List.length_append, List.length_cons, List.length_singleton] at hfuel
          cases fuel with
          | zero => cases hfuel
          | succ fuel =>
              cases items with
              | nil => rfl
              | cons item items =>
                  have hstart := startsValue_write h (each item List.mem_cons_self)
                  have hitems := @parseItems_write texts (item :: items) [] fuel rest
                    (List.cons_ne_nil item items) heach (by omega)
                  rw [List.cons_append, List.cons_append, List.append_assoc,
                    List.singleton_append]
                  exact (parseValue_items hstart items rest).trans hitems
  | object entries ih =>
      intro hwritable
      cases hwritable with
      | object names each =>
          intro fuel rest hfuel _
          have heach := fun entry hentry => ih entry hentry (each entry hentry)
          rw [writeJson, writeEntries_eq] at hfuel ⊢
          rw [List.length_append, List.length_cons, List.length_singleton] at hfuel
          cases fuel with
          | zero => cases hfuel
          | succ fuel =>
              cases entries with
              | nil => rfl
              | cons entry entries =>
                  have hentries := @parseMembers_write texts h (entry :: entries) [] fuel rest
                    (List.cons_ne_nil entry entries) names heach (by omega)
                  rw [List.cons_append, List.cons_append, List.append_assoc,
                    List.singleton_append]
                  exact (parseValue_entries h entry entries rest).trans hentries

/-- The text of a document is read as the document. -/
theorem parseJson_writeJson (h : texts.ReadBack) {value : JsonValue}
    (hwritable : JsonWritable value) :
    parseJson (writeJson texts value) = some value := by
  have hread := valueReadsBack h value hwritable (2 * (writeJson texts value).length + 1) []
    (by omega) (.inl rfl)
  rw [List.append_nil] at hread
  unfold parseJson
  rw [hread]
  rfl

/-- Documents with one text are one document. -/
theorem writeJson_inj (h : texts.ReadBack) {value value' : JsonValue} (hvalue : JsonWritable value)
    (hvalue' : JsonWritable value') (heq : writeJson texts value = writeJson texts value') :
    value = value' := by
  have hread := parseJson_writeJson h hvalue
  rw [heq, parseJson_writeJson h hvalue'] at hread
  exact (Option.some.inj hread).symm

end

end PatchPilot.Foundation
