import Mathlib.Logic.Relation
import PatchPilot.Foundation.Fallible
import PatchPilot.Foundation.NumberText
import PatchPilot.Foundation.Steps
import PatchPilot.Policy.CanonicalText

set_option autoImplicit false

/-!
# Policy: canonical texts of objects that refer to each other (`canonical-json.ts`)

A value that is not a primitive is a reference to an object, and objects may refer to one
another in cycles.  `serialize` follows the references, with the objects that it is inside of
and the depth at which it is.

What a value says is the document that its plain data denotes, if it is plain.
-/

namespace PatchPilot.Policy.Objects

open PatchPilot.Foundation

/-! ## Objects -/

/-- A number value is a double. -/
def IsNumber : JsNumber → Prop
  | .finite value => IsDouble value
  | _ => True

/-- A value.  `other` stands for functions, symbols and bigints. -/
inductive Datum
  | undefined
  | null
  | boolean (value : Bool)
  | number (value : JsNumber) (double : IsNumber value)
  | string (value : JsString)
  | other
  | reference (object : Nat)

/-- An own property: a data descriptor with its value, or an accessor. -/
inductive Descriptor
  | data (enumerable : Bool) (value : Datum)
  | accessor (enumerable : Bool)

/-- An array index: the numeral of a number below `2 ** 32 - 1`. -/
def isArrayIndex (name : JsString) : Bool :=
  isIndexKey name && decide (digitsValue name < 4294967295)

/-- An object.  An array has a slot for each index below its length (`none` is a hole) and,
apart from `length`, whatever other properties it was given; none of them is an index. -/
inductive HeapObject
  | object (header : ObjectHeader) (properties : List (JsString × Descriptor))
      (distinct : (properties.map Prod.fst).Nodup)
  | array (header : ObjectHeader) (slots : List (Option Descriptor))
      (properties : List (JsString × Descriptor))
      (stray : ∀ property ∈ properties, isArrayIndex property.1 = false)

/-- The objects, by their references. -/
abbrev Heap := Nat → HeapObject

/-! ## Plain data -/

/-- An own, enumerable data property as an entry. -/
def plainDatum : JsString × Descriptor → Option (JsString × Datum)
  | (key, .data true value) => some (key, value)
  | _ => none

/-- The value of a data property; `none` for a hole or an accessor. -/
def dataDatum : Option Descriptor → Option Datum
  | some (.data _ value) => some value
  | _ => none

/-- `readPlainRecord`, of an object that is no array. -/
def readPlainRecord (header : ObjectHeader) (properties : List (JsString × Descriptor)) :
    Option (List (JsString × Datum)) :=
  if header.prototype ≠ .objectPrototype ∧ header.prototype ≠ .nullPrototype then none
  else if header.symbolKeys > 0 then none
  else properties.mapM plainDatum

/-- `readPlainArray`, of an array; `not_array` and `too_long` are one to `serialize`. -/
def readPlainArray (header : ObjectHeader) (slots : List (Option Descriptor))
    (properties : List (JsString × Descriptor)) (maxLength : Nat) : Option (List Datum) :=
  if header.prototype ≠ .arrayPrototype then none
  else if slots.length > maxLength then none
  else
    match slots.mapM dataDatum with
    | none => none
    | some values =>
        if header.symbolKeys > 0 ∨ ¬ properties.all (fun p => isIndexKey p.1) then none
        else some values

/-! ## Serializing -/

/-- `CanonicalJsonIssueCode`. -/
inductive CanonicalJsonIssueCode
  | unsupportedValue | nonFiniteNumber | nonPlainObject | nonPlainArray | cycle | depthExceeded
  deriving DecidableEq

/-- `record.get(key)`. -/
def get (record : List (JsString × Datum)) (key : JsString) : Datum :=
  ((record.find? fun entry => entry.1 = key).map Prod.snd).getD .undefined

section

variable (numberText : Rat → JsString) (heap : Heap)

/-- The text of a number. -/
def serializeNumber : JsNumber → Except CanonicalJsonIssueCode JsString
  | .finite value => .ok (numberText value)
  | _ => .error .nonFiniteNumber

/-- `serialize`, with the depth that is left. -/
def serialize : Nat → List Nat → Datum → Except CanonicalJsonIssueCode JsString
  | _, _, .null => .ok (js "null")
  | _, _, .boolean value => .ok (if value then js "true" else js "false")
  | _, _, .string value => .ok (jsonString value)
  | _, _, .number value _ => serializeNumber numberText value
  | _, _, .undefined => .error .unsupportedValue
  | _, _, .other => .error .unsupportedValue
  | 0, _, .reference _ => .error .depthExceeded
  | depth + 1, ancestors, .reference object =>
      if object ∈ ancestors then .error .cycle
      else
        match heap object with
        | .array header slots properties _ =>
            match readPlainArray header slots properties canonicalJsonMaxArrayLength with
            | none => .error .nonPlainArray
            | some values => do
                let texts ← values.mapM (serialize depth (object :: ancestors))
                .ok (unit '[' :: [unit ','].intercalate texts ++ [unit ']'])
        | .object header properties _ =>
            match readPlainRecord header properties with
            | none => .error .nonPlainObject
            | some record => do
                let members ← (sortBy compareCodeUnits (record.map Prod.fst)).mapM fun key => do
                  let text ← serialize depth (object :: ancestors) (get record key)
                  .ok (jsonString key ++ unit ':' :: text)
                .ok (unit '{' :: [unit ','].intercalate members ++ [unit '}'])

/-- `canonicalJson`. -/
def canonicalJson (value : Datum) : Except CanonicalJsonIssueCode JsString :=
  serialize numberText heap canonicalJsonMaxDepth [] value

end

/-! ## What a value says -/

/-- A document that a value says, with its members in any order: records have own, enumerable
data properties only, and arrays are dense and have no other property than those that are
permitted. -/
inductive Denotes (heap : Heap) (permitted : JsString → Bool) : Datum → JsonValue → Prop
  | null : Denotes heap permitted .null .null
  | boolean (value : Bool) : Denotes heap permitted (.boolean value) (.boolean value)
  | string (value : JsString) : Denotes heap permitted (.string value) (.string value)
  | number (value : Rat) (double : IsNumber (.finite value)) :
      Denotes heap permitted (.number (.finite value) double) (.number (.finite value))
  | array {object : Nat} {header : ObjectHeader} {slots : List (Option Descriptor)}
      {properties : List (JsString × Descriptor)}
      {stray : ∀ property ∈ properties, isArrayIndex property.1 = false} {values : List Datum}
      {items : List JsonValue} (found : heap object = .array header slots properties stray)
      (prototype : header.prototype = .arrayPrototype) (symbols : header.symbolKeys = 0)
      (others : ∀ property ∈ properties, permitted property.1 = true)
      (dense : slots.mapM dataDatum = some values) (length : values.length = items.length)
      (each : ∀ (i : Nat) (h : i < values.length) (h' : i < items.length),
        Denotes heap permitted values[i] items[i]) :
      Denotes heap permitted (.reference object) (.array items)
  | object {object : Nat} {header : ObjectHeader} {properties : List (JsString × Descriptor)}
      {distinct : (properties.map Prod.fst).Nodup} {record : List (JsString × Datum)}
      {entries : JsonRecord} (found : heap object = .object header properties distinct)
      (prototype : header.prototype = .objectPrototype ∨ header.prototype = .nullPrototype)
      (symbols : header.symbolKeys = 0) (plain : properties.mapM plainDatum = some record)
      (names : (record.map Prod.fst).Perm (entries.map Prod.fst))
      (each : ∀ name value value', (name, value) ∈ record → (name, value') ∈ entries →
        Denotes heap permitted value value') :
      Denotes heap permitted (.reference object) (.object entries)

/-! ## Reading plain data -/

section

variable {header : ObjectHeader} {properties : List (JsString × Descriptor)}

theorem readPlainArray_eq_some {slots : List (Option Descriptor)} {maxLength : Nat}
    {values : List Datum} :
    readPlainArray header slots properties maxLength = some values ↔
      header.prototype = .arrayPrototype ∧ header.symbolKeys = 0 ∧
        (∀ property ∈ properties, isIndexKey property.1 = true) ∧ slots.length ≤ maxLength ∧
          slots.mapM dataDatum = some values := by
  unfold readPlainArray
  by_cases hprototype : header.prototype = .arrayPrototype
  · rw [if_neg (not_not.mpr hprototype)]
    by_cases hlength : slots.length ≤ maxLength
    · rw [if_neg (by omega)]
      cases slots.mapM dataDatum with
      | none => simp
      | some elements =>
          dsimp only
          split
          · rename_i hstray
            refine ⟨nofun, ?_⟩
            rintro ⟨-, hsymbols, hothers, -, -⟩
            rcases hstray with hsymbol | hother
            · omega
            · exact absurd (List.all_eq_true.mpr hothers) hother
          · rename_i hplain
            obtain ⟨hsymbols, hothers⟩ := not_or.mp hplain
            have hothers := List.all_eq_true.mp (not_not.mp hothers)
            refine ⟨fun h => ⟨hprototype, by omega, hothers, hlength, h⟩, ?_⟩
            rintro ⟨-, -, -, -, h⟩
            exact h
    · rw [if_pos (by omega)]
      exact ⟨nofun, fun h => absurd h.2.2.2.1 hlength⟩
  · rw [if_pos hprototype]
    exact ⟨nofun, fun h => absurd h.1 hprototype⟩

theorem readPlainRecord_eq_some {record : List (JsString × Datum)} :
    readPlainRecord header properties = some record ↔
      (header.prototype = .objectPrototype ∨ header.prototype = .nullPrototype) ∧
        header.symbolKeys = 0 ∧ properties.mapM plainDatum = some record := by
  unfold readPlainRecord
  split
  · rename_i hprototype
    refine ⟨nofun, ?_⟩
    rintro ⟨hobject | hnull, -⟩
    · exact absurd hobject hprototype.1
    · exact absurd hnull hprototype.2
  · rename_i hprototype
    have hprototype : header.prototype = .objectPrototype ∨ header.prototype = .nullPrototype := by
      by_contra hother
      exact hprototype (not_or.mp hother)
    split
    · rename_i hsymbols
      exact ⟨nofun, fun h => absurd h.2.1 (by omega)⟩
    · rename_i hsymbols
      exact ⟨fun h => ⟨hprototype, by omega, h⟩, fun h => h.2.2⟩

/-- The names of a record are those of its properties. -/
theorem names_of_plain {record : List (JsString × Datum)}
    (h : properties.mapM plainDatum = some record) :
    record.map Prod.fst = properties.map Prod.fst := by
  have hall := mapM_eq_some.mp h
  clear h
  induction hall with
  | nil => rfl
  | @cons property entry properties record hentry _ ih =>
      have hname : entry.1 = property.1 := by
        unfold plainDatum at hentry
        split at hentry
        · cases hentry
          rfl
        · cases hentry
      rw [List.map_cons, List.map_cons, hname, ih]

/-- The value of a name of a record. -/
theorem get_of_mem {record : List (JsString × Datum)} (hnames : (record.map Prod.fst).Nodup)
    {name : JsString} {value : Datum} (h : (name, value) ∈ record) : get record name = value := by
  unfold get
  rw [find?_key_eq_some hnames h]
  rfl

end

/-! ## References -/

/-- An object holds a reference to another one in its data. -/
def Holds (heap : Heap) (inner outer : Nat) : Prop :=
  match heap outer with
  | .object _ properties _ => ∃ name enumerable,
      (name, .data enumerable (.reference inner)) ∈ properties
  | .array _ slots _ _ => ∃ enumerable, some (.data enumerable (.reference inner)) ∈ slots

section

variable {heap : Heap} {permitted : JsString → Bool}

theorem holds_of_slot {object inner : Nat} {header : ObjectHeader}
    {slots : List (Option Descriptor)} {properties : List (JsString × Descriptor)}
    {stray : ∀ property ∈ properties, isArrayIndex property.1 = false} {values : List Datum}
    (found : heap object = .array header slots properties stray)
    (dense : slots.mapM dataDatum = some values) :
    Holds heap inner object ↔ .reference inner ∈ values := by
  have hall := mapM_eq_some.mp dense
  unfold Holds
  rw [found]
  dsimp only
  constructor
  · rintro ⟨enumerable, hslot⟩
    obtain ⟨value, hvalue, hdata⟩ := mem_of_forall₂ hall hslot
    cases hdata
    exact hvalue
  · intro hvalue
    obtain ⟨slot, hslot, hdata⟩ := mem_of_forall₂ hall.flip hvalue
    cases slot with
    | none => cases hdata
    | some descriptor =>
        cases descriptor with
        | data enumerable value =>
            cases hdata
            exact ⟨enumerable, hslot⟩
        | accessor enumerable => cases hdata

theorem holds_of_entry {object inner : Nat} {header : ObjectHeader}
    {properties : List (JsString × Descriptor)} {distinct : (properties.map Prod.fst).Nodup}
    {record : List (JsString × Datum)} (found : heap object = .object header properties distinct)
    (plain : properties.mapM plainDatum = some record) :
    Holds heap inner object ↔ ∃ name, (name, .reference inner) ∈ record := by
  have hall := mapM_eq_some.mp plain
  unfold Holds
  rw [found]
  dsimp only
  constructor
  · rintro ⟨name, enumerable, hproperty⟩
    obtain ⟨entry, hentry, hplain⟩ := mem_of_forall₂ hall hproperty
    cases enumerable with
    | true =>
        cases hplain
        exact ⟨name, hentry⟩
    | false => cases hplain
  · rintro ⟨name, hentry⟩
    obtain ⟨⟨name', descriptor⟩, hproperty, hplain⟩ := mem_of_forall₂ hall.flip hentry
    unfold plainDatum at hplain
    split at hplain
    · rename_i heq
      cases heq
      cases hplain
      exact ⟨_, true, hproperty⟩
    · cases hplain

/-- What says a document is inside of no cycle. -/
theorem Denotes.acc {value : Datum} {json : JsonValue} (h : Denotes heap permitted value json) :
    ∀ object, value = .reference object → Acc (Holds heap) object := by
  induction h with
  | null => exact nofun
  | boolean value => exact nofun
  | string value => exact nofun
  | number value double => exact nofun
  | @array object header slots properties stray values items found prototype symbols others dense
      length each ih =>
      intro object' heq
      cases heq
      refine ⟨_, fun inner hholds => ?_⟩
      obtain ⟨i, hi, hvalue⟩ := List.mem_iff_getElem.mp ((holds_of_slot found dense).mp hholds)
      exact ih i hi (length ▸ hi) inner hvalue
  | @object object header properties distinct record entries found prototype symbols plain names
      each ih =>
      intro object' heq
      cases heq
      refine ⟨_, fun inner hholds => ?_⟩
      obtain ⟨name, hentry⟩ := (holds_of_entry found plain).mp hholds
      obtain ⟨value', hvalue'⟩ := exists_value
        (names.mem_iff.mp (List.mem_map.mpr ⟨_, hentry, rfl⟩))
      exact ih name _ value' hentry hvalue' inner rfl

theorem not_transGen_self {object : Nat} (h : Acc (Holds heap) object) :
    ¬ Relation.TransGen (Holds heap) object object := by
  have hacc := h.transGen
  clear h
  induction hacc with
  | intro object _ ih => exact fun hcycle => ih object hcycle hcycle

end

/-! ## Plain values are accepted -/

section

variable {numberText : Rat → JsString} {heap : Heap}

/-- A fallible map succeeds when it does on every item. -/
theorem exists_mapM_ok {α β : Type} {f : α → Except CanonicalJsonIssueCode β} {l : List α}
    (h : ∀ a ∈ l, ∃ b, f a = .ok b) : ∃ bs, l.mapM f = .ok bs := by
  induction l with
  | nil => exact ⟨[], rfl⟩
  | cons a l ih =>
      obtain ⟨b, hb⟩ := h a List.mem_cons_self
      obtain ⟨bs, hbs⟩ := ih fun a ha => h a (List.mem_cons_of_mem _ ha)
      exact ⟨b :: bs, by rw [List.mapM_cons, hb, hbs]; rfl⟩

/-- The objects that a reference is inside of reach it. -/
def Inside (heap : Heap) (ancestors : List Nat) (value : Datum) : Prop :=
  ∀ ancestor ∈ ancestors, ∀ object, value = .reference object →
    Relation.TransGen (Holds heap) object ancestor

theorem Inside.cons {ancestors : List Nat} {object : Nat} {value : Datum}
    (h : Inside heap ancestors (.reference object))
    (hholds : ∀ inner, value = .reference inner → Holds heap inner object) :
    Inside heap (object :: ancestors) value := by
  intro ancestor hancestor inner heq
  rcases List.mem_cons.mp hancestor with rfl | hancestor
  · exact .single (hholds inner heq)
  · exact .head (hholds inner heq) (h ancestor hancestor object rfl)

/-- A plain value within the limits has a text. -/
theorem Denotes.serialized {value : Datum} {json : JsonValue}
    (h : Denotes heap isIndexKey value json) :
    ∀ {depth : Nat} {ancestors : List Nat}, Within canonicalJsonMaxArrayLength depth json →
      Inside heap ancestors value →
        ∃ text, serialize numberText heap depth ancestors value = .ok text := by
  induction h with
  | null => exact fun {depth _} _ _ => by cases depth <;> exact ⟨_, rfl⟩
  | boolean value => exact fun {depth _} _ _ => by cases depth <;> exact ⟨_, rfl⟩
  | string value => exact fun {depth _} _ _ => by cases depth <;> exact ⟨_, rfl⟩
  | number value double => exact fun {depth _} _ _ => by cases depth <;> exact ⟨_, rfl⟩
  | @array object header slots properties stray values items found prototype symbols others dense
      length each ih =>
      intro depth ancestors hwithin hinside
      have hacc := (Denotes.array found prototype symbols others dense length each).acc object rfl
      cases hwithin with
      | @array depth _ hitems hwithin =>
          have hfresh : object ∉ ancestors := fun hmem =>
            not_transGen_self hacc (hinside object hmem object rfl)
          have hslots : slots.length ≤ canonicalJsonMaxArrayLength := by
            rw [(mapM_eq_some.mp dense).length_eq, length]
            exact hitems
          have hread : readPlainArray header slots properties canonicalJsonMaxArrayLength =
              some values := readPlainArray_eq_some.mpr ⟨prototype, symbols, others, hslots, dense⟩
          have heach : ∀ value ∈ values, ∃ text,
              serialize numberText heap depth (object :: ancestors) value = .ok text := by
            intro value hvalue
            obtain ⟨i, hi, rfl⟩ := List.mem_iff_getElem.mp hvalue
            refine ih i hi (length ▸ hi) (hwithin _ (List.getElem_mem _)) (hinside.cons ?_)
            intro inner heq
            exact (holds_of_slot found dense).mpr (heq ▸ hvalue)
          obtain ⟨texts, htexts⟩ := exists_mapM_ok heach
          refine ⟨unit '[' :: [unit ','].intercalate texts ++ [unit ']'], ?_⟩
          rw [serialize, if_neg hfresh, found]
          dsimp only
          rw [hread]
          dsimp only
          rw [htexts]
          rfl
  | @object object header properties distinct record entries found prototype symbols plain names
      each ih =>
      intro depth ancestors hwithin hinside
      have hacc := (Denotes.object found prototype symbols plain names each).acc object rfl
      cases hwithin with
      | @object depth _ hwithin =>
          have hfresh : object ∉ ancestors := fun hmem =>
            not_transGen_self hacc (hinside object hmem object rfl)
          have hread : readPlainRecord header properties = some record :=
            readPlainRecord_eq_some.mpr ⟨prototype, symbols, plain⟩
          have hnames : (record.map Prod.fst).Nodup := (names_of_plain plain) ▸ distinct
          have heach : ∀ key ∈ sortBy compareCodeUnits (record.map Prod.fst), ∃ member, (do
              let text ← serialize numberText heap depth (object :: ancestors) (get record key)
              Except.ok (jsonString key ++ unit ':' :: text)) =
                (.ok member : Except CanonicalJsonIssueCode JsString) := by
            intro key hkey
            have hmem := (sortBy_perm compareCodeUnits _).mem_iff.mp hkey
            obtain ⟨⟨name, value⟩, hentry, rfl⟩ := List.mem_map.mp hmem
            obtain ⟨value', hvalue'⟩ := exists_value (names.mem_iff.mp hmem)
            have hinner : Inside heap (object :: ancestors) value := by
              refine hinside.cons fun inner heq => ?_
              exact (holds_of_entry found plain).mpr ⟨name, heq ▸ hentry⟩
            obtain ⟨text, htext⟩ := ih name value value' hentry hvalue'
              (hwithin _ hvalue') hinner
            refine ⟨jsonString name ++ unit ':' :: text, ?_⟩
            rw [get_of_mem hnames hentry, htext]
            rfl
          obtain ⟨members, hmembers⟩ := exists_mapM_ok heach
          refine ⟨unit '{' :: [unit ','].intercalate members ++ [unit '}'], ?_⟩
          rw [serialize, if_neg hfresh, found]
          dsimp only
          rw [hread]
          dsimp only
          rw [hmembers]
          rfl

/-! ## Texts are texts of documents -/

/-- The document of a text: the value says it, its names are in order and it is within the
limits. -/
structure Said (numberText : Rat → JsString) (heap : Heap) (depth : Nat) (value : Datum)
    (text : JsString) (json : JsonValue) : Prop where
  denotes : Denotes heap isIndexKey value json
  within : Within canonicalJsonMaxArrayLength depth json
  sorted : NamesSorted json
  writable : JsonWritable json
  text : text = writeJson (jsonTexts numberText) json

/-- What holds at every index of a list holds of its items. -/
theorem forall_mem_of_getElem {α : Type} {p : α → Prop} {l : List α}
    (h : ∀ (i : Nat) (hi : i < l.length), p l[i]) : ∀ a ∈ l, p a := by
  intro a ha
  obtain ⟨i, hi, rfl⟩ := List.mem_iff_getElem.mp ha
  exact h i hi

theorem said_array {depth object : Nat} {header : ObjectHeader} {slots : List (Option Descriptor)}
    {properties : List (JsString × Descriptor)}
    {stray : ∀ property ∈ properties, isArrayIndex property.1 = false} {values : List Datum}
    {texts : List JsString} {R : Datum → JsString → Prop}
    (found : heap object = .array header slots properties stray)
    (hread : readPlainArray header slots properties canonicalJsonMaxArrayLength = some values)
    (htexts : List.Forall₂ R values texts)
    (ih : ∀ value ∈ values, ∀ text, R value text →
      ∃ json, Said numberText heap depth value text json) :
    ∃ json, Said numberText heap (depth + 1) (.reference object)
      (unit '[' :: [unit ','].intercalate texts ++ [unit ']']) json := by
  obtain ⟨prototype, symbols, others, hslots, dense⟩ := readPlainArray_eq_some.mp hread
  obtain ⟨items, hlength, hitems⟩ := exists_list_of_forall₂ htexts ih
  have hsaid : ∀ (i : Nat) (h : i < values.length) (h' : i < items.length),
      ∃ text, Said numberText heap depth values[i] text items[i] := fun i h h' =>
    ⟨_, hitems i h (htexts.length_eq ▸ h) h'⟩
  have heach : ∀ item ∈ items, ∃ value text, Said numberText heap depth value text item :=
    forall_mem_of_getElem fun i hi => ⟨_, hsaid i (hlength ▸ hi) hi⟩
  refine ⟨.array items, ?_, .array ?_ fun item hitem => ?_, .array fun item hitem => ?_,
    .array fun item hitem => ?_, ?_⟩
  · refine .array found prototype symbols others dense hlength fun i h h' => ?_
    obtain ⟨text, hsaid⟩ := hsaid i h h'
    exact hsaid.denotes
  · rw [← hlength, ← (mapM_eq_some.mp dense).length_eq]
    exact hslots
  · obtain ⟨value, text, hsaid⟩ := heach item hitem
    exact hsaid.within
  · obtain ⟨value, text, hsaid⟩ := heach item hitem
    exact hsaid.sorted
  · obtain ⟨value, text, hsaid⟩ := heach item hitem
    exact hsaid.writable
  · have htext : texts = items.map (writeJson (jsonTexts numberText)) := by
      refine List.ext_getElem ?_ fun i h h' => ?_
      · rw [List.length_map, ← hlength, htexts.length_eq]
      · rw [List.length_map] at h'
        rw [List.getElem_map]
        exact (hitems i (hlength ▸ h') h h').text
    rw [writeJson, writeItems_eq, htext]

/-- A member with its text. -/
structure SaidEntry (numberText : Rat → JsString) (heap : Heap) (depth : Nat)
    (record : List (JsString × Datum)) (key member : JsString) (entry : JsString × JsonValue) :
    Prop where
  name : entry.1 = key
  said : ∃ text, Said numberText heap depth (get record key) text entry.2
  member : member = entryText (jsonTexts numberText) entry

theorem said_object {depth object : Nat} {header : ObjectHeader}
    {properties : List (JsString × Descriptor)} {distinct : (properties.map Prod.fst).Nodup}
    {record : List (JsString × Datum)} {members : List JsString} {R : JsString → JsString → Prop}
    (found : heap object = .object header properties distinct)
    (hread : readPlainRecord header properties = some record)
    (hmembers : List.Forall₂ R (sortBy compareCodeUnits (record.map Prod.fst)) members)
    (ih : ∀ key ∈ sortBy compareCodeUnits (record.map Prod.fst), ∀ member, R key member →
      ∃ entry, SaidEntry numberText heap depth record key member entry) :
    ∃ json, Said numberText heap (depth + 1) (.reference object)
      (unit '{' :: [unit ','].intercalate members ++ [unit '}']) json := by
  obtain ⟨prototype, symbols, plain⟩ := readPlainRecord_eq_some.mp hread
  have hnodup : (record.map Prod.fst).Nodup := (names_of_plain plain) ▸ distinct
  have hperm := sortBy_perm compareCodeUnits (record.map Prod.fst)
  obtain ⟨entries, hlength, hentries⟩ := exists_list_of_forall₂ hmembers ih
  have hnames : entries.map Prod.fst = sortBy compareCodeUnits (record.map Prod.fst) := by
    refine List.ext_getElem ?_ fun i h h' => ?_
    · rw [List.length_map, hlength]
    · rw [List.length_map] at h
      rw [List.getElem_map]
      exact (hentries i h' (hmembers.length_eq ▸ h') h).name
  have heach : ∀ entry ∈ entries, ∃ text,
      Said numberText heap depth (get record entry.1) text entry.2 :=
    forall_mem_of_getElem fun i hi => by
      have hentry := hentries i (hlength ▸ hi) (hmembers.length_eq ▸ hlength ▸ hi) hi
      rw [hentry.name]
      exact hentry.said
  refine ⟨.object entries, ?_, .object fun entry hentry => ?_,
    .object ?_ fun entry hentry => ?_, .object ?_ fun entry hentry => ?_, ?_⟩
  · refine .object found prototype symbols plain (hnames ▸ hperm.symm) ?_
    intro name value value' hrecord hentry
    obtain ⟨text, hsaid⟩ := heach _ hentry
    rw [get_of_mem hnodup hrecord] at hsaid
    exact hsaid.denotes
  · obtain ⟨text, hsaid⟩ := heach entry hentry
    exact hsaid.within
  · rw [hnames]
    exact sortBy_strict compareCodeUnits hnodup
  · obtain ⟨text, hsaid⟩ := heach entry hentry
    exact hsaid.sorted
  · rw [hnames]
    exact hperm.nodup_iff.mpr hnodup
  · obtain ⟨text, hsaid⟩ := heach entry hentry
    exact hsaid.writable
  · have htext : members = entries.map (entryText (jsonTexts numberText)) := by
      refine List.ext_getElem ?_ fun i h h' => ?_
      · rw [List.length_map, ← hlength, hmembers.length_eq]
      · rw [List.length_map] at h'
        rw [List.getElem_map]
        exact (hentries i (hlength ▸ h') h h').member
    rw [writeJson, writeEntries_eq, htext]

theorem said_null {depth : Nat} {text : JsString} (h : text = js "null") :
    Said numberText heap depth .null text .null :=
  ⟨.null, .null depth, .null, .null, h⟩

theorem said_boolean {depth : Nat} {value : Bool} {text : JsString}
    (h : text = if value then js "true" else js "false") :
    Said numberText heap depth (.boolean value) text (.boolean value) :=
  ⟨.boolean value, .boolean depth value, .boolean value, .boolean value, h⟩

theorem said_string {depth : Nat} {value text : JsString} (h : text = jsonString value) :
    Said numberText heap depth (.string value) text (.string value) :=
  ⟨.string value, .string depth value, .string value, .string value, h⟩

theorem exists_said_number {depth : Nat} {value : JsNumber} (double : IsNumber value)
    {text : JsString} (h : serializeNumber numberText value = .ok text) :
    ∃ json, Said numberText heap depth (.number value double) text json := by
  cases value with
  | finite value =>
      exact ⟨_, .number value double, .number depth _, .number _, .number double,
        (Except.ok.inj h).symm⟩
  | nan => cases h
  | infinity negative => cases h

/-- A text is the text of a document that the value says. -/
theorem exists_said : ∀ {depth : Nat} {ancestors : List Nat} {value : Datum} {text : JsString},
    serialize numberText heap depth ancestors value = .ok text →
      ∃ json, Said numberText heap depth value text json := by
  intro depth
  induction depth with
  | zero =>
      intro ancestors value text h
      cases value with
      | reference object => cases h
      | undefined => cases h
      | other => cases h
      | null => exact ⟨_, said_null (Except.ok.inj h).symm⟩
      | boolean value => exact ⟨_, said_boolean (Except.ok.inj h).symm⟩
      | string value => exact ⟨_, said_string (Except.ok.inj h).symm⟩
      | number value double => exact exists_said_number double h
  | succ depth ih =>
      intro ancestors value text h
      cases value with
      | undefined => cases h
      | other => cases h
      | null => exact ⟨_, said_null (Except.ok.inj h).symm⟩
      | boolean value => exact ⟨_, said_boolean (Except.ok.inj h).symm⟩
      | string value => exact ⟨_, said_string (Except.ok.inj h).symm⟩
      | number value double => exact exists_said_number double h
      | reference object =>
          rw [serialize] at h
          split at h
          · cases h
          split at h
          · rename_i header slots properties stray found
            split at h
            · cases h
            · rename_i values hread
              obtain ⟨texts, htexts, hok⟩ := bind_eq_ok.mp h
              cases hok
              exact said_array found hread (mapM_eq_ok.mp htexts) fun value _ text htext =>
                ih htext
          · rename_i header properties distinct found
            split at h
            · cases h
            · rename_i record hread
              obtain ⟨members, hmembers, hok⟩ := bind_eq_ok.mp h
              cases hok
              refine said_object found hread (mapM_eq_ok.mp hmembers) fun key _ member hmember => ?_
              obtain ⟨text, htext, hok⟩ := bind_eq_ok.mp hmember
              cases hok
              obtain ⟨json, hsaid⟩ := ih htext
              exact ⟨(key, json), rfl, ⟨text, hsaid⟩, by rw [hsaid.text]; rfl⟩

end

/-! ## What is said once -/

section

variable {heap : Heap} {permitted permitted' : JsString → Bool}

/-- A value says one document, up to the order of members. -/
theorem Denotes.same {value : Datum} {json : JsonValue} (h : Denotes heap permitted value json) :
    ∀ {json' : JsonValue}, Denotes heap permitted' value json' → SameJson json json' := by
  induction h with
  | null =>
      intro json' h'
      cases h'
      exact .null
  | boolean value =>
      intro json' h'
      cases h'
      exact .boolean value
  | string value =>
      intro json' h'
      cases h'
      exact .string value
  | number value double =>
      intro json' h'
      cases h'
      exact .number _
  | @array object header slots properties stray values items found prototype symbols others dense
      length each ih =>
      intro json' h'
      cases h' with
      | array found' prototype' symbols' others' dense' length' each' =>
          rw [found] at found'
          cases found'
          rw [dense] at dense'
          cases dense'
          refine .array (length.symm.trans length') fun i h h' => ?_
          exact ih i (length ▸ h) h (each' i (length ▸ h) h')
      | object found' prototype' symbols' plain' names' each' =>
          rw [found] at found'
          cases found'
  | @object object header properties distinct record entries found prototype symbols plain names
      each ih =>
      intro json' h'
      cases h' with
      | array found' prototype' symbols' others' dense' length' each' =>
          rw [found] at found'
          cases found'
      | object found' prototype' symbols' plain' names' each' =>
          rw [found] at found'
          cases found'
          rw [plain] at plain'
          cases plain'
          refine .object (names.symm.trans names') fun name value' value'' h' h'' => ?_
          have hname := names.mem_iff.mpr (List.mem_map.mpr ⟨_, h', rfl⟩)
          obtain ⟨⟨name', value⟩, hentry, hsame⟩ := List.mem_map.mp hname
          dsimp only at hsame
          subst hsame
          exact ih name' value value' hentry h' (each' name' value value'' hentry h'')

/-- What a value says does not depend on what is permitted, once it says something. -/
theorem Denotes.permit {value : Datum} {json : JsonValue}
    (h : Denotes heap permitted value json) :
    ∀ {json' : JsonValue}, Denotes heap permitted' value json' →
      Denotes heap permitted value json' := by
  induction h with
  | null =>
      intro json' h'
      cases h'
      exact .null
  | boolean value =>
      intro json' h'
      cases h'
      exact .boolean value
  | string value =>
      intro json' h'
      cases h'
      exact .string value
  | number value double =>
      intro json' h'
      cases h'
      exact .number value double
  | @array object header slots properties stray values items found prototype symbols others dense
      length each ih =>
      intro json' h'
      cases h' with
      | array found' prototype' symbols' others' dense' length' each' =>
          rw [found] at found'
          cases found'
          rw [dense] at dense'
          cases dense'
          refine .array found prototype symbols others dense length' fun i h h' => ?_
          exact ih i h (length ▸ h) (each' i h h')
      | object found' prototype' symbols' plain' names' each' =>
          rw [found] at found'
          cases found'
  | @object object header properties distinct record entries found prototype symbols plain names
      each ih =>
      intro json' h'
      cases h' with
      | array found' prototype' symbols' others' dense' length' each' =>
          rw [found] at found'
          cases found'
      | object found' prototype' symbols' plain' names' each' =>
          rw [found] at found'
          cases found'
          rw [plain] at plain'
          cases plain'
          refine .object found prototype symbols plain names' fun name value value'' h' h'' => ?_
          obtain ⟨value', hvalue'⟩ := exists_value
            (names.mem_iff.mp (List.mem_map.mpr ⟨_, h', rfl⟩))
          exact ih name value value' h' hvalue' (each' name value value'' h' h'')

/-- What is said without other properties is said with any of them. -/
theorem Denotes.weaken {value : Datum} {json : JsonValue}
    (h : Denotes heap (fun _ => false) value json) : Denotes heap permitted value json := by
  induction h with
  | null => exact .null
  | boolean value => exact .boolean value
  | string value => exact .string value
  | number value double => exact .number value double
  | array found prototype symbols others dense length each ih =>
      exact .array found prototype symbols
        (fun property h => absurd (others property h) Bool.false_ne_true) dense length ih
  | object found prototype symbols plain names each ih =>
      exact .object found prototype symbols plain names ih

end

/-! ## Faithful texts -/

/-- A plain value, whose arrays have no properties but their items, says this document, and
the document is within the limits. -/
structure Plain (heap : Heap) (value : Datum) (json : JsonValue) : Prop where
  denotes : Denotes heap (fun _ => false) value json
  within : Within canonicalJsonMaxArrayLength canonicalJsonMaxDepth json

/-- The canonical text stands for the value: it exists for plain values only, it is the text
of another plain value when that one says the same document, and it is read as the document. -/
structure Faithful (numberText : Rat → JsString) (heap : Heap) (value : Datum) : Prop where
  accepts : (∃ text, canonicalJson numberText heap value = .ok text) ↔
    ∃ json, Plain heap value json
  separates : ∀ (heap' : Heap) (value' : Datum) (json' : JsonValue) (text text' : JsString),
    Plain heap' value' json' → canonicalJson numberText heap value = .ok text →
      canonicalJson numberText heap' value' = .ok text' →
        (text = text' ↔ ∃ json, Plain heap value json ∧ Plain heap' value' json)
  readsBack : ∀ text, canonicalJson numberText heap value = .ok text →
    ∃ json, parseJson text = some json ∧ Plain heap value json

/-- The value is plain and within the limits but for arrays that have other properties, all of
them named by decimal numerals. -/
def Decorated (heap : Heap) (value : Datum) : Prop :=
  (∃ json, Denotes heap isIndexKey value json ∧
      Within canonicalJsonMaxArrayLength canonicalJsonMaxDepth json) ∧
    ¬ ∃ json, Denotes heap (fun _ => false) value json

section

variable {numberText : Rat → JsString} {heap : Heap} {value : Datum}

/-- The text of a plain value. -/
theorem exists_text_of_plain {json : JsonValue} (h : Plain heap value json) :
    ∃ text, canonicalJson numberText heap value = .ok text :=
  h.denotes.weaken.serialized h.within (fun _ hancestor => absurd hancestor List.not_mem_nil)

/-- The document of a text is plain, unless the value is decorated. -/
theorem exists_plain_said (hplain : ¬ Decorated heap value) {text : JsString}
    (h : canonicalJson numberText heap value = .ok text) :
    ∃ json, Said numberText heap canonicalJsonMaxDepth value text json ∧ Plain heap value json := by
  obtain ⟨json, hsaid⟩ := exists_said h
  have hstrict : ∃ json, Denotes heap (fun _ => false) value json := by
    by_contra hnone
    exact hplain ⟨⟨json, hsaid.denotes, hsaid.within⟩, hnone⟩
  obtain ⟨json', hjson'⟩ := hstrict
  exact ⟨json, hsaid, hjson'.permit hsaid.denotes, hsaid.within⟩

theorem not_decorated_of_plain {json : JsonValue} (h : Plain heap value json) :
    ¬ Decorated heap value :=
  fun hdecorated => hdecorated.2 ⟨json, h.denotes⟩

end

/-- The canonical text stands for the value unless the value is decorated with properties that
are named by numerals. -/
theorem faithful_iff {numberText : Rat → JsString} (hnumbers : NumbersReadBack numberText)
    (heap : Heap) (value : Datum) :
    Faithful numberText heap value ↔ ¬ Decorated heap value := by
  constructor
  · rintro hfaithful ⟨⟨json, hdenotes, hwithin⟩, hstrict⟩
    have htext : ∃ text, canonicalJson numberText heap value = .ok text :=
      hdenotes.serialized hwithin (fun _ hancestor => absurd hancestor List.not_mem_nil)
    obtain ⟨json', hplain⟩ := hfaithful.accepts.mp htext
    exact hstrict ⟨json', hplain.denotes⟩
  · intro hplain
    have hread := jsonTexts_readBack hnumbers
    constructor
    case accepts =>
      refine ⟨fun ⟨text, htext⟩ => ?_, fun ⟨json, hjson⟩ => exists_text_of_plain hjson⟩
      obtain ⟨json, -, hjson⟩ := exists_plain_said hplain htext
      exact ⟨json, hjson⟩
    case separates =>
      intro heap' value' other text text' hother htext htext'
      obtain ⟨json, hsaid, hjson⟩ := exists_plain_said hplain htext
      obtain ⟨json', hsaid', hjson'⟩ := exists_plain_said (not_decorated_of_plain hother) htext'
      constructor
      · intro heq
        rw [hsaid.text, hsaid'.text] at heq
        have hsame := writeJson_inj hread hsaid.writable hsaid'.writable heq
        rw [← hsame] at hjson'
        exact ⟨json, hjson, hjson'⟩
      · rintro ⟨common, hcommon, hcommon'⟩
        have hsame := (hjson.denotes.same hcommon.denotes).trans
          (hcommon'.denotes.same hjson'.denotes)
        rw [hsaid.text, hsaid'.text, hsame.eq_of_sorted hsaid.sorted hsaid'.sorted]
    case readsBack =>
      intro text htext
      obtain ⟨json, hsaid, hjson⟩ := exists_plain_said hplain htext
      refine ⟨json, ?_, hjson⟩
      rw [hsaid.text]
      exact parseJson_writeJson hread hsaid.writable

/-- `[1]`. -/
def plainHeap : Heap := fun _ =>
  .array .arrayLiteral [some (.data true (.number (.finite 1) (show IsDouble 1 by decide +kernel)))]
    [] nofun

theorem faithful_iff_plainHeap :
    Faithful exactText plainHeap (.reference 0) ↔ ¬ Decorated plainHeap (.reference 0) :=
  faithful_iff numbersReadBack_exactText plainHeap (.reference 0)

/-- `['a']`, with a property that is named by a numeral that is no index. -/
def decoratedHeap : Heap := fun _ =>
  .array .arrayLiteral [some (.data true (.string (js "a")))]
    [(js "4294967295", .data true (.string (js "b")))] (by decide)

/-- An array with such a property is accepted, and the property is left out. -/
theorem not_faithful_decoratedHeap :
    canonicalJson exactText decoratedHeap (.reference 0) =
        .ok (unit '[' :: jsonString (js "a") ++ [unit ']']) ∧
      ¬ Faithful exactText decoratedHeap (.reference 0) := by
  have htext : canonicalJson exactText decoratedHeap (.reference 0) =
      .ok (unit '[' :: jsonString (js "a") ++ [unit ']']) := by decide +kernel
  refine ⟨htext, fun hfaithful => ?_⟩
  obtain ⟨json, hjson⟩ := hfaithful.accepts.mp ⟨_, htext⟩
  cases hjson.denotes with
  | array found prototype symbols others dense length each =>
      cases found
      exact absurd (others _ List.mem_cons_self) Bool.false_ne_true
  | object found prototype symbols plain names each => cases found

end PatchPilot.Policy.Objects
