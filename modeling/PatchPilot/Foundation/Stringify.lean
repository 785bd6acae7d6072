/-
  Foundation/Stringify.lean --- `JSON.stringify` of a value, and what its text tells.

  The text of a value shows its data: the elements of an array and the enumerable
  properties of an object, in their order.  Two objects with the same data in another order
  have different texts.  A program that compares texts compares data only where the values
  are built in one way; `Legible` says so of a family of values, and is put together as the
  values are.
-/
import PatchPilot.Foundation.JsonWriting
import PatchPilot.Foundation.NumberText

set_option autoImplicit false

namespace PatchPilot.Foundation

mutual

/-- The document that `JSON.stringify` writes of a value that has no getters and no
`toJSON`; `none` is `undefined`. -/
def JsValue.json? : JsValue → Option JsonValue
  | .undefined => none
  | .other => none
  | .null => some .null
  | .boolean value => some (.boolean value)
  | .number value => some (.number value)
  | .string value => some (.string value)
  | .object _ properties => some (.object (jsonMembers properties))
  | .array _ slots _ => some (.array (jsonItems slots))

/-- The data of a property. -/
def JsProperty.json? : JsProperty → Option JsonValue
  | .data _ value => value.json?
  | .accessor _ => none

/-- The members of an object: a property without data is left out. -/
def jsonMembers : List (JsString × JsProperty) → JsonRecord
  | [] => []
  | (name, .data true value) :: rest =>
      match value.json? with
      | some json => (name, json) :: jsonMembers rest
      | none => jsonMembers rest
  | _ :: rest => jsonMembers rest

/-- The items of an array: a slot without data is written as `null`. -/
def jsonItems : List (Option JsProperty) → List JsonValue
  | [] => []
  | some property :: rest => property.json?.getD .null :: jsonItems rest
  | none :: rest => .null :: jsonItems rest

end

/-- `JSON.stringify`; `none` is `undefined`. -/
def JsValue.stringify (texts : JsonTexts) (value : JsValue) : Option JsString :=
  value.json?.map (writeJson texts)

/-- A record, from the documents of its values. -/
theorem json?_record {entries : List (JsString × JsValue)} {json : JsonRecord}
    (h : List.Forall₂ (fun entry member => entry.1 = member.1 ∧ entry.2.json? = some member.2)
      entries json) : (JsValue.record entries).json? = some (.object json) := by
  suffices hmembers : jsonMembers (entries.map
      fun entry => (entry.1, JsProperty.data true entry.2)) = json by
    rw [JsValue.record, JsValue.json?, hmembers]
  induction h with
  | nil => rfl
  | @cons entry member entries json hentry _ ih =>
      obtain ⟨hname, hvalue⟩ := hentry
      rw [List.map_cons, jsonMembers, hvalue]
      dsimp only
      rw [ih, hname]

theorem json?_record_map {ι : Type} {name : ι → JsString} {value : ι → JsValue}
    {json : ι → JsonValue} {l : List ι} (h : ∀ i, (value i).json? = some (json i)) :
    (JsValue.record (l.map fun i => (name i, value i))).json? =
      some (.object (l.map fun i => (name i, json i))) := by
  refine json?_record (List.forall₂_map_left_iff.mpr (List.forall₂_map_right_iff.mpr ?_))
  exact List.forall₂_same.mpr fun i _ => ⟨rfl, h i⟩

theorem json?_list {ι : Type} {value : ι → JsValue} {json : ι → JsonValue} {l : List ι}
    (h : ∀ i ∈ l, (value i).json? = some (json i)) :
    (JsValue.list (l.map value)).json? = some (.array (l.map json)) := by
  suffices hitems : jsonItems ((l.map value).map fun item => some (JsProperty.data true item)) =
      l.map json by
    rw [JsValue.list, JsValue.json?, hitems]
  induction l with
  | nil => rfl
  | cons i rest ih =>
      rw [List.map_cons, List.map_cons, List.map_cons, jsonItems, JsProperty.json?,
        h i List.mem_cons_self, ih fun j hj => h j (List.mem_cons_of_mem i hj)]
      rfl

/-! ## Members that may be absent -/

namespace JsonRecord

/-- The members that have a value; those that are `undefined` are left out. -/
def present (members : List (JsString × Option JsonValue)) : JsonRecord :=
  members.filterMap fun member => member.2.map fun value => (member.1, value)

theorem present_value (name : JsString) (value : JsonValue)
    (members : List (JsString × Option JsonValue)) :
    present ((name, some value) :: members) = (name, value) :: present members := rfl

theorem mem_present {members : List (JsString × Option JsonValue)} {entry : JsString × JsonValue}
    (h : entry ∈ present members) : (entry.1, some entry.2) ∈ members := by
  obtain ⟨⟨name, value⟩, hmember, hentry⟩ := List.mem_filterMap.mp h
  obtain ⟨value, rfl, rfl⟩ := Option.map_eq_some_iff.mp hentry
  exact hmember

theorem get_head (name : JsString) (value : JsonValue) (rest : JsonRecord) :
    get ((name, value) :: rest) name = some value := by
  have hfirst : (decide ((name, value).1 = name)) = true := decide_eq_true rfl
  rw [get, List.find?_cons, hfirst, Option.map_some]

theorem get_tail {name other : JsString} (h : other ≠ name) (value : JsonValue)
    (rest : JsonRecord) : get ((other, value) :: rest) name = get rest name := by
  rw [get, List.find?_cons_of_neg (by simpa using h), get]

theorem get_absent {record : JsonRecord} {name : JsString} (h : name ∉ record.map Prod.fst) :
    get record name = none := by
  rw [get, Option.map_eq_none_iff, List.find?_eq_none]
  intro entry hentry hname
  exact h (of_decide_eq_true hname ▸ List.mem_map_of_mem hentry)

theorem names_present (members : List (JsString × Option JsonValue)) :
    ((present members).map Prod.fst).Sublist (members.map Prod.fst) := by
  induction members with
  | nil => exact .slnil
  | cons member rest ih =>
      obtain ⟨name, value⟩ := member
      cases value with
      | none => exact ih.cons name
      | some value => exact ih.cons_cons name

/-- A name reads the member with that name. -/
theorem get_present {members : List (JsString × Option JsonValue)}
    (h : (members.map Prod.fst).Nodup) :
    ∀ member ∈ members, (present members).get member.1 = member.2 := by
  induction members with
  | nil => exact fun _ hmember => absurd hmember List.not_mem_nil
  | cons first rest ih =>
      obtain ⟨name, value⟩ := first
      rw [List.map_cons, List.nodup_cons] at h
      have hrest := ih h.2
      refine List.forall_mem_cons.mpr ⟨?_, fun member hmember => ?_⟩
      · cases value with
        | none => exact get_absent fun hname => h.1 ((names_present rest).subset hname)
        | some value => exact get_head name value _
      · have hmem : member.1 ∈ rest.map Prod.fst := List.mem_map_of_mem hmember
        have hname : name ≠ member.1 := fun heq => h.1 (heq ▸ hmem)
        cases value with
        | none => exact hrest member hmember
        | some value =>
            rw [present_value, get_tail hname]
            exact hrest member hmember

end JsonRecord

theorem jsonWritable_present {members : List (JsString × Option JsonValue)}
    (h : (members.map Prod.fst).Nodup)
    (each : ∀ member ∈ members, ∀ value ∈ member.2, JsonWritable value) :
    JsonWritable (.object (JsonRecord.present members)) :=
  .object ((JsonRecord.names_present members).nodup h) fun _ hentry =>
    each _ (JsonRecord.mem_present hentry) _ rfl

/-! ## Values that their texts tell apart -/

/-- The values that stand for `α`.  Each is written as a document, the documents of accepted
values can be read back, and no two are the same. -/
structure Legible {α : Type} (accepted : α → Prop) (value : α → JsValue) (json : α → JsonValue) :
    Prop where
  json? : ∀ a, (value a).json? = some (json a)
  writable : ∀ a, accepted a → JsonWritable (json a)
  injective : Function.Injective json

namespace Legible

variable {α : Type} {accepted : α → Prop} {value : α → JsValue} {json : α → JsonValue}

/-- The texts are equal where the values are. -/
theorem stringify_eq_iff (h : Legible accepted value json) {texts : JsonTexts}
    (htexts : texts.ReadBack) {a b : α} (ha : accepted a) (hb : accepted b) :
    (value a).stringify texts = (value b).stringify texts ↔ a = b := by
  constructor
  · intro heq
    rw [JsValue.stringify, JsValue.stringify, h.json?, h.json?, Option.map_some,
      Option.map_some] at heq
    exact h.injective
      (writeJson_inj htexts (h.writable a ha) (h.writable b hb) (Option.some.inj heq))
  · rintro rfl
    rfl

theorem string : Legible (fun _ => True) JsValue.string JsonValue.string where
  json? _ := by rw [JsValue.json?]
  writable s _ := .string s
  injective _ _ h := JsonValue.string.inj h

/-- Whole numbers, where a double can hold them. -/
theorem whole : Legible (fun n : Nat => n < 2 ^ 53) (fun n => .number (.finite n))
    fun n => .number (.finite n) where
  json? _ := by rw [JsValue.json?]
  writable _ h := .number (isDouble_natCast h)
  injective _ _ h := Nat.cast_injective (JsNumber.finite.inj (JsonValue.number.inj h))

theorem list (h : Legible accepted value json) :
    Legible (fun l : List α => ∀ a ∈ l, accepted a) (fun l => .list (l.map value))
      fun l => .array (l.map json) where
  json? _ := json?_list fun a _ => h.json? a
  writable l hl := .array fun item hitem => by
    obtain ⟨a, ha, rfl⟩ := List.mem_map.mp hitem
    exact h.writable a (hl a ha)
  injective _ _ heq := h.injective.list_map (JsonValue.array.inj heq)

/-- A record with one member for each name. -/
theorem function {ι : Type} {names : List ι} {name : ι → JsString} (h : Legible accepted value json)
    (complete : ∀ i, i ∈ names) (distinct : (names.map name).Nodup) :
    Legible (fun f : ι → α => ∀ i, accepted (f i))
      (fun f => .record (names.map fun i => (name i, value (f i))))
      fun f => .object (names.map fun i => (name i, json (f i))) where
  json? f := json?_record_map fun i => h.json? (f i)
  writable f hf := by
    refine .object ?_ fun entry hentry => ?_
    · rw [List.map_map]
      exact distinct
    · obtain ⟨i, -, rfl⟩ := List.mem_map.mp hentry
      exact h.writable (f i) (hf i)
  injective f g heq := by
    funext i
    have hentry := List.map_inj_left.mp (JsonValue.object.inj heq) i (complete i)
    exact h.injective (Prod.mk.inj hentry).2

end Legible

end PatchPilot.Foundation
