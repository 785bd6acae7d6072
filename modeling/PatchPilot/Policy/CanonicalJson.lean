import PatchPilot.Foundation.Comparator
import PatchPilot.Foundation.Steps
import PatchPilot.Policy.FactDocument

set_option autoImplicit false

/-!
# Policy: the canonical text of a value (`canonical-json.ts`)

Hashes of definitions and of fact inputs are taken over a text that does not depend on
the order in which the keys of a record were written.

The text of a number is `Number::toString`, which is a parameter here.
-/

namespace PatchPilot.Policy

open PatchPilot.Foundation

/-! ## Strings -/

/-- A digit of a `\u` escape. -/
def hexDigit (n : Nat) : UInt16 := ((Nat.digitChar n).toNat).toUInt16

/-- `UnicodeEscape`. -/
def unicodeEscape (u : UInt16) : JsString :=
  [unit '\\', unit 'u', hexDigit (u.toNat / 0x1000), hexDigit (u.toNat / 0x100 % 0x10),
    hexDigit (u.toNat / 0x10 % 0x10), hexDigit (u.toNat % 0x10)]

/-- A code unit that is not half of a pair, inside quotes. -/
def quotedUnit (u : UInt16) : JsString :=
  if u = 0x08 then js "\\b"
  else if u = 0x09 then js "\\t"
  else if u = 0x0A then js "\\n"
  else if u = 0x0C then js "\\f"
  else if u = 0x0D then js "\\r"
  else if u = 0x22 then js "\\\""
  else if u = 0x5C then js "\\\\"
  else if u < 0x20 ∨ isHighSurrogate u ∨ isLowSurrogate u then unicodeEscape u
  else [u]

/-- The code units inside quotes.  Halves of a surrogate pair are kept together. -/
def quotedUnits : JsString → JsString
  | [] => []
  | [u] => quotedUnit u
  | u :: v :: rest =>
      if isHighSurrogate u && isLowSurrogate v then u :: v :: quotedUnits rest
      else quotedUnit u ++ quotedUnits (v :: rest)

/-- `JSON.stringify` of a string. -/
def jsonString (s : JsString) : JsString := unit '"' :: quotedUnits s ++ [unit '"']

/-! ## Values -/

/-- `CANONICAL_JSON_MAX_DEPTH`. -/
def canonicalJsonMaxDepth : Nat := 32

/-- `CANONICAL_JSON_MAX_ARRAY_LENGTH`. -/
def canonicalJsonMaxArrayLength : Nat := 100000

section

variable (numberText : Rat → JsString)

/-- `serialize`, with the depth that is left.  A value is a tree, so no ancestor can
come again. -/
def serialize : Nat → JsValue → Option JsString
  | _, .null => some (js "null")
  | _, .boolean value => some (if value then js "true" else js "false")
  | _, .string value => some (jsonString value)
  | _, .number (.finite value) => some (numberText value)
  | _, .number _ => none
  | _, .undefined => none
  | _, .other => none
  | 0, .array .. => none
  | 0, .object .. => none
  | depth + 1, .array header slots properties =>
      match readPlainArray (.array header slots properties) canonicalJsonMaxArrayLength with
      | .elements values => do
          let texts ← values.mapM (serialize depth)
          some (unit '[' :: [unit ','].intercalate texts ++ [unit ']'])
      | _ => none
  | depth + 1, .object header properties => do
      let record ← readPlainRecord (.object header properties)
      let members ← (sortBy compareCodeUnits record.keys).mapM fun key => do
        let text ← serialize depth (record.get key)
        some (jsonString key ++ unit ':' :: text)
      some (unit '{' :: [unit ','].intercalate members ++ [unit '}'])

/-- A member of a record. -/
def memberText (depth : Nat) (record : PlainRecord) (key : JsString) : Option JsString := do
  let text ← serialize numberText depth (record.get key)
  some (jsonString key ++ unit ':' :: text)

/-- `canonicalJson`; `none` is its error. -/
def canonicalJson (value : JsValue) : Option JsString :=
  serialize numberText canonicalJsonMaxDepth value

end

/-! ## The order of keys -/

theorem PlainRecord.get_of_mem {record : PlainRecord} (hkeys : record.keys.Nodup)
    {entry : JsString × JsValue} (h : entry ∈ record) : record.get entry.1 = entry.2 := by
  unfold PlainRecord.get
  rw [find?_key_eq_some hkeys h]
  rfl

theorem PlainRecord.get_of_perm {record other : PlainRecord} (hkeys : record.keys.Nodup)
    (h : record.Perm other) {key : JsString} (hkey : key ∈ record.keys) :
    record.get key = other.get key := by
  obtain ⟨entry, hentry, rfl⟩ := List.mem_map.mp hkey
  have hother : other.keys.Nodup := (h.map Prod.fst).nodup_iff.mp hkeys
  rw [PlainRecord.get_of_mem hkeys hentry,
    PlainRecord.get_of_mem hother (h.mem_iff.mp hentry)]

/-- The text of a record, from the record that its literal reads as. -/
theorem canonicalJson_record (numberText : Rat → JsString)
    (entries : List (JsString × JsValue)) :
    canonicalJson numberText (.record entries) =
      ((sortBy compareCodeUnits (PlainRecord.keys entries)).mapM
          (memberText numberText (canonicalJsonMaxDepth - 1) entries)).map
        fun members => unit '{' :: [unit ','].intercalate members ++ [unit '}'] := by
  change (readPlainRecord (.record entries) >>= fun record => _) = _
  rw [readPlainRecord_record, Option.map_eq_bind]
  rfl

theorem mapM_congr_of_mem {α β : Type} {f g : α → Option β} {l : List α}
    (h : ∀ a ∈ l, f a = g a) : l.mapM f = l.mapM g := by
  induction l with
  | nil => rfl
  | cons a rest ih =>
      rw [List.mapM_cons, List.mapM_cons, h a List.mem_cons_self,
        ih fun b hb => h b (List.mem_cons_of_mem a hb)]

/-- Equal data has one text: it does not depend on the order of the keys. -/
theorem canonicalJson_record_perm (numberText : Rat → JsString)
    {entries other : List (JsString × JsValue)} (hkeys : (entries.map Prod.fst).Nodup)
    (h : entries.Perm other) :
    canonicalJson numberText (.record entries) = canonicalJson numberText (.record other) := by
  have hsorted : sortBy compareCodeUnits (PlainRecord.keys entries) =
      sortBy compareCodeUnits (PlainRecord.keys other) :=
    sortBy_eq_of_perm compareCodeUnits (h.map Prod.fst)
  have hmembers : ∀ key ∈ sortBy compareCodeUnits (PlainRecord.keys other),
      memberText numberText (canonicalJsonMaxDepth - 1) entries key =
        memberText numberText (canonicalJsonMaxDepth - 1) other key := by
    intro key hkey
    rw [← hsorted] at hkey
    have hmem := (sortBy_perm compareCodeUnits _).mem_iff.mp hkey
    unfold memberText
    rw [PlainRecord.get_of_perm hkeys h hmem]
  rw [canonicalJson_record, canonicalJson_record, hsorted, mapM_congr_of_mem hmembers]

end PatchPilot.Policy
