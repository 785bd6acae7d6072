/-
  Foundation/Jsonb.lean --- the document type of the database, and its operators.

  A document keeps a number as the numeral it was written with, so the text of a field
  is the numeral.  An operator that finds nothing is `NULL`, which is `none` here.
-/
import PatchPilot.Foundation.JsString

set_option autoImplicit false

namespace PatchPilot.Foundation

/-- A `jsonb` document. -/
inductive Jsonb
  | null
  | boolean (value : Bool)
  | number (numeral : JsString)
  | string (value : JsString)
  | array (items : List Jsonb)
  | object (entries : List (JsString × Jsonb))

instance : Inhabited Jsonb := ⟨.null⟩

namespace Jsonb

/-- `jsonb_typeof`. -/
inductive Kind
  | null | boolean | number | string | array | object
  deriving DecidableEq

def kind : Jsonb → Kind
  | .null => .null
  | .boolean _ => .boolean
  | .number _ => .number
  | .string _ => .string
  | .array _ => .array
  | .object _ => .object

/-! ## The text of a document -/

/-- A character of a string inside quotes. -/
def escapedChar (u : UInt16) : JsString :=
  if u = 0x22 ∨ u = 0x5C then [unit '\\', u]
  else if u = 0x08 then js "\\b"
  else if u = 0x09 then js "\\t"
  else if u = 0x0A then js "\\n"
  else if u = 0x0C then js "\\f"
  else if u = 0x0D then js "\\r"
  else if u < 0x20 then
    js "\\u00" ++ [u.toNat / 0x10, u.toNat % 0x10].map fun n =>
      ((Nat.digitChar n).toNat).toUInt16
  else [u]

/-- A string inside quotes. -/
def quoted (s : JsString) : JsString := unit '"' :: s.flatMap escapedChar ++ [unit '"']

mutual

/-- The text of a document. -/
def out : Jsonb → JsString
  | .null => js "null"
  | .boolean value => if value then js "true" else js "false"
  | .number numeral => numeral
  | .string value => quoted value
  | .array items => unit '[' :: outItems items ++ [unit ']']
  | .object entries => unit '{' :: outEntries entries ++ [unit '}']

def outItems : List Jsonb → JsString
  | [] => []
  | [item] => out item
  | item :: rest => out item ++ js ", " ++ outItems rest

def outEntries : List (JsString × Jsonb) → JsString
  | [] => []
  | [(name, value)] => quoted name ++ js ": " ++ out value
  | (name, value) :: rest => quoted name ++ js ": " ++ out value ++ js ", " ++ outEntries rest

end

/-! ## Operators -/

/-- `document -> name`. -/
def field (document : Jsonb) (name : JsString) : Option Jsonb :=
  match document with
  | .object entries => (entries.find? fun entry => entry.1 = name).map Prod.snd
  | _ => none

/-- The text of a document that was found, as `->>` and `#>>` give it. -/
def text : Jsonb → Option JsString
  | .null => none
  | .string value => some value
  | document => some (out document)

/-- `document ->> name`. -/
def fieldText (document : Jsonb) (name : JsString) : Option JsString :=
  (document.field name).bind text

/-- `document #> path`, of names. -/
def atPath (document : Jsonb) (path : List JsString) : Option Jsonb :=
  path.foldl (fun found name => found.bind fun document => document.field name) (some document)

/-- `document #>> path`, of names. -/
def textAtPath (document : Jsonb) (path : List JsString) : Option JsString :=
  (document.atPath path).bind text

/-- `jsonb_array_elements` of a field that is an array, and nothing otherwise. -/
def elements (document : Jsonb) (name : JsString) : List Jsonb :=
  match document.field name with
  | some (.array items) => items
  | _ => []

end Jsonb

end PatchPilot.Foundation
