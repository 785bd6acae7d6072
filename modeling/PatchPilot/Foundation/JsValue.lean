/-
  Foundation/JsValue.lean --- untrusted ECMAScript values, as a validator sees them.

  A function that receives `unknown` cannot assume that an object is a record: it
  may have getters, symbol keys, a foreign prototype or holes, and it may be a
  proxy.  A value is modelled here by everything such a function can observe
  without running foreign code: the prototype, the proxy flag, the number of
  symbol keys and the own properties with their descriptors.

  Properties are listed in the order of `Object.getOwnPropertyNames`.  An array
  has one slot for each index below its length (`none` is a hole) and, apart
  from `length`, whatever other own properties it was given.

  What `JSON.parse` returns is a tree of plain data: it has no accessors, no symbol keys
  and no foreign prototypes, so reading a property is looking its name up.
-/
import PatchPilot.Foundation.JsString

set_option autoImplicit false

namespace PatchPilot.Foundation

/-- A number value.  Finite doubles are read as rationals, and the two zeros are
one. -/
inductive JsNumber
  | finite (value : Rat)
  | nan
  | infinity (negative : Bool)
  deriving DecidableEq

/-- `Object.getPrototypeOf`, as far as a validator distinguishes it. -/
inductive Prototype
  | objectPrototype | arrayPrototype | nullPrototype | other
  deriving DecidableEq

/-- What can be observed of an object besides its own string-keyed properties. -/
structure ObjectHeader where
  prototype : Prototype
  isProxy : Bool
  symbolKeys : Nat
  deriving DecidableEq

/-- The header of an object literal. -/
def ObjectHeader.literal : ObjectHeader := ⟨.objectPrototype, false, 0⟩

/-- The header of an array literal. -/
def ObjectHeader.arrayLiteral : ObjectHeader := ⟨.arrayPrototype, false, 0⟩

mutual

/-- An ECMAScript value.  `other` stands for functions, symbols and bigints. -/
inductive JsValue
  | undefined
  | null
  | boolean (value : Bool)
  | number (value : JsNumber)
  | string (value : JsString)
  | other
  | object (header : ObjectHeader) (properties : List (JsString × JsProperty))
  | array (header : ObjectHeader) (slots : List (Option JsProperty))
      (properties : List (JsString × JsProperty))

/-- An own property: a data descriptor with its value, or an accessor. -/
inductive JsProperty
  | data (enumerable : Bool) (value : JsValue)
  | accessor (enumerable : Bool)

end

instance : Inhabited JsValue := ⟨.undefined⟩

/-- A record literal with enumerable data properties. -/
def JsValue.record (entries : List (JsString × JsValue)) : JsValue :=
  .object .literal (entries.map fun entry => (entry.1, .data true entry.2))

/-- An array literal. -/
def JsValue.list (items : List JsValue) : JsValue :=
  .array .arrayLiteral (items.map fun item => some (.data true item)) []

/-- The string a value is, if it is one. -/
def JsValue.string? : JsValue → Option JsString
  | .string value => some value
  | _ => none

/-- The own property with the name, `Object.getOwnPropertyDescriptor`. -/
def ownProperty (properties : List (JsString × JsProperty)) (name : JsString) :
    Option JsProperty :=
  (properties.find? (fun property => property.1 = name)).map Prod.snd

/-- The value of a data property; `none` for a missing property or an accessor. -/
def dataValue : Option JsProperty → Option JsValue
  | some (.data _ value) => some value
  | _ => none

/-! ## Parsed values -/

/-- A parsed value.  The names of an object are distinct. -/
inductive JsonValue
  | null
  | boolean (value : Bool)
  | number (value : JsNumber)
  | string (value : JsString)
  | array (items : List JsonValue)
  | object (entries : List (JsString × JsonValue))

instance : Inhabited JsonValue := ⟨.null⟩

/-- The entries of an object. -/
abbrev JsonRecord := List (JsString × JsonValue)

namespace JsonRecord

/-- `record[name]`; `none` is `undefined`. -/
def get (record : JsonRecord) (name : JsString) : Option JsonValue :=
  (record.find? fun entry => entry.1 = name).map Prod.snd

end JsonRecord

namespace JsonValue

/-- The entries of a value that is an object and not an array. -/
def record? : JsonValue → Option JsonRecord
  | .object entries => some entries
  | _ => none

/-- The items of an array. -/
def array? : JsonValue → Option (List JsonValue)
  | .array items => some items
  | _ => none

/-- The text of a string. -/
def string? : JsonValue → Option JsString
  | .string value => some value
  | _ => none

end JsonValue

end PatchPilot.Foundation
