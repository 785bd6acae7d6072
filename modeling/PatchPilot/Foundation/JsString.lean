/-
  Foundation/JsString.lean --- ECMAScript strings as UTF-16 code-unit sequences.

  An ECMAScript string is a finite sequence of unsigned 16-bit code units: not
  a sequence of characters, and not necessarily well-formed UTF-16.  `length`,
  `charCodeAt`, `slice`, `indexOf` and relational comparison all work on code
  units, so the length of a string, its UTF-8 size and its order are three
  different things.  This file fixes that reading once.

  Nothing here is specific to one program.  The operations are the ones a
  validating reader uses: literals, UTF-8 size with the replacement of lone
  surrogates, white space, and code-unit order.
-/
import Mathlib.Order.Compare
import Mathlib.Order.Lattice
import Mathlib.Algebra.Group.Int.Defs
import Mathlib.Algebra.GroupWithZero.Nat
import Mathlib.Data.List.Basic

set_option autoImplicit false

namespace PatchPilot.Foundation

/-- An ECMAScript string: a list of UTF-16 code units. -/
abbrev JsString := List UInt16

/-- Strings are compared as lists of code units. -/
instance : LawfulBEq JsString := List.instLawfulBEq

/-- The UTF-16 encoding of one Unicode scalar value. -/
def utf16 (c : Char) : JsString :=
  if c.toNat < 0x10000 then [c.toNat.toUInt16]
  else
    let n := c.toNat - 0x10000
    [(0xD800 + n / 0x400).toUInt16, (0xDC00 + n % 0x400).toUInt16]

/-- The ECMAScript string a source literal denotes. -/
def js (s : String) : JsString := s.toList.flatMap utf16

/-- The code unit of a character of the Basic Multilingual Plane. -/
def unit (c : Char) : UInt16 := c.toNat.toUInt16

/-! ## Literals -/

theorem toNat_char (c : Char) : c.toNat < 0xD800 ∨ (0xDFFF < c.toNat ∧ c.toNat < 0x110000) :=
  c.valid

theorem utf16_append_inj {c d : Char} {s t : JsString} (h : utf16 c ++ s = utf16 d ++ t) :
    c = d ∧ s = t := by
  have hc := toNat_char c
  have hd := toNat_char d
  have hword : ∀ {m n : Nat}, m.toUInt16 = n.toUInt16 → m % 65536 = n % 65536 :=
    fun h => congrArg UInt16.toNat h
  have hchar : c.toNat = d.toNat → c = d := fun h => Char.ext (UInt32.toNat_inj.mp h)
  unfold utf16 at h
  split at h <;> split at h
  · obtain ⟨hunit, hrest⟩ := List.cons.inj h
    have hsame := hword hunit
    exact ⟨hchar (by omega), hrest⟩
  · have hsame := hword (List.cons.inj h).1
    omega
  · have hsame := hword (List.cons.inj h).1
    omega
  · obtain ⟨hhigh, h⟩ := List.cons.inj h
    obtain ⟨hlow, hrest⟩ := List.cons.inj h
    have hsame := hword hhigh
    have hsame' := hword hlow
    exact ⟨hchar (by omega), hrest⟩

theorem utf16_ne_nil (c : Char) : utf16 c ≠ [] := by
  unfold utf16
  split <;> exact List.cons_ne_nil _ _

/-- Different literals are different strings. -/
theorem js_inj {s t : String} : js s = js t ↔ s = t := by
  refine ⟨fun h => String.toList_inj.mp ?_, congrArg js⟩
  unfold js at h
  generalize s.toList = cs at h
  generalize t.toList = ds at h
  induction cs generalizing ds with
  | nil =>
      cases ds with
      | nil => rfl
      | cons d ds => exact absurd (List.append_eq_nil_iff.mp h.symm).1 (utf16_ne_nil d)
  | cons c cs ih =>
      cases ds with
      | nil => exact absurd (List.append_eq_nil_iff.mp h).1 (utf16_ne_nil c)
      | cons d ds =>
          obtain ⟨hchar, hrest⟩ := utf16_append_inj h
          rw [hchar, ih ds hrest]

/-! ## Character classes -/

/-- `[0-9]`. -/
def isDigit (u : UInt16) : Bool := 0x30 ≤ u && u ≤ 0x39

/-- `[a-z]`. -/
def isLower (u : UInt16) : Bool := 0x61 ≤ u && u ≤ 0x7A

/-- `[A-Z]`. -/
def isUpper (u : UInt16) : Bool := 0x41 ≤ u && u ≤ 0x5A

/-- `[0-9a-f]`. -/
def isLowerHex (u : UInt16) : Bool := isDigit u || (0x61 ≤ u && u ≤ 0x66)

/-- ECMAScript `WhiteSpace` and `LineTerminator`, which is also the class `\s`
of a regular expression without the `v` flag. -/
def isWhiteSpace (u : UInt16) : Bool :=
  (0x09 ≤ u && u ≤ 0x0D) || u == 0x20 || u == 0xA0 || u == 0x1680 ||
  (0x2000 ≤ u && u ≤ 0x200A) || u == 0x2028 || u == 0x2029 || u == 0x202F ||
  u == 0x205F || u == 0x3000 || u == 0xFEFF

/-- `String.prototype.trim`. -/
def trim (s : JsString) : JsString :=
  ((s.dropWhile isWhiteSpace).reverse.dropWhile isWhiteSpace).reverse

/-- Every code unit is at most `0x7F`. -/
def isAscii (s : JsString) : Bool := s.all (· ≤ 0x7F)

/-- `/^[0-9]+$/`. -/
def isDecimal (s : JsString) : Bool := !s.isEmpty && s.all isDigit

/-! ## UTF-8 size -/

def isHighSurrogate (u : UInt16) : Bool := 0xD800 ≤ u && u ≤ 0xDBFF

def isLowSurrogate (u : UInt16) : Bool := 0xDC00 ≤ u && u ≤ 0xDFFF

/-- The number of bytes one code unit contributes on its own.  A lone surrogate
is encoded as `U+FFFD`, three bytes. -/
def unitUtf8Bytes (u : UInt16) : Nat :=
  if u ≤ 0x7F then 1 else if u ≤ 0x7FF then 2 else 3

/-- The number of bytes `TextEncoder` produces: a surrogate pair is one
four-byte sequence and every other unit is encoded alone. -/
def utf8ByteLength : JsString → Nat
  | [] => 0
  | [u] => unitUtf8Bytes u
  | u :: v :: rest =>
      if isHighSurrogate u && isLowSurrogate v then 4 + utf8ByteLength rest
      else unitUtf8Bytes u + utf8ByteLength (v :: rest)

/-! ## Code-unit order -/

/-- Comparison by the first differing code unit, and by length when one string
is a proper initial segment of the other. -/
def compareCodeUnits (left right : JsString) : Ordering :=
  List.compareLex compare left right

instance : Std.TransCmp compareCodeUnits :=
  inferInstanceAs (Std.TransCmp (List.compareLex (compare (α := UInt16))))

instance : Std.LawfulEqCmp compareCodeUnits :=
  inferInstanceAs (Std.LawfulEqCmp (List.compareLex (compare (α := UInt16))))

/-! ## Decimal rendering -/

/-- `String(n)` for a non-negative integer. -/
def decimalText (n : Nat) : JsString := (Nat.toDigits 10 n).flatMap utf16

/-- `String(n)` for an integer. -/
def integerText (n : Int) : JsString :=
  if n < 0 then unit '-' :: decimalText n.natAbs else decimalText n.natAbs

end PatchPilot.Foundation
