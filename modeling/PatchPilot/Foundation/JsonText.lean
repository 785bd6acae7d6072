/-
  Foundation/JsonText.lean --- `JSON.parse`.

  The reader follows the grammar of the format: white space around tokens, strings with
  escapes, numbers that are rounded to doubles, and members of which the last one of a
  name counts.  It recurses on a bound of the depth and the number of tokens; the length
  of a text is always enough.

  What a writer produces it gives back, one member after another: the lemmas at the end
  are about one string, one number and one list of members inside a longer text.
-/
import PatchPilot.Foundation.Binary64
import PatchPilot.Foundation.JsValue
import PatchPilot.Foundation.LengthPrefix

set_option autoImplicit false

namespace PatchPilot.Foundation

/-! ## Tokens -/

/-- White space between tokens. -/
def isJsonSpace (u : UInt16) : Bool := u == 0x20 || u == 0x09 || u == 0x0A || u == 0x0D

/-- A text without the white space it starts with. -/
def skipSpace (s : JsString) : JsString := s.dropWhile isJsonSpace

/-- A text without the character it starts with, when it is the one expected. -/
def expectUnit (expected : UInt16) : JsString → Option JsString
  | [] => none
  | u :: rest => if u = expected then some rest else none

/-- The number of a hexadecimal digit. -/
def hexDigitValue (u : UInt16) : Option Nat :=
  if isDigit u then some (u.toNat - 0x30)
  else if 0x61 ≤ u && u ≤ 0x66 then some (u.toNat - 0x61 + 10)
  else if 0x41 ≤ u && u ≤ 0x46 then some (u.toNat - 0x41 + 10)
  else none

/-- The code unit of four hexadecimal digits. -/
def hexUnit (a b c d : UInt16) : Option UInt16 := do
  let a ← hexDigitValue a
  let b ← hexDigitValue b
  let c ← hexDigitValue c
  let d ← hexDigitValue d
  some (a * 0x1000 + b * 0x100 + c * 0x10 + d).toUInt16

/-- The code unit of a one-letter escape. -/
def escapedUnit (u : UInt16) : Option UInt16 :=
  if u = unit '"' then some (unit '"')
  else if u = unit '\\' then some (unit '\\')
  else if u = unit '/' then some (unit '/')
  else if u = unit 'b' then some 0x08
  else if u = unit 'f' then some 0x0C
  else if u = unit 'n' then some 0x0A
  else if u = unit 'r' then some 0x0D
  else if u = unit 't' then some 0x09
  else none

/-- The characters of a string up to its closing quote, and what follows it. -/
def parseChars : JsString → Option (JsString × JsString)
  | [] => none
  | u :: rest =>
      if u = unit '"' then some ([], rest)
      else if u = unit '\\' then
        match rest with
        | [] => none
        | e :: rest =>
            if e = unit 'u' then
              match rest with
              | a :: b :: c :: d :: rest =>
                  (hexUnit a b c d).bind fun x =>
                    (parseChars rest).map fun (s, tail) => (x :: s, tail)
              | _ => none
            else
              (escapedUnit e).bind fun x =>
                (parseChars rest).map fun (s, tail) => (x :: s, tail)
      else if u < 0x20 then none
      else (parseChars rest).map fun (s, tail) => (u :: s, tail)

/-! ## Numbers -/

/-- The number of a run of digits. -/
def digitsValue (digits : JsString) : Nat :=
  digits.foldl (fun n u => 10 * n + (u.toNat - 0x30)) 0

/-- The digits after a separator that is there, of which there is at least one; none
without the separator. -/
def parseFraction (s : JsString) : Option (JsString × JsString) :=
  match expectUnit (unit '.') s with
  | none => some ([], s)
  | some rest =>
      if rest.takeWhile isDigit = [] then none
      else some (rest.takeWhile isDigit, rest.dropWhile isDigit)

/-- The exponent after its letter; zero without the letter. -/
def parseExponent (s : JsString) : Option (Int × JsString) :=
  match (expectUnit (unit 'e') s).or (expectUnit (unit 'E') s) with
  | none => some (0, s)
  | some rest =>
      let negative := (expectUnit (unit '-') rest).isSome
      let rest := ((expectUnit (unit '-') rest).or (expectUnit (unit '+') rest)).getD rest
      if rest.takeWhile isDigit = [] then none
      else
        let magnitude : Int := digitsValue (rest.takeWhile isDigit)
        some (if negative then -magnitude else magnitude, rest.dropWhile isDigit)

/-- A number at the start of a text. -/
def parseNumber (s : JsString) : Option (JsNumber × JsString) := do
  let negative := (expectUnit (unit '-') s).isSome
  let s := (expectUnit (unit '-') s).getD s
  let digits := s.takeWhile isDigit
  if digits = [] ∨ (digits.length > 1 ∧ digits.head? = some (unit '0')) then none
  else do
    let (fraction, s) ← parseFraction (s.dropWhile isDigit)
    let (exponent, s) ← parseExponent s
    let magnitude : Rat := digitsValue (digits ++ fraction) *
      (10 : Rat) ^ (exponent - (fraction.length : Int))
    some (binary64 (if negative then -magnitude else magnitude), s)

/-! ## Values -/

/-- A record with a member; the last one of a name counts. -/
def JsonRecord.set (record : JsonRecord) (name : JsString) (value : JsonValue) : JsonRecord :=
  if record.any (fun entry => entry.1 = name) then
    record.map fun entry => if entry.1 = name then (name, value) else entry
  else record ++ [(name, value)]

/-- A literal name. -/
def parseLiteral (s : JsString) : Option (JsonValue × JsString) :=
  if (js "true").isPrefixOf s then some (.boolean true, s.drop 4)
  else if (js "false").isPrefixOf s then some (.boolean false, s.drop 5)
  else if (js "null").isPrefixOf s then some (.null, s.drop 4)
  else none

mutual

/-- A value at the start of a text, and what follows it. -/
def parseValue : Nat → JsString → Option (JsonValue × JsString)
  | 0, _ => none
  | fuel + 1, s =>
      match skipSpace s with
      | [] => none
      | u :: rest =>
          if u = unit '{' then
            match expectUnit (unit '}') (skipSpace rest) with
            | some tail => some (.object [], tail)
            | none => parseMembers fuel [] rest
          else if u = unit '[' then
            match expectUnit (unit ']') (skipSpace rest) with
            | some tail => some (.array [], tail)
            | none => parseItems fuel [] rest
          else if u = unit '"' then (parseChars rest).map fun (s, tail) => (.string s, tail)
          else if isDigit u || u = unit '-' then
            (parseNumber (u :: rest)).map fun (n, tail) => (.number n, tail)
          else parseLiteral (u :: rest)

/-- The members of an object up to its closing brace. -/
def parseMembers : Nat → JsonRecord → JsString → Option (JsonValue × JsString)
  | 0, _, _ => none
  | fuel + 1, record, s => do
      let (name, s) ← (expectUnit (unit '"') (skipSpace s)).bind parseChars
      let s ← expectUnit (unit ':') (skipSpace s)
      let (value, s) ← parseValue fuel s
      match expectUnit (unit ',') (skipSpace s) with
      | some s => parseMembers fuel (record.set name value) s
      | none =>
          let s ← expectUnit (unit '}') (skipSpace s)
          some (.object (record.set name value), s)

/-- The items of an array up to its closing bracket. -/
def parseItems : Nat → List JsonValue → JsString → Option (JsonValue × JsString)
  | 0, _, _ => none
  | fuel + 1, items, s => do
      let (value, s) ← parseValue fuel s
      match expectUnit (unit ',') (skipSpace s) with
      | some s => parseItems fuel (items ++ [value]) s
      | none =>
          let s ← expectUnit (unit ']') (skipSpace s)
          some (.array (items ++ [value]), s)

end

attribute [grind =] parseValue parseMembers parseItems

/-- `JSON.parse`; `none` is its error. -/
def parseJson (text : JsString) : Option JsonValue :=
  match parseValue (2 * text.length + 1) text with
  | some (value, rest) => if skipSpace rest = [] then some value else none
  | none => none

/-! ## Reading what was written -/

theorem skipSpace_cons {u : UInt16} (rest : JsString) (h : isJsonSpace u = false) :
    skipSpace (u :: rest) = u :: rest := by
  rw [skipSpace, List.dropWhile_cons_of_neg (by simp [h])]

theorem expectUnit_self (u : UInt16) (rest : JsString) :
    expectUnit u (u :: rest) = some rest := if_pos rfl

theorem expectUnit_ne {u v : UInt16} (rest : JsString) (h : v ≠ u) :
    expectUnit u (v :: rest) = none := if_neg h

/-- A character that needs no escape stands for itself. -/
theorem parseChars_plain {u : UInt16} {rest s tail : JsString} (hquote : u ≠ unit '"')
    (hbackslash : u ≠ unit '\\') (hcontrol : 0x20 ≤ u) (h : parseChars rest = some (s, tail)) :
    parseChars (u :: rest) = some (u :: s, tail) := by
  rw [parseChars.eq_def]
  simp only [if_neg hquote, if_neg hbackslash, if_neg (UInt16.not_lt.mpr hcontrol), h,
    Option.map_some]

/-- A one-letter escape stands for its character. -/
theorem parseChars_escaped {e x : UInt16} {rest s tail : JsString} (hescape : e ≠ unit 'u')
    (hunit : escapedUnit e = some x) (h : parseChars rest = some (s, tail)) :
    parseChars (unit '\\' :: e :: rest) = some (x :: s, tail) := by
  have hquote : unit '\\' ≠ unit '"' := by decide
  rw [parseChars.eq_def]
  simp only [if_neg hquote, if_neg hescape, hunit, h, Option.bind_some, Option.map_some,
    if_true]

theorem parseChars_end (rest : JsString) : parseChars (unit '"' :: rest) = some ([], rest) := by
  rw [parseChars.eq_def]
  exact if_pos rfl

/-- White space is neither a quote nor punctuation. -/
theorem isJsonSpace_unit {c : Char} (h : isJsonSpace (unit c) = false) (rest : JsString) :
    skipSpace (unit c :: rest) = unit c :: rest := skipSpace_cons rest h

/-- A member that another one follows. -/
theorem parseMembers_more {fuel : Nat} {record : JsonRecord} {name s s' tail : JsString}
    {value : JsonValue} (hname : parseChars s = some (name, unit ':' :: s'))
    (hvalue : parseValue fuel s' = some (value, unit ',' :: tail)) :
    parseMembers (fuel + 1) record (unit '"' :: s) =
      parseMembers fuel (record.set name value) tail := by
  rw [parseMembers, isJsonSpace_unit (by decide), expectUnit_self]
  simp only [Option.bind_some, Option.bind_eq_bind, hname,
    isJsonSpace_unit (show isJsonSpace (unit ':') = false by decide), expectUnit_self, hvalue,
    isJsonSpace_unit (show isJsonSpace (unit ',') = false by decide)]

/-- The last member. -/
theorem parseMembers_last {fuel : Nat} {record : JsonRecord} {name s s' tail : JsString}
    {value : JsonValue} (hname : parseChars s = some (name, unit ':' :: s'))
    (hvalue : parseValue fuel s' = some (value, unit '}' :: tail)) :
    parseMembers (fuel + 1) record (unit '"' :: s) =
      some (.object (record.set name value), tail) := by
  rw [parseMembers, isJsonSpace_unit (by decide), expectUnit_self]
  simp only [Option.bind_some, Option.bind_eq_bind, hname,
    isJsonSpace_unit (show isJsonSpace (unit ':') = false by decide), expectUnit_self, hvalue,
    isJsonSpace_unit (show isJsonSpace (unit '}') = false by decide),
    expectUnit_ne tail (show unit '}' ≠ unit ',' by decide)]

/-- A string at the start of a text. -/
theorem parseValue_string {fuel : Nat} {s text tail : JsString}
    (h : parseChars s = some (text, tail)) :
    parseValue (fuel + 1) (unit '"' :: s) = some (.string text, tail) := by
  rw [parseValue, isJsonSpace_unit (by decide)]
  simp only [if_neg (show unit '"' ≠ unit '{' by decide),
    if_neg (show unit '"' ≠ unit '[' by decide), h, if_true, Option.map_some]

/-- An object with members at the start of a text. -/
theorem parseValue_object {fuel : Nat} {u : UInt16} {s : JsString}
    (hspace : isJsonSpace u = false) (hu : u ≠ unit '}') :
    parseValue (fuel + 1) (unit '{' :: u :: s) = parseMembers fuel [] (u :: s) := by
  rw [parseValue, isJsonSpace_unit (by decide)]
  simp only [if_true, skipSpace_cons s hspace, expectUnit_ne s hu]

/-- A new name is added at the end. -/
theorem JsonRecord.set_new {record : JsonRecord} {name : JsString} {value : JsonValue}
    (h : name ∉ record.map Prod.fst) : record.set name value = record ++ [(name, value)] := by
  have hany : (record.any fun entry => decide (entry.1 = name)) = false := by
    rw [List.any_eq_false]
    intro entry hentry heq
    exact h (List.mem_map.mpr ⟨entry, hentry, of_decide_eq_true heq⟩)
  rw [JsonRecord.set, hany]
  rfl

/-! ## Digits -/

theorem foldl_digits (digits : JsString) :
    ∀ n, digits.foldl (fun n u => 10 * n + (u.toNat - 0x30)) n =
      n * 10 ^ digits.length + digitsValue digits := by
  unfold digitsValue
  induction digits with
  | nil => exact fun n => by simp
  | cons u digits ih =>
      intro n
      rw [List.foldl_cons, List.foldl_cons, ih, ih (10 * 0 + _), List.length_cons, pow_succ]
      ring

theorem digitsValue_cons (u : UInt16) (digits : JsString) :
    digitsValue (u :: digits) = (u.toNat - 0x30) * 10 ^ digits.length + digitsValue digits := by
  have hfold := foldl_digits digits (u.toNat - 0x30)
  rw [digitsValue, List.foldl_cons, Nat.mul_zero, Nat.zero_add]
  exact hfold

/-- A run of digits stays below the power of ten of its length. -/
theorem digitsValue_lt {digits : JsString} (h : digits.all isDigit = true) :
    digitsValue digits < 10 ^ digits.length := by
  induction digits with
  | nil => exact Nat.one_pos
  | cons u digits ih =>
      rw [List.all_cons, Bool.and_eq_true] at h
      have hu : u.toNat ≤ 0x39 := by
        have hdigit := h.1
        simp only [isDigit, Bool.and_eq_true, decide_eq_true_eq] at hdigit
        exact UInt16.le_iff_toNat_le.mp hdigit.2
      have hrest := ih h.2
      rw [digitsValue_cons, List.length_cons, pow_succ]
      have hdigit : (u.toNat - 0x30) * 10 ^ digits.length ≤ 9 * 10 ^ digits.length :=
        Nat.mul_le_mul_right _ (by omega)
      omega

/-- The digits of a number denote it. -/
theorem digitsValue_decimalText (n : Nat) : digitsValue (decimalText n) = n := by
  have hfold : ∀ (chars : List Char) (m : Nat), (∀ c ∈ chars, c.toNat < 0x10000) →
      (chars.map unit).foldl (fun n u => 10 * n + (u.toNat - 0x30)) m =
        Nat.ofDigitChars 10 chars m := by
    intro chars
    induction chars with
    | nil => exact fun m _ => rfl
    | cons c chars ih =>
        intro m hsmall
        have hc := hsmall c List.mem_cons_self
        have hunit : (unit c).toNat = c.toNat := by
          rw [unit, Nat.toUInt16, UInt16.toNat_ofNat']
          omega
        rw [List.map_cons, List.foldl_cons, hunit,
          ih _ fun c' hc' => hsmall c' (List.mem_cons_of_mem _ hc')]
        exact Nat.ofDigitChars_cons.symm
  rw [digitsValue, decimalText_eq_map]
  refine (hfold (Nat.toDigits 10 n) 0 fun c hc => ?_).trans Nat.ofDigitChars_ten_toDigits
  have hdigit := toNat_of_mem_toDigits hc
  omega

end PatchPilot.Foundation
