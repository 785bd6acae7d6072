/-
  Foundation/Utf8.lean --- strings as bytes, and bytes as strings.

  Encoding replaces a lone surrogate and decoding replaces a malformed sequence, so the
  two are inverse to one another only on well-formed text.  On ASCII they are: every
  character is one byte and every byte below `0x80` is one character.  There the order
  of the bytes is the order of the code units as well.
-/
import PatchPilot.Foundation.JsString

set_option autoImplicit false

namespace PatchPilot.Foundation

/-! ## Encoding -/

/-- A byte of a code point: the low six bits after a shift, marked as a continuation. -/
def continuationByte (codePoint shift : Nat) : UInt8 :=
  (0x80 + codePoint / 2 ^ shift % 0x40).toUInt8

/-- The bytes of a code unit on its own. -/
def unitUtf8 (u : UInt16) : List UInt8 :=
  if u ≤ 0x7F then [u.toUInt8]
  else if u ≤ 0x7FF then [(0xC0 + u.toNat / 0x40).toUInt8, continuationByte u.toNat 0]
  else if isHighSurrogate u || isLowSurrogate u then [0xEF, 0xBF, 0xBD]
  else [(0xE0 + u.toNat / 0x1000).toUInt8, continuationByte u.toNat 6,
    continuationByte u.toNat 0]

/-- The code point of a surrogate pair. -/
def pairCodePoint (high low : UInt16) : Nat :=
  0x10000 + (high.toNat - 0xD800) * 0x400 + (low.toNat - 0xDC00)

/-- The bytes of a surrogate pair. -/
def pairUtf8 (high low : UInt16) : List UInt8 :=
  let codePoint := pairCodePoint high low
  [(0xF0 + codePoint / 0x40000).toUInt8, continuationByte codePoint 12,
    continuationByte codePoint 6, continuationByte codePoint 0]

/-- The UTF-8 bytes of a string. -/
def utf8Encode : JsString → List UInt8
  | [] => []
  | [u] => unitUtf8 u
  | u :: v :: rest =>
      if isHighSurrogate u && isLowSurrogate v then pairUtf8 u v ++ utf8Encode rest
      else unitUtf8 u ++ utf8Encode (v :: rest)

/-! ## Decoding -/

/-- What a decoder keeps of an unfinished sequence: the bits read, the bytes missing,
and the range of the next byte. -/
structure Utf8Pending where
  bits : Nat
  missing : Nat
  lower : UInt8
  upper : UInt8

/-- `U+FFFD`. -/
def replacementUnit : UInt16 := 0xFFFD

/-- The sequence that a byte starts, unless it is ASCII or starts none. -/
def utf8Lead (b : UInt8) : Option Utf8Pending :=
  if 0xC2 ≤ b && b ≤ 0xDF then some ⟨b.toNat % 0x20, 1, 0x80, 0xBF⟩
  else if b = 0xE0 then some ⟨b.toNat % 0x10, 2, 0xA0, 0xBF⟩
  else if b = 0xED then some ⟨b.toNat % 0x10, 2, 0x80, 0x9F⟩
  else if 0xE1 ≤ b && b ≤ 0xEF then some ⟨b.toNat % 0x10, 2, 0x80, 0xBF⟩
  else if b = 0xF0 then some ⟨b.toNat % 0x08, 3, 0x90, 0xBF⟩
  else if b = 0xF4 then some ⟨b.toNat % 0x08, 3, 0x80, 0x8F⟩
  else if 0xF1 ≤ b && b ≤ 0xF3 then some ⟨b.toNat % 0x08, 3, 0x80, 0xBF⟩
  else none

/-- The code units of a code point. -/
def codePointUnits (codePoint : Nat) : JsString :=
  if codePoint < 0x10000 then [codePoint.toUInt16]
  else [(0xD800 + (codePoint - 0x10000) / 0x400).toUInt16,
    (0xDC00 + (codePoint - 0x10000) % 0x400).toUInt16]

/-- What a byte outside a sequence contributes, and the sequence it starts. -/
def utf8Start (b : UInt8) : JsString × Option Utf8Pending :=
  if b ≤ 0x7F then ([b.toUInt16], none)
  else
    match utf8Lead b with
    | some pending => ([], some pending)
    | none => ([replacementUnit], none)

/-- One step of the decoder.  A byte that does not continue a sequence ends it and is
read again. -/
def utf8Step (pending : Option Utf8Pending) (b : UInt8) : JsString × Option Utf8Pending :=
  match pending with
  | none => utf8Start b
  | some pending =>
      if pending.lower ≤ b && b ≤ pending.upper then
        let bits := pending.bits * 0x40 + b.toNat % 0x40
        if pending.missing = 1 then (codePointUnits bits, none)
        else ([], some ⟨bits, pending.missing - 1, 0x80, 0xBF⟩)
      else (replacementUnit :: (utf8Start b).1, (utf8Start b).2)

/-- Decoding with an unfinished sequence. -/
def utf8DecodeFrom : Option Utf8Pending → List UInt8 → JsString
  | none, [] => []
  | some _, [] => [replacementUnit]
  | pending, b :: rest =>
      (utf8Step pending b).1 ++ utf8DecodeFrom (utf8Step pending b).2 rest

/-- The string that bytes denote. -/
def utf8Decode (bytes : List UInt8) : JsString := utf8DecodeFrom none bytes

/-! ## ASCII -/

theorem unitUtf8_ascii {u : UInt16} (h : u ≤ 0x7F) : unitUtf8 u = [u.toUInt8] := if_pos h

theorem toNat_toUInt8 {u : UInt16} (h : u ≤ 0x7F) : u.toUInt8.toNat = u.toNat := by
  have hle : u.toNat ≤ 0x7F := UInt16.le_iff_toNat_le.mp h
  rw [UInt16.toNat_toUInt8]
  omega

theorem isAscii_cons {u : UInt16} {s : JsString} :
    isAscii (u :: s) = true ↔ u ≤ 0x7F ∧ isAscii s = true := by
  simp [isAscii]

theorem isAscii_append {s t : JsString} :
    isAscii (s ++ t) = true ↔ isAscii s = true ∧ isAscii t = true := by
  simp [isAscii]

theorem not_isHighSurrogate {u : UInt16} (h : u ≤ 0x7F) : isHighSurrogate u = false := by
  have hle : u.toNat ≤ 0x7F := UInt16.le_iff_toNat_le.mp h
  have hnot : ¬ (0xD800 : UInt16) ≤ u := by
    intro hge
    have hnat := UInt16.le_iff_toNat_le.mp hge
    have hval : (0xD800 : UInt16).toNat = 0xD800 := rfl
    omega
  simp [isHighSurrogate, hnot]

/-- The bytes of an ASCII string are its code units. -/
theorem utf8Encode_ascii (s : JsString) :
    isAscii s = true → utf8Encode s = s.map UInt16.toUInt8 := by
  induction s with
  | nil => exact fun _ => rfl
  | cons u rest ih =>
      intro h
      obtain ⟨hu, hrest⟩ := isAscii_cons.mp h
      cases rest with
      | nil => exact unitUtf8_ascii hu
      | cons v rest =>
          rw [utf8Encode, not_isHighSurrogate hu, unitUtf8_ascii hu, ih hrest]
          rfl

/-- Decoding gives an ASCII string back. -/
theorem utf8Decode_encode (s : JsString) (h : isAscii s = true) :
    utf8Decode (utf8Encode s) = s := by
  rw [utf8Encode_ascii s h]
  unfold utf8Decode
  induction s with
  | nil => rfl
  | cons u rest ih =>
      obtain ⟨hu, hrest⟩ := isAscii_cons.mp h
      have hle : u.toNat ≤ 0x7F := UInt16.le_iff_toNat_le.mp hu
      have hbyte : u.toUInt8 ≤ 0x7F := by
        rw [UInt8.le_iff_toNat_le, toNat_toUInt8 hu]
        exact hle
      have hback : u.toUInt8.toUInt16 = u := by
        apply UInt16.toNat_inj.mp
        rw [UInt8.toNat_toUInt16, toNat_toUInt8 hu]
      have hstep : utf8Step none u.toUInt8 = ([u], none) := by
        rw [utf8Step, utf8Start, if_pos hbyte, hback]
      rw [List.map_cons, utf8DecodeFrom, hstep, ih hrest]
      rfl

/-! ## The order of the bytes -/

/-- Comparison by bytes. -/
def compareBytes (left right : JsString) : Ordering :=
  List.compareLex compare (utf8Encode left) (utf8Encode right)

instance : Std.TransCmp compareBytes where
  eq_swap {a b} := @Std.OrientedCmp.eq_swap _ (List.compareLex (compare (α := UInt8))) _
    (utf8Encode a) (utf8Encode b)
  isLE_trans {a b c} := @Std.TransCmp.isLE_trans _ (List.compareLex (compare (α := UInt8))) _
    (utf8Encode a) (utf8Encode b) (utf8Encode c)

theorem compare_toUInt8 {u v : UInt16} (hu : u ≤ 0x7F) (hv : v ≤ 0x7F) :
    compare u.toUInt8 v.toUInt8 = compare u v := by
  have hlt : u.toUInt8 < v.toUInt8 ↔ u < v := by
    rw [UInt8.lt_iff_toNat_lt, UInt16.lt_iff_toNat_lt, toNat_toUInt8 hu, toNat_toUInt8 hv]
  have heq : u.toUInt8 = v.toUInt8 ↔ u = v := by
    rw [← UInt8.toNat_inj, ← UInt16.toNat_inj, toNat_toUInt8 hu, toNat_toUInt8 hv]
  simp only [compare, compareOfLessAndEq, hlt, heq]

/-- On ASCII the order of the bytes is the order of the code units. -/
theorem compareBytes_ascii {s t : JsString} (hs : isAscii s = true) (ht : isAscii t = true) :
    compareBytes s t = compareCodeUnits s t := by
  unfold compareBytes compareCodeUnits
  rw [utf8Encode_ascii s hs, utf8Encode_ascii t ht]
  induction s generalizing t with
  | nil => cases t <;> rfl
  | cons u s ih =>
      cases t with
      | nil => rfl
      | cons v t =>
          obtain ⟨hu, hs⟩ := isAscii_cons.mp hs
          obtain ⟨hv, ht⟩ := isAscii_cons.mp ht
          rw [List.map_cons, List.map_cons, List.compareLex_cons_cons,
            List.compareLex_cons_cons, compare_toUInt8 hu hv, ih hs ht]

end PatchPilot.Foundation
