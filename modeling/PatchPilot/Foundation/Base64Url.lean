/-
  Foundation/Base64Url.lean --- the URL-safe base 64 text of bytes, without padding.

  Three bytes are four letters.  The letters that are left at the end of a text stand for
  one or two bytes, or for none when there is only one of them.
-/
import PatchPilot.Foundation.JsString

set_option autoImplicit false

namespace PatchPilot.Foundation

/-! ## Letters -/

/-- The letter of a number below 64. -/
def base64Letter (n : Nat) : UInt16 :=
  if n < 26 then (0x41 + n).toUInt16
  else if n < 52 then (0x61 + (n - 26)).toUInt16
  else if n < 62 then (0x30 + (n - 52)).toUInt16
  else if n = 62 then 0x2D
  else 0x5F

/-- `[A-Za-z0-9_-]`. -/
def isBase64Letter (u : UInt16) : Bool :=
  isUpper u || isLower u || isDigit u || u == 0x2D || u == 0x5F

/-- The number of a letter. -/
def base64Value (u : UInt16) : Nat :=
  if isUpper u then u.toNat - 0x41
  else if isLower u then u.toNat - 0x61 + 26
  else if isDigit u then u.toNat - 0x30 + 52
  else if u = 0x2D then 62
  else 63

theorem base64Value_letter : ∀ n < 64, base64Value (base64Letter n) = n := by decide

theorem isBase64Letter_letter : ∀ n < 64, isBase64Letter (base64Letter n) = true := by decide

/-! ## Texts -/

/-- The text of bytes. -/
def base64Encode : List UInt8 → JsString
  | [] => []
  | [a] => [base64Letter (a.toNat / 4), base64Letter (a.toNat % 4 * 16)]
  | [a, b] =>
      [base64Letter (a.toNat / 4), base64Letter (a.toNat % 4 * 16 + b.toNat / 16),
        base64Letter (b.toNat % 16 * 4)]
  | a :: b :: c :: rest =>
      base64Letter (a.toNat / 4) :: base64Letter (a.toNat % 4 * 16 + b.toNat / 16) ::
        base64Letter (b.toNat % 16 * 4 + c.toNat / 64) :: base64Letter (c.toNat % 64) ::
          base64Encode rest

/-- The bytes of a text of letters. -/
def base64Decode : JsString → List UInt8
  | [] => []
  | [_] => []
  | [p, q] => [(base64Value p * 4 + base64Value q / 16).toUInt8]
  | [p, q, r] =>
      [(base64Value p * 4 + base64Value q / 16).toUInt8,
        (base64Value q % 16 * 16 + base64Value r / 4).toUInt8]
  | p :: q :: r :: s :: rest =>
      (base64Value p * 4 + base64Value q / 16).toUInt8 ::
        (base64Value q % 16 * 16 + base64Value r / 4).toUInt8 ::
          (base64Value r % 4 * 64 + base64Value s).toUInt8 :: base64Decode rest

/-! ## The round trip -/

theorem toUInt8_of_eq {n : Nat} {b : UInt8} (h : n = b.toNat) : n.toUInt8 = b := by
  rw [h]
  exact UInt8.ofNat_toNat

/-- Decoding the text of bytes gives the bytes back. -/
theorem base64Decode_encode (bytes : List UInt8) :
    base64Decode (base64Encode bytes) = bytes := by
  induction bytes using base64Encode.induct with
  | case1 => rfl
  | case2 a =>
      have ha := a.toNat_lt
      rw [base64Encode, base64Decode, base64Value_letter _ (by omega),
        base64Value_letter _ (by omega), toUInt8_of_eq (b := a) (by omega)]
  | case3 a b =>
      have ha := a.toNat_lt
      have hb := b.toNat_lt
      rw [base64Encode, base64Decode, base64Value_letter _ (by omega),
        base64Value_letter _ (by omega), base64Value_letter _ (by omega),
        toUInt8_of_eq (b := a) (by omega), toUInt8_of_eq (b := b) (by omega)]
  | case4 a b c rest ih =>
      have ha := a.toNat_lt
      have hb := b.toNat_lt
      have hc := c.toNat_lt
      rw [base64Encode, base64Decode, base64Value_letter _ (by omega),
        base64Value_letter _ (by omega), base64Value_letter _ (by omega),
        base64Value_letter _ (by omega), toUInt8_of_eq (b := a) (by omega),
        toUInt8_of_eq (b := b) (by omega), toUInt8_of_eq (b := c) (by omega), ih]

/-- The text of bytes consists of letters. -/
theorem base64Encode_letters (bytes : List UInt8) :
    (base64Encode bytes).all isBase64Letter = true := by
  induction bytes using base64Encode.induct with
  | case1 => rfl
  | case2 a =>
      have ha := a.toNat_lt
      simp [base64Encode, isBase64Letter_letter (a.toNat / 4) (by omega),
        isBase64Letter_letter (a.toNat % 4 * 16) (by omega)]
  | case3 a b =>
      have ha := a.toNat_lt
      have hb := b.toNat_lt
      simp [base64Encode, isBase64Letter_letter (a.toNat / 4) (by omega),
        isBase64Letter_letter (a.toNat % 4 * 16 + b.toNat / 16) (by omega),
        isBase64Letter_letter (b.toNat % 16 * 4) (by omega)]
  | case4 a b c rest ih =>
      have ha := a.toNat_lt
      have hb := b.toNat_lt
      have hc := c.toNat_lt
      rw [base64Encode, List.all_cons, List.all_cons, List.all_cons, List.all_cons,
        isBase64Letter_letter _ (by omega), isBase64Letter_letter _ (by omega),
        isBase64Letter_letter _ (by omega), isBase64Letter_letter _ (by omega), ih]
      rfl

/-- Three bytes are at most four letters. -/
theorem length_base64Encode (bytes : List UInt8) :
    3 * (base64Encode bytes).length ≤ 4 * bytes.length + 2 := by
  induction bytes using base64Encode.induct with
  | case1 => exact Nat.zero_le _
  | case2 a => exact Nat.le_refl 6
  | case3 a b => exact Nat.le_succ 9
  | case4 a b c rest ih =>
      rw [base64Encode]
      simp only [List.length_cons]
      omega

/-- Only no bytes have no letters. -/
theorem base64Encode_ne_nil {bytes : List UInt8} (h : bytes ≠ []) : base64Encode bytes ≠ [] := by
  intro hnil
  have hback := base64Decode_encode bytes
  rw [hnil] at hback
  exact h hback.symm

end PatchPilot.Foundation
