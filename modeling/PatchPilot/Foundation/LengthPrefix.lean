/-
  Foundation/LengthPrefix.lean --- texts that are joined behind their lengths.

  A field is the length of a text in decimal digits, a separator and the text.  A reader
  knows from the length where the text ends, so the text may contain the separator itself,
  and lists of texts with the same joined text are equal.
-/
import PatchPilot.Foundation.JsString
import Mathlib.Data.List.TakeWhile

set_option autoImplicit false

namespace PatchPilot.Foundation

/-! ## Decimal digits -/

/-- The bounds of a digit. -/
theorem toNat_of_mem_toDigits {n : Nat} {c : Char} (h : c ∈ Nat.toDigits 10 n) :
    48 ≤ c.toNat ∧ c.toNat ≤ 57 := by
  have hdigit := Nat.isDigit_of_mem_toDigits (by omega) (by omega) h
  exact Char.isDigit_iff_toNat.mp hdigit

theorem decimalText_eq_map (n : Nat) :
    decimalText n = (Nat.toDigits 10 n).map fun c => c.toNat.toUInt16 := by
  unfold decimalText
  rw [List.map_eq_flatMap]
  refine List.flatMap_congr fun c hc => ?_
  have hbound := toNat_of_mem_toDigits hc
  unfold utf16
  rw [if_pos (by omega)]

/-- A decimal text has only digits. -/
theorem isDigit_of_mem_decimalText {n : Nat} {u : UInt16} (h : u ∈ decimalText n) :
    isDigit u = true := by
  rw [decimalText_eq_map] at h
  obtain ⟨c, hc, rfl⟩ := List.mem_map.mp h
  have hbound := toNat_of_mem_toDigits hc
  unfold isDigit
  simp only [Bool.and_eq_true, decide_eq_true_eq, UInt16.le_iff_toNat_le]
  have hsize : c.toNat.toUInt16.toNat = c.toNat := by
    apply Nat.mod_eq_of_lt
    omega
  rw [hsize]
  exact hbound

theorem isAscii_decimalText (n : Nat) : isAscii (decimalText n) = true := by
  unfold isAscii
  refine List.all_eq_true.mpr fun u hu => ?_
  have hdigit := isDigit_of_mem_decimalText hu
  unfold isDigit at hdigit
  rw [Bool.and_eq_true, decide_eq_true_eq, decide_eq_true_eq] at hdigit
  exact decide_eq_true (UInt16.le_trans hdigit.2 (by decide))

/-- A number is known from its decimal text. -/
theorem decimalText_inj {n m : Nat} (h : decimalText n = decimalText m) : n = m := by
  rw [decimalText_eq_map, decimalText_eq_map] at h
  -- a code unit of a digit gives the digit back
  have hback : ∀ k, ((Nat.toDigits 10 k).map fun c => c.toNat.toUInt16).map
      (fun u => Char.ofNat u.toNat) = Nat.toDigits 10 k := by
    intro k
    rw [List.map_map]
    refine List.map_congr_left (g := id) (fun c hc => ?_) |>.trans (List.map_id _)
    have hbound := toNat_of_mem_toDigits hc
    have hsize : c.toNat.toUInt16.toNat = c.toNat := by
      apply Nat.mod_eq_of_lt
      omega
    change Char.ofNat c.toNat.toUInt16.toNat = c
    rw [hsize, Char.ofNat_toNat]
  have hdigits : Nat.toDigits 10 n = Nat.toDigits 10 m := by
    rw [← hback n, h, hback m]
  rw [← Nat.ofDigitChars_ten_toDigits (n := n), hdigits, Nat.ofDigitChars_ten_toDigits]

/-- The digits before a unit that is no digit. -/
theorem takeWhile_decimalText (n : Nat) {u : UInt16} (hu : isDigit u = false) (rest : JsString) :
    (decimalText n ++ u :: rest).takeWhile isDigit = decimalText n := by
  rw [List.takeWhile_append_of_pos fun _ => isDigit_of_mem_decimalText,
    List.takeWhile_cons_of_neg (by rw [hu]; exact Bool.false_ne_true), List.append_nil]

/-! ## Fields -/

/-- A text behind its length. -/
def lengthPrefixedField (part : JsString) : JsString :=
  decimalText part.length ++ unit ':' :: part

/-- A field that starts a text is known, and so is what follows it. -/
theorem lengthPrefixedField_append_inj {part part' rest rest' : JsString}
    (h : lengthPrefixedField part ++ rest = lengthPrefixedField part' ++ rest') :
    part = part' ∧ rest = rest' := by
  unfold lengthPrefixedField at h
  simp only [List.append_assoc, List.cons_append] at h
  have hdigits : decimalText part.length = decimalText part'.length := by
    rw [← takeWhile_decimalText part.length (u := unit ':') (by decide) (part ++ rest), h,
      takeWhile_decimalText part'.length (by decide)]
  have hlength : part.length = part'.length := decimalText_inj hdigits
  rw [hdigits] at h
  have htail := List.append_cancel_left h
  exact List.append_inj (List.cons.inj htail).2 hlength

/-- `lengthPrefixed`: fields with a separator between them. -/
def lengthPrefixed : List JsString → JsString
  | [] => []
  | [part] => lengthPrefixedField part
  | part :: next :: parts => lengthPrefixedField part ++ unit ':' :: lengthPrefixed (next :: parts)

/-- As many texts are known from their joined text. -/
theorem lengthPrefixed_inj {parts : List JsString} :
    ∀ {parts' : List JsString}, parts.length = parts'.length →
      lengthPrefixed parts = lengthPrefixed parts' → parts = parts' := by
  induction parts with
  | nil =>
      intro parts' hlength _
      exact (List.length_eq_zero_iff.mp hlength.symm).symm
  | cons part parts ih =>
      intro parts' hlength h
      cases parts' with
      | nil => cases hlength
      | cons part' parts' =>
          have hrest : parts.length = parts'.length := Nat.succ.inj hlength
          cases parts with
          | nil =>
              rw [List.length_eq_zero_iff.mp hrest.symm] at h ⊢
              have hfields : lengthPrefixedField part ++ [] = lengthPrefixedField part' ++ [] := by
                rw [List.append_nil, List.append_nil]
                exact h
              rw [(lengthPrefixedField_append_inj hfields).1]
          | cons next parts =>
              cases parts' with
              | nil => cases hrest
              | cons next' parts' =>
                  obtain ⟨hpart, htail⟩ := lengthPrefixedField_append_inj h
                  rw [hpart, ih hrest (List.cons.inj htail).2]

end PatchPilot.Foundation
