/-
  Foundation/SizeField.lean --- a size that is part of what it measures.

  A document that says how long it is grows with the digits of its own length.  Its size is a
  fixed point of a monotone function, and the least one is what the function settles on when
  it is repeated from zero.  Two repetitions after the first are enough: the digits of the
  size can make the size cross one power of ten, and not another one.
-/
import Mathlib.Order.Bounds.Basic
import PatchPilot.Foundation.LengthPrefix
import PatchPilot.Foundation.Utf8

set_option autoImplicit false

namespace PatchPilot.Foundation

/-! ## The least fixed point -/

section

variable {measure : Nat → Nat} (hmono : Monotone measure)
include hmono

/-- What a monotone measure gives from zero on is below every fixed point. -/
theorem iterate_le_fixed {size : Nat} (h : measure size = size) (k : Nat) :
    measure^[k] 0 ≤ size := by
  induction k with
  | zero => exact Nat.zero_le size
  | succ k ih =>
      rw [Function.iterate_succ_apply', ← h]
      exact hmono ih

/-- A fixed point that is reached from zero is the least one. -/
theorem isLeast_iterate {k : Nat} (h : measure (measure^[k] 0) = measure^[k] 0) :
    IsLeast {size | measure size = size} (measure^[k] 0) :=
  ⟨h, fun _ hsize => iterate_le_fixed hmono hsize k⟩

end

/-! ## The search -/

/-- The sizes are measured from one on, until a measure does not fit or does not change. -/
def settle (measure : Nat → Nat) (fits : Nat → Bool) : Nat → Nat → Option Nat
  | 0, _ => none
  | fuel + 1, size =>
      let measured := measure size
      if fits measured = false then none
      else if measured = size then some size
      else settle measure fits fuel measured

/-- The search ends with the least fixed point, if that fits: what is measured on the way
is smaller. -/
theorem settle_eq {measure : Nat → Nat} (hmono : Monotone measure) {fits : Nat → Bool}
    (hfits : ∀ {a b}, a ≤ b → fits b = true → fits a = true) {least : Nat}
    (hleast : IsLeast {size | measure size = size} least) :
    ∀ {fuel size : Nat}, size ≤ least → measure^[fuel] size = least →
      settle measure fits (fuel + 1) size = if fits least = true then some least else none := by
  intro fuel
  induction fuel with
  | zero =>
      intro size _ hreached
      have hsize : size = least := hreached
      subst hsize
      have hfixed : measure size = size := hleast.1
      unfold settle
      dsimp only
      rw [hfixed]
      cases fits size with
      | true => simp only [Bool.true_eq_false, if_false, if_true]
      | false => simp only [Bool.false_eq_true, if_false, if_true]
  | succ fuel ih =>
      intro size hle hreached
      have hbelow : measure size ≤ least := by
        rw [← show measure least = least from hleast.1]
        exact hmono hle
      unfold settle
      dsimp only
      split
      · rename_i hunfit
        rw [if_neg]
        intro hfit
        rw [hfits hbelow hfit] at hunfit
        cases hunfit
      · rename_i hfit
        split
        · rename_i hfixed
          have hsize : size = least := Nat.le_antisymm hle (hleast.2 hfixed)
          have hfit' : fits (measure size) = true := Bool.eq_true_of_not_eq_false hfit
          rw [hfixed] at hfit'
          rw [← hsize, if_pos hfit']
        · exact ih hbelow (by rw [← Function.iterate_succ_apply]; exact hreached)

/-! ## Digits -/

theorem length_decimalText (n : Nat) : (decimalText n).length = (Nat.toDigits 10 n).length := by
  rw [decimalText_eq_map, List.length_map]

/-- As many digits suffice for what is below their power of ten. -/
theorem length_decimalText_le_iff {n k : Nat} (h : 0 < k) :
    (decimalText n).length ≤ k ↔ n < 10 ^ k := by
  rw [length_decimalText]
  exact Nat.length_toDigits_le_iff (by decide) h

theorem length_decimalText_pos (n : Nat) : 0 < (decimalText n).length := by
  rw [length_decimalText]
  exact Nat.length_toDigits_pos

theorem length_decimalText_mono {n m : Nat} (h : n ≤ m) :
    (decimalText n).length ≤ (decimalText m).length := by
  rw [length_decimalText_le_iff (length_decimalText_pos m)]
  exact Nat.lt_of_le_of_lt h ((length_decimalText_le_iff (length_decimalText_pos m)).mp le_rfl)

/-! ## The size of a document with a size field -/

/-- What a document measures that writes a size beside other text. -/
def sizeWith (others size : Nat) : Nat := others + (decimalText size).length

theorem sizeWith_mono (others : Nat) : Monotone (sizeWith others) :=
  fun _ _ h => Nat.add_le_add_left (length_decimalText_mono h) others

/-- After three repetitions nothing changes. -/
theorem sizeWith_settles (others : Nat) :
    sizeWith others ((sizeWith others)^[3] 0) = (sizeWith others)^[3] 0 := by
  have hzero : (decimalText 0).length = 1 := by decide
  change sizeWith others (sizeWith others (sizeWith others (others + (decimalText 0).length))) =
    sizeWith others (sizeWith others (others + (decimalText 0).length))
  rw [hzero]
  obtain ⟨digits, hdigits⟩ : ∃ digits, (decimalText (others + 1)).length = digits := ⟨_, rfl⟩
  have hpos : 0 < digits := hdigits ▸ length_decimalText_pos _
  have hsecond : sizeWith others (others + 1) = others + digits := congrArg (others + ·) hdigits
  have hlt : others + 1 < 10 ^ digits := (length_decimalText_le_iff hpos).mp (Nat.le_of_eq hdigits)
  -- the digits of the size cross one power of ten at most
  have hcross : others + 1 + digits < 10 ^ (digits + 1) := by
    have hself : digits < 10 ^ digits := Nat.lt_pow_self (by decide)
    rw [Nat.pow_succ]
    omega
  have hatLeast : digits ≤ (decimalText (others + digits)).length := by
    have hmono := @length_decimalText_mono (others + 1) (others + digits) (by omega)
    omega
  have hatMost : (decimalText (others + digits)).length ≤ digits + 1 :=
    (length_decimalText_le_iff (by omega)).mpr (by omega)
  rw [hsecond]
  rcases Nat.lt_or_eq_of_le hatLeast with hmore | hsame
  · have hlength : (decimalText (others + digits)).length = digits + 1 := by omega
    have hthird : sizeWith others (others + digits) = others + (digits + 1) :=
      congrArg (others + ·) hlength
    rw [hthird]
    have hupper : (decimalText (others + (digits + 1))).length ≤ digits + 1 :=
      (length_decimalText_le_iff (by omega)).mpr (by omega)
    have hlower := @length_decimalText_mono (others + digits) (others + (digits + 1)) (by omega)
    exact congrArg (others + ·) (by omega)
  · have hthird : sizeWith others (others + digits) = others + digits :=
      congrArg (others + ·) hsame.symm
    rw [hthird, hthird]

/-- The size of a document is found within four measures. -/
theorem settle_sizeWith (others : Nat) {fits : Nat → Bool}
    (hfits : ∀ {a b}, a ≤ b → fits b = true → fits a = true) (spare : Nat) :
    ∃ size, IsLeast {size | sizeWith others size = size} size ∧
      settle (sizeWith others) fits (4 + spare) 0 =
        if fits size = true then some size else none := by
  have hfixed := sizeWith_settles others
  have hleast := isLeast_iterate (sizeWith_mono others) hfixed
  refine ⟨_, hleast, ?_⟩
  have hreached : (sizeWith others)^[3 + spare] 0 = (sizeWith others)^[3] 0 := by
    rw [Nat.add_comm, Function.iterate_add_apply]
    exact Function.iterate_fixed hfixed spare
  rw [show 4 + spare = 3 + spare + 1 by omega]
  exact settle_eq (sizeWith_mono others) hfits hleast (Nat.zero_le _) hreached

/-! ## Bytes before ASCII -/

theorem utf8ByteLength_ascii {s : JsString} (h : isAscii s = true) :
    utf8ByteLength s = s.length := by
  induction s with
  | nil => rfl
  | cons u rest ih =>
      obtain ⟨hu, hrest⟩ := isAscii_cons.mp h
      have hunit : unitUtf8Bytes u = 1 := if_pos hu
      cases rest with
      | nil => exact hunit
      | cons v rest =>
          rw [utf8ByteLength, not_isHighSurrogate hu, Bool.false_and, if_neg Bool.false_ne_true,
            hunit, ih hrest, Nat.add_comm]
          rfl

theorem not_isLowSurrogate {u : UInt16} (h : u ≤ 0x7F) : isLowSurrogate u = false := by
  have hle : u.toNat ≤ 0x7F := UInt16.le_iff_toNat_le.mp h
  have hnot : ¬ (0xDC00 : UInt16) ≤ u := by
    intro hge
    have hnat := UInt16.le_iff_toNat_le.mp hge
    have hval : (0xDC00 : UInt16).toNat = 0xDC00 := rfl
    omega
  simp [isLowSurrogate, hnot]

/-- No surrogate pair is made where ASCII follows. -/
theorem utf8ByteLength_append_ascii (s : JsString) {t : JsString} (h : isAscii t = true) :
    utf8ByteLength (s ++ t) = utf8ByteLength s + t.length := by
  induction s using utf8ByteLength.induct with
  | case1 => rw [List.nil_append, utf8ByteLength_ascii h, utf8ByteLength, Nat.zero_add]
  | case2 u =>
      cases t with
      | nil => rfl
      | cons v rest =>
          have hv := (isAscii_cons.mp h).1
          have hcons : utf8ByteLength (u :: v :: rest) =
              unitUtf8Bytes u + utf8ByteLength (v :: rest) := by
            rw [utf8ByteLength, not_isLowSurrogate hv, Bool.and_false, if_neg Bool.false_ne_true]
          rw [List.singleton_append, hcons, utf8ByteLength_ascii h]
          rfl
  | case3 u v rest hpair ih =>
      rw [List.cons_append, List.cons_append, utf8ByteLength, if_pos hpair, ih, utf8ByteLength,
        if_pos hpair, Nat.add_assoc]
  | case4 u v rest hpair ih =>
      rw [List.cons_append, List.cons_append, utf8ByteLength, if_neg hpair, ← List.cons_append, ih,
        utf8ByteLength, if_neg hpair, Nat.add_assoc]

/-- The last text of a list that is joined. -/
theorem intercalate_append_singleton {α : Type} {separator : List α} {texts : List (List α)}
    (h : texts ≠ []) (last : List α) :
    separator.intercalate (texts ++ [last]) = separator.intercalate texts ++ separator ++ last := by
  induction texts with
  | nil => exact absurd rfl h
  | cons first rest ih =>
      cases rest with
      | nil => rw [List.singleton_append, List.intercalate_cons_cons, List.intercalate_singleton,
          List.intercalate_singleton]
      | cons second rest =>
          rw [List.cons_append, List.cons_append, List.intercalate_cons_cons, ← List.cons_append,
            ih (List.cons_ne_nil _ _), List.intercalate_cons_cons]
          simp only [List.append_assoc]

end PatchPilot.Foundation
