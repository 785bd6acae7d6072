/-
  Foundation/NumberText.lean --- texts of numbers that are read as the numbers.

  The digits of an integer are read as the integer, and behind them an exponent is read as
  a power of ten.  A double is an integer divided by a power of two, so it has an exact
  decimal numeral; of all the numerals that are rounded to a double this is one.
-/
import Mathlib.Data.Nat.Log
import Mathlib.Data.Nat.Prime.Basic
import Mathlib.Data.Rat.Lemmas
import Mathlib.Tactic.FieldSimp
import PatchPilot.Foundation.JsonWriting

set_option autoImplicit false

namespace PatchPilot.Foundation

/-! ## Integers -/

/-- The digits of a positive number do not begin with zero. -/
theorem head?_decimalText {n : Nat} (h : 0 < n) : (decimalText n).head? ≠ some (unit '0') := by
  have hchar : ∀ n : Nat, 0 < n → (Nat.toDigits 10 n).head? ≠ some '0' := by
    intro n
    induction n using Nat.strong_induction_on with
    | _ n ih =>
        intro hpos
        rcases Nat.lt_or_ge n 10 with hlt | hge
        · have hall : ∀ n : Fin 10, 0 < n.val → n.val.digitChar ≠ '0' := by decide
          rw [Nat.toDigits_of_lt_base hlt, List.head?_cons]
          exact fun heq => hall ⟨n, hlt⟩ hpos (Option.some.inj heq)
        · rw [Nat.toDigits_of_base_le (by decide) hge, List.head?_append_of_ne_nil]
          · exact ih (n / 10) (by omega) (by omega)
          · exact Nat.toDigits_ne_nil
  rw [decimalText_eq_map, List.head?_map]
  intro heq
  obtain ⟨c, hc, hunit⟩ := Option.map_eq_some_iff.mp heq
  have hmem := List.mem_of_mem_head? hc
  have hbound := toNat_of_mem_toDigits hmem
  have hnat := congrArg UInt16.toNat hunit
  have hzero : (unit '0').toNat = 48 := by decide
  have hsize : c.toNat.toUInt16.toNat = c.toNat := Nat.mod_eq_of_lt (by omega)
  rw [hsize, hzero] at hnat
  have hc0 : c = '0' := Char.toNat_inj.mp hnat
  exact hchar n h (hc0 ▸ hc)

theorem decimalText_ne_nil (n : Nat) : decimalText n ≠ [] := by
  rw [decimalText_eq_map]
  exact fun h => Nat.toDigits_ne_nil (List.map_eq_nil_iff.mp h)

/-- The digits of a number begin with zero only when it is the only one. -/
theorem decimalText_plain (n : Nat) :
    ¬ (decimalText n = [] ∨
      (decimalText n).length > 1 ∧ (decimalText n).head? = some (unit '0')) := by
  rintro (hnil | ⟨hlength, hhead⟩)
  · exact decimalText_ne_nil n hnil
  · rcases Nat.eq_zero_or_pos n with rfl | hpos
    · exact absurd hlength (by decide)
    · exact head?_decimalText hpos hhead

/-- What does not begin with a digit ends a run of digits. -/
theorem digits_before (n : Nat) {suffix : JsString}
    (hsuffix : ∀ u ∈ suffix.head?, isDigit u = false) :
    (decimalText n ++ suffix).takeWhile isDigit = decimalText n ∧
      (decimalText n ++ suffix).dropWhile isDigit = suffix := by
  have hdigits : ∀ u ∈ decimalText n, isDigit u = true := fun u => isDigit_of_mem_decimalText
  have hnone : suffix.takeWhile isDigit = [] ∧ suffix.dropWhile isDigit = suffix := by
    cases suffix with
    | nil => exact ⟨rfl, rfl⟩
    | cons u suffix =>
        have hu := hsuffix u rfl
        exact ⟨List.takeWhile_cons_of_neg (by rw [hu]; exact Bool.false_ne_true),
          List.dropWhile_cons_of_neg (by rw [hu]; exact Bool.false_ne_true)⟩
  refine ⟨?_, ?_⟩
  · rw [List.takeWhile_append_of_pos hdigits, hnone.1, List.append_nil]
  · rw [List.dropWhile_append_of_pos hdigits, hnone.2]

/-- An integer and its exponent are read as their number. -/
theorem parseNumber_integer (n : Int) {suffix rest : JsString} {exponent : Int}
    (hsuffix : ∀ u ∈ suffix.head?, isDigit u = false)
    (hfraction : parseFraction suffix = some ([], suffix))
    (hexponent : parseExponent suffix = some (exponent, rest)) :
    parseNumber (integerText n ++ suffix) = some (binary64 (n * 10 ^ exponent), rest) := by
  obtain ⟨htake, hdrop⟩ := digits_before n.natAbs hsuffix
  unfold integerText
  by_cases hneg : n < 0
  · have habs : ((n.natAbs : Nat) : Rat) = -(n : Rat) := by
      have hint : ((n.natAbs : Nat) : Int) = -n := by omega
      rw [← Int.cast_natCast, hint, Int.cast_neg]
    rw [if_pos hneg, List.cons_append, parseNumber]
    simp only [expectUnit_self, Option.isSome_some, Option.getD_some, htake, hdrop,
      if_neg (decimalText_plain n.natAbs), hfraction, hexponent, Option.bind_eq_bind,
      Option.bind_some, List.append_nil, digitsValue_decimalText, List.length_nil, Nat.cast_zero,
      sub_zero, if_true, habs, neg_mul, neg_neg]
  · have habs : ((n.natAbs : Nat) : Rat) = (n : Rat) := by
      have hint : ((n.natAbs : Nat) : Int) = n := by omega
      rw [← Int.cast_natCast, hint]
    have hminus : expectUnit (unit '-') (decimalText n.natAbs ++ suffix) = none := by
      cases hdigits : decimalText n.natAbs with
      | nil => exact absurd hdigits (decimalText_ne_nil _)
      | cons u digits =>
          have hu : isDigit u = true :=
            isDigit_of_mem_decimalText (hdigits ▸ List.mem_cons_self)
          refine expectUnit_ne _ ?_
          rintro rfl
          exact absurd hu (by decide)
    rw [if_neg hneg, parseNumber]
    simp only [hminus, Option.isSome_none, Option.getD_none, htake, hdrop,
      if_neg (decimalText_plain n.natAbs), hfraction, hexponent, Option.bind_eq_bind,
      Option.bind_some, List.append_nil, digitsValue_decimalText, List.length_nil, Nat.cast_zero,
      sub_zero, Bool.false_eq_true, if_false, habs]

/-- What stands behind a value is no part of a number. -/
theorem EndsValue.behind {rest : JsString} (h : EndsValue rest) :
    (∀ u ∈ rest.head?, isDigit u = false) ∧ parseFraction rest = some ([], rest) ∧
      parseExponent rest = some (0, rest) := by
  rcases h with rfl | ⟨tail, rfl | rfl | rfl⟩
  · exact ⟨nofun, rfl, rfl⟩
  all_goals
    refine ⟨fun u hu => ?_, rfl, rfl⟩
    cases hu
    decide

theorem integerText_start (n : Int) :
    ∃ u tail, integerText n = u :: tail ∧ (isDigit u || u = unit '-') = true := by
  unfold integerText
  split
  · exact ⟨_, _, rfl, by decide⟩
  · cases hdigits : decimalText n.natAbs with
    | nil => exact absurd hdigits (decimalText_ne_nil _)
    | cons u digits =>
        have hu : isDigit u = true := isDigit_of_mem_decimalText (hdigits ▸ List.mem_cons_self)
        exact ⟨u, digits, rfl, by rw [hu, Bool.true_or]⟩

/-- A whole number that fits into a significand is a double. -/
theorem isDouble_natCast {n : Nat} (h : n < 2 ^ 53) : IsDouble n := by
  have hsize : |(n : Rat)| < 2 ^ 53 := by
    rw [abs_of_nonneg (Nat.cast_nonneg n)]
    exact_mod_cast h
  have hulp : ∃ k : Nat, doubleUlp (n : Rat) = (2 ^ k : Rat)⁻¹ := by
    have hle := doubleUlp_le (by decide) hsize
    rw [doubleUlp] at hle ⊢
    have hexponent : max (Int.log 2 |(n : Rat)| - 52) (-1074) ≤ 0 := by
      by_contra hpos
      have hone := one_lt_zpow₀ (show (1 : Rat) < 2 by norm_num) (not_le.mp hpos)
      rw [Nat.cast_ofNat, sub_self, zpow_zero] at hle
      exact absurd hle (not_le.mpr hone)
    refine ⟨(-max (Int.log 2 |(n : Rat)| - 52) (-1074)).toNat, ?_⟩
    rw [← zpow_natCast, Int.toNat_of_nonneg (by omega), zpow_neg, inv_inv]
  obtain ⟨k, hk⟩ := hulp
  have hwhole : (n : Rat) / doubleUlp n = ((n * 2 ^ k : Int) : Rat) := by
    rw [hk, div_inv_eq_mul]
    push_cast
    rfl
  have hround : roundHalfEven ((n * 2 ^ k : Int) : Rat) = n * 2 ^ k := by
    rw [roundHalfEven, Int.floor_intCast, sub_self, if_pos (by norm_num)]
  rw [IsDouble, binary64_eq_finite (by decide) hsize (by decide), nearestDouble, hwhole, hround, hk]
  push_cast
  rw [mul_assoc, mul_inv_cancel₀ (by positivity), mul_one]

/-- The text of an integer that is a double is read as the integer. -/
theorem numberReadsBack_integer {n : Int} (h : IsDouble n) :
    NumberReadsBack (integerText n) n where
  start := integerText_start n
  parse rest hrest := by
    obtain ⟨hdigit, hfraction, hexponent⟩ := hrest.behind
    rw [parseNumber_integer n hdigit hfraction hexponent, zpow_zero, mul_one, h]

/-! ## Doubles -/

/-- The exact numeral of a number whose denominator is a power of two. -/
def exactText (value : Rat) : JsString :=
  if value.den = 1 then integerText value.num
  else
    integerText (value.num * 5 ^ Nat.log2 value.den) ++
      (unit 'e' :: unit '-' :: decimalText (Nat.log2 value.den))

/-- The denominator of a double is a power of two. -/
theorem exists_den_eq {value : Rat} (h : IsDouble value) : ∃ k, value.den = 2 ^ k := by
  have hnearest : value = nearestDouble value := by
    unfold IsDouble binary64 at h
    split at h
    · cases h
    · exact (JsNumber.finite.inj h).symm
  unfold nearestDouble doubleUlp at hnearest
  generalize roundHalfEven _ = significand at hnearest
  generalize max (Int.log 2 |value| - 52) (-1074) = exponent at hnearest
  have hdvd : ∃ n, value.den ∣ 2 ^ n := by
    obtain ⟨n, rfl | rfl⟩ := exponent.eq_nat_or_neg
    · have hint : value = ((significand * 2 ^ n : Int) : Rat) := by
        rw [hnearest, zpow_natCast]
        push_cast
        rfl
      refine ⟨n, ?_⟩
      rw [hint, Rat.den_intCast]
      exact one_dvd _
    · have hdiv : value = Rat.divInt significand ((2 ^ n : Nat) : Int) := by
        rw [hnearest, zpow_neg, zpow_natCast, Rat.divInt_eq_div, ← div_eq_mul_inv]
        push_cast
        rfl
      have hden := Rat.den_dvd significand ((2 ^ n : Nat) : Int)
      rw [← hdiv] at hden
      exact ⟨n, Int.natCast_dvd_natCast.mp hden⟩
  obtain ⟨n, hdvd⟩ := hdvd
  obtain ⟨k, -, hk⟩ := (Nat.dvd_prime_pow Nat.prime_two).mp hdvd
  exact ⟨k, hk⟩

/-- Every double is read from its exact numeral. -/
theorem numberReadsBack_exactText {value : Rat} (h : IsDouble value) :
    NumberReadsBack (exactText value) value := by
  unfold exactText
  by_cases hden : value.den = 1
  · have hvalue : ((value.num : Int) : Rat) = value := Rat.coe_int_num_of_den_eq_one hden
    rw [if_pos hden]
    have hread := numberReadsBack_integer (n := value.num) (hvalue.symm ▸ h)
    rw [hvalue] at hread
    exact hread
  · rw [if_neg hden]
    obtain ⟨k, hk⟩ := exists_den_eq h
    have hlog : Nat.log2 value.den = k := by
      rw [hk]
      exact Nat.log2_two_pow
    rw [hlog]
    refine ⟨?_, fun rest hrest => ?_⟩
    · obtain ⟨u, tail, htext, hu⟩ := integerText_start (value.num * 5 ^ k)
      exact ⟨u, _, by rw [htext]; rfl, hu⟩
    · obtain ⟨hdigit, -⟩ := hrest.behind
      obtain ⟨htake, hdrop⟩ := digits_before k hdigit
      have hexponent : parseExponent (unit 'e' :: unit '-' :: (decimalText k ++ rest)) =
          some (-(k : Int), rest) := by
        unfold parseExponent
        simp only [expectUnit_self, Option.some_or, Option.isSome_some, Option.getD_some, htake,
          hdrop, if_neg (decimalText_ne_nil k), digitsValue_decimalText, if_true]
      have hread := parseNumber_integer (value.num * 5 ^ k) (fun u hu => by
          cases hu
          decide) rfl hexponent
      have hnumber : (((value.num * 5 ^ k : Int)) : Rat) * 10 ^ (-(k : Int)) = value := by
        have hsplit : ((value.num * 5 ^ k : Int) : Rat) * 10 ^ (-(k : Int)) =
            value.num / value.den := by
          rw [hk, zpow_neg, zpow_natCast, show (10 : Rat) = 2 * 5 by norm_num, mul_pow]
          push_cast
          field_simp
        rw [hsplit, Rat.num_div_den]
      rw [hnumber, h] at hread
      rw [List.append_assoc]
      exact hread

end PatchPilot.Foundation
