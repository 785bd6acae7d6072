/-
  Foundation/Binary64.lean --- the double that a decimal numeral denotes.

  A numeral of a source program or of a document is an exact rational, and the number
  it denotes is the nearest double.  Two numerals may denote one number.  What a program
  that compares the numbers relies on is that this does not happen to the numerals it
  reads: numerals that are far enough apart for their size are never brought together
  and never exchanged.
-/
import Mathlib.Data.Int.Log
import Mathlib.Data.Rat.Floor
import Mathlib.Tactic.Linarith
import Mathlib.Tactic.NormNum
import Mathlib.Tactic.Positivity
import PatchPilot.Foundation.JsValue

set_option autoImplicit false

namespace PatchPilot.Foundation

/-! ## Rounding -/

/-- The nearest integer, and the even one of two. -/
def roundHalfEven (x : Rat) : Int :=
  if x - ⌊x⌋ < 1 / 2 then ⌊x⌋
  else if 1 / 2 < x - ⌊x⌋ then ⌊x⌋ + 1
  else ⌊x⌋ + ⌊x⌋ % 2

/-- The distance of neighbouring doubles at a magnitude: a significand has 53 bits, and
the smallest exponent is `-1074`. -/
def doubleUlp (x : Rat) : Rat := 2 ^ (max (Int.log 2 |x| - 52) (-1074) : Int)

/-- The nearest double, when the exponent is not bounded above. -/
def nearestDouble (x : Rat) : Rat := roundHalfEven (x / doubleUlp x) * doubleUlp x

/-- The number a rational denotes. -/
def binary64 (x : Rat) : JsNumber :=
  if 2 ^ 1024 ≤ |nearestDouble x| then .infinity (decide (x < 0))
  else .finite (nearestDouble x)

/-! ## The error of rounding -/

theorem abs_roundHalfEven_sub_le (x : Rat) : |(roundHalfEven x : Rat) - x| ≤ 1 / 2 := by
  have hlow := Int.floor_le x
  have hhigh := Int.lt_floor_add_one x
  have hparity : ⌊x⌋ % 2 = 0 ∨ ⌊x⌋ % 2 = 1 := Int.emod_two_eq_zero_or_one ⌊x⌋
  unfold roundHalfEven
  split
  · rw [abs_le]
    constructor <;> linarith
  · split
    · push_cast
      rw [abs_le]
      constructor <;> linarith
    · rcases hparity with heven | hodd
      · rw [heven, add_zero, abs_le]
        constructor <;> linarith
      · rw [hodd, abs_le]
        push_cast
        constructor <;> linarith

theorem doubleUlp_pos (x : Rat) : 0 < doubleUlp x := by
  unfold doubleUlp
  exact zpow_pos (by norm_num) _

/-- Rounding moves a number by at most half the distance of its neighbours. -/
theorem abs_nearestDouble_sub_le (x : Rat) : |nearestDouble x - x| ≤ doubleUlp x / 2 := by
  have hpos := doubleUlp_pos x
  have hscale : nearestDouble x - x =
      (roundHalfEven (x / doubleUlp x) - x / doubleUlp x) * doubleUlp x := by
    rw [nearestDouble, sub_mul, div_mul_cancel₀ x hpos.ne']
  rw [hscale, abs_mul, abs_of_pos hpos]
  have hround := abs_roundHalfEven_sub_le (x / doubleUlp x)
  calc |(roundHalfEven (x / doubleUlp x) : Rat) - x / doubleUlp x| * doubleUlp x
      ≤ 1 / 2 * doubleUlp x := mul_le_mul_of_nonneg_right hround hpos.le
    _ = doubleUlp x / 2 := by ring

/-- Below a power of two the neighbours are close. -/
theorem doubleUlp_le {x : Rat} {k : Nat} (hk : 0 < k) (h : |x| < 2 ^ k) :
    doubleUlp x ≤ 2 ^ ((k : Int) - 53) := by
  unfold doubleUlp
  refine zpow_le_zpow_right₀ (by norm_num) ?_
  by_cases hx : x = 0
  · rw [hx, abs_zero, Int.log_zero_right]
    omega
  · have hlog : Int.log 2 |x| < k := by
      refine (Int.lt_zpow_iff_log_lt (by norm_num) (abs_pos.mpr hx)).mp ?_
      rw [zpow_natCast]
      exact_mod_cast h
    omega

/-! ## The order of numerals -/

/-- Numerals that are further apart than the neighbours at their magnitude keep their
order. -/
theorem nearestDouble_lt {x y : Rat} {k : Nat} (hk : 0 < k) (hx : |x| < 2 ^ k) (hy : |y| < 2 ^ k)
    (h : x + 2 ^ ((k : Int) - 53) < y) : nearestDouble x < nearestDouble y := by
  have hx' := abs_le.mp ((abs_nearestDouble_sub_le x).trans
    (div_le_div_of_nonneg_right (doubleUlp_le hk hx) (by norm_num)))
  have hy' := abs_le.mp ((abs_nearestDouble_sub_le y).trans
    (div_le_div_of_nonneg_right (doubleUlp_le hk hy) (by norm_num)))
  linarith [hx'.2, hy'.1]

/-- A number that is not large is finite. -/
theorem binary64_eq_finite {x : Rat} {k : Nat} (hk : 0 < k) (hx : |x| < 2 ^ k)
    (hlimit : k ≤ 1023) :
    binary64 x = .finite (nearestDouble x) := by
  have hulp : doubleUlp x ≤ 2 ^ k := by
    refine (doubleUlp_le hk hx).trans ?_
    rw [← zpow_natCast]
    exact zpow_le_zpow_right₀ (by norm_num) (by omega)
  have herror := abs_nearestDouble_sub_le x
  have hpos := doubleUlp_pos x
  have hbound : |nearestDouble x| < 2 ^ (k + 1) := by
    have htriangle : |nearestDouble x| ≤ |nearestDouble x - x| + |x| := by
      simpa using abs_add_le (nearestDouble x - x) x
    rw [pow_succ]
    linarith
  have hmax : (2 : Rat) ^ (k + 1) ≤ 2 ^ 1024 :=
    pow_le_pow_right₀ (by norm_num) (by omega)
  rw [binary64, if_neg (not_le.mpr (hbound.trans_le hmax))]

/-- Numerals of fifteen digits, six of them after the point, keep their order. -/
theorem nearestDouble_millionths_lt {a b : Nat} (h : a < b) (hb : b < 10 ^ 15) :
    nearestDouble (a / 10 ^ 6) < nearestDouble (b / 10 ^ 6) := by
  have hbound : ∀ n : Nat, n < 10 ^ 15 → |(n : Rat) / 10 ^ 6| < 2 ^ 30 := by
    intro n hn
    have hcast : (n : Rat) < 10 ^ 15 := by exact_mod_cast hn
    rw [abs_of_nonneg (by positivity), div_lt_iff₀ (by norm_num)]
    exact hcast.trans (by norm_num)
  have hstep : (a : Rat) + 1 ≤ b := by exact_mod_cast h
  refine nearestDouble_lt (by norm_num) (hbound a (h.trans hb)) (hbound b hb) ?_
  norm_num
  linarith

/-! ## Doubles that are not rounded -/

theorem roundHalfEven_intCast (n : Int) : roundHalfEven n = n := by
  unfold roundHalfEven
  rw [Int.floor_intCast, sub_self, if_pos (by norm_num)]

/-- A significand of 53 bits is a multiple of the distance of the neighbours. -/
theorem exists_ulps {m e : Int} (hm : |m| < 2 ^ 53) (he : -1074 ≤ e) (hne : m ≠ 0) :
    ∃ n : Int, (m : Rat) * 2 ^ e = n * doubleUlp (m * 2 ^ e) := by
  have hpos : (0 : Rat) < |(m : Rat) * 2 ^ e| :=
    abs_pos.mpr (mul_ne_zero (Int.cast_ne_zero.mpr hne) (zpow_pos (by norm_num) _).ne')
  have hsmall : |(m : Rat) * 2 ^ e| < 2 ^ (53 + e) := by
    have hcast : |(m : Rat)| < 2 ^ (53 : Int) := by exact_mod_cast hm
    rw [abs_mul, abs_of_pos (zpow_pos (by norm_num : (0 : Rat) < 2) e),
      zpow_add₀ (by norm_num)]
    exact mul_lt_mul_of_pos_right hcast (zpow_pos (by norm_num) _)
  have hlog : Int.log 2 |(m : Rat) * 2 ^ e| < 53 + e :=
    (Int.lt_zpow_iff_log_lt (by norm_num) hpos).mp hsmall
  unfold doubleUlp
  generalize hu : max (Int.log 2 |(m : Rat) * 2 ^ e| - 52) (-1074) = u
  have hle : u ≤ e := by omega
  refine ⟨m * 2 ^ (e - u).toNat, ?_⟩
  have hexponent : e = ((e - u).toNat : Int) + u := by omega
  calc (m : Rat) * 2 ^ e = m * 2 ^ (((e - u).toNat : Int) + u) := by rw [← hexponent]
    _ = m * (2 ^ ((e - u).toNat : Int) * 2 ^ u) := by rw [zpow_add₀ (by norm_num)]
    _ = ((m * 2 ^ (e - u).toNat : Int) : Rat) * 2 ^ u := by
      push_cast
      rw [zpow_natCast]
      ring

/-- A significand of 53 bits and an exponent that is not too small make a double. -/
theorem nearestDouble_eq_self {m e : Int} (hm : |m| < 2 ^ 53) (he : -1074 ≤ e) :
    nearestDouble (m * 2 ^ e) = m * 2 ^ e := by
  unfold nearestDouble
  by_cases hzero : m = 0
  · rw [hzero, Int.cast_zero, zero_mul, zero_div, show (0 : Rat) = ((0 : Int) : Rat) from rfl,
      roundHalfEven_intCast, Int.cast_zero, zero_mul]
  · obtain ⟨n, hn⟩ := exists_ulps hm he hzero
    have hdivided : (m : Rat) * 2 ^ e / doubleUlp (m * 2 ^ e) = n := by
      rw [div_eq_iff (doubleUlp_pos _).ne']
      exact hn
    rw [hdivided, roundHalfEven_intCast, ← hn]

/-! ## Arithmetic and comparison -/

namespace JsNumber

/-- `x * 2`. -/
def double : JsNumber → JsNumber
  | .finite a => binary64 (a * 2)
  | other => other

/-- `Number.isSafeInteger`. -/
def isSafeInteger : JsNumber → Bool
  | .finite a => decide (a.den = 1) && decide (|a.num| ≤ 2 ^ 53 - 1)
  | _ => false

/-- `===`.  No number is equal to `NaN`. -/
def strictEquals : JsNumber → JsNumber → Bool
  | .finite a, .finite b => decide (a = b)
  | .infinity a, .infinity b => a == b
  | _, _ => false

/-- `>`. -/
def greaterThan : JsNumber → JsNumber → Bool
  | .finite a, .finite b => decide (b < a)
  | .infinity a, .infinity b => !a && b
  | .infinity a, .finite _ => !a
  | .finite _, .infinity b => b
  | _, _ => false

/-- A safe integer is doubled without rounding. -/
theorem double_intCast {n : Int} (h : |n| < 2 ^ 53) :
    double (.finite n) = .finite ((n * 2 : Int) : Rat) := by
  have hexact : nearestDouble ((n : Rat) * 2) = n * 2 := by
    have hself := nearestDouble_eq_self (e := 1) h (by norm_num)
    rwa [zpow_one] at hself
  have hsmall : |(n : Rat) * 2| < 2 ^ 54 := by
    have hcast : |(n : Rat)| < 2 ^ 53 := by exact_mod_cast h
    rw [abs_mul, abs_of_pos (by norm_num : (0 : Rat) < 2)]
    linarith
  change binary64 ((n : Rat) * 2) = _
  rw [binary64_eq_finite (by norm_num) hsmall (by norm_num), hexact]
  push_cast
  rfl

theorem isSafeInteger_intCast (n : Int) :
    isSafeInteger (.finite n) = decide (|n| ≤ 2 ^ 53 - 1) := by
  change (decide ((n : Rat).den = 1) && decide (|(n : Rat).num| ≤ 2 ^ 53 - 1)) = _
  rw [Rat.den_intCast, Rat.num_intCast, decide_eq_true rfl, Bool.true_and]

theorem greaterThan_intCast (n n' : Int) :
    greaterThan (.finite n) (.finite n') = decide (n' < n) := by
  unfold greaterThan
  exact decide_eq_decide.mpr Int.cast_lt

end JsNumber

end PatchPilot.Foundation
