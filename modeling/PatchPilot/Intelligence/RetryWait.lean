import PatchPilot.Foundation.Binary64

set_option autoImplicit false

/-!
# Intelligence: how long a retry waits (`intelligenceRetryWaitDelayMs`)

The wait is doubled with every attempt that was made, and cut at a ceiling after each doubling.
The numbers are doubles.  An attempt is the count of a column of 32 bits, so the index of the
loop is exact.
-/

namespace PatchPilot.Intelligence

open PatchPilot.Foundation

/-- `IntelligenceRetryWaitBounds`. -/
structure IntelligenceRetryWaitBounds where
  floorMs : JsNumber
  ceilingMs : JsNumber
  deriving DecidableEq

/-- What one turn of the loop makes of the delay. -/
def doubledDelay (bounds : IntelligenceRetryWaitBounds) (delay : JsNumber) : JsNumber :=
  if delay.double.greaterThan bounds.ceilingMs then bounds.ceilingMs else delay.double

/-- The loop, with as many turns as are left.  It is left early when the delay is not safe. -/
def doubledDelays (bounds : IntelligenceRetryWaitBounds) :
    Nat → JsNumber → Except JsNumber JsNumber
  | 0, delay => .ok delay
  | turns + 1, delay =>
      if (doubledDelay bounds delay).isSafeInteger = false then .error bounds.ceilingMs
      else doubledDelays bounds turns (doubledDelay bounds delay)

/-- `intelligenceRetryWaitDelayMs`. -/
def intelligenceRetryWaitDelayMs (executionAttempt : Nat) (bounds : IntelligenceRetryWaitBounds) :
    JsNumber :=
  match doubledDelays bounds (executionAttempt - 1) bounds.floorMs with
  | .error early => early
  | .ok delay =>
      if bounds.floorMs.greaterThan delay then bounds.floorMs
      else if delay.greaterThan bounds.ceilingMs then bounds.ceilingMs
      else delay

/-! ## Bounds that are safe integers -/

/-- The wait before the attempt after so many turns. -/
def cutPower (floorMs ceilingMs : Int) (turns : Nat) : Int := min ceilingMs (floorMs * 2 ^ turns)

section

variable {floorMs ceilingMs : Int}

theorem cutPower_zero (hle : floorMs ≤ ceilingMs) : cutPower floorMs ceilingMs 0 = floorMs := by
  unfold cutPower
  rw [pow_zero, mul_one, min_eq_right hle]

/-- A wait that was cut stays cut. -/
theorem cutPower_succ (hpos : 0 < floorMs) (hle : floorMs ≤ ceilingMs) (turns : Nat) :
    cutPower floorMs ceilingMs (turns + 1) =
      min ceilingMs (cutPower floorMs ceilingMs turns * 2) := by
  have hpower : 0 < floorMs * 2 ^ turns := mul_pos hpos (by positivity)
  unfold cutPower
  rw [pow_succ, ← mul_assoc]
  omega

theorem cutPower_mono (hpos : 0 < floorMs) {turns turns' : Nat} (h : turns ≤ turns') :
    cutPower floorMs ceilingMs turns ≤ cutPower floorMs ceilingMs turns' := by
  unfold cutPower
  refine min_le_min_left _ (mul_le_mul_of_nonneg_left ?_ hpos.le)
  exact pow_le_pow_right₀ (by norm_num) h

theorem cutPower_bounds (hpos : 0 < floorMs) (hle : floorMs ≤ ceilingMs) (turns : Nat) :
    floorMs ≤ cutPower floorMs ceilingMs turns ∧ cutPower floorMs ceilingMs turns ≤ ceilingMs := by
  refine ⟨?_, min_le_left _ _⟩
  have hmono : cutPower floorMs ceilingMs 0 ≤ cutPower floorMs ceilingMs turns :=
    cutPower_mono hpos (Nat.zero_le turns)
  rwa [cutPower_zero hle] at hmono

/-- One turn of the loop is exact: the double of a safe integer is one, and is cut when it is
above the ceiling. -/
theorem doubledDelay_eq {delay : Int} (hpos : 0 < delay) (hdelay : delay ≤ ceilingMs)
    (hsafe : ceilingMs ≤ 2 ^ 53 - 1) :
    doubledDelay ⟨.finite floorMs, .finite ceilingMs⟩ (.finite delay) =
      .finite ((min ceilingMs (delay * 2) : Int) : Rat) := by
  have hsmall : |delay| < 2 ^ 53 := by
    rw [abs_of_pos hpos]
    omega
  unfold doubledDelay
  rw [JsNumber.double_intCast hsmall, JsNumber.greaterThan_intCast]
  by_cases habove : ceilingMs < delay * 2
  · rw [if_pos (decide_eq_true habove), min_eq_left habove.le]
  · rw [if_neg (by simpa using habove), min_eq_right (not_lt.mp habove)]

/-- The loop is not left early: its delay stays within the ceiling. -/
theorem doubledDelays_eq (hpos : 0 < floorMs) (hle : floorMs ≤ ceilingMs)
    (hsafe : ceilingMs ≤ 2 ^ 53 - 1) :
    ∀ turns made : Nat, doubledDelays ⟨.finite floorMs, .finite ceilingMs⟩ turns
        (.finite (cutPower floorMs ceilingMs made)) =
      .ok (.finite (cutPower floorMs ceilingMs (made + turns))) := by
  intro turns
  induction turns with
  | zero => exact fun made => rfl
  | succ turns ih =>
      intro made
      obtain ⟨hfloor, hceiling⟩ := cutPower_bounds hpos hle made
      obtain ⟨hfloor', hceiling'⟩ := cutPower_bounds hpos hle (made + 1)
      have hturn : doubledDelay ⟨.finite floorMs, .finite ceilingMs⟩
          (.finite (cutPower floorMs ceilingMs made)) =
            .finite (cutPower floorMs ceilingMs (made + 1)) := by
        rw [doubledDelay_eq (by omega) hceiling hsafe, cutPower_succ hpos hle]
      have hstays : JsNumber.isSafeInteger (.finite (cutPower floorMs ceilingMs (made + 1))) =
          true := by
        rw [JsNumber.isSafeInteger_intCast, abs_of_pos (by omega)]
        exact decide_eq_true (by omega)
      unfold doubledDelays
      rw [hturn, if_neg (by rw [hstays]; decide), ih (made + 1), Nat.add_right_comm made 1 turns,
        Nat.add_assoc]

theorem intelligenceRetryWaitDelayMs_finite (hpos : 0 < floorMs) (hle : floorMs ≤ ceilingMs)
    (hsafe : ceilingMs ≤ 2 ^ 53 - 1) (executionAttempt : Nat) :
    intelligenceRetryWaitDelayMs executionAttempt ⟨.finite floorMs, .finite ceilingMs⟩ =
      .finite (cutPower floorMs ceilingMs (executionAttempt - 1)) := by
  obtain ⟨hfloor, hceiling⟩ := cutPower_bounds hpos hle (executionAttempt - 1)
  have hloop := doubledDelays_eq hpos hle hsafe (executionAttempt - 1) 0
  rw [cutPower_zero hle, Nat.zero_add] at hloop
  unfold intelligenceRetryWaitDelayMs
  rw [hloop]
  dsimp only
  rw [JsNumber.greaterThan_intCast, JsNumber.greaterThan_intCast,
    if_neg (by simpa using hfloor), if_neg (by simpa using hceiling)]

/-- The wait before attempt `n` is the floor doubled `n - 1` times and cut at the ceiling, as an
integer that was never rounded.  So it never shrinks, and it stays within its bounds. -/
theorem intelligenceRetryWaitDelayMs_spec (hpos : 0 < floorMs) (hle : floorMs ≤ ceilingMs)
    (hsafe : ceilingMs ≤ 2 ^ 53 - 1) :
    (∀ n : Nat, 1 ≤ n → intelligenceRetryWaitDelayMs n ⟨.finite floorMs, .finite ceilingMs⟩ =
      .finite ((min ceilingMs (floorMs * 2 ^ (n - 1)) : Int) : Rat)) ∧
    (∀ n n' : Nat, 1 ≤ n → n ≤ n' → ∃ delay delay' : Int,
      intelligenceRetryWaitDelayMs n ⟨.finite floorMs, .finite ceilingMs⟩ = .finite delay ∧
        intelligenceRetryWaitDelayMs n' ⟨.finite floorMs, .finite ceilingMs⟩ = .finite delay' ∧
          delay ≤ delay') ∧
    ∀ n : Nat, 1 ≤ n → ∃ delay : Int,
      intelligenceRetryWaitDelayMs n ⟨.finite floorMs, .finite ceilingMs⟩ = .finite delay ∧
        floorMs ≤ delay ∧ delay ≤ ceilingMs := by
  have hwait := intelligenceRetryWaitDelayMs_finite hpos hle hsafe
  refine ⟨fun n _ => hwait n, fun n n' _ hn => ?_, fun n _ => ?_⟩
  · exact ⟨_, _, hwait n, hwait n', cutPower_mono hpos (Nat.sub_le_sub_right hn 1)⟩
  · exact ⟨_, hwait n, cutPower_bounds hpos hle (n - 1)⟩

theorem intelligenceRetryWaitDelayMs_spec_sample :
    intelligenceRetryWaitDelayMs 2 ⟨.finite (30000 : Int), .finite (300000 : Int)⟩ =
      .finite ((60000 : Int) : Rat) :=
  ((@intelligenceRetryWaitDelayMs_spec 30000 300000 (by decide) (by decide) (by decide)).1 2
    (by decide)).trans (by decide)

end

end PatchPilot.Intelligence
