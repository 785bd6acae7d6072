/-
  Foundation/SemverPrecedence.lean --- item 11 of SemVer 2.0.0.

  Precedence compares numbers as numbers.  A numeral without leading zeros need not be
  converted for that: a longer one is larger, and of two of the same length the one with
  the larger first different digit is larger.
-/
import PatchPilot.Foundation.Semver

set_option autoImplicit false

namespace PatchPilot.Foundation.Semver

/-! ## Precedence -/

/-- A prerelease identifier as item 11 compares it. -/
inductive Identifier
  | numeric (value : Nat)
  | alphanumeric (text : JsString)
  deriving DecidableEq

/-- What item 11 compares of a version. -/
structure Version where
  major : Nat
  minor : Nat
  patch : Nat
  prerelease : Option (List Identifier)
  deriving DecidableEq

/-- Numbers are compared numerically, texts in ASCII order, and numbers are lower. -/
def compareIdentifier : Identifier → Identifier → Ordering
  | .numeric a, .numeric b => compare a b
  | .numeric _, .alphanumeric _ => .lt
  | .alphanumeric _, .numeric _ => .gt
  | .alphanumeric a, .alphanumeric b => compareCodeUnits a b

/-- From left to right until a difference is found; of a list and an initial segment of it,
the initial segment is lower. -/
def compareIdentifiers : List Identifier → List Identifier → Ordering
  | [], [] => .eq
  | [], _ :: _ => .lt
  | _ :: _, [] => .gt
  | a :: as, b :: bs => (compareIdentifier a b).then (compareIdentifiers as bs)

/-- A version with a prerelease is lower than the one without. -/
def comparePrereleases : Option (List Identifier) → Option (List Identifier) → Ordering
  | none, none => .eq
  | none, some _ => .gt
  | some _, none => .lt
  | some as, some bs => compareIdentifiers as bs

/-- Major, minor and patch versions numerically, then the prerelease. -/
def precedence (a b : Version) : Ordering :=
  (compare a.major b.major).then ((compare a.minor b.minor).then
    ((compare a.patch b.patch).then (comparePrereleases a.prerelease b.prerelease)))

/-! ## The number of a numeral -/

/-- The number that decimal digits denote. -/
def decimalValue : JsString → Nat
  | [] => 0
  | u :: rest => (u.toNat - 48) * 10 ^ rest.length + decimalValue rest

/-- A prerelease identifier, read. -/
def readIdentifier (s : JsString) : Identifier :=
  if isDecimal s then .numeric (decimalValue s) else .alphanumeric s

theorem toNat_of_isDigit {u : UInt16} (h : isDigit u = true) : 48 ≤ u.toNat ∧ u.toNat ≤ 57 := by
  simp only [isDigit, Bool.and_eq_true, decide_eq_true_eq, UInt16.le_iff_toNat_le] at h
  exact h

theorem decimalValue_lt : ∀ {s : JsString}, (∀ u ∈ s, isDigit u = true) →
    decimalValue s < 10 ^ s.length := by
  intro s
  induction s with
  | nil => exact fun _ => Nat.one_pos
  | cons u rest ih =>
      intro h
      have hrest := ih fun v hv => h v (List.mem_cons_of_mem u hv)
      have hdigit := toNat_of_isDigit (h u List.mem_cons_self)
      have hvalue : u.toNat - 48 ≤ 9 := by omega
      calc (u.toNat - 48) * 10 ^ rest.length + decimalValue rest
          < 9 * 10 ^ rest.length + 10 ^ rest.length :=
            Nat.add_lt_add_of_le_of_lt (Nat.mul_le_mul_right _ hvalue) hrest
        _ = 10 ^ (rest.length + 1) := by
          rw [Nat.pow_succ]
          omega

/-- The first digit of a numeral that is longer than one digit counts. -/
theorem le_decimalValue {u : UInt16} {rest : JsString} (hdigit : isDigit u = true)
    (hzero : u ≠ unit '0') : 10 ^ rest.length ≤ decimalValue (u :: rest) := by
  have hbounds := toNat_of_isDigit hdigit
  have hne : u.toNat ≠ 48 := fun h => hzero (UInt16.toNat_inj.mp h)
  have hvalue : 1 ≤ u.toNat - 48 := by omega
  calc 10 ^ rest.length = 1 * 10 ^ rest.length := (Nat.one_mul _).symm
    _ ≤ (u.toNat - 48) * 10 ^ rest.length := Nat.mul_le_mul_right _ hvalue
    _ ≤ decimalValue (u :: rest) := Nat.le_add_right _ _

/-- The first digit decides, whatever the digits after it are. -/
theorem digit_lt {a b x y p : Nat} (hab : a < b) (hx : x < p) : a * p + x < b * p + y :=
  calc a * p + x < a * p + p := Nat.add_lt_add_left hx _
    _ = (a + 1) * p := (Nat.succ_mul a p).symm
    _ ≤ b * p := Nat.mul_le_mul_right p hab
    _ ≤ b * p + y := Nat.le_add_right _ _

theorem compare_add_left (n a b : Nat) : compare (n + a) (n + b) = compare a b := by
  rcases Nat.lt_trichotomy a b with h | h | h
  · rw [Nat.compare_eq_lt.mpr h, Nat.compare_eq_lt.mpr (Nat.add_lt_add_left h n)]
  · rw [Nat.compare_eq_eq.mpr h, Nat.compare_eq_eq.mpr (congrArg (n + ·) h)]
  · rw [Nat.compare_eq_gt.mpr h, Nat.compare_eq_gt.mpr (Nat.add_lt_add_left h n)]

/-- Numerals of one length are compared digit by digit. -/
theorem compareCodeUnits_eq_compare : ∀ {s t : JsString}, (∀ u ∈ s, isDigit u = true) →
    (∀ u ∈ t, isDigit u = true) → s.length = t.length →
      compareCodeUnits s t = compare (decimalValue s) (decimalValue t) := by
  intro s
  induction s with
  | nil =>
      intro t _ _ hlength
      rw [List.length_eq_zero_iff.mp hlength.symm]
      rfl
  | cons u s ih =>
      intro t hs ht hlength
      cases t with
      | nil => cases hlength
      | cons v t =>
          have hlength : s.length = t.length := Nat.succ.inj hlength
          have hs' : ∀ w ∈ s, isDigit w = true := fun w hw => hs w (List.mem_cons_of_mem u hw)
          have ht' : ∀ w ∈ t, isDigit w = true := fun w hw => ht w (List.mem_cons_of_mem v hw)
          have hrest := ih hs' ht' hlength
          have hsmall := decimalValue_lt hs'
          have hsmall' := decimalValue_lt ht'
          have hu := toNat_of_isDigit (hs u List.mem_cons_self)
          have hv := toNat_of_isDigit (ht v List.mem_cons_self)
          change List.compareLex compare (u :: s) (v :: t) = _
          rw [List.compareLex_cons_cons]
          rcases Nat.lt_trichotomy u.toNat v.toNat with hlt | heq | hgt
          · have hcmp : compare u v = .lt := if_pos (UInt16.lt_iff_toNat_lt.mpr hlt)
            rw [hcmp]
            refine (Nat.compare_eq_lt.mpr ?_).symm
            unfold decimalValue
            rw [← hlength]
            exact digit_lt (by omega) hsmall
          · rw [UInt16.toNat_inj.mp heq, @Std.ReflCmp.compare_self UInt16 compare _ v]
            unfold decimalValue
            rw [hlength]
            exact hrest.trans (compare_add_left _ _ _).symm
          · have hcmp : compare u v = .gt := by
              refine (if_neg fun hlt => ?_).trans (if_neg fun heq => ?_)
              · exact Nat.lt_asymm hgt (UInt16.lt_iff_toNat_lt.mp hlt)
              · exact Nat.ne_of_gt hgt (UInt16.toNat_inj.mpr heq)
            rw [hcmp]
            refine (Nat.compare_eq_gt.mpr ?_).symm
            unfold decimalValue
            rw [hlength]
            exact digit_lt (by omega) hsmall'

/-- A numeral without leading zeros is lower than a longer one. -/
theorem decimalValue_lt_of_length_lt {s t : JsString} (hs : NumericIdentifier s)
    (ht : NumericIdentifier t) (hlength : s.length < t.length) :
    decimalValue s < decimalValue t := by
  have hlow := decimalValue_lt hs.isDigit_of_mem
  rcases numericIdentifier_iff.mp ht with rfl | ⟨-, hhead⟩
  · -- a text shorter than one digit is no numeral
    have hempty : s = [] := List.length_eq_zero_iff.mp (Nat.lt_one_iff.mp hlength)
    rw [hempty] at hs
    cases hs
  · cases t with
    | nil => exact absurd hlength (Nat.not_lt_zero _)
    | cons u rest =>
        have hhigh := @le_decimalValue u rest (ht.isDigit_of_mem u List.mem_cons_self)
          fun h => hhead (congrArg some h)
        calc decimalValue s < 10 ^ s.length := hlow
          _ ≤ 10 ^ rest.length := Nat.pow_le_pow_right (by decide) (Nat.le_of_lt_succ hlength)
          _ ≤ decimalValue (u :: rest) := hhigh

/-- Numerals without leading zeros are known from their numbers. -/
theorem compare_decimalValue {s t : JsString} (hs : NumericIdentifier s)
    (ht : NumericIdentifier t) :
    compare (decimalValue s) (decimalValue t) =
      if s.length = t.length then compareCodeUnits s t
      else if s.length < t.length then .lt else .gt := by
  rcases Nat.lt_trichotomy s.length t.length with h | h | h
  · rw [if_neg (Nat.ne_of_lt h), if_pos h]
    exact Nat.compare_eq_lt.mpr (decimalValue_lt_of_length_lt hs ht h)
  · rw [if_pos h]
    exact (compareCodeUnits_eq_compare hs.isDigit_of_mem ht.isDigit_of_mem h).symm
  · rw [if_neg (Nat.ne_of_gt h), if_neg (Nat.not_lt_of_gt h)]
    exact Nat.compare_eq_gt.mpr (decimalValue_lt_of_length_lt ht hs h)

end PatchPilot.Foundation.Semver
