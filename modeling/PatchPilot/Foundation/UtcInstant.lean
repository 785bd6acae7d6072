/-
  Foundation/UtcInstant.lean --- the instants that time stamps denote, to the microsecond.

  A time stamp with a date of the calendar and a time of the day denotes an instant.  Time
  stamps of different seconds are in the order of their instants as texts.  Within one second
  the fractions decide, and there the texts go astray: `Z` is behind every digit and behind
  the point, so a fraction that continues another one is put before it.
-/
import PatchPilot.Foundation.IsoOrder

set_option autoImplicit false

namespace PatchPilot.Foundation

/-! ## Dates of the calendar -/

/-- A date of the calendar. -/
def IsCivil (year month day : Int) : Prop :=
  1 ≤ month ∧ month ≤ 12 ∧ 1 ≤ day ∧ day ≤ daysInMonth year month

instance (year month day : Int) : Decidable (IsCivil year month day) :=
  inferInstanceAs (Decidable (_ ∧ _ ∧ _ ∧ _))

/-- The year of a date counted from March, its month and its day of the year. -/
def marchDateOf (year month day : Int) : MarchDate :=
  let marchYear := if month ≤ 2 then year - 1 else year
  let marchMonth := if month ≤ 2 then month + 9 else month - 3
  ⟨marchYear, (153 * marchMonth + 2) / 5 + day - 1, marchMonth⟩

theorem daysFromCivil_eq (year month day : Int) :
    daysFromCivil year month day + 719468 =
      yearStart (marchDateOf year month day).year + (marchDateOf year month day).dayOfYear := by
  unfold daysFromCivil marchDateOf
  dsimp only
  generalize (if month ≤ 2 then year - 1 else year) = marchYear
  have hera := yearStart_add_era (marchYear - marchYear / 400 * 400) (marchYear / 400)
  have hday : yearStart (marchYear - marchYear / 400 * 400) =
      365 * (marchYear - marchYear / 400 * 400) + (marchYear - marchYear / 400 * 400) / 4 -
        (marchYear - marchYear / 400 * 400) / 100 := by
    unfold yearStart
    omega
  rw [sub_add_cancel] at hera
  omega

/-- The days of a year that is counted from March on. -/
theorem yearLength_eq (year : Int) :
    yearStart year - yearStart (year - 1) = if isLeapYear year then 366 else 365 := by
  unfold yearStart isLeapYear
  simp only [Bool.and_eq_true, Bool.or_eq_true, decide_eq_true_eq]
  split
  all_goals omega

/-- A date of the calendar is within its year, and its month is found from its day. -/
theorem marchDateOf_within {year month day : Int} (h : IsCivil year month day) :
    0 ≤ (marchDateOf year month day).dayOfYear ∧
      (marchDateOf year month day).dayOfYear <
        yearStart ((marchDateOf year month day).year + 1) -
          yearStart (marchDateOf year month day).year ∧
      (marchDateOf year month day).month =
        (5 * (marchDateOf year month day).dayOfYear + 2) / 153 := by
  obtain ⟨hmonth, hmonth12, hday, hlast⟩ := h
  have hlength := yearLength_eq year
  unfold daysInMonth at hlast
  unfold marchDateOf
  dsimp only
  by_cases hfebruary : month = 2
  · subst hfebruary
    rw [if_pos rfl] at hlast
    rw [if_pos (by decide), if_pos (by decide), sub_add_cancel, hlength]
    cases hleap : isLeapYear year with
    | true =>
        rw [hleap, if_pos rfl] at hlast
        rw [if_pos rfl]
        omega
    | false =>
        rw [hleap, if_neg Bool.false_ne_true] at hlast
        rw [if_neg Bool.false_ne_true]
        omega
  · rw [if_neg hfebruary] at hlast
    -- every other month ends before the last day of a year that is no leap year
    have hyear : ∀ year : Int, 365 ≤ yearStart (year + 1) - yearStart year := by
      intro year
      unfold yearStart
      omega
    have hyear := hyear (if month ≤ 2 then year - 1 else year)
    have hmonths : month = 1 ∨ month = 3 ∨ month = 4 ∨ month = 5 ∨ month = 6 ∨ month = 7 ∨
        month = 8 ∨ month = 9 ∨ month = 10 ∨ month = 11 ∨ month = 12 := by omega
    refine ⟨?_, lt_of_lt_of_le ?_ hyear, ?_⟩
    all_goals
      rcases hmonths with rfl | rfl | rfl | rfl | rfl | rfl | rfl | rfl | rfl | rfl | rfl
      all_goals omega

theorem civilFromDays_daysFromCivil {year month day : Int} (h : IsCivil year month day) :
    civilFromDays (daysFromCivil year month day) = (year, month, day) := by
  obtain ⟨date, hdate⟩ := exists_marchDate (daysFromCivil year month day)
  obtain ⟨hnonneg, hlt, hmonth⟩ := marchDateOf_within h
  have hstart := daysFromCivil_eq year month day
  rw [hdate.start] at hstart
  have hdateNonneg := hdate.nonneg
  have hdateLt := hdate.lt
  -- two years that have the day are one
  have hyear : date.year = (marchDateOf year month day).year := by
    rcases lt_trichotomy date.year (marchDateOf year month day).year with hless | heq | hmore
    · have hmono := yearStart_mono (show date.year + 1 ≤ _ from hless)
      omega
    · exact heq
    · have hmono := yearStart_mono (show (marchDateOf year month day).year + 1 ≤ _ from hmore)
      omega
  rw [hyear] at hstart
  have hday : date.dayOfYear = (marchDateOf year month day).dayOfYear := by omega
  have hsame : date.month = (marchDateOf year month day).month := by
    rw [hdate.month, hmonth, hday]
  rw [hdate.civil, hyear, hday, hsame]
  obtain ⟨hfirst, hlast, -⟩ := h
  unfold marchDateOf
  dsimp only
  by_cases hmarch : month ≤ 2
  · rw [if_pos hmarch, if_pos hmarch, if_neg (by omega), if_neg (by omega)]
    refine Prod.ext ?_ (Prod.ext ?_ ?_)
    all_goals
      dsimp only
      omega
  · rw [if_neg hmarch, if_neg hmarch, if_pos (by omega), if_pos (by omega)]
    refine Prod.ext ?_ (Prod.ext ?_ ?_)
    all_goals
      dsimp only
      omega

/-- A day that a month does not have is one of the next month. -/
theorem daysFromCivil_nextMonth {year month : Int} (hmonth : 1 ≤ month) (hmonth11 : month ≤ 11)
    (beyond : Int) :
    daysFromCivil year month (daysInMonth year month + beyond) =
      daysFromCivil year (month + 1) beyond := by
  by_cases hfebruary : month = 2
  · subst hfebruary
    have hlength := yearLength_eq year
    have hbefore := daysFromCivil_eq year 2 (daysInMonth year 2 + beyond)
    have hbehind := daysFromCivil_eq year (2 + 1) beyond
    unfold marchDateOf at hbefore hbehind
    dsimp only at hbefore hbehind
    rw [if_pos (by decide), if_pos (by decide)] at hbefore
    rw [if_neg (by decide), if_neg (by decide)] at hbehind
    unfold daysInMonth at hbefore ⊢
    rw [if_pos rfl] at hbefore ⊢
    cases hleap : isLeapYear year with
    | true =>
        rw [hleap, if_pos rfl] at hbefore hlength
        rw [if_pos rfl]
        omega
    | false =>
        rw [hleap, if_neg Bool.false_ne_true] at hbefore hlength
        rw [if_neg Bool.false_ne_true]
        omega
  · have hmonths : month = 1 ∨ month = 3 ∨ month = 4 ∨ month = 5 ∨ month = 6 ∨ month = 7 ∨
        month = 8 ∨ month = 9 ∨ month = 10 ∨ month = 11 := by omega
    unfold daysFromCivil daysInMonth
    dsimp only
    rcases hmonths with rfl | rfl | rfl | rfl | rfl | rfl | rfl | rfl | rfl | rfl
    all_goals omega

/-- A month and a day are found again exactly when the calendar has them. -/
theorem civilFromDays_daysFromCivil_iff {year month day : Int} (hmonth : 1 ≤ month)
    (hmonth12 : month ≤ 12) (hday : 1 ≤ day) :
    civilFromDays (daysFromCivil year month day) = (year, month, day) ↔
      IsCivil year month day := by
  refine ⟨fun h => ?_, civilFromDays_daysFromCivil⟩
  obtain ⟨-, -, -, hday31⟩ := civilFromDays_bounds (daysFromCivil year month day)
  rw [h] at hday31
  dsimp only at hday31
  refine ⟨hmonth, hmonth12, hday, ?_⟩
  by_contra hmany
  have hshort : month ≤ 11 ∧ 28 ≤ daysInMonth year month := by
    unfold daysInMonth at hmany ⊢
    by_cases hfebruary : month = 2
    · rw [if_pos hfebruary] at hmany ⊢
      split
      all_goals omega
    · rw [if_neg hfebruary] at hmany ⊢
      split at hmany
      · omega
      · omega
  -- the day is one of the first of the next month
  have hnext := @daysFromCivil_nextMonth year month hmonth hshort.1
    (day - daysInMonth year month)
  rw [show daysInMonth year month + (day - daysInMonth year month) = day by omega] at hnext
  have hcivil : IsCivil year (month + 1) (day - daysInMonth year month) := by
    refine ⟨by omega, by omega, by omega, ?_⟩
    unfold daysInMonth
    split
    · split
      all_goals omega
    · split
      all_goals omega
  rw [hnext, civilFromDays_daysFromCivil hcivil] at h
  have hmonths := congrArg (fun date => date.2.1) h
  dsimp only at hmonths
  omega

/-- A later date is a later day. -/
theorem daysFromCivil_lt {year month day year' month' day' : Int} (h : IsCivil year month day)
    (h' : IsCivil year' month' day')
    (hlt : daysFromCivil year month day < daysFromCivil year' month' day') :
    year < year' ∨ year = year' ∧ (month < month' ∨ month = month' ∧ day < day') := by
  have hlater := civilFromDays_lt hlt
  rw [civilFromDays_daysFromCivil h, civilFromDays_daysFromCivil h'] at hlater
  obtain ⟨hmonth, hmonth12, -⟩ := h
  obtain ⟨hmonth', hmonth12', -⟩ := h'
  dsimp only at hlater
  omega

theorem daysFromCivil_inj {year month day year' month' day' : Int} (h : IsCivil year month day)
    (h' : IsCivil year' month' day')
    (heq : daysFromCivil year month day = daysFromCivil year' month' day') :
    year = year' ∧ month = month' ∧ day = day' := by
  have hdate := civilFromDays_daysFromCivil h
  rw [heq, civilFromDays_daysFromCivil h'] at hdate
  cases hdate
  exact ⟨rfl, rfl, rfl⟩

/-! ## Fields of a text -/

theorem hasShape_split {shape shape' : TextShape} :
    ∀ {s : JsString}, hasShape (shape ++ shape') s = true →
      ∃ t t', s = t ++ t' ∧ hasShape shape t = true ∧ hasShape shape' t' = true := by
  induction shape with
  | nil => exact fun h => ⟨[], _, rfl, rfl, h⟩
  | cons place shape ih =>
      intro s h
      cases s with
      | nil => cases h
      | cons u s =>
          rw [List.cons_append, hasShape, Bool.and_eq_true] at h
          obtain ⟨t, t', rfl, ht, ht'⟩ := ih h.2
          exact ⟨u :: t, t', rfl, (Bool.and_eq_true _ _).mpr ⟨h.1, ht⟩, ht'⟩

theorem all_isDigit_of_hasShape {width : Nat} {s : JsString}
    (h : hasShape (List.replicate width isDigit) s = true) : s.all isDigit = true := by
  refine all_of_hasShape (fun place hplace u hu => ?_) h
  rw [List.eq_of_mem_replicate hplace] at hu
  exact hu

/-- As many digits are the number that they show. -/
theorem paddedText_digitsValue {s : JsString} (hdigits : s.all isDigit = true) (hs : s ≠ []) :
    Fits s.length (digitsValue s) ∧ paddedText s.length (digitsValue s) = s := by
  have hlt := digitsValue_lt hdigits
  have hfits : Fits s.length (digitsValue s) := by
    refine ⟨Int.natCast_nonneg _, ?_⟩
    exact_mod_cast hlt
  have hlength := length_paddedText (List.length_pos_iff.mpr hs) hfits
  have hcompare := compareCodeUnits_digits (isDigit_paddedText s.length (digitsValue s))
    hdigits hlength
  rw [digitsValue_paddedText, Int.natAbs_natCast, Nat.compare_eq_eq.mpr rfl] at hcompare
  exact ⟨hfits, Std.LawfulEqCmp.eq_of_compare hcompare⟩

/-- A field of a text and what stands behind it. -/
theorem exists_field {width : Nat} {shape : TextShape} {s : JsString} (hwidth : 0 < width)
    (h : hasShape (List.replicate width isDigit ++ shape) s = true) :
    ∃ n t, Fits width n ∧ s = paddedText width n ++ t ∧ hasShape shape t = true := by
  obtain ⟨digits, t, rfl, hdigits, ht⟩ := hasShape_split h
  have hlength := length_of_hasShape hdigits
  rw [List.length_replicate] at hlength
  obtain ⟨hfits, htext⟩ := paddedText_digitsValue (all_isDigit_of_hasShape hdigits)
    (List.length_pos_iff.mp (by omega))
  rw [hlength] at hfits htext
  exact ⟨_, t, hfits, by rw [htext], ht⟩

theorem exists_mark {c : Char} {shape : TextShape} {s : JsString}
    (h : hasShape (exactly c :: shape) s = true) :
    ∃ t, s = [unit c] ++ t ∧ hasShape shape t = true := by
  cases s with
  | nil => cases h
  | cons u s =>
      rw [hasShape, Bool.and_eq_true] at h
      have hu : u = unit c := eq_of_beq h.1
      exact ⟨s, by rw [hu]; rfl, h.2⟩

/-- What stands behind the seconds, for the digits of a fraction. -/
def fractionText (fraction : JsString) : JsString :=
  if fraction = [] then js "Z" else js "." ++ (fraction ++ js "Z")

/-- A text of this shape is its fields and the digits of its fraction. -/
theorem exists_fieldsOfShape {fractionDigits : Nat} {s : JsString}
    (h : hasShape (utcShape fractionDigits) s = true) :
    ∃ year month day hour minute second fraction,
      FieldsFit year month day hour minute second ∧ fraction.all isDigit = true ∧
        fraction.length = fractionDigits ∧
          s = isoTextBefore year month day hour minute second (fractionText fraction) := by
  unfold utcShape at h
  simp only [List.append_assoc, List.cons_append] at h
  obtain ⟨year, s₁, hyear, rfl, h₁⟩ := exists_field (by decide) h
  obtain ⟨s₂, rfl, h₂⟩ := exists_mark h₁
  obtain ⟨month, s₃, hmonth, rfl, h₃⟩ := exists_field (by decide) h₂
  obtain ⟨s₄, rfl, h₄⟩ := exists_mark h₃
  obtain ⟨day, s₅, hday, rfl, h₅⟩ := exists_field (by decide) h₄
  obtain ⟨s₆, rfl, h₆⟩ := exists_mark h₅
  obtain ⟨hour, s₇, hhour, rfl, h₇⟩ := exists_field (by decide) h₆
  obtain ⟨s₈, rfl, h₈⟩ := exists_mark h₇
  obtain ⟨minute, s₉, hminute, rfl, h₉⟩ := exists_field (by decide) h₈
  obtain ⟨s₁₀, rfl, h₁₀⟩ := exists_mark h₉
  obtain ⟨second, rest, hsecond, rfl, hrest⟩ := exists_field (by decide) h₁₀
  have hend : ∀ {t : JsString}, hasShape [exactly 'Z'] t = true → t = js "Z" := by
    intro t ht
    obtain ⟨behind, rfl, hbehind⟩ := exists_mark ht
    have hlength := length_of_hasShape hbehind
    rw [List.length_eq_zero_iff.mp hlength]
    rfl
  have hfraction : ∃ fraction : JsString, fraction.all isDigit = true ∧
      fraction.length = fractionDigits ∧ rest = fractionText fraction := by
    by_cases hzero : fractionDigits = 0
    · rw [if_pos hzero] at hrest
      exact ⟨[], rfl, hzero.symm, hend hrest⟩
    · rw [if_neg hzero, List.cons_append] at hrest
      obtain ⟨digits, rfl, hdigits⟩ := exists_mark hrest
      obtain ⟨fraction, t, rfl, hdigits, ht⟩ := hasShape_split hdigits
      have hwidth := length_of_hasShape hdigits
      rw [List.length_replicate] at hwidth
      refine ⟨fraction, all_isDigit_of_hasShape hdigits, hwidth, ?_⟩
      unfold fractionText
      rw [if_neg (List.length_pos_iff.mp (by omega)), hend ht]
      rfl
  obtain ⟨fraction, hdigits, hwidth, rfl⟩ := hfraction
  exact ⟨year, month, day, hour, minute, second, fraction,
    ⟨hyear, hmonth, hday, hhour, hminute, hsecond⟩, hdigits, hwidth, rfl⟩

/-- A time stamp is its fields and the digits of its fraction. -/
theorem exists_utcFields {s : JsString} (h : isUtcTimestamp s = true) :
    ∃ year month day hour minute second fraction,
      FieldsFit year month day hour minute second ∧ fraction.all isDigit = true ∧
        fraction.length ≤ 6 ∧
          s = isoTextBefore year month day hour minute second (fractionText fraction) := by
  obtain ⟨fractionDigits, hrange, hshape⟩ := List.any_eq_true.mp h
  have hlength := List.mem_range.mp hrange
  obtain ⟨year, month, day, hour, minute, second, fraction, hfits, hdigits, hwidth, htext⟩ :=
    exists_fieldsOfShape hshape
  exact ⟨year, month, day, hour, minute, second, fraction, hfits, hdigits, by omega, htext⟩

/-- Fields and the digits of a fraction have the shape. -/
theorem hasShape_utcFields {year month day hour minute second : Int} {fraction : JsString}
    (hfits : FieldsFit year month day hour minute second) (hdigits : fraction.all isDigit = true) :
    hasShape (utcShape fraction.length)
      (isoTextBefore year month day hour minute second (fractionText fraction)) = true := by
  have hrest : hasShape ((if fraction.length = 0 then []
      else exactly '.' :: List.replicate fraction.length isDigit) ++ [exactly 'Z'])
        (fractionText fraction) = true := by
    unfold fractionText
    by_cases hnone : fraction = []
    · rw [if_pos hnone, hnone]
      decide
    · rw [if_neg hnone, if_neg (fun h => hnone (List.length_eq_zero_iff.mp h))]
      have hbehind := hasShape_append (hasShape_digits hdigits)
        (show hasShape [exactly 'Z'] (js "Z") = true by decide)
      change hasShape ([exactly '.'] ++ (List.replicate fraction.length isDigit ++ _)) _ = true
      exact hasShape_append (by decide) hbehind
  have hwhole := hfits.shape hrest
  unfold utcShape
  simp only [List.append_assoc, List.cons_append] at hwhole ⊢
  exact hwhole

/-! ## Instants -/

/-- The digits of the fraction of a time stamp. -/
def fractionOf (s : JsString) : JsString := (s.drop 20).filter isDigit

/-- A number of so many digits that begins with these, and goes on with zeros. -/
def scaledValue (width : Nat) (fraction : JsString) : Nat :=
  digitsValue (fraction ++ List.replicate (width - fraction.length) (unit '0'))

/-- The instant of a time stamp, in microseconds since the epoch; one with a date that the
calendar does not have, or with a time that no day has, denotes none. -/
def instantOf (s : JsString) : Option Int :=
  let year := fieldValue s 0 4
  let month := fieldValue s 5 2
  let day := fieldValue s 8 2
  let hour := fieldValue s 11 2
  let minute := fieldValue s 14 2
  let second := fieldValue s 17 2
  if isUtcTimestamp s = true ∧ IsCivil year month day ∧ hour ≤ 23 ∧ minute ≤ 59 ∧
      second ≤ 59 then
    some ((((daysFromCivil year month day * 24 + hour) * 60 + minute) * 60 + second) * 1000000 +
      scaledValue 6 (fractionOf s))
  else none

/-- A later fraction is found before an earlier one, or the other way around: one continues
the other, and its text is not behind the text of that one as its number is. -/
def FractionsClash (fraction fraction' : JsString) : Prop :=
  fraction' <+: fraction ∧ fraction' ≠ fraction ∨
    fraction <+: fraction' ∧ ∃ u ∈ fraction'.drop fraction.length, u ≠ unit '0'

/-! ## Fractions -/

theorem digitsValue_append (digits digits' : JsString) :
    digitsValue (digits ++ digits') =
      digitsValue digits * 10 ^ digits'.length + digitsValue digits' := by
  rw [digitsValue, List.foldl_append]
  exact foldl_digits digits' (digitsValue digits)

/-- The first digits of a fraction that goes on with zeros are the part of the fraction before
the rest. -/
theorem digitsValue_take {fraction : JsString} (hdigits : fraction.all isDigit = true)
    (width : Nat) :
    digitsValue ((fraction ++ List.replicate width (unit '0')).take width) =
      digitsValue fraction * 10 ^ width / 10 ^ fraction.length := by
  rcases Nat.le_total width fraction.length with hlong | hshort
  · rw [List.take_append_of_le_length hlong]
    have hsplit := digitsValue_append (fraction.take width) (fraction.drop width)
    have hrest : digitsValue (fraction.drop width) < 10 ^ (fraction.drop width).length :=
      digitsValue_lt (List.all_eq_true.mpr fun u hu =>
        List.all_eq_true.mp hdigits u (List.mem_of_mem_drop hu))
    rw [List.take_append_drop, List.length_drop] at hsplit
    rw [List.length_drop] at hrest
    have hpower : 10 ^ fraction.length = 10 ^ width * 10 ^ (fraction.length - width) := by
      rw [← pow_add, Nat.add_sub_cancel' hlong]
    rw [hpower, Nat.mul_comm (digitsValue fraction), Nat.mul_div_mul_left _ _ (by positivity),
      hsplit, Nat.mul_comm, Nat.mul_add_div (by positivity), Nat.div_eq_of_lt hrest, Nat.add_zero]
  · have hkeep : (fraction ++ List.replicate width (unit '0')).take width =
        fraction ++ List.replicate (width - fraction.length) (unit '0') := by
      rw [List.take_append, List.take_of_length_le hshort, List.take_replicate]
      congr 2
      omega
    have hzeros : ∀ zeros, digitsValue (List.replicate zeros (unit '0')) = 0 := by
      intro zeros
      have h := digitsValue_zeros zeros []
      rw [List.append_nil] at h
      exact h
    have hpower : 10 ^ width = 10 ^ (width - fraction.length) * 10 ^ fraction.length := by
      rw [← pow_add, Nat.sub_add_cancel hshort]
    rw [hkeep, digitsValue_append, hzeros, List.length_replicate, hpower, ← Nat.mul_assoc,
      Nat.mul_div_cancel _ (by positivity), Nat.add_zero]

theorem scaledValue_nil (width : Nat) : scaledValue width [] = 0 := by
  unfold scaledValue
  have hzeros := digitsValue_zeros (width - 0) []
  rw [List.append_nil] at hzeros
  exact hzeros

theorem scaledValue_cons {width : Nat} {fraction : JsString} (u : UInt16)
    (h : fraction.length ≤ width) :
    scaledValue (width + 1) (u :: fraction) =
      (u.toNat - 0x30) * 10 ^ width + scaledValue width fraction := by
  unfold scaledValue
  rw [List.length_cons, Nat.add_sub_add_right, List.cons_append, digitsValue_cons,
    List.length_append, List.length_replicate, Nat.add_sub_cancel' h]

theorem scaledValue_lt {width : Nat} {fraction : JsString} (hdigits : fraction.all isDigit = true)
    (h : fraction.length ≤ width) : scaledValue width fraction < 10 ^ width := by
  have hall : (fraction ++ List.replicate (width - fraction.length) (unit '0')).all isDigit =
      true := by
    rw [List.all_append, hdigits, Bool.true_and]
    exact List.all_eq_true.mpr fun u hu => by
      rw [List.eq_of_mem_replicate hu]
      decide
  have hlt := digitsValue_lt hall
  rw [List.length_append, List.length_replicate, Nat.add_sub_cancel' h] at hlt
  exact hlt

/-- Only a fraction of zeros is zero. -/
theorem scaledValue_eq_zero {fraction : JsString} :
    ∀ {width : Nat}, fraction.all isDigit = true → fraction.length ≤ width →
      (scaledValue width fraction = 0 ↔ ¬ ∃ u ∈ fraction, u ≠ unit '0') := by
  induction fraction with
  | nil => exact fun _ _ => ⟨fun _ => by simp, fun _ => scaledValue_nil _⟩
  | cons u fraction ih =>
      intro width hdigits hlength
      cases width with
      | zero => cases hlength
      | succ width =>
          rw [List.all_cons, Bool.and_eq_true] at hdigits
          have hle := Nat.le_of_succ_le_succ hlength
          have hu := digit_ge hdigits.1
          have hpow : 0 < 10 ^ width := Nat.pow_pos (by decide)
          have hzero : u.toNat - 0x30 = 0 ↔ u = unit '0' := by
            refine ⟨fun h => UInt16.toNat_inj.mp ?_, fun h => by rw [h]; decide⟩
            have hcode : (unit '0').toNat = 0x30 := by decide
            omega
          rw [scaledValue_cons u hle, Nat.add_eq_zero_iff, ih hdigits.2 hle, Nat.mul_eq_zero,
            hzero]
          simp only [List.mem_cons, exists_eq_or_imp, not_or, not_not,
            Nat.pos_iff_ne_zero.mp hpow, or_false]

theorem compare_digit_z {u : UInt16} (h : isDigit u = true) : compare (unit 'Z') u = .gt := by
  have hle : u.toNat ≤ 0x39 := UInt16.le_iff_toNat_le.mp
    (of_decide_eq_true ((Bool.and_eq_true _ _).mp h).2)
  have hz : (unit 'Z').toNat = 0x5A := by decide
  have hlt : u < unit 'Z' := UInt16.lt_iff_toNat_lt.mpr (by omega)
  rw [@Std.OrientedCmp.eq_swap _ compare]
  change (compareOfLessAndEq u (unit 'Z')).swap = .gt
  unfold compareOfLessAndEq
  rw [if_pos hlt]
  rfl

/-- Fractions are in the order of their texts unless one continues the other. -/
theorem isGE_fractions {fraction : JsString} :
    ∀ {fraction' : JsString} {width : Nat}, fraction.all isDigit = true →
      fraction'.all isDigit = true → fraction.length ≤ width → fraction'.length ≤ width →
        (((compareCodeUnits (fraction ++ js "Z") (fraction' ++ js "Z")).isGE = true ↔
          scaledValue width fraction' ≤ scaledValue width fraction) ↔
            ¬ FractionsClash fraction fraction') := by
  induction fraction with
  | nil =>
      intro fraction' width _ hdigits' _ hlength'
      have hzero := scaledValue_eq_zero hdigits' hlength'
      have hgreater : (compareCodeUnits ([] ++ js "Z") (fraction' ++ js "Z")).isGE = true := by
        cases fraction' with
        | nil => rfl
        | cons u' fraction' =>
            rw [List.all_cons, Bool.and_eq_true] at hdigits'
            change (compareCodeUnits (unit 'Z' :: []) (u' :: (fraction' ++ js "Z"))).isGE = true
            rw [compareCodeUnits_cons, compare_digit_z hdigits'.1]
            rfl
      have hclash : FractionsClash [] fraction' ↔ ∃ u ∈ fraction', u ≠ unit '0' := by
        refine ⟨fun h => ?_, fun h => .inr ⟨List.nil_prefix, h⟩⟩
        rcases h with ⟨hstart, hne⟩ | ⟨-, hdigit⟩
        · exact absurd (List.prefix_nil.mp hstart) hne
        · exact hdigit
      rw [hclash, ← hzero, scaledValue_nil, Nat.le_zero]
      simp only [hgreater, true_iff]
  | cons u fraction ih =>
      intro fraction' width hdigits hdigits' hlength hlength'
      cases width with
      | zero => cases hlength
      | succ width =>
          rw [List.all_cons, Bool.and_eq_true] at hdigits
          cases fraction' with
          | nil =>
              have hless : (compareCodeUnits (u :: fraction ++ js "Z") ([] ++ js "Z")).isGE =
                  false := by
                change (compareCodeUnits (u :: (fraction ++ js "Z")) (unit 'Z' :: [])).isGE = _
                rw [compareCodeUnits_cons, @Std.OrientedCmp.eq_swap _ compare,
                  compare_digit_z hdigits.1]
                rfl
              have hclash : FractionsClash (u :: fraction) [] :=
                .inl ⟨List.nil_prefix, (List.cons_ne_nil u fraction).symm⟩
              rw [scaledValue_nil]
              simp only [hless, hclash, Nat.zero_le, Bool.false_eq_true, not_true_eq_false,
                false_iff]
          | cons u' fraction' =>
              rw [List.all_cons, Bool.and_eq_true] at hdigits'
              have hle := Nat.le_of_succ_le_succ hlength
              have hle' := Nat.le_of_succ_le_succ hlength'
              have hstep := ih hdigits.2 hdigits'.2 hle hle'
              have hlt := scaledValue_lt hdigits.2 hle
              have hlt' := scaledValue_lt hdigits'.2 hle'
              have horder : scaledValue (width + 1) (u' :: fraction') ≤
                    scaledValue (width + 1) (u :: fraction) ↔
                  ((compare u u').then (compare (scaledValue width fraction)
                    (scaledValue width fraction'))).isGE = true := by
                rw [scaledValue_cons u hle, scaledValue_cons u' hle',
                  compare_digit hdigits.1 hdigits'.1, compare_then_digits hlt hlt',
                  Nat.isGE_compare]
              have htexts : compareCodeUnits (u :: fraction ++ js "Z") (u' :: fraction' ++ js "Z") =
                  (compare u u').then
                    (compareCodeUnits (fraction ++ js "Z") (fraction' ++ js "Z")) :=
                compareCodeUnits_cons u u' _ _
              rw [horder, htexts]
              by_cases hsame : u = u'
              · subst hsame
                have hself : compare u u = .eq := Std.ReflCmp.compare_self
                have hclash : FractionsClash (u :: fraction) (u :: fraction') ↔
                    FractionsClash fraction fraction' := by
                  unfold FractionsClash
                  rw [List.cons_prefix_cons, List.cons_prefix_cons, List.length_cons,
                    List.drop_succ_cons]
                  simp only [true_and, ne_eq, List.cons.injEq]
                rw [hself, Ordering.eq_then, Ordering.eq_then, hclash, Nat.isGE_compare]
                exact hstep
              · have hdiffer : compare u u' ≠ .eq := fun heq =>
                  hsame (Std.LawfulEqCmp.eq_of_compare heq)
                have hclash : ¬ FractionsClash (u :: fraction) (u' :: fraction') := by
                  unfold FractionsClash
                  rw [List.cons_prefix_cons, List.cons_prefix_cons]
                  rintro (⟨⟨heq, -⟩, -⟩ | ⟨⟨heq, -⟩, -⟩)
                  · exact hsame heq.symm
                  · exact hsame heq
                cases hcompare : compare u u' with
                | eq => exact absurd hcompare hdiffer
                | lt => exact ⟨fun _ => hclash, fun _ => Iff.rfl⟩
                | gt => exact ⟨fun _ => hclash, fun _ => Iff.rfl⟩

/-- The point is before `Z`, as the digits are. -/
theorem compareCodeUnits_fractionText {fraction fraction' : JsString}
    (hdigits : fraction.all isDigit = true) (hdigits' : fraction'.all isDigit = true) :
    compareCodeUnits (fractionText fraction) (fractionText fraction') =
      compareCodeUnits (fraction ++ js "Z") (fraction' ++ js "Z") := by
  have hnone : ∀ {u : UInt16} {digits : JsString}, (u :: digits).all isDigit = true →
      compareCodeUnits (js "Z") (fractionText (u :: digits)) = .gt ∧
        compareCodeUnits (js "Z") (u :: digits ++ js "Z") = .gt := by
    intro u digits h
    rw [List.all_cons, Bool.and_eq_true] at h
    refine ⟨rfl, ?_⟩
    change compareCodeUnits (unit 'Z' :: []) (u :: (digits ++ js "Z")) = .gt
    rw [compareCodeUnits_cons, compare_digit_z h.1]
    rfl
  cases fraction with
  | nil =>
      cases fraction' with
      | nil => rfl
      | cons u' fraction' =>
          obtain ⟨hpoint, hdigit⟩ := hnone hdigits'
          exact hpoint.trans hdigit.symm
  | cons u fraction =>
      cases fraction' with
      | nil =>
          obtain ⟨hpoint, hdigit⟩ := hnone hdigits
          have hswap := @Std.OrientedCmp.eq_swap _ compareCodeUnits _
            (u :: fraction ++ js "Z") ([] ++ js "Z")
          rw [@Std.OrientedCmp.eq_swap _ compareCodeUnits, hswap]
          exact congrArg Ordering.swap (hpoint.trans hdigit.symm)
      | cons u' fraction' =>
          unfold fractionText
          rw [if_neg (List.cons_ne_nil u fraction), if_neg (List.cons_ne_nil u' fraction')]
          exact compareCodeUnits_same (js ".") _ _

/-! ## The order of time stamps -/

section

variable {year month day hour minute second : Int} {fraction : JsString}

theorem fractionOf_isoTextBefore (h : FieldsFit year month day hour minute second)
    (hdigits : fraction.all isDigit = true) :
    fractionOf (isoTextBefore year month day hour minute second (fractionText fraction)) =
      fraction := by
  have hrest := (h.read (fractionText fraction)).2.2.2.2.2.2
  have hkeep : (fraction ++ js "Z").filter isDigit = fraction := by
    have hmark : (js "Z").filter isDigit = [] := by decide
    rw [List.filter_append, hmark, List.append_nil]
    exact List.filter_eq_self.mpr (List.all_eq_true.mp hdigits)
  unfold fractionOf
  rw [show (20 : Nat) = 19 + 1 by rfl, ← List.drop_drop, hrest]
  cases fraction with
  | nil => rfl
  | cons u fraction => exact hkeep

/-- The second that a time stamp shows. -/
def secondOf (year month day hour minute second : Int) : Int :=
  ((daysFromCivil year month day * 24 + hour) * 60 + minute) * 60 + second

/-- The date and the time of the day that a time stamp shows, one field after the other. -/
def shownSecond (year month day hour minute second : Int) : Int :=
  ((((year * 100 + month) * 100 + day) * 100 + hour) * 100 + minute) * 100 + second

/-- What an accepted time stamp shows. -/
structure Showing (s : JsString) (year month day hour minute second : Int)
    (fraction : JsString) : Prop where
  fits : FieldsFit year month day hour minute second
  digits : fraction.all isDigit = true
  short : fraction.length ≤ 6
  text : s = isoTextBefore year month day hour minute second (fractionText fraction)

/-- The fields of a time stamp that denotes an instant. -/
structure Denoting (s : JsString) (instant year month day hour minute second : Int)
    (fraction : JsString) : Prop where
  shows : Showing s year month day hour minute second fraction
  civil : IsCivil year month day
  time : hour ≤ 23 ∧ minute ≤ 59 ∧ second ≤ 59
  instant : instant = secondOf year month day hour minute second * 1000000 +
    scaledValue 6 fraction

end

/-- The date, the time of the day and the fraction that a time stamp shows, as one number. -/
def shownValue (s : JsString) : Int :=
  shownSecond (fieldValue s 0 4) (fieldValue s 5 2) (fieldValue s 8 2) (fieldValue s 11 2)
    (fieldValue s 14 2) (fieldValue s 17 2) * 1000000 + scaledValue 6 (fractionOf s)

theorem exists_showing {s : JsString} (h : isUtcTimestamp s = true) :
    ∃ year month day hour minute second fraction,
      Showing s year month day hour minute second fraction := by
  obtain ⟨year, month, day, hour, minute, second, fraction, hfits, hdigits, hshort, rfl⟩ :=
    exists_utcFields h
  exact ⟨year, month, day, hour, minute, second, fraction, hfits, hdigits, hshort, rfl⟩

theorem exists_denoting {s : JsString} {instant : Int} (h : instantOf s = some instant) :
    ∃ year month day hour minute second fraction,
      Denoting s instant year month day hour minute second fraction := by
  unfold instantOf at h
  dsimp only at h
  rw [Option.ite_none_right_eq_some] at h
  obtain ⟨⟨hutc, hcivil, hhour, hminute, hsecond⟩, hinstant⟩ := h
  obtain ⟨year, month, day, hour, minute, second, fraction, hfits, hdigits, hshort, rfl⟩ :=
    exists_utcFields hutc
  obtain ⟨hy, hmo, hd, hh, hmi, hs, -⟩ := hfits.read (fractionText fraction)
  rw [hy, hmo, hd] at hcivil hinstant
  rw [hh] at hhour hinstant
  rw [hmi] at hminute hinstant
  rw [hs] at hsecond hinstant
  rw [fractionOf_isoTextBefore hfits hdigits] at hinstant
  exact ⟨year, month, day, hour, minute, second, fraction, ⟨hfits, hdigits, hshort, rfl⟩, hcivil,
    ⟨hhour, hminute, hsecond⟩, (Option.some.inj hinstant).symm⟩

/-- A text that denotes an instant is an accepted time stamp. -/
theorem isUtcTimestamp_of_instantOf {s : JsString} {instant : Int}
    (h : instantOf s = some instant) : isUtcTimestamp s = true := by
  unfold instantOf at h
  dsimp only at h
  rw [Option.ite_none_right_eq_some] at h
  exact h.1.1

section

variable {s s' : JsString} {instant year month day hour minute second : Int}
variable {instant' year' month' day' hour' minute' second' : Int}
variable {fraction fraction' : JsString}

theorem Showing.fraction_lt (h : Showing s year month day hour minute second fraction) :
    (scaledValue 6 fraction : Int) < 1000000 := by
  have hlt := scaledValue_lt h.digits h.short
  omega

theorem Showing.fractionOf (h : Showing s year month day hour minute second fraction) :
    fractionOf s = fraction := by
  rw [h.text]
  exact fractionOf_isoTextBefore h.fits h.digits

theorem Showing.shownValue (h : Showing s year month day hour minute second fraction) :
    shownValue s = shownSecond year month day hour minute second * 1000000 +
      scaledValue 6 fraction := by
  obtain ⟨hy, hmo, hd, hh, hmi, hs, -⟩ := h.fits.read (fractionText fraction)
  rw [← h.text] at hy hmo hd hh hmi hs
  unfold PatchPilot.Foundation.shownValue
  rw [hy, hmo, hd, hh, hmi, hs, h.fractionOf]

/-- A later second has a greater text. -/
theorem Showing.lt (h : Showing s year month day hour minute second fraction)
    (h' : Showing s' year' month' day' hour' minute' second' fraction')
    (hlt : shownSecond year month day hour minute second <
      shownSecond year' month' day' hour' minute' second') :
    compareCodeUnits s s' = .lt := by
  unfold shownSecond at hlt
  have hmonth := h.fits.month
  have hday := h.fits.day
  have hhour := h.fits.hour
  have hminute := h.fits.minute
  have hsecond := h.fits.second
  have hmonth' := h'.fits.month
  have hday' := h'.fits.day
  have hhour' := h'.fits.hour
  have hminute' := h'.fits.minute
  have hsecond' := h'.fits.second
  unfold Fits at hmonth hday hhour hminute hsecond hmonth' hday' hhour' hminute' hsecond'
  rw [h.text, h'.text]
  refine compareCodeUnits_isoTextBefore_lt h.fits h'.fits ?_
  omega

/-- A second that is shown has one date and time. -/
theorem Showing.same (h : Showing s year month day hour minute second fraction)
    (h' : Showing s' year' month' day' hour' minute' second' fraction')
    (heq : shownSecond year month day hour minute second =
      shownSecond year' month' day' hour' minute' second') :
    year = year' ∧ month = month' ∧ day = day' ∧ hour = hour' ∧ minute = minute' ∧
      second = second' := by
  unfold shownSecond at heq
  have hmonth := h.fits.month
  have hday := h.fits.day
  have hhour := h.fits.hour
  have hminute := h.fits.minute
  have hsecond := h.fits.second
  have hmonth' := h'.fits.month
  have hday' := h'.fits.day
  have hhour' := h'.fits.hour
  have hminute' := h'.fits.minute
  have hsecond' := h'.fits.second
  unfold Fits at hmonth hday hhour hminute hsecond hmonth' hday' hhour' hminute' hsecond'
  omega

theorem Showing.take (h : Showing s year month day hour minute second fraction) :
    s.take 19 = isoTextBefore year month day hour minute second [] := by
  rw [h.text, isoTextBefore_eq]
  exact List.take_left' h.fits.length

/-- Time stamps that are alike up to their seconds show one second. -/
theorem Showing.second_eq (h : Showing s year month day hour minute second fraction)
    (h' : Showing s' year' month' day' hour' minute' second' fraction')
    (htake : s.take 19 = s'.take 19) :
    shownSecond year month day hour minute second =
      shownSecond year' month' day' hour' minute' second' := by
  obtain ⟨hy, hmo, hd, hh, hmi, hs, -⟩ := h.fits.read []
  rw [h.take, h'.take] at htake
  obtain ⟨hy', hmo', hd', hh', hmi', hs', -⟩ := h'.fits.read []
  rw [htake] at hy hmo hd hh hmi hs
  rw [← hy.symm.trans hy', ← hmo.symm.trans hmo', ← hd.symm.trans hd', ← hh.symm.trans hh',
    ← hmi.symm.trans hmi', ← hs.symm.trans hs']

/-- Time stamps are in the order of what they show, unless they show one second and the
fraction of one continues that of the other. -/
theorem isGE_compareCodeUnits_iff (h : isUtcTimestamp s = true) (h' : isUtcTimestamp s' = true) :
    ((compareCodeUnits s s').isGE = true ↔ shownValue s' ≤ shownValue s) ↔
      ¬ (s.take 19 = s'.take 19 ∧ FractionsClash (fractionOf s) (fractionOf s')) := by
  obtain ⟨year, month, day, hour, minute, second, fraction, hs⟩ := exists_showing h
  obtain ⟨year', month', day', hour', minute', second', fraction', hs'⟩ := exists_showing h'
  have hlt := hs.fraction_lt
  have hlt' := hs'.fraction_lt
  rw [hs.fractionOf, hs'.fractionOf, hs.shownValue, hs'.shownValue]
  rcases lt_trichotomy (shownSecond year month day hour minute second)
    (shownSecond year' month' day' hour' minute' second') with hearlier | hsame | hlater
  · have hno : ¬ shownSecond year' month' day' hour' minute' second' * 1000000 +
        (scaledValue 6 fraction' : Int) ≤
          shownSecond year month day hour minute second * 1000000 + scaledValue 6 fraction := by
      omega
    have hdiffer : s.take 19 ≠ s'.take 19 := fun htake => by
      have heq := hs.second_eq hs' htake
      omega
    rw [hs.lt hs' hearlier]
    exact ⟨fun _ hclash => hdiffer hclash.1,
      fun _ => ⟨fun h => absurd h Bool.false_ne_true, fun h => absurd h hno⟩⟩
  · obtain ⟨rfl, rfl, rfl, rfl, rfl, rfl⟩ := hs.same hs' hsame
    rw [hs.take, hs'.take, hs.text, hs'.text, isoTextBefore_eq,
      isoTextBefore_eq _ _ _ _ _ _ (fractionText fraction'), compareCodeUnits_same,
      compareCodeUnits_fractionText hs.digits hs'.digits, add_le_add_iff_left, Nat.cast_le,
      isGE_fractions hs.digits hs'.digits hs.short hs'.short]
    simp only [true_and]
  · have hyes : shownSecond year' month' day' hour' minute' second' * 1000000 +
        (scaledValue 6 fraction' : Int) ≤
          shownSecond year month day hour minute second * 1000000 + scaledValue 6 fraction := by
      omega
    have hdiffer : s.take 19 ≠ s'.take 19 := fun htake => by
      have heq := hs.second_eq hs' htake
      omega
    rw [@Std.OrientedCmp.eq_swap _ compareCodeUnits, hs'.lt hs hlater]
    exact ⟨fun _ hclash => hdiffer hclash.1, fun _ => ⟨fun _ => hyes, fun _ => rfl⟩⟩

/-- The time of the day of an instant is one. -/
theorem Denoting.within (h : Denoting s instant year month day hour minute second fraction) :
    (0 ≤ hour ∧ hour ≤ 23) ∧ (0 ≤ minute ∧ minute ≤ 59) ∧ 0 ≤ second ∧ second ≤ 59 := by
  obtain ⟨hhour, hminute, hsecond⟩ := h.time
  exact ⟨⟨h.shows.fits.hour.1, hhour⟩, ⟨h.shows.fits.minute.1, hminute⟩,
    h.shows.fits.second.1, hsecond⟩

/-- A second of the calendar has one date and time. -/
theorem Denoting.same (h : Denoting s instant year month day hour minute second fraction)
    (h' : Denoting s' instant' year' month' day' hour' minute' second' fraction')
    (heq : secondOf year month day hour minute second =
      secondOf year' month' day' hour' minute' second') :
    shownSecond year month day hour minute second =
      shownSecond year' month' day' hour' minute' second' := by
  unfold secondOf at heq
  have hwithin := h.within
  have hwithin' := h'.within
  have hfields : daysFromCivil year month day = daysFromCivil year' month' day' ∧
      hour = hour' ∧ minute = minute' ∧ second = second' := by
    omega
  obtain ⟨hdays, rfl, rfl, rfl⟩ := hfields
  obtain ⟨rfl, rfl, rfl⟩ := daysFromCivil_inj h.civil h'.civil hdays
  rfl

/-- A later second of the calendar shows a later date or time. -/
theorem Denoting.lt (h : Denoting s instant year month day hour minute second fraction)
    (h' : Denoting s' instant' year' month' day' hour' minute' second' fraction')
    (hlt : secondOf year month day hour minute second <
      secondOf year' month' day' hour' minute' second') :
    shownSecond year month day hour minute second <
      shownSecond year' month' day' hour' minute' second' := by
  unfold secondOf at hlt
  have hwithin := h.within
  have hwithin' := h'.within
  have hdays : daysFromCivil year month day < daysFromCivil year' month' day' ∨
      daysFromCivil year month day = daysFromCivil year' month' day' ∧ (hour < hour' ∨
        hour = hour' ∧ (minute < minute' ∨ minute = minute' ∧ second < second')) := by
    omega
  unfold shownSecond
  rcases hdays with hdays | ⟨hdays, htime⟩
  · have hdate := daysFromCivil_lt h.civil h'.civil hdays
    have hmonth := h.shows.fits.month
    have hday := h.shows.fits.day
    have hmonth' := h'.shows.fits.month
    have hday' := h'.shows.fits.day
    unfold Fits at hmonth hday hmonth' hday'
    omega
  · obtain ⟨rfl, rfl, rfl⟩ := daysFromCivil_inj h.civil h'.civil hdays
    omega

/-- Instants are in the order of what their time stamps show. -/
theorem instant_le_iff (h : instantOf s = some instant) (h' : instantOf s' = some instant') :
    instant' ≤ instant ↔ shownValue s' ≤ shownValue s := by
  obtain ⟨year, month, day, hour, minute, second, fraction, hs⟩ := exists_denoting h
  obtain ⟨year', month', day', hour', minute', second', fraction', hs'⟩ := exists_denoting h'
  have hlt := hs.shows.fraction_lt
  have hlt' := hs'.shows.fraction_lt
  rw [hs.shows.shownValue, hs'.shows.shownValue, hs.instant, hs'.instant]
  rcases lt_trichotomy (secondOf year month day hour minute second)
    (secondOf year' month' day' hour' minute' second') with hearlier | hsame | hlater
  · have hshown := hs.lt hs' hearlier
    omega
  · have hshown := hs.same hs' hsame
    omega
  · have hshown := hs'.lt hs hlater
    omega

end

end PatchPilot.Foundation
