/-
  Foundation/IsoOrder.lean --- the calendar and the texts of instants are in order.

  A later day has a later date, and the date of a day counts back to the day.  The texts of
  instants in the years 0 to 9999 have fields of fixed widths, so they are in the order of
  their instants, and reading one gives its instant back.
-/
import PatchPilot.Foundation.LengthPrefix
import PatchPilot.Foundation.IsoDate

set_option autoImplicit false

namespace PatchPilot.Foundation

/-! ## Years -/

/-- The days before a year that is counted from March on. -/
def yearStart (year : Int) : Int := 365 * year + year / 4 - year / 100 + year / 400

/-- The days of an era without its leap days, as the year of the era is found from it. -/
def withoutLeapDays (dayOfEra : Int) : Int :=
  dayOfEra - dayOfEra / 1460 + dayOfEra / 36524 - dayOfEra / 146096

/-- The first and the last day of a year are found to be in it. -/
theorem withoutLeapDays_endpoints : ∀ year : Fin 400,
    withoutLeapDays (yearStart year.val) / 365 = year.val ∧
      withoutLeapDays (yearStart (year.val + 1) - 1) / 365 = year.val := by
  decide +kernel

theorem withoutLeapDays_mono {a b : Int} (ha : 0 ≤ a) (hab : a ≤ b) (hb : b < 146097) :
    withoutLeapDays a ≤ withoutLeapDays b := by
  have hstep : ∀ n : Nat, a + n ≤ 146096 → withoutLeapDays a ≤ withoutLeapDays (a + n) := by
    intro n
    induction n with
    | zero => exact fun _ => le_of_eq (by simp)
    | succ n ih =>
        intro hn
        refine le_trans (ih (by omega)) ?_
        unfold withoutLeapDays
        push_cast at hn ⊢
        rcases eq_or_lt_of_le hn with hlast | hearlier
        · have hbefore : a + (n : Int) = 146095 := by omega
          rw [← add_assoc, hbefore]
          decide
        · omega
  have hdiff : a + (b - a).toNat = b := by omega
  rw [← hdiff]
  exact hstep _ (by omega)

/-- Every day of an era is in a year of it. -/
theorem exists_yearOfEra {dayOfEra : Int} (hpos : 0 ≤ dayOfEra) (hlt : dayOfEra < 146097) :
    ∃ year : Fin 400, yearStart year.val ≤ dayOfEra ∧ dayOfEra < yearStart (year.val + 1) := by
  have hyear : ∀ n : Nat, dayOfEra < yearStart n →
      ∃ year : Nat, year < n ∧ yearStart year ≤ dayOfEra ∧ dayOfEra < yearStart (year + 1) := by
    intro n
    induction n with
    | zero =>
        intro h
        exact absurd h (not_lt.mpr hpos)
    | succ n ih =>
        intro h
        by_cases hcase : dayOfEra < yearStart n
        · obtain ⟨year, hyear, hstart⟩ := ih hcase
          exact ⟨year, by omega, hstart⟩
        · exact ⟨n, by omega, not_lt.mp hcase, h⟩
  obtain ⟨year, hlt400, hstart⟩ := hyear 400 hlt
  exact ⟨⟨year, hlt400⟩, hstart⟩

/-- The year of a day of an era. -/
theorem yearOfEra_spec {dayOfEra : Int} (hpos : 0 ≤ dayOfEra) (hlt : dayOfEra < 146097) :
    let year := withoutLeapDays dayOfEra / 365
    0 ≤ year ∧ year < 400 ∧ yearStart year ≤ dayOfEra ∧ dayOfEra < yearStart (year + 1) := by
  obtain ⟨year, hstart, hend⟩ := exists_yearOfEra hpos hlt
  obtain ⟨hfirst, hlast⟩ := withoutLeapDays_endpoints year
  have hyear := year.isLt
  have hnonneg : 0 ≤ yearStart year.val := by
    unfold yearStart
    omega
  have hbound : yearStart (year.val + 1) ≤ 146097 := by
    unfold yearStart
    omega
  have hlow := withoutLeapDays_mono hnonneg hstart hlt
  have hhigh := withoutLeapDays_mono hpos (Int.le_sub_one_of_lt hend) (by omega)
  have hfound : withoutLeapDays dayOfEra / 365 = year.val := by omega
  dsimp only
  rw [hfound]
  exact ⟨by omega, by omega, hstart, hend⟩

theorem yearStart_add_era (year era : Int) :
    yearStart (year + era * 400) = yearStart year + era * 146097 := by
  have hfour : (year + era * 400) / 4 = year / 4 + era * 100 := by omega
  have hhundred : (year + era * 400) / 100 = year / 100 + era * 4 := by omega
  have hera : (year + era * 400) / 400 = year / 400 + era := by omega
  unfold yearStart
  omega

/-- A year ends where the next one begins. -/
theorem yearStart_mono {year year' : Int} (h : year ≤ year') :
    yearStart year ≤ yearStart year' := by
  unfold yearStart
  omega

theorem yearLength_le (year : Int) : yearStart (year + 1) - yearStart year ≤ 366 := by
  unfold yearStart
  omega

/-! ## Days -/

/-- A date counted from March: its year, the day of it and its month. -/
structure MarchDate where
  year : Int
  dayOfYear : Int
  month : Int

/-- What a day and its date have to do with each other. -/
structure MarchDate.IsOf (date : MarchDate) (days : Int) : Prop where
  start : days + 719468 = yearStart date.year + date.dayOfYear
  nonneg : 0 ≤ date.dayOfYear
  lt : date.dayOfYear < yearStart (date.year + 1) - yearStart date.year
  month : date.month = (5 * date.dayOfYear + 2) / 153
  civil : civilFromDays days =
    (date.year + (if date.month < 10 then 0 else 1),
      (if date.month < 10 then date.month + 3 else date.month - 9),
      date.dayOfYear - (153 * date.month + 2) / 5 + 1)

theorem exists_marchDate (days : Int) : ∃ date : MarchDate, date.IsOf days := by
  have hera : 0 ≤ (days + 719468) - (days + 719468) / 146097 * 146097 := by omega
  have hera' : (days + 719468) - (days + 719468) / 146097 * 146097 < 146097 := by omega
  obtain ⟨hpos, hlt, hstart, hend⟩ := yearOfEra_spec hera hera'
  generalize hdays : (days + 719468) - (days + 719468) / 146097 * 146097 = dayOfEra at *
  generalize hyear : withoutLeapDays dayOfEra / 365 = year at *
  have hera := yearStart_add_era year ((days + 719468) / 146097)
  have hnext := yearStart_add_era (year + 1) ((days + 719468) / 146097)
  have hday : yearStart year = 365 * year + year / 4 - year / 100 := by
    unfold yearStart
    omega
  refine ⟨⟨year + (days + 719468) / 146097 * 400,
    dayOfEra - (365 * year + year / 4 - year / 100),
    (5 * (dayOfEra - (365 * year + year / 4 - year / 100)) + 2) / 153⟩, ?_, ?_, ?_, rfl, ?_⟩
  · dsimp only
    rw [hera]
    omega
  · dsimp only
    omega
  · dsimp only
    rw [add_right_comm, hera, hnext]
    omega
  · have hmonth : 0 ≤ (5 * (dayOfEra - (365 * year + year / 4 - year / 100)) + 2) / 153 ∧
        (5 * (dayOfEra - (365 * year + year / 4 - year / 100)) + 2) / 153 ≤ 11 := by
      have hlength := yearLength_le year
      omega
    unfold withoutLeapDays at hyear
    unfold civilFromDays
    dsimp only
    rw [hdays, hyear]
    generalize (5 * (dayOfEra - (365 * year + year / 4 - year / 100)) + 2) / 153 = month at *
    by_cases hcase : month < 10
    · rw [if_pos hcase, if_neg (by omega), if_pos hcase, add_zero]
    · rw [if_neg hcase, if_pos (by omega), if_neg hcase]

/-- A date of the calendar. -/
theorem civilFromDays_bounds (days : Int) :
    1 ≤ (civilFromDays days).2.1 ∧ (civilFromDays days).2.1 ≤ 12 ∧
      1 ≤ (civilFromDays days).2.2 ∧ (civilFromDays days).2.2 ≤ 31 := by
  obtain ⟨date, hdate⟩ := exists_marchDate days
  have hlength := yearLength_le date.year
  have hnonneg := hdate.nonneg
  have hlt := hdate.lt
  have hmonth := hdate.month
  rw [hdate.civil]
  dsimp only
  split
  all_goals omega

/-- The day of a date. -/
theorem daysFromCivil_civilFromDays (days : Int) :
    daysFromCivil (civilFromDays days).1 (civilFromDays days).2.1 (civilFromDays days).2.2 =
      days := by
  obtain ⟨date, hdate⟩ := exists_marchDate days
  have hlength := yearLength_le date.year
  have hstart := hdate.start
  have hnonneg := hdate.nonneg
  have hlt := hdate.lt
  have hmonth := hdate.month
  have hera := yearStart_add_era (date.year - date.year / 400 * 400) (date.year / 400)
  have hday : yearStart (date.year - date.year / 400 * 400) =
      365 * (date.year - date.year / 400 * 400) + (date.year - date.year / 400 * 400) / 4 -
        (date.year - date.year / 400 * 400) / 100 := by
    unfold yearStart
    omega
  rw [sub_add_cancel] at hera
  rw [hdate.civil]
  unfold daysFromCivil
  dsimp only
  by_cases hcase : date.month < 10
  · rw [if_pos hcase, if_pos hcase, if_neg (by omega), if_neg (by omega)]
    rw [add_zero, show date.month + 3 - 3 = date.month by omega]
    omega
  · rw [if_neg hcase, if_neg hcase, if_pos (by omega), if_pos (by omega)]
    rw [show date.year + 1 - 1 = date.year by omega,
      show date.month - 9 + 9 = date.month by omega]
    omega

/-- A later day has a later date. -/
theorem civilFromDays_lt {days days' : Int} (h : days < days') :
    12 * (civilFromDays days).1 + (civilFromDays days).2.1 <
        12 * (civilFromDays days').1 + (civilFromDays days').2.1 ∨
      12 * (civilFromDays days).1 + (civilFromDays days).2.1 =
          12 * (civilFromDays days').1 + (civilFromDays days').2.1 ∧
        (civilFromDays days).2.2 < (civilFromDays days').2.2 := by
  obtain ⟨date, hdate⟩ := exists_marchDate days
  obtain ⟨date', hdate'⟩ := exists_marchDate days'
  have hlength := yearLength_le date.year
  have hlength' := yearLength_le date'.year
  have hstart := hdate.start
  have hstart' := hdate'.start
  have hnonneg := hdate.nonneg
  have hnonneg' := hdate'.nonneg
  have hlt := hdate.lt
  have hlt' := hdate'.lt
  have hmonth := hdate.month
  have hmonth' := hdate'.month
  have hyear : date.year ≤ date'.year := by
    by_contra hlater
    have hmono := yearStart_mono (show date'.year + 1 ≤ date.year by omega)
    omega
  -- twelve times the year and the month count the months in both calendars
  have hcount : ∀ (date : MarchDate),
      12 * (date.year + (if date.month < 10 then 0 else 1)) +
        (if date.month < 10 then date.month + 3 else date.month - 9) =
          12 * date.year + date.month + 3 := by
    intro date
    split
    all_goals omega
  rw [hdate.civil, hdate'.civil]
  dsimp only
  rw [hcount, hcount]
  rcases eq_or_lt_of_le hyear with heq | hyear
  · have hday : date.dayOfYear < date'.dayOfYear := by
      rw [heq] at hstart
      omega
    omega
  · omega

/-! ## Digits -/

theorem compareCodeUnits_cons (u u' : UInt16) (s s' : JsString) :
    compareCodeUnits (u :: s) (u' :: s') = (compare u u').then (compareCodeUnits s s') :=
  List.compareLex_cons_cons

/-- Texts behind texts of the same length. -/
theorem compareCodeUnits_append {s s' : JsString} (t t' : JsString) :
    s.length = s'.length → compareCodeUnits (s ++ t) (s' ++ t') =
      (compareCodeUnits s s').then (compareCodeUnits t t') := by
  induction s generalizing s' with
  | nil =>
      intro h
      rw [List.length_eq_zero_iff.mp h.symm]
      rfl
  | cons u s ih =>
      intro h
      cases s' with
      | nil => cases h
      | cons u' s' =>
          rw [List.cons_append, List.cons_append, compareCodeUnits_cons, compareCodeUnits_cons,
            ih (Nat.succ.inj h), Ordering.then_assoc]

/-- A first digit decides, and then the others do. -/
theorem compare_then_digits {a a' n n' p : Nat} (hn : n < p) (hn' : n' < p) :
    (compare a a').then (compare n n') = compare (a * p + n) (a' * p + n') := by
  rcases Nat.lt_trichotomy a a' with h | h | h
  · have hle : (a + 1) * p ≤ a' * p := Nat.mul_le_mul_right p h
    rw [Nat.add_mul, Nat.one_mul] at hle
    have hlt : a * p + n < a' * p + n' := by omega
    rw [Nat.compare_eq_lt.mpr h, Nat.compare_eq_lt.mpr hlt]
    rfl
  · subst h
    rw [Nat.compare_eq_eq.mpr rfl, Ordering.eq_then]
    rcases Nat.lt_trichotomy n n' with h | h | h
    · have hlt : a * p + n < a * p + n' := by omega
      rw [Nat.compare_eq_lt.mpr h, Nat.compare_eq_lt.mpr hlt]
    · rw [h, Nat.compare_eq_eq.mpr rfl, Nat.compare_eq_eq.mpr rfl]
    · have hlt : a * p + n' < a * p + n := by omega
      rw [Nat.compare_eq_gt.mpr h, Nat.compare_eq_gt.mpr hlt]
  · have hle : (a' + 1) * p ≤ a * p := Nat.mul_le_mul_right p h
    rw [Nat.add_mul, Nat.one_mul] at hle
    have hlt : a' * p + n' < a * p + n := by omega
    rw [Nat.compare_eq_gt.mpr h, Nat.compare_eq_gt.mpr hlt]
    rfl

theorem digit_ge {u : UInt16} (h : isDigit u = true) : 0x30 ≤ u.toNat :=
  UInt16.le_iff_toNat_le.mp (of_decide_eq_true ((Bool.and_eq_true _ _).mp h).1)

/-- Digits are in the order of their numbers. -/
theorem compare_digit {u u' : UInt16} (h : isDigit u = true) (h' : isDigit u' = true) :
    compare u u' = compare (u.toNat - 0x30) (u'.toNat - 0x30) := by
  have hu := digit_ge h
  have hu' := digit_ge h'
  rcases Nat.lt_trichotomy u.toNat u'.toNat with h | h | h
  · have hdigit : u.toNat - 0x30 < u'.toNat - 0x30 := by omega
    rw [Nat.compare_eq_lt.mpr hdigit]
    exact if_pos (UInt16.lt_iff_toNat_lt.mpr h)
  · rw [UInt16.toNat_inj.mp h, Nat.compare_eq_eq.mpr rfl]
    exact Std.ReflCmp.compare_self
  · have hdigit : u'.toNat - 0x30 < u.toNat - 0x30 := by omega
    rw [Nat.compare_eq_gt.mpr hdigit]
    have hnot : ¬ u < u' := fun hlt => by
      have hlt := UInt16.lt_iff_toNat_lt.mp hlt
      omega
    have hne : u ≠ u' := fun heq => by
      rw [heq] at h
      omega
    change compareOfLessAndEq u u' = .gt
    unfold compareOfLessAndEq
    rw [if_neg hnot, if_neg hne]

/-- Texts of as many digits are in the order of their numbers. -/
theorem compareCodeUnits_digits {s s' : JsString} (hs : s.all isDigit = true)
    (hs' : s'.all isDigit = true) (hlength : s.length = s'.length) :
    compareCodeUnits s s' = compare (digitsValue s) (digitsValue s') := by
  induction s generalizing s' with
  | nil =>
      rw [List.length_eq_zero_iff.mp hlength.symm]
      rfl
  | cons u s ih =>
      cases s' with
      | nil => cases hlength
      | cons u' s' =>
          rw [List.all_cons, Bool.and_eq_true] at hs hs'
          have hrest := ih hs.2 hs'.2 (Nat.succ.inj hlength)
          have hlt := digitsValue_lt hs.2
          have hlt' := digitsValue_lt hs'.2
          rw [← Nat.succ.inj hlength] at hlt'
          rw [compareCodeUnits_cons, hrest, digitsValue_cons, digitsValue_cons,
            ← Nat.succ.inj hlength]
          rw [compare_digit hs.1 hs'.1]
          exact compare_then_digits hlt hlt'

/-! ## Fields -/

/-- A number of at most so many digits. -/
def Fits (width : Nat) (n : Int) : Prop := 0 ≤ n ∧ n < 10 ^ width

theorem length_decimalText_le {n width : Nat} (hwidth : 0 < width) (h : n < 10 ^ width) :
    (decimalText n).length ≤ width := by
  rw [decimalText_eq_map, List.length_map]
  exact (Nat.length_toDigits_le_iff (by omega) hwidth).mpr h

theorem length_paddedText {width : Nat} {n : Int} (hwidth : 0 < width) (h : Fits width n) :
    (paddedText width n).length = width := by
  obtain ⟨hpos, hlt⟩ := h
  have hnat : n.natAbs < 10 ^ width := by
    zify
    rw [abs_of_nonneg hpos]
    exact hlt
  have hle := length_decimalText_le hwidth hnat
  unfold paddedText
  rw [List.length_append, List.length_replicate]
  omega

theorem isDigit_paddedText (width : Nat) (n : Int) : (paddedText width n).all isDigit = true := by
  unfold paddedText
  rw [List.all_append, Bool.and_eq_true]
  refine ⟨List.all_eq_true.mpr fun u hu => ?_, List.all_eq_true.mpr fun u hu => ?_⟩
  · rw [List.eq_of_mem_replicate hu]
    decide
  · exact isDigit_of_mem_decimalText hu

theorem digitsValue_zeros (zeros : Nat) (digits : JsString) :
    digitsValue (List.replicate zeros (unit '0') ++ digits) = digitsValue digits := by
  induction zeros with
  | zero => rfl
  | succ zeros ih =>
      have hzero : (unit '0').toNat - 0x30 = 0 := by decide
      rw [List.replicate_succ, List.cons_append, digitsValue_cons, ih, hzero, Nat.zero_mul,
        Nat.zero_add]

theorem digitsValue_paddedText (width : Nat) (n : Int) :
    digitsValue (paddedText width n) = n.natAbs := by
  unfold paddedText
  rw [digitsValue_zeros, digitsValue_decimalText]

/-- A field decides, and then what stands behind it does. -/
theorem compareCodeUnits_field {width : Nat} {n n' : Int} (hwidth : 0 < width)
    (h : Fits width n) (h' : Fits width n') (t t' : JsString) :
    compareCodeUnits (paddedText width n ++ t) (paddedText width n' ++ t') =
      (compare n.natAbs n'.natAbs).then (compareCodeUnits t t') := by
  have hlength : (paddedText width n).length = (paddedText width n').length := by
    rw [length_paddedText hwidth h, length_paddedText hwidth h']
  rw [compareCodeUnits_append t t' hlength,
    compareCodeUnits_digits (isDigit_paddedText width n) (isDigit_paddedText width n') hlength,
    digitsValue_paddedText, digitsValue_paddedText]

/-- What two texts begin with alike decides nothing. -/
theorem compareCodeUnits_same (s t t' : JsString) :
    compareCodeUnits (s ++ t) (s ++ t') = compareCodeUnits t t' := by
  have hself : compareCodeUnits s s = .eq := Std.ReflCmp.compare_self
  rw [compareCodeUnits_append t t' rfl, hself, Ordering.eq_then]

theorem then_eq_lt {n n' : Int} {rest : Ordering} (hpos : 0 ≤ n) (hpos' : 0 ≤ n')
    (h : n < n' ∨ n = n' ∧ rest = .lt) : (compare n.natAbs n'.natAbs).then rest = .lt := by
  rcases h with hlt | ⟨heq, hrest⟩
  · have hnat : n.natAbs < n'.natAbs := by omega
    rw [Nat.compare_eq_lt.mpr hnat]
    rfl
  · rw [heq, Nat.compare_eq_eq.mpr rfl, hrest]
    rfl

/-! ## Texts of instants -/

/-- The year of an instant has four digits. -/
def InIsoYears (instant : Int) : Prop :=
  0 ≤ (civilFromDays (instant / 86400000)).1 ∧ (civilFromDays (instant / 86400000)).1 ≤ 9999

/-- A time stamp from its fields, up to its seconds, and what stands behind them. -/
def isoTextBefore (year month day hour minute second : Int) (rest : JsString) : JsString :=
  paddedText 4 year ++ (js "-" ++ (paddedText 2 month ++ (js "-" ++ (paddedText 2 day ++
    (js "T" ++ (paddedText 2 hour ++ (js ":" ++ (paddedText 2 minute ++ (js ":" ++
      (paddedText 2 second ++ rest))))))))))

/-- A time stamp from its fields. -/
def isoText (year month day hour minute second millisecond : Int) : JsString :=
  isoTextBefore year month day hour minute second
    (js "." ++ (paddedText 3 millisecond ++ js "Z"))

theorem toISOString_eq {instant : Int} (h : InIsoYears instant) :
    toISOString instant = isoText (civilFromDays (instant / 86400000)).1
      (civilFromDays (instant / 86400000)).2.1 (civilFromDays (instant / 86400000)).2.2
      (instant % 86400000 / 3600000) (instant % 86400000 / 60000 % 60)
      (instant % 86400000 / 1000 % 60) (instant % 86400000 % 1000) := by
  unfold toISOString isoYear
  dsimp only
  rw [if_pos ⟨h.1, h.2⟩]
  unfold textOfDate isoText isoTextBefore
  dsimp only
  simp only [List.append_assoc]
  rw [List.drop_left]

/-- The fields of a time stamp, each in its width. -/
structure FieldsFit (year month day hour minute second : Int) : Prop where
  year : Fits 4 year
  month : Fits 2 month
  day : Fits 2 day
  hour : Fits 2 hour
  minute : Fits 2 minute
  second : Fits 2 second

/-- The first field that differs decides, and the rest of the texts when none does. -/
theorem compareCodeUnits_isoTextBefore_lt
    {year month day hour minute second year' month' day' hour' minute' second' : Int}
    {rest rest' : JsString} (h : FieldsFit year month day hour minute second)
    (h' : FieldsFit year' month' day' hour' minute' second')
    (hfields : year < year' ∨ year = year' ∧ (month < month' ∨ month = month' ∧ (day < day' ∨
      day = day' ∧ (hour < hour' ∨ hour = hour' ∧ (minute < minute' ∨ minute = minute' ∧
        (second < second' ∨ second = second' ∧ compareCodeUnits rest rest' = .lt)))))) :
    compareCodeUnits (isoTextBefore year month day hour minute second rest)
      (isoTextBefore year' month' day' hour' minute' second' rest') = .lt := by
  unfold isoTextBefore
  rw [compareCodeUnits_field (by decide) h.year h'.year, compareCodeUnits_same,
    compareCodeUnits_field (by decide) h.month h'.month, compareCodeUnits_same,
    compareCodeUnits_field (by decide) h.day h'.day, compareCodeUnits_same,
    compareCodeUnits_field (by decide) h.hour h'.hour, compareCodeUnits_same,
    compareCodeUnits_field (by decide) h.minute h'.minute, compareCodeUnits_same,
    compareCodeUnits_field (by decide) h.second h'.second]
  refine then_eq_lt h.year.1 h'.year.1 (hfields.imp_right fun ⟨heq, hfields⟩ => ⟨heq, ?_⟩)
  refine then_eq_lt h.month.1 h'.month.1 (hfields.imp_right fun ⟨heq, hfields⟩ => ⟨heq, ?_⟩)
  refine then_eq_lt h.day.1 h'.day.1 (hfields.imp_right fun ⟨heq, hfields⟩ => ⟨heq, ?_⟩)
  refine then_eq_lt h.hour.1 h'.hour.1 (hfields.imp_right fun ⟨heq, hfields⟩ => ⟨heq, ?_⟩)
  refine then_eq_lt h.minute.1 h'.minute.1 (hfields.imp_right fun ⟨heq, hfields⟩ => ⟨heq, ?_⟩)
  exact then_eq_lt h.second.1 h'.second.1 hfields

/-- The text of a later instant is greater. -/
theorem compareCodeUnits_toISOString_lt {instant instant' : Int} (h : InIsoYears instant)
    (h' : InIsoYears instant') (hlt : instant < instant') :
    compareCodeUnits (toISOString instant) (toISOString instant') = .lt := by
  obtain ⟨hmonth, hmonth12, hday, hday31⟩ := civilFromDays_bounds (instant / 86400000)
  obtain ⟨hmonth', hmonth12', hday', hday31'⟩ := civilFromDays_bounds (instant' / 86400000)
  obtain ⟨hyear, hyear9999⟩ := h
  obtain ⟨hyear', hyear9999'⟩ := h'
  rw [toISOString_eq ⟨hyear, hyear9999⟩, toISOString_eq ⟨hyear', hyear9999'⟩]
  have hdays : instant / 86400000 < instant' / 86400000 ∨
      instant / 86400000 = instant' / 86400000 ∧
        instant % 86400000 < instant' % 86400000 := by omega
  have htime : instant % 86400000 < 86400000 := by omega
  have htime' : instant' % 86400000 < 86400000 := by omega
  have hnonneg : 0 ≤ instant % 86400000 := by omega
  have hnonneg' : 0 ≤ instant' % 86400000 := by omega
  have hlater := @civilFromDays_lt (instant / 86400000) (instant' / 86400000)
  have hsame : instant / 86400000 = instant' / 86400000 →
      civilFromDays (instant / 86400000) = civilFromDays (instant' / 86400000) :=
    fun heq => congrArg civilFromDays heq
  generalize civilFromDays (instant / 86400000) = date at *
  generalize civilFromDays (instant' / 86400000) = date' at *
  generalize instant % 86400000 = time at *
  generalize instant' % 86400000 = time' at *
  obtain ⟨year, month, day⟩ := date
  obtain ⟨year', month', day'⟩ := date'
  dsimp only at *
  have hfields : year < year' ∨ year = year' ∧ (month < month' ∨ month = month' ∧ (day < day' ∨
      day = day' ∧ (time / 3600000 < time' / 3600000 ∨ time / 3600000 = time' / 3600000 ∧
        (time / 60000 % 60 < time' / 60000 % 60 ∨ time / 60000 % 60 = time' / 60000 % 60 ∧
          (time / 1000 % 60 < time' / 1000 % 60 ∨ time / 1000 % 60 = time' / 1000 % 60 ∧
            time % 1000 < time' % 1000))))) := by
    rcases hdays with hdays | ⟨hdays, hbefore⟩
    · have horder := hlater hdays
      omega
    · cases hsame hdays
      omega
  have hfits : ∀ {n : Int}, 0 ≤ n → n < 100 → Fits 2 n := fun hpos hlt => ⟨hpos, hlt⟩
  have hwidths : ∀ {year month day time : Int}, 0 ≤ year → year ≤ 9999 → 1 ≤ month →
      month ≤ 12 → 1 ≤ day → day ≤ 31 → 0 ≤ time → time < 86400000 →
        FieldsFit year month day (time / 3600000) (time / 60000 % 60) (time / 1000 % 60) := by
    intro year month day time _ _ _ _ _ _ _ _
    exact ⟨⟨by omega, by omega⟩, hfits (by omega) (by omega), hfits (by omega) (by omega),
      hfits (by omega) (by omega), hfits (by omega) (by omega), hfits (by omega) (by omega)⟩
  have hrest : time % 1000 < time' % 1000 →
      compareCodeUnits (js "." ++ (paddedText 3 (time % 1000) ++ js "Z"))
        (js "." ++ (paddedText 3 (time' % 1000) ++ js "Z")) = .lt := by
    intro hlt
    rw [compareCodeUnits_same,
      compareCodeUnits_field (by decide) ⟨by omega, by omega⟩ ⟨by omega, by omega⟩]
    exact then_eq_lt (by omega) (by omega) (.inl hlt)
  refine compareCodeUnits_isoTextBefore_lt
    (hwidths hyear hyear9999 hmonth hmonth12 hday hday31 hnonneg htime)
    (hwidths hyear' hyear9999' hmonth' hmonth12' hday' hday31' hnonneg' htime') ?_
  exact hfields.imp_right fun ⟨h₁, h⟩ => ⟨h₁, h.imp_right fun ⟨h₂, h⟩ => ⟨h₂,
    h.imp_right fun ⟨h₃, h⟩ => ⟨h₃, h.imp_right fun ⟨h₄, h⟩ => ⟨h₄,
      h.imp_right fun ⟨h₅, h⟩ => ⟨h₅, h.imp_right fun ⟨h₆, h⟩ => ⟨h₆, hrest h⟩⟩⟩⟩⟩⟩

/-! ## Reading a text back -/

/-- A field behind others. -/
theorem fieldValue_behind {s t : JsString} {skipped start length : Nat}
    (hlength : s.length = skipped) (h : skipped ≤ start) :
    fieldValue (s ++ t) start length = fieldValue t (start - skipped) length := by
  unfold fieldValue
  rw [List.drop_append, List.drop_eq_nil_of_le (by omega), List.nil_append, hlength]

theorem drop_behind {s t : JsString} {skipped start : Nat} (hlength : s.length = skipped)
    (h : skipped ≤ start) : (s ++ t).drop start = t.drop (start - skipped) := by
  rw [List.drop_append, List.drop_eq_nil_of_le (by omega), List.nil_append, hlength]

theorem fieldValue_paddedText {width : Nat} {n : Int} (hwidth : 0 < width) (h : Fits width n)
    (t : JsString) : fieldValue (paddedText width n ++ t) 0 width = n := by
  have hlength := length_paddedText hwidth h
  unfold fieldValue
  rw [List.drop_zero, List.take_left' hlength, digitsValue_paddedText]
  exact Int.natAbs_of_nonneg h.1

theorem hasShape_append {shape shape' : TextShape} {s s' : JsString}
    (h : hasShape shape s = true) (h' : hasShape shape' s' = true) :
    hasShape (shape ++ shape') (s ++ s') = true := by
  induction shape generalizing s with
  | nil =>
      cases s with
      | nil => exact h'
      | cons u s => cases h
  | cons place shape ih =>
      cases s with
      | nil => cases h
      | cons u s =>
          rw [hasShape, Bool.and_eq_true] at h
          rw [List.cons_append, List.cons_append, hasShape, Bool.and_eq_true]
          exact ⟨h.1, ih h.2⟩

theorem hasShape_digits {s : JsString} (h : s.all isDigit = true) :
    hasShape (List.replicate s.length isDigit) s = true := by
  induction s with
  | nil => rfl
  | cons u s ih =>
      rw [List.all_cons, Bool.and_eq_true] at h
      rw [List.length_cons, List.replicate_succ, hasShape, Bool.and_eq_true]
      exact ⟨h.1, ih h.2⟩

theorem hasShape_paddedText {width : Nat} {n : Int} (hwidth : 0 < width) (h : Fits width n) :
    hasShape (List.replicate width isDigit) (paddedText width n) = true := by
  have hshape := hasShape_digits (isDigit_paddedText width n)
  rw [length_paddedText hwidth h] at hshape
  exact hshape

section

variable {year month day hour minute second : Int}

/-- The fields that are read are those that were written. -/
theorem FieldsFit.read (h : FieldsFit year month day hour minute second) (rest : JsString) :
    let s := isoTextBefore year month day hour minute second rest
    fieldValue s 0 4 = year ∧ fieldValue s 5 2 = month ∧ fieldValue s 8 2 = day ∧
      fieldValue s 11 2 = hour ∧ fieldValue s 14 2 = minute ∧ fieldValue s 17 2 = second ∧
        s.drop 19 = rest := by
  have hyear := length_paddedText (by decide) h.year
  have hmonth := length_paddedText (by decide) h.month
  have hday := length_paddedText (by decide) h.day
  have hhour := length_paddedText (by decide) h.hour
  have hminute := length_paddedText (by decide) h.minute
  have hsecond := length_paddedText (by decide) h.second
  have hdash : (js "-").length = 1 := rfl
  have ht : (js "T").length = 1 := rfl
  have hcolon : (js ":").length = 1 := rfl
  unfold isoTextBefore
  refine ⟨?_, ?_, ?_, ?_, ?_, ?_, ?_⟩
  · exact fieldValue_paddedText (by decide) h.year _
  · rw [fieldValue_behind hyear (by decide), fieldValue_behind hdash (by decide)]
    exact fieldValue_paddedText (by decide) h.month _
  · rw [fieldValue_behind hyear (by decide), fieldValue_behind hdash (by decide),
      fieldValue_behind hmonth (by decide), fieldValue_behind hdash (by decide)]
    exact fieldValue_paddedText (by decide) h.day _
  · rw [fieldValue_behind hyear (by decide), fieldValue_behind hdash (by decide),
      fieldValue_behind hmonth (by decide), fieldValue_behind hdash (by decide),
      fieldValue_behind hday (by decide), fieldValue_behind ht (by decide)]
    exact fieldValue_paddedText (by decide) h.hour _
  · rw [fieldValue_behind hyear (by decide), fieldValue_behind hdash (by decide),
      fieldValue_behind hmonth (by decide), fieldValue_behind hdash (by decide),
      fieldValue_behind hday (by decide), fieldValue_behind ht (by decide),
      fieldValue_behind hhour (by decide), fieldValue_behind hcolon (by decide)]
    exact fieldValue_paddedText (by decide) h.minute _
  · rw [fieldValue_behind hyear (by decide), fieldValue_behind hdash (by decide),
      fieldValue_behind hmonth (by decide), fieldValue_behind hdash (by decide),
      fieldValue_behind hday (by decide), fieldValue_behind ht (by decide),
      fieldValue_behind hhour (by decide), fieldValue_behind hcolon (by decide),
      fieldValue_behind hminute (by decide), fieldValue_behind hcolon (by decide)]
    exact fieldValue_paddedText (by decide) h.second _
  · rw [drop_behind hyear (by decide), drop_behind hdash (by decide),
      drop_behind hmonth (by decide), drop_behind hdash (by decide),
      drop_behind hday (by decide), drop_behind ht (by decide),
      drop_behind hhour (by decide), drop_behind hcolon (by decide),
      drop_behind hminute (by decide), drop_behind hcolon (by decide),
      drop_behind hsecond (by decide)]
    rfl

/-- What stands before the rest has the shape of a time stamp. -/
theorem FieldsFit.shape (h : FieldsFit year month day hour minute second) {rest : JsString}
    {restShape : TextShape} (hrest : hasShape restShape rest = true) :
    hasShape (List.replicate 4 isDigit ++ exactly '-' :: List.replicate 2 isDigit ++
      exactly '-' :: List.replicate 2 isDigit ++ exactly 'T' :: List.replicate 2 isDigit ++
      exactly ':' :: List.replicate 2 isDigit ++ exactly ':' :: List.replicate 2 isDigit ++
      restShape) (isoTextBefore year month day hour minute second rest) = true := by
  have hmark : ∀ (c : Char) (text : JsString), text = [unit c] → ∀ {shape : TextShape}
      {s : JsString}, hasShape shape s = true →
        hasShape ([exactly c] ++ shape) (text ++ s) = true := by
    intro c text htext shape s hs
    subst htext
    exact hasShape_append (by simp [hasShape, exactly]) hs
  have hfields := hasShape_append (hasShape_paddedText (by decide) h.year) <|
    hmark '-' (js "-") rfl <|
    hasShape_append (hasShape_paddedText (by decide) h.month) <|
    hmark '-' (js "-") rfl <|
    hasShape_append (hasShape_paddedText (by decide) h.day) <|
    hmark 'T' (js "T") rfl <|
    hasShape_append (hasShape_paddedText (by decide) h.hour) <|
    hmark ':' (js ":") rfl <|
    hasShape_append (hasShape_paddedText (by decide) h.minute) <|
    hmark ':' (js ":") rfl <|
    hasShape_append (hasShape_paddedText (by decide) h.second) hrest
  simp only [List.append_assoc, List.cons_append, List.nil_append] at hfields ⊢
  exact hfields

theorem isoTextBefore_eq (year month day hour minute second : Int) (rest : JsString) :
    isoTextBefore year month day hour minute second rest =
      isoTextBefore year month day hour minute second [] ++ rest := by
  unfold isoTextBefore
  simp only [List.append_assoc, List.append_nil]

theorem FieldsFit.length (h : FieldsFit year month day hour minute second) :
    (isoTextBefore year month day hour minute second []).length = 19 := by
  have hdash : (js "-").length = 1 := rfl
  have ht : (js "T").length = 1 := rfl
  have hcolon : (js ":").length = 1 := rfl
  unfold isoTextBefore
  simp only [List.length_append, List.length_nil, hdash, ht, hcolon,
    length_paddedText (show 0 < 4 by decide) h.year,
    length_paddedText (show 0 < 2 by decide) h.month,
    length_paddedText (show 0 < 2 by decide) h.day,
    length_paddedText (show 0 < 2 by decide) h.hour,
    length_paddedText (show 0 < 2 by decide) h.minute,
    length_paddedText (show 0 < 2 by decide) h.second]

variable {millisecond : Int} {rest : JsString}

end

end PatchPilot.Foundation
