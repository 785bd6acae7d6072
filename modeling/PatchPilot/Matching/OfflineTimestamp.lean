import Mathlib.Algebra.Order.Floor.Ring
import Mathlib.Data.Rat.Floor
import PatchPilot.Foundation.UtcInstant

set_option autoImplicit false

/-!
# Matching: time stamps of offline advisories (`timestamp.ts`)

A time stamp with any number of fraction digits is read through `Date.UTC`, which carries a day
that a month does not have over into the next month, and it is accepted if the date that comes
out is the one that went in.  What is written keeps three digits of the fraction, so that
results are in the order of their instants, cut off after the milliseconds.
-/

namespace PatchPilot.Matching.OfflineTimestamp

open PatchPilot.Foundation

/-! ## The calendar of `Date` -/

/-- The greatest time of a `Date`. -/
def maxTime : Int := 8640000000000000

/-- `Date.UTC`; the month counts from zero, and `none` is `NaN`. -/
def dateUtc (year month day hour minute second millisecond : Int) : Option Int :=
  let fullYear := if 0 ≤ year ∧ year ≤ 99 then 1900 + year else year
  let days := daysFromCivil (fullYear + month / 12) (month % 12 + 1) 1 + (day - 1)
  let time := (((days * 24 + hour) * 60 + minute) * 60 + second) * 1000 + millisecond
  if time.natAbs ≤ maxTime then some time else none

/-- `getUTCFullYear`. -/
def getUTCFullYear (date : Int) : Int := (civilFromDays (date / 86400000)).1

/-- `getUTCMonth`. -/
def getUTCMonth (date : Int) : Int := (civilFromDays (date / 86400000)).2.1 - 1

/-- `getUTCDate`. -/
def getUTCDate (date : Int) : Int := (civilFromDays (date / 86400000)).2.2

/-- `getUTCHours`. -/
def getUTCHours (date : Int) : Int := date % 86400000 / 3600000

/-- `getUTCMinutes`. -/
def getUTCMinutes (date : Int) : Int := date % 86400000 / 60000 % 60

/-- `getUTCSeconds`. -/
def getUTCSeconds (date : Int) : Int := date % 86400000 / 1000 % 60

/-- `getUTCMilliseconds`. -/
def getUTCMilliseconds (date : Int) : Int := date % 86400000 % 1000

/-! ## The canonical time stamp -/

/-- `SOURCE_TIMESTAMP`: a fraction is shorter than the text. -/
def isSourceTimestamp (value : JsString) : Bool :=
  (List.range value.length).any fun fractionDigits => hasShape (utcShape fractionDigits) value

/-- `formatCanonical`. -/
def formatCanonical (date : Int) : JsString :=
  paddedText 4 (getUTCFullYear date) ++ js "-" ++ paddedText 2 (getUTCMonth date + 1) ++ js "-" ++
    paddedText 2 (getUTCDate date) ++ js "T" ++ paddedText 2 (getUTCHours date) ++ js ":" ++
    paddedText 2 (getUTCMinutes date) ++ js ":" ++ paddedText 2 (getUTCSeconds date) ++ js "." ++
    paddedText 3 (getUTCMilliseconds date) ++ js "Z"

/-- `canonicalOfflineNpmTimestamp`.  The groups of the match are digits, so that each is the
integer that it shows. -/
def canonicalOfflineNpmTimestamp (value : JsString) : Option JsString :=
  if value.length < 20 ∨ value.length > 64 then none
  else if isSourceTimestamp value = false then none
  else
    let year := fieldValue value 0 4
    let month := fieldValue value 5 2
    let day := fieldValue value 8 2
    let hour := fieldValue value 11 2
    let minute := fieldValue value 14 2
    let second := fieldValue value 17 2
    let fraction := fractionOf value
    if month < 1 ∨ month > 12 ∨ day < 1 ∨ hour > 23 ∨ minute > 59 ∨ second > 59 then none
    else
      let millisecond : Int := digitsValue ((fraction ++ js "000").take 3)
      match dateUtc year (month - 1) day hour minute second millisecond with
      | none => none
      | some date =>
          if getUTCFullYear date ≠ year ∨ getUTCMonth date ≠ month - 1 ∨ getUTCDate date ≠ day ∨
              getUTCHours date ≠ hour ∨ getUTCMinutes date ≠ minute ∨
              getUTCSeconds date ≠ second ∨ getUTCMilliseconds date ≠ millisecond then none
          else some (formatCanonical date)

/-- `isCanonicalOfflineNpmTimestamp`. -/
def isCanonicalOfflineNpmTimestamp (value : JsString) : Bool :=
  canonicalOfflineNpmTimestamp value == some value

/-! ## What a time stamp denotes -/

/-- A text of the form `YYYY-MM-DDTHH:mm:ss`, with a fraction or without one, and `Z`. -/
structure SourceText (value : JsString) (year month day hour minute second : Int)
    (fraction : JsString) : Prop where
  fits : FieldsFit year month day hour minute second
  digits : fraction.all isDigit = true
  text : value = isoTextBefore year month day hour minute second (fractionText fraction)

/-- The date is one of the calendar, and the time is one of the day. -/
def Exists (year month day hour minute second : Int) : Prop :=
  IsCivil year month day ∧ hour ≤ 23 ∧ minute ≤ 59 ∧ second ≤ 59

/-- The instant, in seconds since the epoch. -/
def instantOf (year month day hour minute second : Int) (fraction : JsString) : Rat :=
  secondOf year month day hour minute second + (digitsValue fraction : Rat) / 10 ^ fraction.length

/-- The milliseconds since the epoch that have passed at the instant. -/
def millisecondsOf (year month day hour minute second : Int) (fraction : JsString) : Int :=
  ⌊instantOf year month day hour minute second fraction * 1000⌋

/-! ## Reading -/

section Reading

variable {value : JsString} {year month day hour minute second : Int} {fraction : JsString}

theorem SourceText.length (h : SourceText value year month day hour minute second fraction) :
    value.length = 19 + (fractionText fraction).length := by
  rw [h.text, isoTextBefore_eq, List.length_append, h.fits.length]

/-- The pattern matches the texts of this form. -/
theorem isSourceTimestamp_iff : isSourceTimestamp value = true ↔
    ∃ year month day hour minute second fraction,
      SourceText value year month day hour minute second fraction := by
  constructor
  · intro h
    obtain ⟨fractionDigits, -, hshape⟩ := List.any_eq_true.1 h
    obtain ⟨year, month, day, hour, minute, second, fraction, hfits, hdigits, -, htext⟩ :=
      exists_fieldsOfShape hshape
    exact ⟨year, month, day, hour, minute, second, fraction, hfits, hdigits, htext⟩
  · rintro ⟨year, month, day, hour, minute, second, fraction, h⟩
    refine List.any_eq_true.2 ⟨fraction.length, List.mem_range.2 ?_, ?_⟩
    · have hlength := h.length
      have hfraction : fraction.length ≤ (fractionText fraction).length := by
        unfold fractionText
        split
        · next hnone => exact le_of_eq_of_le (congrArg List.length hnone) (Nat.zero_le _)
        · rw [List.length_append, List.length_append]
          omega
      omega
    · rw [h.text]
      exact hasShape_utcFields h.fits h.digits

/-- The milliseconds of a fraction. -/
def fractionMillisecond (fraction : JsString) : Int :=
  digitsValue ((fraction ++ js "000").take 3)

theorem fractionMillisecond_eq (hdigits : fraction.all isDigit = true) :
    fractionMillisecond fraction = (digitsValue fraction * 1000 / 10 ^ fraction.length : Nat) :=
  congrArg Int.ofNat (digitsValue_take hdigits 3)

theorem fractionMillisecond_bounds (hdigits : fraction.all isDigit = true) :
    0 ≤ fractionMillisecond fraction ∧ fractionMillisecond fraction ≤ 999 := by
  have hless : digitsValue fraction * 1000 / 10 ^ fraction.length < 1000 := by
    rw [Nat.div_lt_iff_lt_mul (by positivity), Nat.mul_comm]
    exact Nat.mul_lt_mul_of_pos_left (digitsValue_lt hdigits) (by decide)
  rw [fractionMillisecond_eq hdigits]
  generalize digitsValue fraction * 1000 / 10 ^ fraction.length = millisecond at *
  omega

/-- The instant, cut off after the milliseconds. -/
theorem millisecondsOf_eq (hdigits : fraction.all isDigit = true) :
    millisecondsOf year month day hour minute second fraction =
      secondOf year month day hour minute second * 1000 + fractionMillisecond fraction := by
  rw [fractionMillisecond_eq hdigits]
  unfold millisecondsOf instantOf
  have hsplit : ((secondOf year month day hour minute second : Rat) +
      (digitsValue fraction : Rat) / 10 ^ fraction.length) * 1000 =
        ((secondOf year month day hour minute second * 1000 : Int) : Rat) +
          ((digitsValue fraction * 1000 : Nat) : Rat) / ((10 ^ fraction.length : Nat) : Rat) := by
    push_cast
    ring
  rw [hsplit, Int.floor_intCast_add, Rat.floor_natCast_div_natCast, Int.natCast_ediv]

/-- The fields of a `Date` from those of the day and the time. -/
theorem date_fields (days : Int) {millisecond : Int} (hhour : 0 ≤ hour ∧ hour ≤ 23)
    (hminute : 0 ≤ minute ∧ minute ≤ 59) (hsecond : 0 ≤ second ∧ second ≤ 59)
    (hmillisecond : 0 ≤ millisecond ∧ millisecond ≤ 999) (date : Int)
    (hdate : date = (((days * 24 + hour) * 60 + minute) * 60 + second) * 1000 + millisecond) :
    date / 86400000 = days ∧ getUTCHours date = hour ∧ getUTCMinutes date = minute ∧
      getUTCSeconds date = second ∧ getUTCMilliseconds date = millisecond := by
  unfold getUTCHours getUTCMinutes getUTCSeconds getUTCMilliseconds
  omega

/-- The year that `Date.UTC` takes a year for. -/
def utcYear (year : Int) : Int := if year ≤ 99 then 1900 + year else year

/-- `Date.UTC` of a month and a day in their widths. -/
theorem dateUtc_eq {millisecond : Int}
    (hyear : 0 ≤ year ∧ year ≤ 9999) (hmonth : 1 ≤ month ∧ month ≤ 12)
    (hday : 1 ≤ day ∧ day ≤ 99) (hhour : 0 ≤ hour ∧ hour ≤ 23) (hminute : 0 ≤ minute ∧ minute ≤ 59)
    (hsecond : 0 ≤ second ∧ second ≤ 59) (hmillisecond : 0 ≤ millisecond ∧ millisecond ≤ 999) :
    dateUtc year (month - 1) day hour minute second millisecond =
      some (secondOf (utcYear year) month day hour minute second * 1000 + millisecond) := by
  have hfull : (if 0 ≤ year ∧ year ≤ 99 then 1900 + year else year) = utcYear year := by
    simp only [hyear.1, true_and, utcYear]
  unfold dateUtc
  dsimp only
  rw [hfull]
  have hrange : 0 ≤ utcYear year ∧ utcYear year ≤ 9999 := by
    unfold utcYear
    split
    all_goals omega
  generalize utcYear year = fullYear at *
  have hdays : daysFromCivil (fullYear + (month - 1) / 12) ((month - 1) % 12 + 1) 1 + (day - 1) =
      daysFromCivil fullYear month day := by
    rw [show fullYear + (month - 1) / 12 = fullYear by omega,
      show (month - 1) % 12 + 1 = month by omega]
    unfold daysFromCivil
    dsimp only
    omega
  have hbounds : -800000 ≤ daysFromCivil fullYear month day ∧
      daysFromCivil fullYear month day ≤ 4000000 := by
    unfold daysFromCivil
    dsimp only
    split
    all_goals omega
  rw [hdays, if_pos (by unfold maxTime; omega)]
  rfl

/-- What becomes of a text whose fields are in their ranges: it is accepted if its date is found
again. -/
theorem canonical_read (h : SourceText value year month day hour minute second fraction)
    (hlong : 20 ≤ value.length) (hshort : value.length ≤ 64) (hmonth : 1 ≤ month ∧ month ≤ 12)
    (hday : 1 ≤ day) (hhour : hour ≤ 23) (hminute : minute ≤ 59) (hsecond : second ≤ 59) :
    canonicalOfflineNpmTimestamp value =
      if civilFromDays (daysFromCivil (utcYear year) month day) = (year, month, day) then
        some (isoText year month day hour minute second (fractionMillisecond fraction))
      else none := by
  obtain ⟨hy, hmo, hd, hh, hmi, hs, -⟩ := h.fits.read (fractionText fraction)
  rw [← h.text] at hy hmo hd hh hmi hs
  have hsource : isSourceTimestamp value = true :=
    isSourceTimestamp_iff.2 ⟨year, month, day, hour, minute, second, fraction, h⟩
  have hfraction : fractionOf value = fraction := by
    rw [h.text, fractionOf_isoTextBefore h.fits h.digits]
  have hmillisecond := fractionMillisecond_bounds h.digits
  have hdate := dateUtc_eq ⟨h.fits.year.1, Int.le_of_lt_add_one h.fits.year.2⟩ hmonth
    ⟨hday, Int.le_of_lt_add_one h.fits.day.2⟩ ⟨h.fits.hour.1, hhour⟩ ⟨h.fits.minute.1, hminute⟩
    ⟨h.fits.second.1, hsecond⟩ hmillisecond
  obtain ⟨hdays, hhours, hminutes, hseconds, hmilliseconds⟩ := date_fields
    (daysFromCivil (utcYear year) month day) ⟨h.fits.hour.1, hhour⟩ ⟨h.fits.minute.1, hminute⟩
    ⟨h.fits.second.1, hsecond⟩ hmillisecond
    (secondOf (utcYear year) month day hour minute second * 1000 + fractionMillisecond fraction) rfl
  have hread : ((digitsValue ((fraction ++ js "000").take 3) : Nat) : Int) =
      fractionMillisecond fraction := rfl
  unfold canonicalOfflineNpmTimestamp
  dsimp only
  rw [hy, hmo, hd, hh, hmi, hs, hfraction, hread, hdate, hsource, if_neg (by omega),
    if_neg (by decide), if_neg (by omega)]
  dsimp only
  generalize secondOf (utcYear year) month day hour minute second * 1000 +
    fractionMillisecond fraction = date at *
  by_cases hfound : civilFromDays (daysFromCivil (utcYear year) month day) = (year, month, day)
  · have hsame : ¬(getUTCFullYear date ≠ year ∨ getUTCMonth date ≠ month - 1 ∨
        getUTCDate date ≠ day ∨ getUTCHours date ≠ hour ∨ getUTCMinutes date ≠ minute ∨
          getUTCSeconds date ≠ second ∨
            getUTCMilliseconds date ≠ fractionMillisecond fraction) := by
      unfold getUTCFullYear getUTCMonth getUTCDate
      rw [hdays, hfound]
      simp [hhours, hminutes, hseconds, hmilliseconds]
    rw [if_neg hsame, if_pos hfound]
    unfold formatCanonical isoText isoTextBefore getUTCFullYear getUTCMonth getUTCDate
    rw [hdays, hfound, hhours, hminutes, hseconds, hmilliseconds, sub_add_cancel]
    simp only [List.append_assoc]
  · have hother : getUTCFullYear date ≠ year ∨ getUTCMonth date ≠ month - 1 ∨
        getUTCDate date ≠ day ∨ getUTCHours date ≠ hour ∨ getUTCMinutes date ≠ minute ∨
          getUTCSeconds date ≠ second ∨
            getUTCMilliseconds date ≠ fractionMillisecond fraction := by
      by_contra hall
      simp only [not_or, not_not] at hall
      obtain ⟨hyears, hmonths, hdates, -⟩ := hall
      unfold getUTCFullYear at hyears
      unfold getUTCMonth at hmonths
      unfold getUTCDate at hdates
      rw [hdays] at hyears hmonths hdates
      exact hfound (Prod.ext hyears (Prod.ext (by dsimp only; omega) hdates))
    rw [if_pos hother, if_neg hfound]

/-- The date is found again if the calendar has it and `Date.UTC` takes its year as it is. -/
theorem found_iff (hyear : 0 ≤ year) (hmonth : 1 ≤ month ∧ month ≤ 12) (hday : 1 ≤ day) :
    civilFromDays (daysFromCivil (utcYear year) month day) = (year, month, day) ↔
      100 ≤ year ∧ IsCivil year month day := by
  by_cases hcentury : year ≤ 99
  · refine ⟨fun h => absurd ?_ (lt_irrefl (daysFromCivil year month day)), fun h => by omega⟩
    have hsame := daysFromCivil_civilFromDays (daysFromCivil (utcYear year) month day)
    rw [h] at hsame
    dsimp only at hsame
    -- the twentieth century is later
    rw [utcYear, if_pos hcentury] at hsame
    unfold daysFromCivil at hsame
    dsimp only at hsame
    split at hsame
    all_goals omega
  · rw [utcYear, if_neg hcentury, civilFromDays_daysFromCivil_iff hmonth.1 hmonth.2 hday]
    exact ⟨fun h => ⟨by omega, h⟩, fun h => h.2⟩

/-- What is accepted of the texts of this form. -/
structure Accepted (value : JsString) (year month day hour minute second : Int) : Prop where
  long : 20 ≤ value.length
  short : value.length ≤ 64
  century : 100 ≤ year
  exist : Exists year month day hour minute second

theorem canonical_accepted (h : SourceText value year month day hour minute second fraction)
    (haccepted : Accepted value year month day hour minute second) :
    canonicalOfflineNpmTimestamp value =
      some (isoText year month day hour minute second (fractionMillisecond fraction)) := by
  obtain ⟨hlong, hshort, hcentury, hcivil, hhour, hminute, hsecond⟩ := haccepted
  rw [canonical_read h hlong hshort ⟨hcivil.1, hcivil.2.1⟩ hcivil.2.2.1 hhour hminute hsecond,
    if_pos ((found_iff h.fits.year.1 ⟨hcivil.1, hcivil.2.1⟩ hcivil.2.2.1).2 ⟨hcentury, hcivil⟩)]

/-- Nothing else is accepted of the texts of this form. -/
theorem accepted_of_some (h : SourceText value year month day hour minute second fraction)
    {result : JsString} (hresult : canonicalOfflineNpmTimestamp value = some result) :
    Accepted value year month day hour minute second := by
  have hsource : isSourceTimestamp value = true :=
    isSourceTimestamp_iff.2 ⟨year, month, day, hour, minute, second, fraction, h⟩
  have hlength : ¬(value.length < 20 ∨ value.length > 64) := by
    intro hlength
    rw [canonicalOfflineNpmTimestamp, if_pos hlength] at hresult
    exact absurd hresult nofun
  obtain ⟨hy, hmo, hd, hh, hmi, hs, -⟩ := h.fits.read (fractionText fraction)
  rw [← h.text] at hy hmo hd hh hmi hs
  have hranges : ¬(month < 1 ∨ month > 12 ∨ day < 1 ∨ hour > 23 ∨ minute > 59 ∨
      second > 59) := by
    intro hranges
    unfold canonicalOfflineNpmTimestamp at hresult
    dsimp only at hresult
    rw [hy, hmo, hd, hh, hmi, hs, if_neg hlength, hsource, if_neg (by decide),
      if_pos hranges] at hresult
    exact absurd hresult nofun
  have hmonth : 1 ≤ month ∧ month ≤ 12 := by omega
  rw [canonical_read h (by omega) (by omega) hmonth (by omega) (by omega) (by omega)
    (by omega), Option.ite_none_right_eq_some] at hresult
  obtain ⟨hcentury, hcivil⟩ := (found_iff h.fits.year.1 hmonth (by omega)).1 hresult.1
  exact ⟨by omega, by omega, hcentury, hcivil, by omega, by omega, by omega⟩

/-- Nothing else is accepted. -/
theorem exists_accepted {result : JsString}
    (h : canonicalOfflineNpmTimestamp value = some result) :
    ∃ year month day hour minute second fraction,
      SourceText value year month day hour minute second fraction ∧
        Accepted value year month day hour minute second := by
  have hsource : isSourceTimestamp value = true := by
    by_contra hother
    rw [canonicalOfflineNpmTimestamp, if_pos (Bool.eq_false_iff.2 hother), ite_self] at h
    exact absurd h nofun
  obtain ⟨year, month, day, hour, minute, second, fraction, htext⟩ :=
    isSourceTimestamp_iff.1 hsource
  exact ⟨year, month, day, hour, minute, second, fraction, htext, accepted_of_some htext h⟩

/-! ## Results -/

/-- The digits of the milliseconds are a fraction that shows them. -/
theorem fractionMillisecond_paddedText {millisecond : Int} (h : Fits 3 millisecond) :
    fractionMillisecond (paddedText 3 millisecond) = millisecond := by
  rw [fractionMillisecond, List.take_left' (length_paddedText (by decide) h),
    digitsValue_paddedText]
  exact Int.natAbs_of_nonneg h.1

/-- A result is a text of this form again, with three digits of the fraction. -/
theorem sourceText_isoText (hfits : FieldsFit year month day hour minute second)
    {millisecond : Int} (hmillisecond : Fits 3 millisecond) :
    SourceText (isoText year month day hour minute second millisecond) year month day hour minute
      second (paddedText 3 millisecond) := by
  refine ⟨hfits, isDigit_paddedText 3 millisecond, ?_⟩
  have hlength := length_paddedText (show 0 < 3 by decide) hmillisecond
  rw [isoText, fractionText, if_neg (List.length_pos_iff.1 (by omega))]

/-- A result is accepted and mapped to itself. -/
theorem canonical_idempotent {result : JsString}
    (h : canonicalOfflineNpmTimestamp value = some result) :
    canonicalOfflineNpmTimestamp result = some result := by
  obtain ⟨year, month, day, hour, minute, second, fraction, htext, haccepted⟩ :=
    exists_accepted h
  rw [canonical_accepted htext haccepted] at h
  cases h
  have hbounds := fractionMillisecond_bounds htext.digits
  have hmillisecond : Fits 3 (fractionMillisecond fraction) := ⟨hbounds.1, by omega⟩
  have hagain := sourceText_isoText htext.fits hmillisecond
  have hthree := length_paddedText (show 0 < 3 by decide) hmillisecond
  have hlength := hagain.length
  rw [fractionText, if_neg (List.length_pos_iff.1 (by omega)), List.length_append,
    List.length_append, hthree] at hlength
  have hpoint : (js ".").length = 1 := rfl
  have hz : (js "Z").length = 1 := rfl
  rw [canonical_accepted hagain ⟨by omega, by omega, haccepted.century, haccepted.exist⟩,
    fractionMillisecond_paddedText hmillisecond]

/-- A result is the text of the instant that is cut off. -/
theorem isoText_eq (h : SourceText value year month day hour minute second fraction)
    (haccepted : Accepted value year month day hour minute second) :
    InIsoYears (millisecondsOf year month day hour minute second fraction) ∧
      isoText year month day hour minute second (fractionMillisecond fraction) =
        toISOString (millisecondsOf year month day hour minute second fraction) := by
  obtain ⟨-, -, -, hcivil, hhour, hminute, hsecond⟩ := haccepted
  rw [millisecondsOf_eq h.digits]
  obtain ⟨hdays, hhours, hminutes, hseconds, hmilliseconds⟩ := date_fields
    (daysFromCivil year month day) ⟨h.fits.hour.1, hhour⟩ ⟨h.fits.minute.1, hminute⟩
    ⟨h.fits.second.1, hsecond⟩ (fractionMillisecond_bounds h.digits)
    (secondOf year month day hour minute second * 1000 + fractionMillisecond fraction) rfl
  generalize secondOf year month day hour minute second * 1000 +
    fractionMillisecond fraction = date at *
  have hfound := civilFromDays_daysFromCivil hcivil
  rw [← hdays] at hfound
  have hyears : InIsoYears date := by
    rw [InIsoYears, hfound]
    exact ⟨h.fits.year.1, Int.le_of_lt_add_one h.fits.year.2⟩
  refine ⟨hyears, ?_⟩
  unfold getUTCHours at hhours
  unfold getUTCMinutes at hminutes
  unfold getUTCSeconds at hseconds
  unfold getUTCMilliseconds at hmilliseconds
  rw [toISOString_eq hyears, hfound, hhours, hminutes, hseconds, hmilliseconds]

/-- Texts of instants are in the order of their instants. -/
theorem compareCodeUnits_toISOString {instant instant' : Int} (h : InIsoYears instant)
    (h' : InIsoYears instant') :
    compareCodeUnits (toISOString instant) (toISOString instant') = compare instant instant' := by
  rcases lt_trichotomy instant instant' with hlt | rfl | hgt
  · rw [compareCodeUnits_toISOString_lt h h' hlt, compare_lt_iff_lt.2 hlt]
  · rw [compare_eq_iff_eq.2 rfl]
    exact Std.ReflCmp.compare_self
  · rw [@Std.OrientedCmp.eq_swap _ compareCodeUnits, compareCodeUnits_toISOString_lt h' h hgt,
      compare_gt_iff_gt.2 hgt]
    rfl

end Reading

/-- A string is accepted if and only if it has the form, a length from 20 to 64 and a year from
0100 on, and its date and time exist.  A result is accepted and mapped to itself, and results
are in the order of the instants that the strings denote, cut off after the milliseconds. -/
theorem canonicalOfflineNpmTimestamp_spec :
    (∀ value, (canonicalOfflineNpmTimestamp value).isSome = true ↔
      ∃ year month day hour minute second fraction,
        SourceText value year month day hour minute second fraction ∧
          Accepted value year month day hour minute second) ∧
    (∀ value result, canonicalOfflineNpmTimestamp value = some result →
      canonicalOfflineNpmTimestamp result = some result ∧
        isCanonicalOfflineNpmTimestamp result = true) ∧
    ∀ {value value' : JsString} {year month day hour minute second : Int} {fraction : JsString}
      {year' month' day' hour' minute' second' : Int} {fraction' : JsString}
      {result result' : JsString},
      SourceText value year month day hour minute second fraction →
      SourceText value' year' month' day' hour' minute' second' fraction' →
      canonicalOfflineNpmTimestamp value = some result →
      canonicalOfflineNpmTimestamp value' = some result' →
      compareCodeUnits result result' =
        compare (millisecondsOf year month day hour minute second fraction)
          (millisecondsOf year' month' day' hour' minute' second' fraction') := by
  refine ⟨fun value => ⟨fun h => ?_, fun h => ?_⟩, fun value result h => ?_, ?_⟩
  · obtain ⟨result, hresult⟩ := Option.isSome_iff_exists.1 h
    exact exists_accepted hresult
  · obtain ⟨year, month, day, hour, minute, second, fraction, htext, haccepted⟩ := h
    rw [canonical_accepted htext haccepted]
    rfl
  · have hagain := canonical_idempotent h
    refine ⟨hagain, ?_⟩
    rw [isCanonicalOfflineNpmTimestamp, hagain]
    exact beq_self_eq_true _
  · intro value value' year month day hour minute second fraction year' month' day' hour' minute'
      second' fraction' result result' htext htext' hresult hresult'
    have haccepted := accepted_of_some htext hresult
    have haccepted' := accepted_of_some htext' hresult'
    rw [canonical_accepted htext haccepted] at hresult
    rw [canonical_accepted htext' haccepted'] at hresult'
    cases hresult
    cases hresult'
    obtain ⟨hyears, htoISO⟩ := isoText_eq htext haccepted
    obtain ⟨hyears', htoISO'⟩ := isoText_eq htext' haccepted'
    rw [htoISO, htoISO', compareCodeUnits_toISOString hyears hyears']

/-- A fraction of four digits is cut off, on a leap day and after it. -/
theorem canonicalOfflineNpmTimestamp_spec_sample :
    canonicalOfflineNpmTimestamp (js "2024-02-29T23:59:59.999Z") =
        some (js "2024-02-29T23:59:59.999Z") ∧
      compareCodeUnits (js "2024-02-29T23:59:59.999Z") (js "2024-03-01T00:00:00.000Z") =
        compare (millisecondsOf 2024 2 29 23 59 59 (js "9999"))
          (millisecondsOf 2024 3 1 0 0 0 []) := by
  have hresult : canonicalOfflineNpmTimestamp (js "2024-02-29T23:59:59.9999Z") =
      some (js "2024-02-29T23:59:59.999Z") := by
    decide +kernel
  have hresult' : canonicalOfflineNpmTimestamp (js "2024-03-01T00:00:00Z") =
      some (js "2024-03-01T00:00:00.000Z") := by
    decide +kernel
  have hfits : ∀ {width : Nat} {n : Int}, decide (0 ≤ n ∧ n < 10 ^ width) = true →
      Fits width n := of_decide_eq_true
  have htext : SourceText (js "2024-02-29T23:59:59.9999Z") 2024 2 29 23 59 59 (js "9999") :=
    ⟨⟨hfits rfl, hfits rfl, hfits rfl, hfits rfl, hfits rfl, hfits rfl⟩, by decide,
      by decide +kernel⟩
  have htext' : SourceText (js "2024-03-01T00:00:00Z") 2024 3 1 0 0 0 [] :=
    ⟨⟨hfits rfl, hfits rfl, hfits rfl, hfits rfl, hfits rfl, hfits rfl⟩, by decide,
      by decide +kernel⟩
  exact ⟨(canonicalOfflineNpmTimestamp_spec.2.1 _ _ hresult).1,
    canonicalOfflineNpmTimestamp_spec.2.2 htext htext' hresult hresult'⟩

end PatchPilot.Matching.OfflineTimestamp
