/-
  Foundation/IsoDate.lean --- instants and their texts, as `Date` reads and writes them.

  An instant is a number of milliseconds since the epoch.  Its text has the form
  `YYYY-MM-DDTHH:mm:ss.sssZ`, in the Gregorian calendar without leap seconds.

  A UTC time stamp may leave out the fraction of its second or write up to six digits of
  it.  `Date` keeps three of them, and writes three.  Time stamps that are compared as
  texts are in the order of their instants only when they write their fractions alike.
-/
import Mathlib.Tactic.Tauto
import PatchPilot.Foundation.JsonText
import PatchPilot.Foundation.TextShape

set_option autoImplicit false

namespace PatchPilot.Foundation

/-! ## The calendar -/

/-- A leap year. -/
def isLeapYear (year : Int) : Bool :=
  decide (year % 4 = 0) && (decide (year % 100 ≠ 0) || decide (year % 400 = 0))

/-- The days of a month. -/
def daysInMonth (year month : Int) : Int :=
  if month = 2 then if isLeapYear year then 29 else 28
  else if month = 4 ∨ month = 6 ∨ month = 9 ∨ month = 11 then 30
  else 31

/-- The days between the epoch and a date.  A year is counted from March on, so that the
leap day comes last. -/
def daysFromCivil (year month day : Int) : Int :=
  let marchYear := if month ≤ 2 then year - 1 else year
  let marchMonth := if month ≤ 2 then month + 9 else month - 3
  let era := marchYear / 400
  let yearOfEra := marchYear - era * 400
  let dayOfYear := (153 * marchMonth + 2) / 5 + day - 1
  let dayOfEra := yearOfEra * 365 + yearOfEra / 4 - yearOfEra / 100 + dayOfYear
  era * 146097 + dayOfEra - 719468

/-- The date of a day. -/
def civilFromDays (days : Int) : Int × Int × Int :=
  let shifted := days + 719468
  let era := shifted / 146097
  let dayOfEra := shifted - era * 146097
  let yearOfEra := (dayOfEra - dayOfEra / 1460 + dayOfEra / 36524 - dayOfEra / 146096) / 365
  let dayOfYear := dayOfEra - (365 * yearOfEra + yearOfEra / 4 - yearOfEra / 100)
  let marchMonth := (5 * dayOfYear + 2) / 153
  let day := dayOfYear - (153 * marchMonth + 2) / 5 + 1
  let month := if marchMonth < 10 then marchMonth + 3 else marchMonth - 9
  let year := yearOfEra + era * 400 + if month ≤ 2 then 1 else 0
  (year, month, day)

/-! ## Texts -/

/-- The places of `YYYY-MM-DDTHH:mm:ss.sssZ`. -/
def isoShape : TextShape :=
  List.replicate 4 isDigit ++ exactly '-' :: List.replicate 2 isDigit ++
    exactly '-' :: List.replicate 2 isDigit ++ exactly 'T' :: List.replicate 2 isDigit ++
    exactly ':' :: List.replicate 2 isDigit ++ exactly ':' :: List.replicate 2 isDigit ++
    exactly '.' :: List.replicate 3 isDigit ++ [exactly 'Z']

/-- `/^\d{4}-\d{2}-\d{2}T\d{2}:\d{2}:\d{2}\.\d{3}Z$/`. -/
def isIsoText (s : JsString) : Bool := hasShape isoShape s

theorem isoShape_printable :
    ∀ place ∈ isoShape, ∀ u, place u = true → isPrintable u = true := by
  intro place hplace u hu
  simp only [isoShape, List.replicate, List.cons_append, List.nil_append, List.mem_cons,
    List.not_mem_nil, or_false] at hplace
  have hcases : place = isDigit ∨ place = exactly '-' ∨ place = exactly 'T' ∨
      place = exactly ':' ∨ place = exactly '.' ∨ place = exactly 'Z' := by tauto
  rcases hcases with rfl | rfl | rfl | rfl | rfl | rfl
  · exact isPrintable_of_isDigit hu
  all_goals exact isPrintable_of_exactly (by decide) hu

theorem isPrintable_of_isIsoText {s : JsString} (h : isIsoText s = true) :
    s.all isPrintable = true :=
  all_of_hasShape isoShape_printable h

/-- The number in a range of a text. -/
def fieldValue (s : JsString) (start length : Nat) : Int :=
  digitsValue ((s.drop start).take length)

/-- `new Date(text)` of a text of this form, for dates of the calendar only; `none` is an invalid
date.  A day that its month does not have, up to the 31st, and 24:00:00 are refused here, where
`Date` goes on to the next month or day as `parseUtc` below does. -/
def dateOfText (s : JsString) : Option Int :=
  let year := fieldValue s 0 4
  let month := fieldValue s 5 2
  let day := fieldValue s 8 2
  let hour := fieldValue s 11 2
  let minute := fieldValue s 14 2
  let second := fieldValue s 17 2
  let millisecond := fieldValue s 20 3
  if isIsoText s = false then none
  else if month < 1 ∨ month > 12 ∨ day < 1 ∨ day > daysInMonth year month then none
  else if hour > 23 ∨ minute > 59 ∨ second > 59 then none
  else
    some ((((daysFromCivil year month day * 24 + hour) * 60 + minute) * 60 + second) * 1000 +
      millisecond)

/-- A number with at least so many digits. -/
def paddedText (width : Nat) (n : Int) : JsString :=
  List.replicate (width - (decimalText n.natAbs).length) (unit '0') ++ decimalText n.natAbs

/-- `toISOString` of an instant in the years 0 to 9999. -/
def textOfDate (instant : Int) : JsString :=
  let (year, month, day) := civilFromDays (instant / 86400000)
  let inDay := instant % 86400000
  paddedText 4 year ++ js "-" ++ paddedText 2 month ++ js "-" ++ paddedText 2 day ++ js "T" ++
    paddedText 2 (inDay / 3600000) ++ js ":" ++ paddedText 2 (inDay / 60000 % 60) ++ js ":" ++
    paddedText 2 (inDay / 1000 % 60) ++ js "." ++ paddedText 3 (inDay % 1000) ++ js "Z"

example : (dateOfText (js "2026-11-04T18:00:00.005Z")).map textOfDate =
    some (js "2026-11-04T18:00:00.005Z") := by decide +kernel

/-! ## Time stamps with any number of fraction digits -/

/-- The places of `YYYY-MM-DDTHH:mm:ss`, a fraction of so many digits, and `Z`. -/
def utcShape (fractionDigits : Nat) : TextShape :=
  List.replicate 4 isDigit ++ exactly '-' :: List.replicate 2 isDigit ++
    exactly '-' :: List.replicate 2 isDigit ++ exactly 'T' :: List.replicate 2 isDigit ++
    exactly ':' :: List.replicate 2 isDigit ++ exactly ':' :: List.replicate 2 isDigit ++
    (if fractionDigits = 0 then [] else exactly '.' :: List.replicate fractionDigits isDigit) ++
    [exactly 'Z']

/-- `/^[0-9]{4}-[0-9]{2}-[0-9]{2}T[0-9]{2}:[0-9]{2}:[0-9]{2}(\.[0-9]{1,6})?Z$/`. -/
def isUtcTimestamp (s : JsString) : Bool :=
  (List.range 7).any fun fractionDigits => hasShape (utcShape fractionDigits) s

/-- The milliseconds that a fraction shows: its first three digits. -/
def fractionMilliseconds (s : JsString) : Int :=
  digitsValue ((((s.drop 20).filter isDigit) ++ js "000").take 3)

/-- `Date.parse` of such a time stamp; `none` is `NaN`.  A day up to the 31st is one of
every month, and 24:00:00 is the end of a day. -/
def parseUtc (s : JsString) : Option Int :=
  let year := fieldValue s 0 4
  let month := fieldValue s 5 2
  let day := fieldValue s 8 2
  let hour := fieldValue s 11 2
  let minute := fieldValue s 14 2
  let second := fieldValue s 17 2
  let millisecond := fractionMilliseconds s
  if isUtcTimestamp s = false then none
  else if month < 1 ∨ month > 12 ∨ day < 1 ∨ day > 31 then none
  else if minute > 59 ∨ second > 59 ∨ hour > 24 ∨
      (hour = 24 ∧ (minute ≠ 0 ∨ second ≠ 0 ∨ millisecond ≠ 0)) then none
  else
    some (((((daysFromCivil year month 1 + (day - 1)) * 24 + hour) * 60 + minute) * 60 + second) *
      1000 + millisecond)

/-! ## Writing -/

/-- A year as `toISOString` writes it. -/
def isoYear (year : Int) : JsString :=
  if 0 ≤ year ∧ year ≤ 9999 then paddedText 4 year
  else (if year < 0 then js "-" else js "+") ++ paddedText 6 year

/-- `toISOString`. -/
def toISOString (instant : Int) : JsString :=
  let year := (civilFromDays (instant / 86400000)).1
  isoYear year ++ (textOfDate instant).drop (paddedText 4 year).length

/-- `replace(/\.000Z$/, 'Z')`. -/
def withoutZeroFraction (s : JsString) : JsString :=
  if s.drop (s.length - 5) = js ".000Z" then s.take (s.length - 5) ++ js "Z" else s

example : (parseUtc (js "2026-11-04T18:00:00.25Z")).map (fun t => toISOString (t + 900000)) =
    some (js "2026-11-04T18:15:00.250Z") := by decide +kernel

end PatchPilot.Foundation
