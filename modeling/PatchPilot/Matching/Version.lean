import PatchPilot.Foundation.JsString
import PatchPilot.Foundation.Memo

set_option autoImplicit false

/-!
# Matching: observed npm versions (`version.ts`, `compare.ts`)

`classifyObservedNpmVersion` decides whether a raw version text is a strict
SemVer 2.0.0 version, and `compareStrictSemverCores` is the item 11 precedence
of two such versions.  Numeric identifiers stay decimal strings throughout, as in
the source: they are compared by length and then by code unit, never through a
number.

Build metadata does not take part in precedence, so precedence is an order on
the *core* of a version (`StrictSemverCore`), which has no build field.
-/

namespace PatchPilot.Matching

open PatchPilot.Foundation

/-- `NPM_RAW_VERSION_MAX_UTF8_BYTES`. -/
def npmRawVersionMaxUtf8Bytes : Nat := 256

/-- `NPM_VERSION_NUMERIC_IDENTIFIER_MAX_DIGITS`. -/
def npmVersionNumericIdentifierMaxDigits : Nat := 20

/-! ## Classification -/

/-- The parsed parts of a version of class `valid_strict_semver`. -/
structure StrictSemver where
  raw : JsString
  major : JsString
  minor : JsString
  patch : JsString
  prerelease : Option JsString
  build : Option JsString
  deriving DecidableEq

/-- `ObservedVersionClassification`.  Every class keeps the raw text; only a
strict SemVer version has parsed parts. -/
inductive ObservedVersionClassification
  | validStrictSemver (version : StrictSemver)
  | absent (raw : JsString)
  | malformed (raw : JsString)
  | unsupported (raw : JsString)
  | capacityExceeded (raw : JsString)
  deriving DecidableEq

/-- The classes themselves, the type of the field `classification`. -/
inductive VersionClass
  | validStrictSemver | absent | malformed | unsupported | capacityExceeded
  deriving DecidableEq

/-- The field `classification`. -/
def ObservedVersionClassification.classification :
    ObservedVersionClassification → VersionClass
  | .validStrictSemver _ => .validStrictSemver
  | .absent _ => .absent
  | .malformed _ => .malformed
  | .unsupported _ => .unsupported
  | .capacityExceeded _ => .capacityExceeded

/-- The three verdicts on a dot-separated identifier. -/
inductive IdentifierClass
  | valid | malformed | overflow
  deriving DecidableEq

/-- `classifyNumericIdentifier`: `/^(0|[1-9][0-9]*)$/`, then the digit bound. -/
def classifyNumericIdentifier (value : JsString) : IdentifierClass :=
  if !(value == js "0" ||
      (isDecimal value && value.head? != some (unit '0'))) then .malformed
  else if value.length > npmVersionNumericIdentifierMaxDigits then .overflow
  else .valid

/-- `[A-Za-z-]`. -/
def isAlphaOrHyphen (u : UInt16) : Bool := isLower u || isUpper u || u == unit '-'

/-- `[0-9A-Za-z-]`. -/
def isIdentifierUnit (u : UInt16) : Bool := isDigit u || isAlphaOrHyphen u

/-- The loop of `classifyPrerelease` over the dot-separated parts, with the flag
`overflow` the loop has set so far. -/
def classifyPrereleaseParts : List JsString → Bool → IdentifierClass
  | [], overflow => if overflow then .overflow else .valid
  | part :: rest, overflow =>
      if part.isEmpty then .malformed
      else if isDecimal part then
        match classifyNumericIdentifier part with
        | .malformed => .malformed
        | .overflow => classifyPrereleaseParts rest true
        | .valid => classifyPrereleaseParts rest overflow
      else if !part.all isIdentifierUnit || !part.any isAlphaOrHyphen then .malformed
      else classifyPrereleaseParts rest overflow

/-- `classifyPrerelease`. -/
def classifyPrerelease (value : JsString) : IdentifierClass :=
  if value.isEmpty then .malformed
  else classifyPrereleaseParts (value.splitOn (unit '.')) false

/-- `isBuildIdentifier`. -/
def isBuildIdentifier (value : JsString) : Bool :=
  !value.isEmpty && value.all isIdentifierUnit

/-- The text after the first occurrence of `separator`, when there is one, and
the text before it (`indexOf` and the two `slice` calls). -/
def cutAtFirst (separator : UInt16) (s : JsString) : JsString × Option JsString :=
  match s.idxOf? separator with
  | some i => (s.take i, some (s.drop (i + 1)))
  | none => (s, none)

/-- The characters that make a raw version a range expression. -/
def rangeExpressionUnits : List UInt16 :=
  ['*', '^', '~', '>', '<', ' ', ',', '!', '/'].map unit

/-- The part of `classifyObservedNpmVersion` after the screening checks: build
metadata, prerelease and the three numeric identifiers. -/
def classifyScreenedVersion (raw : JsString) : ObservedVersionClassification :=
  let (withoutBuild, buildText) := cutAtFirst (unit '+') raw
  if buildText.any (fun text =>
      text.isEmpty || (text.splitOn (unit '.')).any (!isBuildIdentifier ·)) then
    .malformed raw
  else
    let (core, prerelease) := cutAtFirst (unit '-') withoutBuild
    match core.splitOn (unit '.') with
    | [major, minor, patch] =>
        let numericParts := [major, minor, patch].map classifyNumericIdentifier
        if numericParts.any (· == .malformed) then .malformed raw
        else if numericParts.any (· == .overflow) then .unsupported raw
        else
          match prerelease.map classifyPrerelease with
          | some .overflow => .unsupported raw
          | some .malformed => .malformed raw
          | _ => .validStrictSemver ⟨raw, major, minor, patch, prerelease, buildText⟩
    | _ => .unsupported raw

/-- `classifyObservedNpmVersion`.  The source also accepts `null`, which it
treats as the empty text; no caller of the modelled code passes it. -/
def classifyObservedNpmVersion (raw : JsString) : ObservedVersionClassification :=
  if raw.isEmpty then .absent raw
  else if utf8ByteLength raw > npmRawVersionMaxUtf8Bytes then .capacityExceeded raw
  else if !isAscii raw || raw != trim raw || raw.any isWhiteSpace then .malformed raw
  else if raw.head? == some (unit 'v') || raw.head? == some (unit 'V') then
    .unsupported raw
  else if raw.any (rangeExpressionUnits.contains ·) then .unsupported raw
  else classifyScreenedVersion raw

/-! ## The version cache -/

/-- The `Map` one evaluation threads through its functions: raw texts with the
classification each was given. -/
abbrev VersionCache := Memo classifyObservedNpmVersion

/-- `rememberObservedNpmVersion`, which parses each raw text once. -/
def rememberObservedNpmVersion (raw : JsString) :
    StateM VersionCache ObservedVersionClassification :=
  Memo.remember raw

/-- Classification without a cache, as a `remember` operation that stores
nothing.  It is also what a caller that passes no cache gets. -/
def classifyEachTime (raw : JsString) : Id ObservedVersionClassification :=
  classifyObservedNpmVersion raw

theorem classifyEachTime_eq (raw : JsString) :
    classifyEachTime raw = pure (classifyObservedNpmVersion raw) := rfl

theorem remember_returns_classifyEachTime (raw : JsString) :
    Returns (rememberObservedNpmVersion raw) (classifyEachTime raw) :=
  Memo.remember_returns raw

/-! ## Precedence -/

/-- `StrictSemverCore`. -/
structure StrictSemverCore where
  major : JsString
  minor : JsString
  patch : JsString
  prerelease : Option (List JsString)
  deriving DecidableEq

/-- `NpmCompareResult`. -/
inductive NpmCompareResult
  | lessThan | equal | greaterThan | unknown
  deriving DecidableEq

/-- `compareDecimalIdentifiers`: the shorter numeral first, then code units. -/
def compareDecimalIdentifiers (left right : JsString) : Ordering :=
  if left.length ≠ right.length then
    if left.length < right.length then .lt else .gt
  else compareCodeUnits left right

/-- `comparePrereleaseIdentifier`. -/
def comparePrereleaseIdentifier (left right : JsString) : Ordering :=
  if isDecimal left && isDecimal right then compareDecimalIdentifiers left right
  else if isDecimal left && !isDecimal right then .lt
  else if !isDecimal left && isDecimal right then .gt
  else compareCodeUnits left right

/-- The loop of `comparePrerelease` over the two identifier lists. -/
def comparePrereleaseParts : List JsString → List JsString → Ordering
  | [], [] => .eq
  | [], _ :: _ => .lt
  | _ :: _, [] => .gt
  | leftPart :: left, rightPart :: right =>
      match comparePrereleaseIdentifier leftPart rightPart with
      | .eq => comparePrereleaseParts left right
      | compared => compared

/-- `comparePrerelease`.  A version without a prerelease follows every
prerelease of the same triple. -/
def comparePrerelease : Option (List JsString) → Option (List JsString) → Ordering
  | none, none => .eq
  | none, some _ => .gt
  | some _, none => .lt
  | some left, some right => comparePrereleaseParts left right

/-- `strictSemverCore`. -/
def strictSemverCore : ObservedVersionClassification → Option StrictSemverCore
  | .validStrictSemver version =>
      some ⟨version.major, version.minor, version.patch,
        version.prerelease.map (·.splitOn (unit '.'))⟩
  | _ => none

/-- The result word of a three-way comparison. -/
def compareResult : Ordering → NpmCompareResult
  | .lt => .lessThan
  | .eq => .equal
  | .gt => .greaterThan

/-- `compareStrictSemverCores`. -/
def compareStrictSemverCores (left right : StrictSemverCore) : NpmCompareResult :=
  match compareDecimalIdentifiers left.major right.major with
  | .eq =>
      match compareDecimalIdentifiers left.minor right.minor with
      | .eq =>
          match compareDecimalIdentifiers left.patch right.patch with
          | .eq => compareResult (comparePrerelease left.prerelease right.prerelease)
          | patch => compareResult patch
      | minor => compareResult minor
  | major => compareResult major

end PatchPilot.Matching
