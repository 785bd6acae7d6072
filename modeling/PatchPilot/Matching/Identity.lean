import PatchPilot.Foundation.JsString
import PatchPilot.Matching.Version

set_option autoImplicit false

/-!
# Matching: npm package identity (`identity.ts`, `text.ts`)

An observed component names its package either by parts (ecosystem, namespace,
name) or by a package URL.  Both readings end in the same classification, whose
identity key is the ecosystem, the namespace and the name with a separator that
no npm name contains.  A package URL is percent-decoded exactly once, and only to
ASCII.
-/

namespace PatchPilot.Matching

open PatchPilot.Foundation

/-- `SELECTED_FIRST_ECOSYSTEM` and `SELECTED_FIRST_ECOSYSTEM_PURL_TYPE`. -/
def selectedFirstEcosystem : JsString := js "npm"

/-- `NPM_PACKAGE_NAME_MAX_UTF8_BYTES`. -/
def npmPackageNameMaxUtf8Bytes : Nat := 214

/-- `FIRST_ECOSYSTEM_CANONICALIZATION_WORKSPACE_UTF8_BYTES`. -/
def firstEcosystemCanonicalizationWorkspaceUtf8Bytes : Nat := 1024

/-- `IDENTITY_SEPARATOR`, the unit separator `U+001F`. -/
def identitySeparator : UInt16 := 0x1F

/-! ## Percent decoding -/

/-- The value of a hexadecimal digit, `/^[0-9A-Fa-f]$/`. -/
def hexValue (u : UInt16) : Option UInt16 :=
  if isDigit u then some (u - 0x30)
  else if 0x61 ≤ u && u ≤ 0x66 then some (u - 0x61 + 10)
  else if 0x41 ≤ u && u ≤ 0x46 then some (u - 0x41 + 10)
  else none

/-- `percentDecodeOnce`: one pass, rejecting an escape that is incomplete or
denotes a NUL, a slash, a backslash or a non-ASCII byte. -/
def percentDecodeOnce : JsString → Option JsString
  | [] => some []
  | u :: rest =>
      if u = unit '%' then
        match rest with
        | high :: low :: tail => do
            let high ← hexValue high
            let low ← hexValue low
            let code := high * 16 + low
            if code = 0 ∨ code = 0x2F ∨ code = 0x5C ∨ code > 0x7F then none
            else return code :: (← percentDecodeOnce tail)
        | _ => none
      else if u > 0x7F then none
      else return u :: (← percentDecodeOnce rest)

/-! ## Identity by parts -/

/-- A qualifier or subpath is absent, or present and not part of the identity. -/
inductive PurlExtra
  | absent | nonIdentityExcluded
  deriving DecidableEq

/-- A valid identity. -/
structure NpmIdentity where
  ecosystem : JsString
  ns : Option JsString
  name : JsString
  canonicalName : JsString
  observedIdentity : JsString
  identityKey : JsString
  qualifiers : PurlExtra
  subpath : PurlExtra
  deriving DecidableEq

/-- `NpmIdentityClassification`. -/
inductive NpmIdentityClassification
  | valid (identity : NpmIdentity)
  | invalid (ecosystem observedIdentity : JsString)
  | unsupportedEcosystem (ecosystem observedIdentity : JsString)
  | capacityExceeded (ecosystem observedIdentity : JsString)
  deriving DecidableEq

/-- `NpmIdentityParts`. -/
structure NpmIdentityParts where
  ecosystem : JsString
  observedNamespace : Option JsString
  observedName : JsString
  observedIdentity : JsString
  deriving DecidableEq

/-- `canonicalName`. -/
def canonicalName (ns : Option JsString) (name : JsString) : JsString :=
  match ns with
  | none => name
  | some ns => ns ++ unit '/' :: name

/-- `[a-z0-9]`. -/
def isNpmNameStart (u : UInt16) : Bool := isLower u || isDigit u

/-- `[a-z0-9._-]`. -/
def isNpmNameUnit (u : UInt16) : Bool :=
  isNpmNameStart u || u == unit '.' || u == unit '_' || u == unit '-'

/-- `NPM_NAME_PATTERN`, `/^[a-z0-9][a-z0-9._-]*$/`. -/
def matchesNpmNamePattern : JsString → Bool
  | [] => false
  | first :: rest => isNpmNameStart first && rest.all isNpmNameUnit

/-- `validNpmName`. -/
def validNpmName (value : JsString) : Bool :=
  matchesNpmNamePattern value &&
    !([js "node_modules", js "favicon.ico"].contains value)

/-- `validNamespace`. -/
def validNamespace : JsString → Bool
  | [] => false
  | first :: rest => first == unit '@' && validNpmName rest

/-- The identity key of a namespace and a name. -/
def npmIdentityKey (ns : Option JsString) (name : JsString) : JsString :=
  selectedFirstEcosystem ++ identitySeparator :: ns.getD [] ++ identitySeparator :: name

/-- `classifyNpmPackageIdentityFromParts`. -/
def classifyNpmPackageIdentityFromParts (input : NpmIdentityParts) :
    NpmIdentityClassification :=
  let observedIdentity := input.observedIdentity
  if input.ecosystem ≠ selectedFirstEcosystem then
    .unsupportedEcosystem input.ecosystem observedIdentity
  else
    let ns := input.observedNamespace
    let name := input.observedName
    let canonical := canonicalName ns name
    let identityKey := npmIdentityKey ns name
    if ns.any (!validNamespace ·) then .invalid input.ecosystem observedIdentity
    else if !validNpmName name then .invalid input.ecosystem observedIdentity
    else if utf8ByteLength name > npmPackageNameMaxUtf8Bytes ∨
        ns.any (utf8ByteLength · > npmPackageNameMaxUtf8Bytes) ∨
        utf8ByteLength canonical > npmPackageNameMaxUtf8Bytes then
      .capacityExceeded input.ecosystem observedIdentity
    else if utf8ByteLength identityKey >
        firstEcosystemCanonicalizationWorkspaceUtf8Bytes then
      .capacityExceeded input.ecosystem observedIdentity
    else if observedIdentity ≠ canonical then
      .invalid input.ecosystem observedIdentity
    else .valid
      { ecosystem := selectedFirstEcosystem, ns := ns, name := name
        canonicalName := canonical, observedIdentity := observedIdentity
        identityKey := identityKey, qualifiers := .absent, subpath := .absent }

/-! ## Identity by package URL -/

/-- `ParsedPurl`, without the type, which is always `npm` here. -/
structure ParsedPurl where
  ns : Option JsString
  name : JsString
  version : Option JsString
  qualifierCount : Nat
  subpathPresent : Bool
  deriving DecidableEq

/-- The two failures of `parseNpmPurl`. -/
inductive PurlFailure
  | invalid | wrongType
  deriving DecidableEq

/-- The loop over the qualifier pairs, with the keys seen so far.  It returns
the number of keys. -/
def countQualifiers : List JsString → List JsString → Option Nat
  | [], seen => some seen.length
  | pair :: rest, seen =>
      match cutAtFirst (unit '=') pair with
      | (_, none) => none
      | (key, some _) =>
          if key.isEmpty || !key.all isNpmNameUnit || seen.contains key then none
          else countQualifiers rest (key :: seen)

/-- The parts after the name: version, qualifiers and subpath, removed in the
order of the source.  The remaining text is the namespace and the name. -/
def parsePurlRemainder (remainder : JsString) : Option ParsedPurl := do
  let (remainder, subpath) := cutAtFirst (unit '#') remainder
  if subpath.any (fun text => text.isEmpty || (percentDecodeOnce text).isNone) then none
  let (remainder, query) := cutAtFirst (unit '?') remainder
  let qualifierCount ← match query with
    | none => some 0
    | some text => if text.isEmpty then none else countQualifiers (text.splitOn (unit '&')) []
  let (remainder, rawVersion) := cutAtFirst (unit '@') remainder
  let version ← match rawVersion with
    | none => some none
    | some raw => do
        let decoded ← percentDecodeOnce raw
        if decoded.isEmpty || raw.contains (unit '/') then none else some (some decoded)
  match remainder.splitOn (unit '/') with
  | [nameSegment] => do
      if nameSegment.isEmpty then none
      let name ← percentDecodeOnce nameSegment
      return ⟨none, name, version, qualifierCount, subpath.isSome⟩
  | [namespaceSegment, nameSegment] => do
      if namespaceSegment.isEmpty || nameSegment.isEmpty then none
      let name ← percentDecodeOnce nameSegment
      let ns ← percentDecodeOnce namespaceSegment
      return ⟨some ns, name, version, qualifierCount, subpath.isSome⟩
  | _ => none

/-- `parseNpmPurl`. -/
def parseNpmPurl (value : JsString) : Except PurlFailure ParsedPurl :=
  if !(js "pkg:").isPrefixOf value then .error .invalid
  else
    match cutAtFirst (unit '/') (value.drop 4) with
    | (_, none) => .error .invalid
    | (type, some remainder) =>
        if type.isEmpty then .error .invalid
        else if type ≠ selectedFirstEcosystem then .error .wrongType
        else
          match parsePurlRemainder remainder with
          | none => .error .invalid
          | some parsed => .ok parsed

/-- `classifyNpmPackageIdentityFromPurl`: the classification and the version of
the package URL. -/
def classifyNpmPackageIdentityFromPurl (purl : JsString) :
    NpmIdentityClassification × Option JsString :=
  match parseNpmPurl purl with
  | .error .wrongType =>
      (.unsupportedEcosystem (((purl.drop 4).splitOn (unit '/')).headD []) purl, none)
  | .error .invalid => (.invalid selectedFirstEcosystem purl, none)
  | .ok parsed =>
      match classifyNpmPackageIdentityFromParts
          ⟨selectedFirstEcosystem, parsed.ns, parsed.name,
            canonicalName parsed.ns parsed.name⟩ with
      | .valid identity =>
          (.valid { identity with
            observedIdentity := purl
            qualifiers := if parsed.qualifierCount = 0 then .absent else .nonIdentityExcluded
            subpath := if parsed.subpathPresent then .nonIdentityExcluded else .absent },
            parsed.version)
      | .invalid ecosystem _ => (.invalid ecosystem purl, parsed.version)
      | .unsupportedEcosystem ecosystem _ => (.unsupportedEcosystem ecosystem purl, parsed.version)
      | .capacityExceeded ecosystem _ => (.capacityExceeded ecosystem purl, parsed.version)

end PatchPilot.Matching
