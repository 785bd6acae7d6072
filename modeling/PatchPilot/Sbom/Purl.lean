import PatchPilot.Matching.Identity
import PatchPilot.Sbom.Component

set_option autoImplicit false

/-!
# Sbom: package URLs (`purl.ts`)

Package URLs are read and written by the library `packageurl-js`, which is a parameter
here.  What the code relies on is stated as `PackageUrlJs.Documented`.
-/

namespace PatchPilot.Sbom

open PatchPilot.Foundation
open PatchPilot.Matching

/-! ## The library -/

/-- `PackageURL`, without qualifiers and subpath. -/
structure PackageURL where
  type : JsString
  ns : Option JsString
  name : JsString
  version : Option JsString
  deriving DecidableEq

/-- `packageurl-js`: `PackageURL.fromString`, and `new PackageURL(..).toString()` without
qualifiers and subpath.  `none` is a thrown error. -/
structure PackageUrlJs where
  fromString : JsString → Option PackageURL
  toString : PackageURL → Option JsString

/-- `optionalPurlPart`. -/
def optionalPurlPart (value : Option JsString) : Option JsString :=
  value.filter (·.length > 0)

/-- A parsed package URL without its version. -/
def PackageURL.withoutVersion (url : PackageURL) : PackageURL where
  type := url.type
  ns := optionalPurlPart url.ns
  name := url.name
  version := none

/-- The package URL of an npm package: the `@` of a scope is written as `%40`. -/
def npmPackageUrl (ns : Option JsString) (name : JsString) : JsString :=
  match ns with
  | none => js "pkg:npm/" ++ name
  | some scope => js "pkg:npm/%40" ++ scope.drop 1 ++ unit '/' :: name

/-- A package URL that is written is not empty. -/
def PackageUrlJs.Written (library : PackageUrlJs) : Prop :=
  ∀ url text, library.toString url = some text → text.length > 0

/-- What the code relies on in `packageurl-js`. -/
structure PackageUrlJs.Documented (library : PackageUrlJs) : Prop where
  /-- Namespace and name are percent-decoded. -/
  decodes : ∀ {purl : JsString} {identity : NpmIdentity} {version : Option JsString}
    {url : PackageURL}, classifyNpmPackageIdentityFromPurl purl = (.valid identity, version) →
      library.fromString purl = some url →
        url.withoutVersion = ⟨selectedFirstEcosystem, identity.ns, identity.name, none⟩
  /-- The `@` of a scope is percent-encoded, and the other characters of an npm name are
  written as they are. -/
  encodes : ∀ {ns : Option JsString} {name : JsString},
    (∀ scope ∈ ns, validNamespace scope) → validNpmName name →
      library.toString ⟨selectedFirstEcosystem, ns, name, none⟩ = some (npmPackageUrl ns name)
  /-- Packages with one canonical URL are one package. -/
  canonical : ∀ {purl other : JsString} {url url' : PackageURL} {text : JsString},
    library.fromString purl = some url → library.fromString other = some url' →
      library.toString url.withoutVersion = some text →
      library.toString url'.withoutVersion = some text →
        url.withoutVersion = url'.withoutVersion
  /-- A written package URL starts with `pkg:`. -/
  written : library.Written

/-- The library, on the package URLs of npm packages. -/
def npmPackageUrls : PackageUrlJs where
  fromString value :=
    match classifyNpmPackageIdentityFromPurl value with
    | (.valid identity, version) =>
        some ⟨selectedFirstEcosystem, identity.ns, identity.name, version⟩
    | _ => none
  toString url :=
    if url.type = selectedFirstEcosystem then
      some (npmPackageUrl url.ns url.name ++
        (url.version.map fun version => unit '@' :: version).getD [])
    else none

theorem npmPackageUrls_written : npmPackageUrls.Written := by
  intro url text h
  change (if url.type = selectedFirstEcosystem then _ else none) = some text at h
  split at h
  · cases h
    rw [List.length_append]
    have hprefix : (npmPackageUrl url.ns url.name).length > 0 := by
      unfold npmPackageUrl
      split
      · exact Nat.succ_pos _
      · exact Nat.succ_pos _
    omega
  · cases h

/-! ## Normalization -/

/-- `NormalizedPackageUrl`. -/
structure NormalizedPackageUrl where
  type : JsString
  ns : Option JsString
  name : JsString
  version : Option JsString
  versionless : JsString
  versioned : Option JsString
  deriving DecidableEq

section

variable (library : PackageUrlJs)

/-- `versioned` of `normalizePackageUrl`; `none` is a thrown error. -/
def listedVersioned (parsed : PackageURL) : Option (Option JsString) :=
  match optionalPurlPart parsed.version with
  | none => some none
  | some version =>
      (library.toString { parsed.withoutVersion with version := some version }).map some

/-- `normalizePackageUrl`; `none` is its error. -/
def normalizePackageUrl (value : JsString) : Option NormalizedPackageUrl := do
  let parsed ← library.fromString value
  let versionless ← library.toString parsed.withoutVersion
  let versioned ← listedVersioned library parsed
  some {
    type := parsed.type
    ns := optionalPurlPart parsed.ns
    name := parsed.name
    version := optionalPurlPart parsed.version
    versionless
    versioned }

/-- `versionedPackageUrl`; `none` is its error. -/
def versionedPackageUrl (identity : NormalizedPackageUrl) (version : JsString) :
    Option JsString :=
  library.toString ⟨identity.type, identity.ns, identity.name, some version⟩

/-- What a normalized package URL was parsed as. -/
theorem normalizePackageUrl_spec {value : JsString} {normalized : NormalizedPackageUrl}
    (h : normalizePackageUrl library value = some normalized) :
    ∃ parsed, library.fromString value = some parsed ∧
      library.toString parsed.withoutVersion = some normalized.versionless ∧
        normalized.type = parsed.type ∧ normalized.ns = optionalPurlPart parsed.ns ∧
          normalized.name = parsed.name := by
  obtain ⟨parsed, hparsed, h⟩ := Option.bind_eq_some_iff.mp h
  obtain ⟨versionless, hversionless, h⟩ := Option.bind_eq_some_iff.mp h
  obtain ⟨versioned, -, h⟩ := Option.bind_eq_some_iff.mp h
  cases h
  exact ⟨parsed, hparsed, hversionless, rfl, rfl, rfl⟩

end

end PatchPilot.Sbom
