import PatchPilot.Foundation.Comparator
import PatchPilot.Foundation.Fallible
import PatchPilot.Foundation.LengthPrefix
import PatchPilot.Foundation.Utf8
import Mathlib.Data.List.Pairwise

set_option autoImplicit false

/-!
# Osv listing: observations

A listing pass admits what the provider lists, tells apart any two observations, and at its
end sorts them into a canonical set whose digest does not depend on the order in which they
were listed.  SHA-256 is a parameter.
-/

namespace PatchPilot.Osv.Listing

open PatchPilot.Foundation

/-! ## What is listed -/

/-- `KnownOsvFamilyCandidate`. -/
inductive KnownOsvFamilyCandidate
  | mal | ghsa | pysec | go | rustsec | gsd | eefCve | osv | echo
  deriving DecidableEq

/-- The text of a known family. -/
def KnownOsvFamilyCandidate.text : KnownOsvFamilyCandidate → JsString
  | .mal => js "MAL"
  | .ghsa => js "GHSA"
  | .pysec => js "PYSEC"
  | .go => js "GO"
  | .rustsec => js "RUSTSEC"
  | .gsd => js "GSD"
  | .eefCve => js "EEF-CVE"
  | .osv => js "OSV"
  | .echo => js "ECHO"

theorem KnownOsvFamilyCandidate.text_injective :
    Function.Injective KnownOsvFamilyCandidate.text := by
  intro left right h
  cases left <;> cases right <;> first | rfl | exact absurd h (by decide)

/-- `OsvFamilyCandidate`. -/
inductive OsvFamilyCandidate
  | known (family : KnownOsvFamilyCandidate)
  | unknownUppercase (family : JsString)
  | unclassifiable
  deriving DecidableEq

/-- `OsvPreRetrievalClassification`. -/
inductive OsvPreRetrievalClassification
  | eligible (sourceIdentifier : JsString)
  | ineligible
  | legalReviewRequired (sourceIdentifier : Option JsString)
  | ambiguous
  | unknown
  deriving DecidableEq

/-- The `status` of a classification. -/
def OsvPreRetrievalClassification.status : OsvPreRetrievalClassification → JsString
  | .eligible _ => js "eligible"
  | .ineligible => js "ineligible"
  | .legalReviewRequired _ => js "legal_review_required"
  | .ambiguous => js "ambiguous"
  | .unknown => js "unknown"

/-- `ParsedOsvObjectKeySuccess`. -/
structure ParsedOsvObjectKey where
  providerPrefix : JsString
  providerKey : JsString
  familyCandidate : OsvFamilyCandidate
  deriving DecidableEq

/-- `OsvListedObjectObservation`. -/
structure OsvListedObjectObservation where
  parsedKey : ParsedOsvObjectKey
  generation : JsString
  declaredSizeBytes : Nat
  classification : OsvPreRetrievalClassification
  etag : Option JsString
  md5Hash : Option JsString
  contentType : Option JsString
  deriving DecidableEq

/-- `OSV_EXPECTED_JSON_CONTENT_TYPE`. -/
def osvExpectedJsonContentType : JsString := js "application/json"

/-- `OSV_PROVIDER_IDENTIFIER`. -/
def osvProviderIdentifier : JsString := js "osv"

/-- `OSV_INVENTORY_SCOPE_PROVIDER_PREFIXES`. -/
def osvInventoryScopeProviderPrefixes : List JsString :=
  [js "npm/", js "PyPI/", js "Go/", js "Maven/", js "NuGet/", js "crates.io/"]

/-! ## Canonical observations -/

/-- `OsvListingCanonicalObservation`. -/
structure OsvListingCanonicalObservation where
  providerIdentifier : JsString
  providerPrefix : JsString
  providerObjectKey : JsString
  providerObjectKeyDigest : JsString
  providerGeneration : JsString
  declaredByteCount : Nat
  contentType : Option JsString
  classificationStatus : JsString
  sourceIdentifier : Option JsString
  familyCandidate : OsvFamilyCandidate
  etagMetadata : Option JsString
  md5HashMetadata : Option JsString
  deriving DecidableEq

/-- The codes with which an observation is refused. -/
inductive ObservationCode
  | invalidField
  | invalidPrefix
  | immutableObservationConflict
  | providerKeyDigestConflict
  | duplicateObservation
  deriving DecidableEq

section

variable (sha256 : List UInt8 → JsString)

/-- `digestOsvProviderObjectKey`. -/
def digestOsvProviderObjectKey (providerObjectKey : JsString) : JsString :=
  sha256 (utf8Encode providerObjectKey)

/-- The canonical form of a listed observation. -/
def canonicalObservation (observation : OsvListedObjectObservation) :
    OsvListingCanonicalObservation where
  providerIdentifier := osvProviderIdentifier
  providerPrefix := observation.parsedKey.providerPrefix
  providerObjectKey := observation.parsedKey.providerKey
  providerObjectKeyDigest := digestOsvProviderObjectKey sha256 observation.parsedKey.providerKey
  providerGeneration := observation.generation
  declaredByteCount := observation.declaredSizeBytes
  contentType := observation.contentType
  classificationStatus := observation.classification.status
  sourceIdentifier :=
    match observation.classification with
    | .eligible sourceIdentifier => some sourceIdentifier
    | .legalReviewRequired sourceIdentifier => sourceIdentifier
    | _ => none
  familyCandidate := observation.parsedKey.familyCandidate
  etagMetadata := observation.etag
  md5HashMetadata := observation.md5Hash

/-- `admitOsvListingCanonicalObservation`. -/
def admitOsvListingCanonicalObservation (observation : OsvListedObjectObservation)
    (expectedPrefix : JsString) : Except ObservationCode OsvListingCanonicalObservation :=
  if observation.parsedKey.providerPrefix ≠ expectedPrefix then .error .invalidPrefix
  else if observation.contentType ≠ none ∧
      observation.contentType ≠ some osvExpectedJsonContentType then .error .invalidField
  else .ok (canonicalObservation sha256 observation)

end

/-- `familyKey`. -/
def familyKey : OsvFamilyCandidate → JsString
  | .known family => js "known:" ++ family.text
  | .unknownUppercase family => js "unknown_uppercase:" ++ family
  | .unclassifiable => js "unclassifiable"

/-- `listingObservationsEqual`. -/
def listingObservationsEqual (left right : OsvListingCanonicalObservation) : Bool :=
  decide (left.providerIdentifier = right.providerIdentifier) &&
  decide (left.providerPrefix = right.providerPrefix) &&
  decide (left.providerObjectKey = right.providerObjectKey) &&
  decide (left.providerObjectKeyDigest = right.providerObjectKeyDigest) &&
  decide (left.providerGeneration = right.providerGeneration) &&
  decide (left.declaredByteCount = right.declaredByteCount) &&
  decide (left.contentType = right.contentType) &&
  decide (left.classificationStatus = right.classificationStatus) &&
  decide (left.sourceIdentifier = right.sourceIdentifier) &&
  decide (familyKey left.familyCandidate = familyKey right.familyCandidate) &&
  decide (left.etagMetadata = right.etagMetadata) &&
  decide (left.md5HashMetadata = right.md5HashMetadata)

/-- `classifyOsvListingObservationPair`. -/
def classifyOsvListingObservationPair (left right : OsvListingCanonicalObservation) :
    Except ObservationCode Unit :=
  if left.providerObjectKeyDigest = right.providerObjectKeyDigest then
    if left.providerObjectKey ≠ right.providerObjectKey then .error .providerKeyDigestConflict
    else if left.providerGeneration = right.providerGeneration then
      if listingObservationsEqual left right then .error .duplicateObservation
      else .error .immutableObservationConflict
    else .ok ()
  else if left.providerObjectKey = right.providerObjectKey then
    .error .providerKeyDigestConflict
  else .ok ()

/-- The key and the generation of an observation. -/
def OsvListingCanonicalObservation.version (observation : OsvListingCanonicalObservation) :
    JsString × JsString :=
  (observation.providerObjectKey, observation.providerGeneration)

/-- Observations that are told apart differ in their key or in their generation. -/
theorem version_ne_of_classified {left right : OsvListingCanonicalObservation}
    (h : classifyOsvListingObservationPair left right = .ok ()) : left.version ≠ right.version := by
  intro hsame
  have hkey : left.providerObjectKey = right.providerObjectKey := congrArg Prod.fst hsame
  have hgeneration : left.providerGeneration = right.providerGeneration :=
    congrArg Prod.snd hsame
  unfold classifyOsvListingObservationPair at h
  rw [if_neg (not_not.mpr hkey), if_pos hgeneration, if_pos hkey] at h
  split at h
  · split at h <;> cases h
  · cases h

/-! ## The canonical set -/

/-- The rank of a prefix. -/
def prefixRank (providerPrefix : JsString) : Nat :=
  (osvInventoryScopeProviderPrefixes.idxOf? providerPrefix).getD 99

/-- `compareOsvListingCanonicalObservations`. -/
def compareOsvListingCanonicalObservations :
    OsvListingCanonicalObservation → OsvListingCanonicalObservation → Ordering :=
  compareLex (comapCmp compare fun o => prefixRank o.providerPrefix)
    (compareLex (comapCmp compareCodeUnits (·.providerObjectKey))
      (comapCmp compareCodeUnits (·.providerGeneration)))

instance : Std.TransCmp compareOsvListingCanonicalObservations := by
  unfold compareOsvListingCanonicalObservations
  infer_instance

/-- Observations that compare equal have one key and one generation. -/
theorem version_eq_of_compare {left right : OsvListingCanonicalObservation}
    (h : compareOsvListingCanonicalObservations left right = .eq) :
    left.version = right.version := by
  unfold compareOsvListingCanonicalObservations compareLex at h
  simp only [Ordering.then_eq_eq] at h
  obtain ⟨-, hkey, hgeneration⟩ := h
  exact Prod.ext (Std.LawfulEqCmp.eq_of_compare hkey) (Std.LawfulEqCmp.eq_of_compare hgeneration)

/-- `writeUint32BE`. -/
def writeUint32BE (value : Nat) : List UInt8 :=
  [(value / 2 ^ 24 % 256).toUInt8, (value / 2 ^ 16 % 256).toUInt8, (value / 2 ^ 8 % 256).toUInt8,
    (value % 256).toUInt8]

/-- `ABSENT_LENGTH`. -/
def absentLength : Nat := 0xFFFFFFFF

/-- `writeLengthPrefixed`. -/
def writeLengthPrefixed (value : JsString) : List UInt8 :=
  let bytes := utf8Encode value
  writeUint32BE bytes.length ++ bytes

/-- `writeOptional`. -/
def writeOptional : Option JsString → List UInt8
  | none => writeUint32BE absentLength
  | some value => writeLengthPrefixed value

/-- `encodeFamily`. -/
def encodeFamily : OsvFamilyCandidate → List UInt8
  | .known family => writeLengthPrefixed (js "known") ++ writeLengthPrefixed family.text
  | .unknownUppercase family =>
      writeLengthPrefixed (js "unknown_uppercase") ++ writeLengthPrefixed family
  | .unclassifiable => writeLengthPrefixed (js "unclassifiable") ++ writeUint32BE absentLength

/-- `encodeObservation`. -/
def encodeObservation (observation : OsvListingCanonicalObservation) : List UInt8 :=
  writeLengthPrefixed observation.providerIdentifier ++
  writeLengthPrefixed observation.providerPrefix ++
  writeLengthPrefixed observation.providerObjectKey ++
  writeLengthPrefixed observation.providerObjectKeyDigest ++
  writeLengthPrefixed observation.providerGeneration ++
  writeLengthPrefixed (decimalText observation.declaredByteCount) ++
  writeOptional observation.contentType ++
  writeLengthPrefixed observation.classificationStatus ++
  writeOptional observation.sourceIdentifier ++
  encodeFamily observation.familyCandidate ++
  writeOptional observation.etagMetadata ++
  writeOptional observation.md5HashMetadata

/-- `OSV_LISTING_CANONICAL_PASS_SET_ALGORITHM_IDENTIFIER`. -/
def osvListingCanonicalPassSetAlgorithmIdentifier : JsString :=
  js "osv_listing_canonical_pass_set_v1"

/-- `OsvListingCanonicalSetId`. -/
structure OsvListingCanonicalSetId where
  sha256 : JsString
  algorithm : JsString
  deriving DecidableEq

/-- 64 lower-case hexadecimal digits. -/
def isSha256Hex (s : JsString) : Bool := decide (s.length = 64) && s.all isLowerHex

/-- `createOsvListingCanonicalSetId`. -/
def createOsvListingCanonicalSetId (sha256 : JsString) : Option OsvListingCanonicalSetId :=
  if isSha256Hex sha256 then some ⟨sha256, osvListingCanonicalPassSetAlgorithmIdentifier⟩
  else none

/-- `OsvListingCanonicalPassSet`. -/
structure OsvListingCanonicalPassSet where
  identity : OsvListingCanonicalSetId
  observations : List OsvListingCanonicalObservation
  canonicalObservationCount : Nat
  rawObservationCount : Nat
  deriving DecidableEq

/-- The loop over the observations, after the ones that were admitted. -/
def admitDistinct (admitted : List OsvListingCanonicalObservation) :
    List OsvListingCanonicalObservation → Option (List OsvListingCanonicalObservation)
  | [] => some admitted
  | observation :: rest =>
      if admitted.any fun prior =>
          decide (prior.providerObjectKeyDigest = observation.providerObjectKeyDigest) &&
            decide (prior.providerObjectKey ≠ observation.providerObjectKey) then none
      else if admitted.all fun prior =>
          (classifyOsvListingObservationPair prior observation).isOk then
        admitDistinct (admitted ++ [observation]) rest
      else none

/-- The bytes whose digest is the identity of a set. -/
def canonicalPayload (ordered : List OsvListingCanonicalObservation) : List UInt8 :=
  writeLengthPrefixed osvListingCanonicalPassSetAlgorithmIdentifier ++
    writeUint32BE ordered.length ++ ordered.flatMap encodeObservation

/-- `constructOsvListingCanonicalPassSet`. -/
def constructOsvListingCanonicalPassSet (sha256 : List UInt8 → JsString)
    (observations : List OsvListingCanonicalObservation)
    (maxObservations : Nat) : Option OsvListingCanonicalPassSet := do
  if maxObservations < observations.length then none
  else
    let admitted ← admitDistinct [] observations
    let ordered := sortBy compareOsvListingCanonicalObservations admitted
    let identity ← createOsvListingCanonicalSetId (sha256 (canonicalPayload ordered))
    some ⟨identity, ordered, ordered.length, observations.length⟩

/-- Any two observations of a list are told apart. -/
def PairwiseDistinct (observations : List OsvListingCanonicalObservation) : Prop :=
  observations.Pairwise fun left right => classifyOsvListingObservationPair left right = .ok ()

/-- The canonical set of observations. -/
def canonicalSetOf (sha256 : List UInt8 → JsString)
    (observations : List OsvListingCanonicalObservation) : OsvListingCanonicalPassSet :=
  let ordered := sortBy compareOsvListingCanonicalObservations observations
  { identity := ⟨sha256 (canonicalPayload ordered), osvListingCanonicalPassSetAlgorithmIdentifier⟩
    observations := ordered
    canonicalObservationCount := observations.length
    rawObservationCount := observations.length }

/-- The canonical order of observations with different versions does not depend on the order
in which they were listed. -/
theorem sort_eq_of_versions {left right : List OsvListingCanonicalObservation}
    (hperm : left.Perm right) (hversions : left.Pairwise fun a b => a.version ≠ b.version) :
    sortBy compareOsvListingCanonicalObservations left =
      sortBy compareOsvListingCanonicalObservations right := by
  have hsame : ∀ a ∈ left, ∀ b ∈ left, a.version = b.version → a = b := by
    intro a ha b hb hversion
    by_contra hne
    have hsymm : Std.Symm fun a b : OsvListingCanonicalObservation => a.version ≠ b.version :=
      ⟨fun _ _ h => h.symm⟩
    exact hversions.forall ha hb hne hversion
  have hperm' : (sortBy compareOsvListingCanonicalObservations left).Perm
      (sortBy compareOsvListingCanonicalObservations right) :=
    (sortBy_perm _ left).trans (hperm.trans (sortBy_perm _ right).symm)
  refine hperm'.eq_of_pairwise ?_ (sortBy_pairwise _ left) (sortBy_pairwise _ right)
  intro a b ha hb hab hba
  have heq : compareOsvListingCanonicalObservations a b = .eq := by
    rw [@Std.OrientedCmp.eq_swap _ compareOsvListingCanonicalObservations _ b a] at hba
    revert hab hba
    cases compareOsvListingCanonicalObservations a b <;> decide
  refine hsame a ((sortBy_perm _ left).mem_iff.mp ha) b ?_ (version_eq_of_compare heq)
  exact hperm.mem_iff.mpr ((sortBy_perm _ right).mem_iff.mp hb)

end PatchPilot.Osv.Listing
