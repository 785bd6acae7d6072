import PatchPilot.Foundation.Grouping
import PatchPilot.Osv.Lease
import PatchPilot.Osv.Listing.Observations
import PatchPilot.Policy.CanonicalText

set_option autoImplicit false

/-!
# Osv: planning an acquisition (`orchestration/planning.ts`)

The plan is built in one pass over the supplied observations.  Two maps are kept: the key of
every digest, and the first observation of every version with the fingerprint of its
metadata.  Both only compare a later observation with the first one, and agreement passes
from the first to all others; so the order in which the observations were supplied shows
neither in the verdict nor in the plan.  SHA-256 is a parameter.
-/

namespace PatchPilot.Osv.Planning

open PatchPilot.Foundation
open PatchPilot.Osv.Listing
open PatchPilot.Policy

/-! ## Object keys -/

/-- `OsvObjectKeyValidationFailureCode`. -/
inductive OsvObjectKeyValidationFailureCode
  | keyEmpty
  | keyExceedsMaxBytes
  | keyInvalidUtf8
  | keyContainsControlCharacter
  | keyContainsBackslash
  | keyContainsQuery
  | keyContainsFragment
  | keyContainsPercentEncoding
  | keyMissingSuffix
  | keyWrongSuffixCase
  | keyNoSlash
  | keyNestedPath
  | prefixNotInInventoryScope
  | basenameEmpty
  | basenameIsDot
  | basenameIsDotdot
  | basenameIsAllZip
  | basenameIsModifiedIdCsv
  | basenameUsesEcosystemsPrefix
  deriving DecidableEq

/-- `OSV_OBJECT_KEY_MAX_BYTES`. -/
def osvObjectKeyMaxBytes : Nat := 512

/-- `OSV_OBJECT_KEY_REQUIRED_SUFFIX`. -/
def osvObjectKeyRequiredSuffix : JsString := js ".json"

/-- `extractOsvFamilyCandidate`. -/
def extractOsvFamilyCandidate (basename : JsString) : OsvFamilyCandidate :=
  if basename.length = 0 then .unclassifiable
  else if (js "EEF-CVE-").isPrefixOf basename then .known .eefCve
  else
    let candidate := basename.takeWhile (· ≠ unit '-')
    if candidate.length = 0 then .unclassifiable
    else if !candidate.all isUpper then .unclassifiable
    else if candidate = js "MAL" then .known .mal
    else if candidate = js "GHSA" then .known .ghsa
    else if candidate = js "PYSEC" then .known .pysec
    else if candidate = js "GO" then .known .go
    else if candidate = js "RUSTSEC" then .known .rustsec
    else if candidate = js "GSD" then .known .gsd
    else if candidate = js "OSV" then .known .osv
    else if candidate = js "ECHO" then .known .echo
    else .unknownUppercase candidate

/-- `key.substring(key.lastIndexOf('.'))` of a key with a dot. -/
def fromLastDot (key : JsString) : JsString :=
  unit '.' :: (key.reverse.takeWhile (· ≠ unit '.')).reverse

/-- `parseOsvObjectKey`. -/
def parseOsvObjectKey (key : JsString) :
    Except OsvObjectKeyValidationFailureCode ParsedOsvObjectKey :=
  if key.length = 0 then .error .keyEmpty
  else if utf8ByteLength key > osvObjectKeyMaxBytes then .error .keyExceedsMaxBytes
  else if !isAscii key then .error .keyInvalidUtf8
  else if key.any fun u => u ≤ 0x1F || u = 0x7F then .error .keyContainsControlCharacter
  else if unit '\\' ∈ key then .error .keyContainsBackslash
  else if unit '?' ∈ key then .error .keyContainsQuery
  else if unit '#' ∈ key then .error .keyContainsFragment
  else if unit '%' ∈ key then .error .keyContainsPercentEncoding
  else if unit '.' ∉ key then .error .keyMissingSuffix
  else if toLowerCase (fromLastDot key) ≠ osvObjectKeyRequiredSuffix then .error .keyMissingSuffix
  else if fromLastDot key ≠ osvObjectKeyRequiredSuffix then .error .keyWrongSuffixCase
  else if (js "ecosystems/").isPrefixOf key then .error .basenameUsesEcosystemsPrefix
  else if unit '/' ∉ key then .error .keyNoSlash
  else
    let providerPrefix := key.takeWhile (· ≠ unit '/') ++ [unit '/']
    let afterPrefix := key.drop providerPrefix.length
    let basename := afterPrefix.take (afterPrefix.length - osvObjectKeyRequiredSuffix.length)
    if unit '/' ∈ afterPrefix then .error .keyNestedPath
    else if providerPrefix ∉ osvInventoryScopeProviderPrefixes then
      .error .prefixNotInInventoryScope
    else if basename.length = 0 then .error .basenameEmpty
    else if basename = js "." then .error .basenameIsDot
    else if basename = js ".." then .error .basenameIsDotdot
    else if basename = js "all" then .error .basenameIsAllZip
    else if basename = js "modified_id" then .error .basenameIsModifiedIdCsv
    else .ok ⟨providerPrefix, key, extractOsvFamilyCandidate basename⟩

/-- A parsed key keeps the key that was parsed. -/
theorem parseOsvObjectKey_ok {key : JsString} {parsed : ParsedOsvObjectKey}
    (h : parseOsvObjectKey key = .ok parsed) : parsed.providerKey = key := by
  unfold parseOsvObjectKey at h
  dsimp only at h
  simp only [guard_eq_ok] at h
  obtain ⟨-, -, -, -, -, -, -, -, -, -, -, -, -, -, -, -, -, -, -, -, hparsed⟩ := h
  cases hparsed
  rfl

/-- The key of an observation is what its text is parsed to. -/
def Parsed (observation : OsvListedObjectObservation) : Prop :=
  parseOsvObjectKey observation.parsedKey.providerKey = .ok observation.parsedKey

instance (observation : OsvListedObjectObservation) : Decidable (Parsed observation) :=
  inferInstanceAs (Decidable (_ = _))

/-- An observation is of this kind when it was made with a parsed key, whatever the key was. -/
theorem parsed_iff {observation : OsvListedObjectObservation} :
    Parsed observation ↔ ∃ key, parseOsvObjectKey key = .ok observation.parsedKey := by
  refine ⟨fun h => ⟨_, h⟩, ?_⟩
  rintro ⟨key, hkey⟩
  unfold Parsed
  rw [parseOsvObjectKey_ok hkey]
  exact hkey

/-! ## Observations -/

/-- The metadata that is fingerprinted. -/
structure FingerprintedMetadata where
  generation : JsString
  declaredSizeBytes : Nat
  classification : JsString
  etag : Option JsString
  md5Hash : Option JsString
  contentType : Option JsString
  family : JsString
  deriving DecidableEq

/-- The family of a key, or the kind of a family that is not known. -/
def familyText : OsvFamilyCandidate → JsString
  | .known family => family.text
  | .unknownUppercase _ => js "unknown_uppercase"
  | .unclassifiable => js "unclassifiable"

def fingerprintedMetadata (observation : OsvListedObjectObservation) : FingerprintedMetadata where
  generation := observation.generation
  declaredSizeBytes := observation.declaredSizeBytes
  classification := observation.classification.status
  etag := observation.etag
  md5Hash := observation.md5Hash
  contentType := observation.contentType
  family := familyText observation.parsedKey.familyCandidate

/-- A text, or `null`. -/
def textOrNull : Option JsString → JsonValue
  | none => .null
  | some text => .string text

/-- The object that is written for the fingerprint. -/
def fingerprintDocument (metadata : FingerprintedMetadata) : JsonValue :=
  .object [
    (js "generation", .string metadata.generation),
    (js "declaredSizeBytes", .number (.finite metadata.declaredSizeBytes)),
    (js "classification", .string metadata.classification),
    (js "etag", textOrNull metadata.etag),
    (js "md5Hash", textOrNull metadata.md5Hash),
    (js "contentType", textOrNull metadata.contentType),
    (js "family", .string metadata.family)]

/-- The bytes whose digest is the fingerprint. -/
def fingerprintBytes (metadata : FingerprintedMetadata) : List UInt8 :=
  utf8Encode (writeJson (jsonTexts exactText) (fingerprintDocument metadata))

/-- The key and the generation of an observation. -/
def version (observation : OsvListedObjectObservation) : JsString × JsString :=
  (observation.parsedKey.providerKey, observation.generation)

/-- `comparePlanned`. -/
def comparePlanned : OsvListedObjectObservation → OsvListedObjectObservation → Ordering :=
  compareLex (comapCmp compare fun o => prefixRank o.parsedKey.providerPrefix)
    (compareLex (comapCmp compareCodeUnits (·.parsedKey.providerKey))
      (comapCmp compareCodeUnits (·.generation)))

/-! ## The plan -/

/-- The codes with which a list of observations is refused. -/
inductive OsvAcquisitionPlanCode
  | observationOverflow
  | pendingCapacityExceeded
  | immutableConflict
  | duplicateDigestConflict
  | wrongInventoryScope
  deriving DecidableEq

/-- `OsvAcquisitionPlannedItem`. -/
structure OsvAcquisitionPlannedItem where
  observation : OsvListedObjectObservation
  providerObjectKeyDigest : JsString
  providerPrefix : JsString
  collapsedDuplicateCount : Nat
  deriving DecidableEq

/-- `OsvAcquisitionPlan`, where it is `ok`. -/
structure OsvAcquisitionPlan where
  items : List OsvAcquisitionPlannedItem
  suppliedCount : Nat
  processedCount : Nat
  deriving DecidableEq

/-- `maxObservationsPerInvocation`. -/
def maxObservationsPerInvocation : Nat := 32

/-- `pendingWorkMaximum`. -/
def pendingWorkMaximum : Nat := 32

/-- An entry of `byIdentity`. -/
structure IdentityEntry where
  observation : OsvListedObjectObservation
  fingerprint : JsString
  count : Nat
  deriving DecidableEq

/-- The two maps of the pass, in insertion order. -/
structure PlanMaps where
  byIdentity : List IdentityEntry
  digestToKey : List (JsString × JsString)
  deriving DecidableEq

section

variable (sha256 : List UInt8 → JsString)

/-- `metadataFingerprint`. -/
def metadataFingerprint (observation : OsvListedObjectObservation) : JsString :=
  sha256 (fingerprintBytes (fingerprintedMetadata observation))

/-- The digest of the key of an observation. -/
def keyDigest (observation : OsvListedObjectObservation) : JsString :=
  digestOsvProviderObjectKey sha256 observation.parsedKey.providerKey

/-- The `identity` of an observation. -/
def identityText (observation : OsvListedObjectObservation) : JsString :=
  keyDigest sha256 observation ++ unit ':' :: observation.generation

/-- `digestToKey`: a digest keeps its key. -/
def digestKeys :
    Grouping OsvListedObjectObservation (JsString × JsString) JsString OsvAcquisitionPlanCode where
  keyOf := keyDigest sha256
  key := Prod.fst
  create observation := (keyDigest sha256 observation, observation.parsedKey.providerKey)
  merge existing observation :=
    if existing.2 ≠ observation.parsedKey.providerKey then .error .duplicateDigestConflict
    else .ok (existing.1, observation.parsedKey.providerKey)
  key_create _ := rfl
  key_merge existing observation merged h := by
    split at h
    · cases h
    · cases h
      rfl

/-- `byIdentity`: an identity keeps its first observation and counts the others. -/
def identities :
    Grouping OsvListedObjectObservation IdentityEntry JsString OsvAcquisitionPlanCode where
  keyOf := identityText sha256
  key existing := identityText sha256 existing.observation
  create observation := ⟨observation, metadataFingerprint sha256 observation, 1⟩
  merge existing observation :=
    if existing.fingerprint ≠ metadataFingerprint sha256 observation then
      .error .immutableConflict
    else .ok { existing with count := existing.count + 1 }
  key_create _ := rfl
  key_merge existing observation merged h := by
    split at h
    · cases h
    · cases h
      rfl

/-- One observation of the pass. -/
def planOne (maps : PlanMaps) (observation : OsvListedObjectObservation) :
    Except OsvAcquisitionPlanCode PlanMaps := do
  if observation.parsedKey.providerPrefix ∉ osvInventoryScopeProviderPrefixes then
    .error .wrongInventoryScope
  else
    let digestToKey ← (digestKeys sha256).absorb maps.digestToKey observation
    let byIdentity ← (identities sha256).absorb maps.byIdentity observation
    .ok ⟨byIdentity, digestToKey⟩

/-- The item of an entry. -/
def planItem (entry : IdentityEntry) : Except OsvAcquisitionPlanCode OsvAcquisitionPlannedItem :=
  if entry.observation.parsedKey.providerPrefix ∉ osvInventoryScopeProviderPrefixes then
    .error .wrongInventoryScope
  else .ok {
    observation := entry.observation
    providerObjectKeyDigest := keyDigest sha256 entry.observation
    providerPrefix := entry.observation.parsedKey.providerPrefix
    collapsedDuplicateCount := entry.count }

/-- `planOsvAcquisitionObservations`. -/
def planOsvAcquisitionObservations (observations : List OsvListedObjectObservation) :
    Except OsvAcquisitionPlanCode OsvAcquisitionPlan := do
  if observations.length > maxObservationsPerInvocation then .error .observationOverflow
  else if observations.length > pendingWorkMaximum then .error .pendingCapacityExceeded
  else
    let maps ← observations.foldlM (planOne sha256) ⟨[], []⟩
    let items ← maps.byIdentity.mapM (planItem sha256)
    .ok ⟨sortBy (comapCmp comparePlanned (·.observation)) items, observations.length,
      items.length⟩

end

/-! ## Fingerprints -/

theorem textOrNull_injective : Function.Injective textOrNull := by
  intro left right h
  cases left with
  | none =>
      cases right with
      | none => rfl
      | some text => cases h
  | some text =>
      cases right with
      | none => cases h
      | some text' =>
          cases h
          rfl

theorem jsonWritable_textOrNull (text : Option JsString) : JsonWritable (textOrNull text) := by
  cases text with
  | none => exact .null
  | some text => exact .string text

/-- The names of the object, in their order. -/
def fingerprintNames : List JsString :=
  [js "generation", js "declaredSizeBytes", js "classification", js "etag", js "md5Hash",
    js "contentType", js "family"]

theorem jsonWritable_fingerprintDocument {metadata : FingerprintedMetadata}
    (h : metadata.declaredSizeBytes < 2 ^ 53) : JsonWritable (fingerprintDocument metadata) := by
  refine .object (show fingerprintNames.Nodup by simp [fingerprintNames, js_inj]) ?_
  simp only [List.forall_mem_cons, List.not_mem_nil, false_implies, implies_true, and_true]
  exact ⟨.string _, .number (isDouble_natCast h), .string _, jsonWritable_textOrNull _,
    jsonWritable_textOrNull _, jsonWritable_textOrNull _, .string _⟩

theorem fingerprintDocument_injective : Function.Injective fingerprintDocument := by
  intro left right h
  simp only [fingerprintDocument, JsonValue.object.injEq, List.cons.injEq, Prod.mk.injEq,
    JsonValue.string.injEq, JsonValue.number.injEq, JsNumber.finite.injEq, Nat.cast_inj, true_and,
    and_true] at h
  obtain ⟨hgeneration, hsize, hclassification, hetag, hmd5, hcontent, hfamily⟩ := h
  cases left
  cases right
  rw [FingerprintedMetadata.mk.injEq]
  exact ⟨hgeneration, hsize, hclassification, textOrNull_injective hetag,
    textOrNull_injective hmd5, textOrNull_injective hcontent, hfamily⟩

/-- Metadata with the same bytes are the same. -/
theorem fingerprintBytes_inj {left right : FingerprintedMetadata}
    (hleft : left.declaredSizeBytes < 2 ^ 53) (hright : right.declaredSizeBytes < 2 ^ 53)
    (h : fingerprintBytes left = fingerprintBytes right) : left = right :=
  fingerprintDocument_injective (writeJson_bytes_inj numbersReadBack_exactText
    (jsonWritable_fingerprintDocument hleft) (jsonWritable_fingerprintDocument hright) h)

/-! ## The pass -/

section

variable {sha256 : List UInt8 → JsString}

variable (sha256) in
theorem digestKeys_agreeing :
    (digestKeys sha256).Agreeing (·.parsedKey.providerKey) Prod.snd where
  create _ := rfl
  merged existing observation merged h := by
    obtain ⟨hsame, hmerged⟩ := guard_eq_ok.mp h
    cases hmerged
    exact ⟨not_not.mp hsame, (not_not.mp hsame).symm⟩
  accepts existing observation h := ⟨_, if_neg (not_not.mpr h)⟩

variable (sha256) in
theorem identities_agreeing :
    (identities sha256).Agreeing (metadataFingerprint sha256) IdentityEntry.fingerprint where
  create _ := rfl
  merged existing observation merged h := by
    obtain ⟨hsame, hmerged⟩ := guard_eq_ok.mp h
    cases hmerged
    exact ⟨not_not.mp hsame, rfl⟩
  accepts existing observation h := ⟨_, if_neg (not_not.mpr h)⟩

theorem identities_counting :
    (identities sha256).Counting IdentityEntry.observation IdentityEntry.count where
  create _ := ⟨rfl, rfl⟩
  merged existing observation merged h := by
    obtain ⟨-, hmerged⟩ := guard_eq_ok.mp h
    cases hmerged
    exact ⟨rfl, rfl⟩

/-- The pass checks the scope and fills both maps. -/
theorem pass_eq_ok {observations : List OsvListedObjectObservation} : ∀ {maps after : PlanMaps},
    observations.foldlM (planOne sha256) maps = .ok after ↔
      (∀ o ∈ observations, o.parsedKey.providerPrefix ∈ osvInventoryScopeProviderPrefixes) ∧
        observations.foldlM (digestKeys sha256).absorb maps.digestToKey =
          .ok after.digestToKey ∧
        observations.foldlM (identities sha256).absorb maps.byIdentity =
          .ok after.byIdentity := by
  induction observations with
  | nil =>
      intro maps after
      constructor
      · intro h
        cases h
        exact ⟨fun _ ho => absurd ho List.not_mem_nil, rfl, rfl⟩
      · rintro ⟨-, hdigests, hidentities⟩
        cases maps
        cases after
        cases hdigests
        cases hidentities
        rfl
  | cons observation rest ih =>
      intro maps after
      rw [List.foldlM_cons, List.foldlM_cons, List.foldlM_cons, bind_eq_ok, bind_eq_ok,
        bind_eq_ok, List.forall_mem_cons]
      constructor
      · rintro ⟨between, hone, hrest⟩
        obtain ⟨hscope, hone⟩ := guard_eq_ok.mp hone
        obtain ⟨digests, hdigest, hone⟩ := bind_eq_ok.mp hone
        obtain ⟨entries, hidentity, hone⟩ := bind_eq_ok.mp hone
        cases hone
        obtain ⟨hscopes, hdigests, hidentities⟩ := ih.mp hrest
        exact ⟨⟨not_not.mp hscope, hscopes⟩, ⟨digests, hdigest, hdigests⟩,
          ⟨entries, hidentity, hidentities⟩⟩
      · rintro ⟨⟨hscope, hscopes⟩, ⟨digests, hdigest, hdigests⟩,
          ⟨entries, hidentity, hidentities⟩⟩
        refine ⟨⟨entries, digests⟩, ?_, ih.mpr ⟨hscopes, hdigests, hidentities⟩⟩
        refine guard_eq_ok.mpr ⟨not_not.mpr hscope, ?_⟩
        exact bind_eq_ok.mpr ⟨digests, hdigest, bind_eq_ok.mpr ⟨entries, hidentity, rfl⟩⟩

/-! ## Accepted observations -/

variable (sha256) in
/-- Observations within the scope, whose digests tell their keys apart and whose versions
have one metadata each. -/
structure Consistent (observations : List OsvListedObjectObservation) : Prop where
  scope : ∀ o ∈ observations, o.parsedKey.providerPrefix ∈ osvInventoryScopeProviderPrefixes
  digests : ∀ a ∈ observations, ∀ b ∈ observations, keyDigest sha256 a = keyDigest sha256 b →
    a.parsedKey.providerKey = b.parsedKey.providerKey
  metadata : ∀ a ∈ observations, ∀ b ∈ observations, version a = version b →
    fingerprintedMetadata a = fingerprintedMetadata b

theorem Consistent.of_perm {observations other : List OsvListedObjectObservation}
    (h : Consistent sha256 observations) (hperm : observations.Perm other) :
    Consistent sha256 other where
  scope o ho := h.scope o (hperm.mem_iff.mpr ho)
  digests a ha b hb := h.digests a (hperm.mem_iff.mpr ha) b (hperm.mem_iff.mpr hb)
  metadata a ha b hb := h.metadata a (hperm.mem_iff.mpr ha) b (hperm.mem_iff.mpr hb)

variable (sha256) in
/-- The fingerprints of these observations do not collide. -/
def CollisionFree (observations : List OsvListedObjectObservation) : Prop :=
  ∀ a ∈ observations, ∀ b ∈ observations,
    metadataFingerprint sha256 a = metadataFingerprint sha256 b →
      fingerprintBytes (fingerprintedMetadata a) = fingerprintBytes (fingerprintedMetadata b)

/-- An identity is a digest and a generation: digests have one length. -/
theorem identityText_eq_iff (hhex : ∀ bytes, isSha256Hex (sha256 bytes) = true)
    {a b : OsvListedObjectObservation} :
    identityText sha256 a = identityText sha256 b ↔
      keyDigest sha256 a = keyDigest sha256 b ∧ a.generation = b.generation := by
  have hlength : ∀ o, (keyDigest sha256 o).length = 64 := by
    intro o
    have hdigest := hhex (utf8Encode o.parsedKey.providerKey)
    unfold isSha256Hex at hdigest
    rw [Bool.and_eq_true, decide_eq_true_eq] at hdigest
    exact hdigest.1
  constructor
  · intro h
    obtain ⟨hdigest, hbehind⟩ := List.append_inj h ((hlength a).trans (hlength b).symm)
    exact ⟨hdigest, List.cons_inj_right _ |>.mp hbehind⟩
  · rintro ⟨hdigest, hgeneration⟩
    unfold identityText
    rw [hdigest, hgeneration]

section

variable {observations : List OsvListedObjectObservation}
variable (hhex : ∀ bytes, isSha256Hex (sha256 bytes) = true)

include hhex

/-- Where digests tell keys apart, identities tell versions apart. -/
theorem identityText_eq_iff_version
    (hdigests : ∀ a ∈ observations, ∀ b ∈ observations,
      keyDigest sha256 a = keyDigest sha256 b → a.parsedKey.providerKey = b.parsedKey.providerKey)
    {a b : OsvListedObjectObservation} (ha : a ∈ observations) (hb : b ∈ observations) :
    identityText sha256 a = identityText sha256 b ↔ version a = version b := by
  rw [identityText_eq_iff hhex, version, version, Prod.mk.injEq]
  refine and_congr_left fun _ => ⟨hdigests a ha b hb, fun hkey => ?_⟩
  unfold keyDigest
  rw [hkey]

/-- Both maps can be filled exactly when the observations are consistent. -/
theorem consistent_iff (hsize : ∀ o ∈ observations, o.declaredSizeBytes < 2 ^ 53)
    (hfree : CollisionFree sha256 observations) :
    (∃ maps, observations.foldlM (planOne sha256) ⟨[], []⟩ = .ok maps) ↔
      Consistent sha256 observations := by
  have hdigests : (∃ kept, (digestKeys sha256).run observations = .ok kept) ↔ _ :=
    (digestKeys_agreeing sha256).run_isOk_iff
  have hidentities : (∃ kept, (identities sha256).run observations = .ok kept) ↔ _ :=
    (identities_agreeing sha256).run_isOk_iff
  constructor
  · rintro ⟨maps, hpass⟩
    obtain ⟨hscope, hdigest, hidentity⟩ := pass_eq_ok.mp hpass
    have hkeys := hdigests.mp ⟨_, hdigest⟩
    refine ⟨hscope, hkeys, fun a ha b hb hversion => ?_⟩
    have hsame := (identityText_eq_iff_version hhex hkeys ha hb).mpr hversion
    exact fingerprintBytes_inj (hsize a ha) (hsize b hb)
      (hfree a ha b hb (hidentities.mp ⟨_, hidentity⟩ a ha b hb hsame))
  · intro h
    obtain ⟨digestToKey, hdigest⟩ := hdigests.mpr h.digests
    obtain ⟨byIdentity, hidentity⟩ := hidentities.mpr fun a ha b hb hsame => by
      have hversion := (identityText_eq_iff_version hhex h.digests ha hb).mp hsame
      unfold metadataFingerprint
      rw [h.metadata a ha b hb hversion]
    exact ⟨⟨byIdentity, digestToKey⟩, pass_eq_ok.mpr ⟨h.scope, hdigest, hidentity⟩⟩

end

/-! ## The items -/

variable (sha256) in
/-- A plan of these observations: one item for each version, in strictly increasing order,
with the number of observations that it stands for. -/
structure PlanFor (observations : List OsvListedObjectObservation) (plan : OsvAcquisitionPlan) :
    Prop where
  item : ∀ item ∈ plan.items, item.observation ∈ observations ∧
    item.providerObjectKeyDigest = keyDigest sha256 item.observation ∧
    item.providerPrefix = item.observation.parsedKey.providerPrefix ∧
    item.collapsedDuplicateCount =
      observations.countP fun o => version o = version item.observation
  complete : ∀ o ∈ observations, ∃ item ∈ plan.items, version item.observation = version o
  distinct : (plan.items.map fun item => version item.observation).Nodup
  increasing : plan.items.Pairwise fun a b => comparePlanned a.observation b.observation = .lt
  supplied : plan.suppliedCount = observations.length
  processed : plan.processedCount = plan.items.length
  counted : (plan.items.map (·.collapsedDuplicateCount)).sum = plan.suppliedCount

instance : Std.TransCmp comparePlanned := by
  unfold comparePlanned
  infer_instance

/-- Observations that compare equal are of one version. -/
theorem version_eq_of_comparePlanned {a b : OsvListedObjectObservation}
    (h : comparePlanned a b = .eq) : version a = version b := by
  unfold comparePlanned compareLex at h
  simp only [Ordering.then_eq_eq] at h
  obtain ⟨-, hkey, hgeneration⟩ := h
  exact Prod.ext (Std.LawfulEqCmp.eq_of_compare hkey) (Std.LawfulEqCmp.eq_of_compare hgeneration)

variable (sha256) in
/-- The item of an entry within the scope. -/
def itemOf (entry : IdentityEntry) : OsvAcquisitionPlannedItem where
  observation := entry.observation
  providerObjectKeyDigest := keyDigest sha256 entry.observation
  providerPrefix := entry.observation.parsedKey.providerPrefix
  collapsedDuplicateCount := entry.count

theorem mapM_planItem {entries : List IdentityEntry}
    (hscope : ∀ entry ∈ entries,
      entry.observation.parsedKey.providerPrefix ∈ osvInventoryScopeProviderPrefixes) :
    entries.mapM (planItem sha256) = .ok (entries.map (itemOf sha256)) := by
  refine mapM_eq_ok.mpr (List.forall₂_map_right_iff.mpr (List.forall₂_same.mpr ?_))
  exact fun entry hentry => guard_eq_ok.mpr ⟨not_not.mpr (hscope entry hentry), rfl⟩

section

variable {observations : List OsvListedObjectObservation}
variable (hhex : ∀ bytes, isSha256Hex (sha256 bytes) = true)
variable (hmax : observations.length ≤ maxObservationsPerInvocation)
variable (hpending : observations.length ≤ pendingWorkMaximum)

include hmax hpending

/-- Within the limits the plan is read off the entries of the pass. -/
theorem plan_eq_ok {plan : OsvAcquisitionPlan} :
    planOsvAcquisitionObservations sha256 observations = .ok plan ↔
      ∃ maps, observations.foldlM (planOne sha256) ⟨[], []⟩ = .ok maps ∧
        plan = ⟨sortBy (comapCmp comparePlanned (·.observation))
          (maps.byIdentity.map (itemOf sha256)), observations.length,
          maps.byIdentity.length⟩ := by
  unfold planOsvAcquisitionObservations
  rw [guard_eq_ok, guard_eq_ok, and_iff_right (Nat.not_lt.mpr hmax),
    and_iff_right (Nat.not_lt.mpr hpending), bind_eq_ok]
  refine exists_congr fun maps => and_congr_right fun hpass => ?_
  obtain ⟨hscope, -, hidentity⟩ := pass_eq_ok.mp hpass
  have hitems := @mapM_planItem sha256 maps.byIdentity fun entry hentry =>
    hscope _ (identities_counting.entry hidentity hentry).1
  rw [hitems]
  constructor
  · intro h
    obtain ⟨items, hsame, h⟩ := bind_eq_ok.mp h
    cases hsame
    cases h
    rw [List.length_map]
  · rintro rfl
    refine bind_eq_ok.mpr ⟨_, rfl, ?_⟩
    rw [List.length_map]

include hhex

/-- What an accepted plan says. -/
theorem planFor_of_ok (hconsistent : Consistent sha256 observations) {plan : OsvAcquisitionPlan}
    (h : planOsvAcquisitionObservations sha256 observations = .ok plan) :
    PlanFor sha256 observations plan := by
  obtain ⟨maps, hpass, rfl⟩ := (plan_eq_ok hmax hpending).mp h
  obtain ⟨-, -, hidentity⟩ := pass_eq_ok.mp hpass
  have hentry := fun entry hentry => identities_counting.entry (e := entry) hidentity hentry
  have hversion := fun a ha b hb => identityText_eq_iff_version (a := a) (b := b) hhex
    hconsistent.digests ha hb
  obtain ⟨hnodup, hkeys⟩ := (identities sha256).run_keys hidentity
  have hperm := sortBy_perm (comapCmp comparePlanned fun i : OsvAcquisitionPlannedItem =>
    i.observation) (maps.byIdentity.map (itemOf sha256))
  have hmem : ∀ {item}, item ∈ sortBy (comapCmp comparePlanned (·.observation))
      (maps.byIdentity.map (itemOf sha256)) ↔
        ∃ entry ∈ maps.byIdentity, itemOf sha256 entry = item := fun {item} =>
    hperm.mem_iff.trans List.mem_map
  have hdistinct : ((maps.byIdentity.map (itemOf sha256)).map fun item =>
      version item.observation).Nodup := by
    rw [List.map_map, List.nodup_map_iff_inj_on (List.Nodup.of_map _ hnodup)]
    intro a ha b hb hsame
    refine (identities sha256).eq_of_key hidentity ha hb ?_
    exact (hversion _ (hentry a ha).1 _ (hentry b hb).1).mpr hsame
  have hdistinct' := ((hperm.map fun item => version item.observation).nodup_iff).mpr hdistinct
  refine ⟨?_, ?_, hdistinct', ?_, rfl, ?_, ?_⟩
  · intro item hitem
    obtain ⟨entry, hin, rfl⟩ := hmem.mp hitem
    obtain ⟨hfirst, -, hcount⟩ := hentry entry hin
    refine ⟨hfirst, rfl, rfl, hcount.trans ?_⟩
    refine List.countP_congr fun o ho => ?_
    rw [decide_eq_true_eq, decide_eq_true_eq]
    exact hversion o ho _ hfirst
  · intro o ho
    obtain ⟨entry, hin, hkey⟩ := List.mem_map.mp ((hkeys _).mpr (List.mem_map_of_mem ho))
    exact ⟨itemOf sha256 entry, hmem.mpr ⟨entry, hin, rfl⟩,
      (hversion _ (hentry entry hin).1 o ho).mp hkey⟩
  · have hsorted := sortBy_pairwise (comapCmp comparePlanned fun i : OsvAcquisitionPlannedItem =>
      i.observation) (maps.byIdentity.map (itemOf sha256))
    refine (hsorted.and (List.pairwise_map.mp hdistinct')).imp ?_
    rintro a b ⟨hle, hne⟩
    change (comparePlanned a.observation b.observation).isLE = true at hle
    cases hcompare : comparePlanned a.observation b.observation with
    | lt => rfl
    | eq => exact absurd (version_eq_of_comparePlanned hcompare) hne
    | gt =>
        rw [hcompare] at hle
        cases hle
  · rw [hperm.length_eq, List.length_map]
  · rw [(hperm.map (·.collapsedDuplicateCount)).sum_eq, List.map_map]
    exact identities_counting.sum_count hidentity

end

/-! ## Independence of the order -/

/-- An item without the metadata that its fingerprint leaves out. -/
structure PlannedReading where
  parsedKey : ParsedOsvObjectKey
  metadata : FingerprintedMetadata
  providerObjectKeyDigest : JsString
  providerPrefix : JsString
  collapsedDuplicateCount : Nat
  deriving DecidableEq

def reading (item : OsvAcquisitionPlannedItem) : PlannedReading where
  parsedKey := item.observation.parsedKey
  metadata := fingerprintedMetadata item.observation
  providerObjectKeyDigest := item.providerObjectKeyDigest
  providerPrefix := item.providerPrefix
  collapsedDuplicateCount := item.collapsedDuplicateCount

variable (sha256) in
/-- What the item of a version says, from any observation of that version. -/
def readingAmong (observations : List OsvListedObjectObservation)
    (observation : OsvListedObjectObservation) : PlannedReading where
  parsedKey := observation.parsedKey
  metadata := fingerprintedMetadata observation
  providerObjectKeyDigest := keyDigest sha256 observation
  providerPrefix := observation.parsedKey.providerPrefix
  collapsedDuplicateCount := observations.countP fun o => version o = version observation

/-- The order of the plan, as it shows in what the items say. -/
def compareReadings : PlannedReading → PlannedReading → Ordering :=
  compareLex (comapCmp compare fun r => prefixRank r.parsedKey.providerPrefix)
    (compareLex (comapCmp compareCodeUnits (·.parsedKey.providerKey))
      (comapCmp compareCodeUnits (·.metadata.generation)))

instance : Std.TransCmp compareReadings := by
  unfold compareReadings
  infer_instance

/-- Parsed keys are known from their texts. -/
theorem parsedKey_eq {a b : OsvListedObjectObservation} (ha : Parsed a) (hb : Parsed b)
    (h : a.parsedKey.providerKey = b.parsedKey.providerKey) : a.parsedKey = b.parsedKey := by
  unfold Parsed at ha hb
  rw [h, hb] at ha
  exact (Except.ok.inj ha).symm

section

variable {observations : List OsvListedObjectObservation} {plan : OsvAcquisitionPlan}

theorem PlanFor.reading_eq (h : PlanFor sha256 observations plan)
    {item : OsvAcquisitionPlannedItem} (hitem : item ∈ plan.items) :
    reading item = readingAmong sha256 observations item.observation := by
  obtain ⟨-, hdigest, hstart, hcount⟩ := h.item item hitem
  unfold reading readingAmong
  rw [hdigest, hstart, hcount]

/-- What a plan says is what its observations say. -/
theorem PlanFor.mem_readings (h : PlanFor sha256 observations plan)
    (hconsistent : Consistent sha256 observations) (hparsed : ∀ o ∈ observations, Parsed o)
    {r : PlannedReading} :
    r ∈ plan.items.map reading ↔ ∃ o ∈ observations, readingAmong sha256 observations o = r := by
  rw [List.mem_map]
  constructor
  · rintro ⟨item, hitem, rfl⟩
    exact ⟨item.observation, (h.item item hitem).1, (h.reading_eq hitem).symm⟩
  · rintro ⟨o, ho, rfl⟩
    obtain ⟨item, hitem, hversion⟩ := h.complete o ho
    have hkept := (h.item item hitem).1
    have hkey : item.observation.parsedKey = o.parsedKey :=
      parsedKey_eq (hparsed _ hkept) (hparsed o ho) (congrArg Prod.fst hversion)
    have hmetadata := hconsistent.metadata _ hkept o ho hversion
    refine ⟨item, hitem, ?_⟩
    rw [h.reading_eq hitem]
    unfold readingAmong keyDigest
    rw [hkey, hmetadata, hversion]

theorem PlanFor.readings_nodup (h : PlanFor sha256 observations plan) :
    (plan.items.map reading).Nodup := by
  have hversions : plan.items.map (fun item => version item.observation) =
      (plan.items.map reading).map fun r => (r.parsedKey.providerKey, r.metadata.generation) := by
    rw [List.map_map]
    rfl
  have hdistinct := h.distinct
  rw [hversions] at hdistinct
  exact List.Nodup.of_map _ hdistinct

/-- Plans of the same observations say the same, in the same order. -/
theorem PlanFor.readings_eq (h : PlanFor sha256 observations plan)
    (hconsistent : Consistent sha256 observations) (hparsed : ∀ o ∈ observations, Parsed o)
    {other : List OsvListedObjectObservation} (hperm : observations.Perm other)
    {plan' : OsvAcquisitionPlan} (h' : PlanFor sha256 other plan') :
    plan.items.map reading = plan'.items.map reading := by
  have hsame : readingAmong sha256 other = readingAmong sha256 observations := by
    funext o
    unfold readingAmong
    rw [hperm.countP_eq]
  have hmem : ∀ r, r ∈ plan.items.map reading ↔ r ∈ plan'.items.map reading := by
    intro r
    rw [h.mem_readings hconsistent hparsed, h'.mem_readings (hconsistent.of_perm hperm)
      fun o ho => hparsed o (hperm.mem_iff.mpr ho), hsame]
    exact exists_congr fun o => and_congr_left fun _ => hperm.mem_iff
  have hreadings : (plan.items.map reading).Perm (plan'.items.map reading) :=
    (List.perm_ext_iff_of_nodup h.readings_nodup h'.readings_nodup).mpr hmem
  have hordered : ∀ {observations plan}, PlanFor sha256 observations plan →
      (plan.items.map reading).Pairwise fun r r' => compareReadings r r' = .lt := fun h =>
    List.pairwise_map.mpr h.increasing
  refine hreadings.eq_of_pairwise ?_ (hordered h) (hordered h')
  intro r r' _ _ hlt hgt
  rw [@Std.OrientedCmp.eq_swap _ compareReadings _ r' r, hlt] at hgt
  cases hgt

end

section

variable {observations : List OsvListedObjectObservation}
variable (hhex : ∀ bytes, isSha256Hex (sha256 bytes) = true)
variable (hmax : observations.length ≤ maxObservationsPerInvocation)
variable (hpending : observations.length ≤ pendingWorkMaximum)
variable (hsize : ∀ o ∈ observations, o.declaredSizeBytes < 2 ^ 53)
variable (hfree : CollisionFree sha256 observations)

include hhex hmax hpending hsize hfree

/-- Exactly the lists that are consistent are planned. -/
theorem accepted_iff :
    (∃ plan, planOsvAcquisitionObservations sha256 observations = .ok plan) ↔
      Consistent sha256 observations := by
  rw [← consistent_iff hhex hsize hfree]
  constructor
  · rintro ⟨plan, hplan⟩
    obtain ⟨maps, hpass, -⟩ := (plan_eq_ok hmax hpending).mp hplan
    exact ⟨maps, hpass⟩
  · rintro ⟨maps, hpass⟩
    exact ⟨_, (plan_eq_ok hmax hpending).mpr ⟨maps, hpass, rfl⟩⟩

theorem rejected_iff :
    (∃ code, planOsvAcquisitionObservations sha256 observations = .error code) ↔
      ¬ Consistent sha256 observations := by
  rw [← accepted_iff hhex hmax hpending hsize hfree]
  cases planOsvAcquisitionObservations sha256 observations with
  | ok plan => exact iff_of_false nofun fun h => h ⟨plan, rfl⟩
  | error code => exact iff_of_true ⟨code, rfl⟩ nofun

end

theorem not_consistent_iff {observations : List OsvListedObjectObservation} :
    ¬ Consistent sha256 observations ↔
      (∃ o ∈ observations, o.parsedKey.providerPrefix ∉ osvInventoryScopeProviderPrefixes) ∨
      (∃ a ∈ observations, ∃ b ∈ observations,
        a.parsedKey.providerKey ≠ b.parsedKey.providerKey ∧
          keyDigest sha256 a = keyDigest sha256 b) ∨
      ∃ a ∈ observations, ∃ b ∈ observations, version a = version b ∧
        fingerprintedMetadata a ≠ fingerprintedMetadata b := by
  constructor
  · intro h
    by_contra hnone
    push Not at hnone
    obtain ⟨hscope, hdigests, hmetadata⟩ := hnone
    refine h ⟨hscope, fun a ha b hb hdigest => ?_, hmetadata⟩
    exact not_not.mp fun hkey => hdigests a ha b hb hkey hdigest
  · rintro (⟨o, ho, hscope⟩ | ⟨a, ha, b, hb, hkey, hdigest⟩ | ⟨a, ha, b, hb, hversion, hne⟩) h
    · exact hscope (h.scope o ho)
    · exact hkey (h.digests a ha b hb hdigest)
    · exact hne (h.metadata a ha b hb hversion)

end

/-- Within the limits a list of observations is refused exactly for a prefix outside the scope,
a digest of two keys, or a version with two metadata.  An accepted list is planned with one
item for each version, in strictly increasing order, and the counts sum to the number of
observations.  The order in which the observations were supplied changes neither the verdict
nor, for keys that were parsed, what the items say. -/
theorem planOsvAcquisitionObservations_spec (sha256 : List UInt8 → JsString)
    (hhex : ∀ bytes, isSha256Hex (sha256 bytes) = true)
    {observations : List OsvListedObjectObservation}
    (hmax : observations.length ≤ maxObservationsPerInvocation)
    (hpending : observations.length ≤ pendingWorkMaximum)
    (hsize : ∀ o ∈ observations, o.declaredSizeBytes < 2 ^ 53)
    (hfree : CollisionFree sha256 observations) :
    ((∃ code, planOsvAcquisitionObservations sha256 observations = .error code) ↔
      (∃ o ∈ observations, o.parsedKey.providerPrefix ∉ osvInventoryScopeProviderPrefixes) ∨
      (∃ a ∈ observations, ∃ b ∈ observations,
        a.parsedKey.providerKey ≠ b.parsedKey.providerKey ∧
          keyDigest sha256 a = keyDigest sha256 b) ∨
      ∃ a ∈ observations, ∃ b ∈ observations, version a = version b ∧
        fingerprintedMetadata a ≠ fingerprintedMetadata b) ∧
    (∀ plan, planOsvAcquisitionObservations sha256 observations = .ok plan →
      PlanFor sha256 observations plan) ∧
    ∀ other, observations.Perm other →
      ((∃ code, planOsvAcquisitionObservations sha256 other = .error code) ↔
        ∃ code, planOsvAcquisitionObservations sha256 observations = .error code) ∧
      ((∀ o ∈ observations, Parsed o) → ∀ plan plan',
        planOsvAcquisitionObservations sha256 observations = .ok plan →
          planOsvAcquisitionObservations sha256 other = .ok plan' →
            plan.items.map reading = plan'.items.map reading ∧
              plan.suppliedCount = plan'.suppliedCount ∧
              plan.processedCount = plan'.processedCount) := by
  have haccepted := accepted_iff hhex hmax hpending hsize hfree
  refine ⟨(rejected_iff hhex hmax hpending hsize hfree).trans not_consistent_iff,
    fun plan hplan => planFor_of_ok hhex hmax hpending (haccepted.mp ⟨plan, hplan⟩) hplan,
    fun other hperm => ?_⟩
  have hmax' : other.length ≤ maxObservationsPerInvocation := hperm.length_eq ▸ hmax
  have hpending' : other.length ≤ pendingWorkMaximum := hperm.length_eq ▸ hpending
  have hsize' : ∀ o ∈ other, o.declaredSizeBytes < 2 ^ 53 := fun o ho =>
    hsize o (hperm.mem_iff.mpr ho)
  have hfree' : CollisionFree sha256 other := fun a ha b hb =>
    hfree a (hperm.mem_iff.mpr ha) b (hperm.mem_iff.mpr hb)
  refine ⟨?_, fun hparsed plan plan' hplan hplan' => ?_⟩
  · rw [rejected_iff hhex hmax hpending hsize hfree,
      rejected_iff hhex hmax' hpending' hsize' hfree']
    exact not_congr ⟨fun h => h.of_perm hperm.symm, fun h => h.of_perm hperm⟩
  · have hconsistent := haccepted.mp ⟨plan, hplan⟩
    have h := planFor_of_ok hhex hmax hpending hconsistent hplan
    have h' := planFor_of_ok hhex hmax' hpending' (hconsistent.of_perm hperm) hplan'
    have hreadings := h.readings_eq hconsistent hparsed hperm h'
    have hlength := congrArg List.length hreadings
    rw [List.length_map, List.length_map] at hlength
    refine ⟨hreadings, ?_, ?_⟩
    · rw [h.supplied, h'.supplied, hperm.length_eq]
    · rw [h.processed, h'.processed, hlength]

/-! ## A plan -/

/-- An advisory of one package index. -/
def sampleAdvisory : OsvListedObjectObservation where
  parsedKey := ⟨js "npm/", js "npm/GHSA-aaaa.json", .known .ghsa⟩
  generation := js "1"
  declaredSizeBytes := 10
  classification := .eligible (js "github_advisory_database")
  etag := none
  md5Hash := none
  contentType := none

/-- An advisory of another. -/
def sampleOther : OsvListedObjectObservation where
  parsedKey := ⟨js "PyPI/", js "PyPI/PYSEC-1.json", .known .pysec⟩
  generation := js "2"
  declaredSizeBytes := 10
  classification := .eligible (js "pypa_advisory_database")
  etag := none
  md5Hash := none
  contentType := none

/-- The digests of the two keys and of the two fingerprints. -/
def sampleSha256 (bytes : List UInt8) : JsString :=
  if bytes.head? = some (unit 'n').toUInt8 then
    js "86dbb11b6046ced5a47bb29aad35c36639a7612eb6c148e15ccaf16f23e590df"
  else if bytes.head? = some (unit 'P').toUInt8 then
    js "f6d471c8dcf40023c6175a9bab383b5f228c3e918f4058db7e5fbf59708c8d29"
  else if bytes.getD 15 0 = (unit '1').toUInt8 then
    js "87106de815b6d671e5c8bbef8d2e2884d5bbc195d0f4e1ba8cbc47cc8c57cec5"
  else js "0d06158cc37960c84746f1594c05e905fafe2f026845b317fbc6c177aa00f8a0"

/-- An advisory that was listed twice, in two orders with another. -/
def sampleObservations : List OsvListedObjectObservation :=
  [sampleOther, sampleAdvisory, sampleAdvisory]

def sampleReordered : List OsvListedObjectObservation :=
  [sampleAdvisory, sampleOther, sampleAdvisory]

/-- The observations are accepted, and planned alike in both orders. -/
theorem planOsvAcquisitionObservations_spec_sample :
    (¬ ∃ code, planOsvAcquisitionObservations sampleSha256 sampleObservations = .error code) ∧
      (planOsvAcquisitionObservations sampleSha256 sampleObservations).map
          (fun plan => (plan.items.map reading, plan.suppliedCount, plan.processedCount)) =
        (planOsvAcquisitionObservations sampleSha256 sampleReordered).map
          (fun plan => (plan.items.map reading, plan.suppliedCount, plan.processedCount)) := by
  have hhex : ∀ bytes, isSha256Hex (sampleSha256 bytes) = true := by
    intro bytes
    unfold sampleSha256
    split_ifs <;> decide +kernel
  have hmem : ∀ o ∈ sampleObservations, o = sampleOther ∨ o = sampleAdvisory := by
    intro o ho
    simpa only [sampleObservations, List.mem_cons, List.not_mem_nil, or_false, or_self] using ho
  have hdiffers : metadataFingerprint sampleSha256 sampleOther ≠
      metadataFingerprint sampleSha256 sampleAdvisory := by
    decide +kernel
  have hfree : CollisionFree sampleSha256 sampleObservations := by
    intro a ha b hb hsame
    rcases hmem a ha with rfl | rfl <;> rcases hmem b hb with rfl | rfl
    · rfl
    · exact absurd hsame hdiffers
    · exact absurd hsame.symm hdiffers
    · rfl
  have hparsed : ∀ o ∈ sampleObservations, Parsed o := by
    intro o ho
    rcases hmem o ho with rfl | rfl
    · exact parsed_iff.mpr ⟨js "PyPI/PYSEC-1.json", by decide +kernel⟩
    · exact parsed_iff.mpr ⟨js "npm/GHSA-aaaa.json", by decide +kernel⟩
  obtain ⟨hrejected, -, horders⟩ := @planOsvAcquisitionObservations_spec sampleSha256 hhex
    sampleObservations (by decide) (by decide) (by decide) hfree
  obtain ⟨hsame, hplans⟩ := horders sampleReordered (.swap _ _ _)
  have haccepted :
      ¬ ∃ code, planOsvAcquisitionObservations sampleSha256 sampleObservations = .error code := by
    rw [hrejected]
    decide +kernel
  refine ⟨haccepted, ?_⟩
  cases hplan : planOsvAcquisitionObservations sampleSha256 sampleObservations with
  | error code => exact absurd ⟨code, hplan⟩ haccepted
  | ok plan =>
      cases hplan' : planOsvAcquisitionObservations sampleSha256 sampleReordered with
      | error code => exact absurd (hsame.mp ⟨code, hplan'⟩) haccepted
      | ok plan' =>
          obtain ⟨hreadings, hsupplied, hprocessed⟩ := hplans hparsed plan plan' hplan hplan'
          exact congrArg Except.ok (Prod.ext hreadings (Prod.ext hsupplied hprocessed))

end PatchPilot.Osv.Planning
