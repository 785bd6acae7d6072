import PatchPilot.Foundation.IsoOrder
import PatchPilot.Foundation.SelfDelimiting
import PatchPilot.Foundation.WellFormedText
import PatchPilot.Osv.Listing.Observations

set_option autoImplicit false

/-!
# Osv listing: the bytes of a canonical set (`listing-pagination/observations.ts`)

The bytes whose digest names a set are its observations in canonical order, each with its
fields behind their lengths.  Every field says where it ends, and the length of an absent
field is the length of no text, so the bytes are those of one set only.
-/

namespace PatchPilot.Osv.Listing

open PatchPilot.Foundation

/-! ## What is encoded -/

/-- The texts of a family. -/
def familyTexts : OsvFamilyCandidate → List JsString
  | .known family => [family.text]
  | .unknownUppercase family => [family]
  | .unclassifiable => []

/-- The texts of an observation. -/
def OsvListingCanonicalObservation.texts (observation : OsvListingCanonicalObservation) :
    List JsString :=
  [observation.providerIdentifier, observation.providerPrefix, observation.providerObjectKey,
    observation.providerObjectKeyDigest, observation.providerGeneration,
    observation.classificationStatus] ++
  observation.contentType.toList ++ observation.sourceIdentifier.toList ++
  familyTexts observation.familyCandidate ++ observation.etagMetadata.toList ++
  observation.md5HashMetadata.toList

/-- A text that is well formed, and no longer than an engine has strings. -/
def Storable (s : JsString) : Prop := isWellFormed s = true ∧ s.length < 2 ^ 30

instance (s : JsString) : Decidable (Storable s) := inferInstanceAs (Decidable (_ ∧ _))

/-- An observation with such texts, and with a size that is a safe integer. -/
structure Encodable (observation : OsvListingCanonicalObservation) : Prop where
  texts : ∀ s ∈ observation.texts, Storable s
  byteCount : observation.declaredByteCount ≤ 9007199254740991

/-- `encodeOsvListingCanonicalPassSetBytesForTests`: what `constructOsvListingCanonicalPassSet`
puts under its digest. -/
def encodeOsvListingCanonicalPassSetBytesForTests
    (observations : List OsvListingCanonicalObservation) : List UInt8 :=
  canonicalPayload (sortBy compareOsvListingCanonicalObservations observations)

/-! ## Fields -/

/-- A number of 32 bits at the start of some bytes is known. -/
theorem writeUint32BE_append_inj {a b : Nat} {rest rest' : List UInt8} (ha : a < 2 ^ 32)
    (hb : b < 2 ^ 32) (h : writeUint32BE a ++ rest = writeUint32BE b ++ rest') :
    a = b ∧ rest = rest' := by
  obtain ⟨hbytes, hrest⟩ := List.append_inj h rfl
  refine ⟨?_, hrest⟩
  have hbyte : ∀ {n m : Nat}, (n % 256).toUInt8 = (m % 256).toUInt8 → n % 256 = m % 256 := by
    intro n m hnm
    have hnat := congrArg UInt8.toNat hnm
    rw [toNat_toUInt8_of_lt (Nat.mod_lt n (by decide)),
      toNat_toUInt8_of_lt (Nat.mod_lt m (by decide))] at hnat
    exact hnat
  unfold writeUint32BE at hbytes
  simp only [List.cons.injEq, and_true] at hbytes
  obtain ⟨h24, h16, h8, h0⟩ := hbytes
  have h24 := hbyte h24
  have h16 := hbyte h16
  have h8 := hbyte h8
  have h0 := hbyte h0
  omega

theorem Storable.length_lt {s : JsString} (h : Storable s) :
    (utf8Encode s).length < absentLength := by
  have hle := length_utf8Encode_le s
  have hlt := h.2
  unfold absentLength
  omega

theorem absentLength_lt : absentLength < 2 ^ 32 := by decide

/-- A text behind the number of its bytes. -/
theorem selfDelimiting_text : SelfDelimiting Storable writeLengthPrefixed where
  nonempty _ := nofun
  split {s t rest rest'} hs ht h := by
    unfold writeLengthPrefixed at h
    dsimp only at h
    rw [List.append_assoc, List.append_assoc] at h
    obtain ⟨hlength, htail⟩ := writeUint32BE_append_inj (hs.length_lt.trans absentLength_lt)
      (ht.length_lt.trans absentLength_lt) h
    obtain ⟨hbytes, hrest⟩ := List.append_inj htail hlength
    exact ⟨utf8Encode_inj hs.1 ht.1 hbytes, hrest⟩

/-- An absent text does not begin as a present one does. -/
theorem writeOptional_none_ne {s : JsString} (hs : Storable s) (rest rest' : List UInt8) :
    writeOptional none ++ rest ≠ writeOptional (some s) ++ rest' := by
  intro h
  change writeUint32BE absentLength ++ rest =
    writeUint32BE (utf8Encode s).length ++ utf8Encode s ++ rest' at h
  rw [List.append_assoc] at h
  obtain ⟨hlength, -⟩ := writeUint32BE_append_inj absentLength_lt
    (hs.length_lt.trans absentLength_lt) h
  exact absurd hlength.symm (Nat.ne_of_lt hs.length_lt)

theorem selfDelimiting_optional :
    SelfDelimiting (fun value : Option JsString => ∀ s ∈ value, Storable s) writeOptional where
  nonempty {value} _ := by
    cases value with
    | none => exact nofun
    | some s => exact nofun
  split {value value' rest rest'} hvalue hvalue' h := by
    cases value with
    | none =>
        cases value' with
        | none => exact ⟨rfl, List.append_cancel_left h⟩
        | some t => exact absurd h (writeOptional_none_ne (hvalue' t rfl) rest rest')
    | some s =>
        cases value' with
        | none => exact absurd h.symm (writeOptional_none_ne (hvalue s rfl) rest' rest)
        | some t =>
            obtain ⟨htext, hrest⟩ := selfDelimiting_text.split (hvalue s rfl) (hvalue' t rfl) h
            exact ⟨congrArg some htext, hrest⟩

/-! ## Families -/

/-- The kind of a family and its name. -/
def familyFields : OsvFamilyCandidate → JsString × Option JsString
  | .known family => (js "known", some family.text)
  | .unknownUppercase family => (js "unknown_uppercase", some family)
  | .unclassifiable => (js "unclassifiable", none)

theorem encodeFamily_eq (family : OsvFamilyCandidate) :
    encodeFamily family =
      writeLengthPrefixed (familyFields family).1 ++ writeOptional (familyFields family).2 := by
  cases family with
  | known family => rfl
  | unknownUppercase family => rfl
  | unclassifiable => rfl

theorem familyFields_injective : Function.Injective familyFields := by
  intro family family' h
  obtain ⟨hkind, hname⟩ := Prod.ext_iff.mp h
  cases family with
  | known family =>
      cases family' with
      | known family' =>
          exact congrArg _ (KnownOsvFamilyCandidate.text_injective (Option.some.inj hname))
      | unknownUppercase family' =>
          exact absurd hkind (by decide : js "known" ≠ js "unknown_uppercase")
      | unclassifiable => cases hname
  | unknownUppercase family =>
      cases family' with
      | known family' => exact absurd hkind (by decide : js "unknown_uppercase" ≠ js "known")
      | unknownUppercase family' => exact congrArg _ (Option.some.inj hname)
      | unclassifiable => cases hname
  | unclassifiable =>
      cases family' with
      | known family' => cases hname
      | unknownUppercase family' => cases hname
      | unclassifiable => rfl

theorem selfDelimiting_family :
    SelfDelimiting (fun family => ∀ s ∈ familyTexts family, Storable s) encodeFamily := by
  rw [funext encodeFamily_eq]
  refine (selfDelimiting_text.pair selfDelimiting_optional).comap (f := familyFields) ?_
    (fun _ _ _ _ h => familyFields_injective h)
  · intro family hfamily
    cases family with
    | known family =>
        refine ⟨(by decide : Storable (js "known")), fun s hs => ?_⟩
        cases hs
        exact hfamily _ List.mem_cons_self
    | unknownUppercase family =>
        refine ⟨(by decide : Storable (js "unknown_uppercase")), fun s hs => ?_⟩
        cases hs
        exact hfamily _ List.mem_cons_self
    | unclassifiable =>
        exact ⟨(by decide : Storable (js "unclassifiable")), nofun⟩

/-! ## Observations -/

theorem storable_decimalText {n : Nat} (h : n ≤ 9007199254740991) : Storable (decimalText n) := by
  have hascii : isAscii (decimalText n) = true := by
    refine isAscii_of_isPrintable (List.all_eq_true.mpr fun u hu => ?_)
    exact isPrintable_of_isDigit (isDigit_of_mem_decimalText hu)
  have hlength : (decimalText n).length ≤ 16 := length_decimalText_le (by decide) (by omega)
  exact ⟨isWellFormed_of_isAscii hascii, by omega⟩

/-- The fields of an observation in the order in which they are written. -/
def OsvListingCanonicalObservation.fields (o : OsvListingCanonicalObservation) :=
  (((((((((((o.providerIdentifier, o.providerPrefix), o.providerObjectKey),
    o.providerObjectKeyDigest), o.providerGeneration), decimalText o.declaredByteCount),
    o.contentType), o.classificationStatus), o.sourceIdentifier), o.familyCandidate),
    o.etagMetadata), o.md5HashMetadata)

theorem fields_injective : Function.Injective OsvListingCanonicalObservation.fields := by
  intro o o' h
  unfold OsvListingCanonicalObservation.fields at h
  simp only [Prod.mk.injEq] at h
  obtain ⟨⟨⟨⟨⟨⟨⟨⟨⟨⟨⟨h₁, h₂⟩, h₃⟩, h₄⟩, h₅⟩, h₆⟩, h₇⟩, h₈⟩, h₉⟩, h₁₀⟩, h₁₁⟩, h₁₂⟩ := h
  cases o
  cases o'
  have hcount := decimalText_inj h₆
  simp_all only

/-- An observation is known from its bytes, and so is where they end. -/
theorem selfDelimiting_observation : SelfDelimiting Encodable encodeObservation := by
  have htext := selfDelimiting_text
  have hoptional := selfDelimiting_optional
  refine (((((((((((htext.pair htext).pair htext).pair htext).pair htext).pair htext).pair
    hoptional).pair htext).pair hoptional).pair selfDelimiting_family).pair hoptional).pair
    hoptional).comap (f := OsvListingCanonicalObservation.fields) (fun o h => ?_)
    (fun _ _ _ _ h => fields_injective h)
  have hmem : ∀ {s : JsString}, s ∈ o.texts → Storable s := fun hs => h.texts _ hs
  unfold OsvListingCanonicalObservation.texts at hmem
  simp only [List.mem_append, List.mem_cons, List.not_mem_nil, or_false, Option.mem_toList] at hmem
  refine ⟨⟨⟨⟨⟨⟨⟨⟨⟨⟨⟨?_, ?_⟩, ?_⟩, ?_⟩, ?_⟩, storable_decimalText h.byteCount⟩, ?_⟩, ?_⟩, ?_⟩,
    ?_⟩, ?_⟩, ?_⟩
  case refine_6 => exact fun s hs => hmem (by tauto)
  case refine_8 => exact fun s hs => hmem (by tauto)
  case refine_9 => exact fun s hs => hmem (by tauto)
  case refine_10 => exact fun s hs => hmem (by tauto)
  case refine_11 => exact fun s hs => hmem (by tauto)
  all_goals
    exact hmem (by tauto)

/-! ## Sets -/

/-- The bytes of a set are those of its observations in canonical order. -/
theorem canonicalPayload_inj {ordered ordered' : List OsvListingCanonicalObservation}
    (h : ∀ o ∈ ordered, Encodable o) (h' : ∀ o ∈ ordered', Encodable o)
    (heq : canonicalPayload ordered = canonicalPayload ordered') : ordered = ordered' := by
  unfold canonicalPayload at heq
  rw [List.append_assoc, List.append_assoc] at heq
  have hcount := List.append_cancel_left heq
  exact selfDelimiting_observation.flatMap_inj h h' (List.append_inj hcount rfl).2

/-- What is admitted one after the other is all that was given. -/
theorem admitDistinct_eq_some {observations : List OsvListingCanonicalObservation} :
    ∀ {admitted all : List OsvListingCanonicalObservation},
      admitDistinct admitted observations = some all → all = admitted ++ observations := by
  induction observations with
  | nil =>
      intro admitted all h
      rw [List.append_nil]
      exact (Option.some.inj h).symm
  | cons observation rest ih =>
      intro admitted all h
      unfold admitDistinct at h
      split at h
      · cases h
      split at h
      · rw [ih h, List.append_assoc]
        rfl
      · cases h

/-- The identity of a set is the digest of its bytes. -/
theorem identity_of_construct {sha256 : List UInt8 → JsString}
    {observations : List OsvListingCanonicalObservation} {maxObservations : Nat}
    {set : OsvListingCanonicalPassSet}
    (h : constructOsvListingCanonicalPassSet sha256 observations maxObservations = some set) :
    set.identity.sha256 =
      sha256 (encodeOsvListingCanonicalPassSetBytesForTests observations) := by
  unfold constructOsvListingCanonicalPassSet at h
  split at h
  · cases h
  simp only [Option.bind_eq_bind, Option.bind_eq_some_iff] at h
  obtain ⟨admitted, hadmitted, identity, hidentity, hset⟩ := h
  cases hset
  have hall := admitDistinct_eq_some hadmitted
  rw [List.nil_append] at hall
  subst hall
  unfold createOsvListingCanonicalSetId at hidentity
  split at hidentity
  · cases hidentity
    rfl
  · cases hidentity

/-- Lists of observations with different versions have the same bytes exactly when one is a
permutation of the other; the bytes are those that a canonical set is named by, and an absent
field does not begin as a present one. -/
theorem encode_eq_iff_perm (sha256 : List UInt8 → JsString)
    {observations observations' : List OsvListingCanonicalObservation}
    (h : ∀ o ∈ observations, Encodable o) (h' : ∀ o ∈ observations', Encodable o)
    (hversions : observations.Pairwise fun o o' => o.version ≠ o'.version) :
    (encodeOsvListingCanonicalPassSetBytesForTests observations =
        encodeOsvListingCanonicalPassSetBytesForTests observations' ↔
      observations.Perm observations') ∧
    (∀ maxObservations set,
      constructOsvListingCanonicalPassSet sha256 observations maxObservations = some set →
        set.identity.sha256 =
          sha256 (encodeOsvListingCanonicalPassSetBytesForTests observations)) ∧
    (∀ o ∈ observations, ∀ s ∈ o.texts, ∀ rest rest' : List UInt8,
      writeOptional none ++ rest ≠ writeOptional (some s) ++ rest') := by
  have hsorted := sortBy_perm compareOsvListingCanonicalObservations observations
  have hsorted' := sortBy_perm compareOsvListingCanonicalObservations observations'
  refine ⟨⟨fun heq => ?_, fun hperm => ?_⟩, fun _ _ => identity_of_construct,
    fun o ho s hs => writeOptional_none_ne ((h o ho).texts s hs)⟩
  · have hordered := canonicalPayload_inj (fun o ho => h o (hsorted.mem_iff.mp ho))
      (fun o ho => h' o (hsorted'.mem_iff.mp ho)) heq
    rw [← hordered] at hsorted'
    exact hsorted.symm.trans hsorted'
  · unfold encodeOsvListingCanonicalPassSetBytesForTests
    rw [sort_eq_of_versions hperm hversions]

/-- An observation of an npm advisory that has no metadata but its entity tag. -/
def sampleObservation (key : JsString) (etag : Option JsString) :
    OsvListingCanonicalObservation where
  providerIdentifier := osvProviderIdentifier
  providerPrefix := js "npm/"
  providerObjectKey := key
  providerObjectKeyDigest := js "00"
  providerGeneration := js "1"
  declaredByteCount := 512
  contentType := none
  classificationStatus := js "eligible"
  sourceIdentifier := some (js "github_advisory_database")
  familyCandidate := .known .ghsa
  etagMetadata := etag
  md5HashMetadata := none

theorem encode_eq_iff_perm_swapped :
    let first := sampleObservation (js "npm/GHSA-1.json") none
    let second := sampleObservation (js "npm/GHSA-2.json") (some (js "é"))
    (encodeOsvListingCanonicalPassSetBytesForTests [first, second] =
        encodeOsvListingCanonicalPassSetBytesForTests [second, first] ↔
      [first, second].Perm [second, first]) := by
  intro first second
  have hfirst : Encodable first := ⟨by decide, by decide⟩
  have hsecond : Encodable second := ⟨by decide, by decide⟩
  have hversions : [first, second].Pairwise fun o o' => o.version ≠ o'.version := by decide
  refine (encode_eq_iff_perm (fun _ => []) (fun o ho => ?_) (fun o ho => ?_) hversions).1
  · rcases List.mem_pair.mp ho with rfl | rfl
    · exact hfirst
    · exact hsecond
  · rcases List.mem_pair.mp ho with rfl | rfl
    · exact hsecond
    · exact hfirst

end PatchPilot.Osv.Listing
