import PatchPilot.Foundation.ColouredSearch
import PatchPilot.Foundation.SizeField
import PatchPilot.Foundation.Steps
import PatchPilot.Foundation.WellFormedText
import PatchPilot.Matching.Admitted
import PatchPilot.Matching.Provenance

set_option autoImplicit false

/-!
# Matching: the lineage of a reviewed advisory (`lineage.ts`, `fingerprint.ts`, `canonical.ts`)

A later revision of a reviewed advisory names the digest of the one before it.  A step is
checked against that revision alone, and a list of links is searched for a cycle.  Along a
sequence of corrections the numbers go up by one, and because the number is a field of what the
digest is taken of, the digests differ and the links lead back to the first revision.
-/

namespace PatchPilot.Matching.Lineage

open PatchPilot.Foundation

/-! ## Fingerprints -/

section Digest

variable (sha256 : List UInt8 → JsString)

/-- `sha256Utf8`. -/
def sha256Utf8 (value : JsString) : JsString := sha256 (utf8Encode value)

/-- `MAINTAINER_REVIEWED_IDENTITY_POLICY_VERSION`. -/
def maintainerReviewedIdentityPolicyVersion : JsString := js "maintainer_reviewed_identity_v1"

/-- `MAINTAINER_REVIEWED_CANONICALIZATION_POLICY_ID`. -/
def maintainerReviewedCanonicalizationPolicyId : JsString := js "canonicalization_policy_v1"

/-- `advisoryFamilyDigest`, with `advisoryFamilyMaterial`. -/
def advisoryFamilyDigest (source advisoryId : JsString) : JsString :=
  sha256Utf8 sha256 (Provenance.canonicalMaterial
    [(js "schema", js "osv_advisory_family_identity_v1"), (js "source", source),
     (js "advisoryId", advisoryId)])

/-- `maintainerFamilyIdentity`, with `maintainerFamilyMaterial`. -/
def maintainerFamilyIdentity (advisoryFamilyId : JsString) : JsString :=
  sha256Utf8 sha256 (Provenance.canonicalMaterial
    [(js "identityPolicy", maintainerReviewedIdentityPolicyVersion),
     (js "committedFamily",
      advisoryFamilyDigest sha256 maintainerReviewedOrigin advisoryFamilyId),
     (js "source", maintainerReviewedOrigin)])

/-- `licenseDecisionCanonical`. -/
def licenseDecisionCanonical (decision : SourceLicenseDecision) : JsString :=
  Provenance.canonicalMaterial
    [(js "policy", decision.policyId), (js "policyVersion", decimalText decision.policyVersion),
     (js "spdx", decision.spdxLicenseId), (js "productUse", decision.productUse),
     (js "modification", decision.modification), (js "redistribution", decision.redistribution),
     (js "notice", decision.notice), (js "provenance", decision.contentProvenance),
     (js "decision", decision.decision)]

/-- The text of the ranges of a document. -/
def rangesCanonical (document : MaintainerReviewedAdvisoryDocument) : JsString :=
  Provenance.session14RangeCanonical (maintainerRangesToCanonical document.affectedRanges) []

/-- The superseded revision in a field. -/
def supersedesText (document : MaintainerReviewedAdvisoryDocument) : JsString :=
  document.supersedesRevisionId.getD (js "none")

/-- `maintainerContentFingerprint`, with `maintainerContentMaterial`. -/
def maintainerContentFingerprint (document : MaintainerReviewedAdvisoryDocument) : JsString :=
  let aliases := sortBy
    (fun left right => Provenance.signOf (Provenance.compareCodeUnits left right)) document.aliases
  sha256Utf8 sha256 (Provenance.canonicalMaterial
    [(js "canonicalization", maintainerReviewedCanonicalizationPolicyId),
     (js "schema", document.schemaVersion), (js "source", document.sourceClassification),
     (js "origin", document.origin), (js "family", document.advisoryFamilyId),
     (js "revision", decimalText document.revisionNumber),
     (js "vulnerability", document.vulnerabilityId),
     (js "binding", document.vulnerabilityBinding),
     (js "aliases",
      (aliases.map fun text => decimalText text.length ++ js ":" ++ text).flatten),
     (js "ecosystem", document.packageEcosystem), (js "package", document.packageIdentityKey),
     (js "ranges", rangesCanonical document), (js "withdrawal", document.withdrawal),
     (js "supersedes", supersedesText document),
     (js "license", licenseDecisionCanonical document.sourceLicenseDecision),
     (js "author", document.authorIdentity)])

/-- `maintainerRangeFingerprint`, with `maintainerRangeMaterial`. -/
def maintainerRangeFingerprint (document : MaintainerReviewedAdvisoryDocument) : JsString :=
  sha256Utf8 sha256 (Provenance.canonicalMaterial
    [(js "domain", js "maintainer_advisory_range_fingerprint_v1"),
     (js "ecosystem", document.packageEcosystem), (js "package", document.packageIdentityKey),
     (js "policy", maintainerReviewedCanonicalizationPolicyId),
     (js "session14", rangesCanonical document)])

/-- `maintainerRevisionMaterial`, of what `maintainerRevisionIdentity` passes to it. -/
def maintainerRevisionMaterial (document : MaintainerReviewedAdvisoryDocument) : JsString :=
  Provenance.canonicalMaterial
    [(js "domain", js "maintainer_advisory_revision_v1"),
     (js "identityPolicy", maintainerReviewedIdentityPolicyVersion),
     (js "family", maintainerFamilyIdentity sha256 document.advisoryFamilyId),
     (js "revision", decimalText document.revisionNumber),
     (js "content", maintainerContentFingerprint sha256 document),
     (js "ranges", maintainerRangeFingerprint sha256 document),
     (js "schema", document.schemaVersion),
     (js "canonicalization", maintainerReviewedCanonicalizationPolicyId),
     (js "license", licenseDecisionCanonical document.sourceLicenseDecision),
     (js "withdrawal", document.withdrawal),
     (js "supersedes", supersedesText document)]

/-- `maintainerRevisionIdentity`. -/
def maintainerRevisionIdentity (document : MaintainerReviewedAdvisoryDocument) : JsString :=
  sha256Utf8 sha256 (maintainerRevisionMaterial sha256 document)

end Digest

/-! ## A step -/

/-- An object with the fields of a document; it is branded if the parser has made it. -/
structure DocumentObject where
  document : MaintainerReviewedAdvisoryDocument
  branded : Bool
  deriving DecidableEq

/-- The rejection codes of a step. -/
inductive LineageRejectionCode
  | ineligibleSuperseded | ineligibleConflicted | malformedEvidence
  deriving DecidableEq

/-- `LineageValidationResult`. -/
inductive LineageValidationResult
  | valid (isCorrection : Bool) (priorRevisionDigest : Option JsString)
  | invalid (rejectionCode : LineageRejectionCode) (rejectionReason : JsString)
  deriving DecidableEq

/-- The status is `valid`. -/
def LineageValidationResult.isValid : LineageValidationResult → Bool
  | .valid _ _ => true
  | .invalid _ _ => false

/-- The status is `valid`, and the revision is a correction. -/
def LineageValidationResult.corrects : LineageValidationResult → Bool
  | .valid isCorrection _ => isCorrection
  | .invalid _ _ => false

/-- `validateSupersessionStep`. -/
def validateSupersessionStep (sha256 : List UInt8 → JsString) (newRevision : DocumentObject)
    (priorRevision : Option DocumentObject) : LineageValidationResult :=
  let new := newRevision.document
  if !newRevision.branded then
    .invalid .malformedEvidence (js "correction requires an admitted revision")
  else
    match new.supersedesRevisionId with
    | none =>
        if new.revisionNumber ≠ 1 then
          .invalid .malformedEvidence (js "a later revision must name the prior revision digest")
        else .valid false none
    | some supersedesRevisionId =>
        if new.revisionNumber = 1 then
          .invalid .malformedEvidence (js "revision 1 cannot supersede another revision")
        else
          match priorRevision.filter (·.branded) with
          | none =>
              .invalid .malformedEvidence
                (js "absence of a prior revision is not supersession")
          | some ⟨prior, _⟩ =>
              let priorDigest := maintainerRevisionIdentity sha256 prior
              if new.advisoryFamilyId ≠ prior.advisoryFamilyId then
                .invalid .ineligibleConflicted (js "cross-family supersession is prohibited")
              else if new.revisionNumber ≠ prior.revisionNumber + 1 then
                .invalid .malformedEvidence
                  (js "corrections must be the next revision number")
              else if supersedesRevisionId = priorDigest ∧
                  new.revisionNumber = prior.revisionNumber then
                .invalid .malformedEvidence (js "self-supersession is prohibited")
              else if supersedesRevisionId ≠ priorDigest then
                .invalid .ineligibleConflicted
                  (js "supersedesRevisionId does not match the prior revision")
              else if maintainerRevisionIdentity sha256 new = priorDigest then
                .invalid .malformedEvidence
                  (js "a correction cannot reuse the prior revision identity")
              else if new.packageIdentityKey ≠ prior.packageIdentityKey ∨
                  new.vulnerabilityId ≠ prior.vulnerabilityId ∨
                  new.packageEcosystem ≠ prior.packageEcosystem then
                .invalid .ineligibleConflicted
                  (js "a correction cannot change package identity or Vulnerability.id")
              else .valid true (some priorDigest)

/-! ## Cycles -/

/-- A link of `lineageChain`. -/
structure LineageLink where
  revisionDigest : JsString
  supersedesDigest : Option JsString
  deriving DecidableEq

/-- The map from a revision to what it supersedes, in the order of insertion. -/
abbrev NextMap := List (JsString × Option JsString)

/-- `next.has`. -/
def NextMap.has (next : NextMap) (digest : JsString) : Bool :=
  next.any fun entry => entry.1 = digest

/-- The first loop of `detectSupersessionCycles`; it returns when a digest is there twice. -/
def collectLinks : NextMap → List LineageLink → Option NextMap
  | next, [] => some next
  | next, link :: rest =>
      if next.has link.revisionDigest then none
      else collectLinks (next ++ [(link.revisionDigest, link.supersedesDigest)]) rest

/-- The parent that `visit` goes on to: a listed digest. -/
def parentOf (next : NextMap) (node : JsString) : Option JsString :=
  match next.find? fun entry => entry.1 = node with
  | some (_, some parent) => if next.has parent then some parent else none
  | _ => none

/-- `detectSupersessionCycles`. -/
def detectSupersessionCycles (lineageChain : List LineageLink) : Option Bool :=
  match collectLinks [] lineageChain with
  | none => some true
  | some next =>
      visitAll (parentOf next) (next.length + 1) (next.map Prod.fst) fun _ => .white

/-! ### The detector -/

/-- The graph of the links between listed digests. -/
def Edge (links : List LineageLink) (digest parent : JsString) : Prop :=
  ⟨digest, some parent⟩ ∈ links ∧ parent ∈ links.map (·.revisionDigest)

theorem has_iff {next : NextMap} {digest : JsString} :
    next.has digest = true ↔ digest ∈ next.map Prod.fst := by
  rw [NextMap.has, List.any_eq_true, List.mem_map]
  exact exists_congr fun entry => and_congr_right fun _ => decide_eq_true_iff

/-- The entries of the map. -/
def entriesOf (links : List LineageLink) : NextMap :=
  links.map fun link => (link.revisionDigest, link.supersedesDigest)

/-- The map has an entry for each link, if no digest is there twice. -/
theorem collectLinks_eq (links : List LineageLink) :
    ∀ {next : NextMap}, (next.map Prod.fst).Nodup →
      (collectLinks next links = some (next ++ entriesOf links) ∧
        ((next ++ entriesOf links).map Prod.fst).Nodup) ∨
      (collectLinks next links = none ∧ ¬((next ++ entriesOf links).map Prod.fst).Nodup) := by
  induction links with
  | nil =>
      intro next hnodup
      rw [entriesOf, List.map_nil, List.append_nil]
      exact .inl ⟨rfl, hnodup⟩
  | cons link rest ih =>
      intro next hnodup
      have hsplit : next ++ entriesOf (link :: rest) =
          next ++ [(link.revisionDigest, link.supersedesDigest)] ++ entriesOf rest := by
        rw [List.append_assoc]
        rfl
      rw [hsplit]
      have hadded : (next ++ [(link.revisionDigest, link.supersedesDigest)]).map Prod.fst =
          next.map Prod.fst ++ [link.revisionDigest] := by
        rw [List.map_append]
        rfl
      by_cases hhas : next.has link.revisionDigest = true
      · refine .inr ⟨by rw [collectLinks, if_pos hhas], fun h => ?_⟩
        rw [List.map_append, hadded] at h
        have hdisjoint := List.nodup_append.1 (List.nodup_append.1 h).1
        exact hdisjoint.2.2 _ (has_iff.1 hhas) _ (List.mem_singleton_self _) rfl
      · rw [collectLinks, if_neg hhas]
        refine ih ?_
        rw [hadded, List.nodup_append]
        refine ⟨hnodup, List.nodup_singleton _, fun digest hdigest other hother => ?_⟩
        rw [List.mem_singleton.1 hother]
        intro hsame
        rw [hsame] at hdigest
        exact hhas (has_iff.2 hdigest)

theorem mem_entriesOf {links : List LineageLink} {digest : JsString} {target : Option JsString} :
    (digest, target) ∈ entriesOf links ↔ ⟨digest, target⟩ ∈ links := by
  rw [entriesOf, List.mem_map]
  constructor
  · rintro ⟨link, hmem, heq⟩
    cases heq
    exact hmem
  · exact fun hmem => ⟨_, hmem, rfl⟩

theorem has_entriesOf {links : List LineageLink} {digest : JsString} :
    (entriesOf links).has digest = true ↔ digest ∈ links.map (·.revisionDigest) := by
  rw [has_iff, entriesOf, List.map_map]
  rfl

/-- The parent of a digest is where its edge leads. -/
theorem parentOf_eq_some {links : List LineageLink}
    (hnodup : ((entriesOf links).map Prod.fst).Nodup) {digest parent : JsString} :
    parentOf (entriesOf links) digest = some parent ↔ Edge links digest parent := by
  have hfind : ∀ {target : Option JsString}, (⟨digest, target⟩ : LineageLink) ∈ links →
      ((entriesOf links).find? fun entry => entry.1 = digest) = some (digest, target) :=
    fun hmem => find?_key_eq_some hnodup (mem_entriesOf.2 hmem)
  unfold parentOf
  constructor
  · intro h
    split at h
    · next key target hfound =>
        have hkey : key = digest := of_decide_eq_true
          (List.find?_some (p := fun entry : JsString × Option JsString => entry.1 = digest) hfound)
        subst hkey
        by_cases hhas : (entriesOf links).has target = true
        · rw [if_pos hhas] at h
          cases h
          exact ⟨mem_entriesOf.1 (List.mem_of_find?_eq_some hfound), has_entriesOf.1 hhas⟩
        · rw [if_neg hhas] at h
          exact absurd h nofun
    · exact absurd h nofun
  · rintro ⟨hmem, hlisted⟩
    rw [hfind hmem]
    exact if_pos (has_entriesOf.2 hlisted)

/-- The detector answers; it says `true` if and only if two links carry the same digest or the
graph of the listed digests has a cycle. -/
theorem detectSupersessionCycles_iff (links : List LineageLink) :
    ∃ found, detectSupersessionCycles links = some found ∧
      (found = true ↔ ¬(links.map (·.revisionDigest)).Nodup ∨
        ∃ digest, Relation.TransGen (Edge links) digest digest) := by
  have hkeys : (entriesOf links).map Prod.fst = links.map (·.revisionDigest) := by
    rw [entriesOf, List.map_map]
    rfl
  unfold detectSupersessionCycles
  rcases @collectLinks_eq links [] List.nodup_nil with ⟨heq, hnodup⟩ | ⟨heq, htwice⟩
  · rw [List.nil_append] at heq hnodup
    rw [heq]
    dsimp only
    have hfollows : Follows (parentOf (entriesOf links)) = Edge links :=
      funext fun digest => funext fun parent => propext (parentOf_eq_some hnodup)
    have hclosed : ∀ digest parent, parentOf (entriesOf links) digest = some parent →
        parent ∈ (entriesOf links).map Prod.fst := by
      intro digest parent h
      rw [hkeys]
      exact ((parentOf_eq_some hnodup).1 h).2
    obtain ⟨found, hfound, hcycle⟩ := visitAll_iff hclosed
    rw [List.length_map] at hfound
    refine ⟨found, hfound, hcycle.trans ?_⟩
    rw [hkeys] at hnodup
    rw [HasCycle, hfollows, or_iff_right (not_not_intro hnodup)]
  · rw [List.nil_append, hkeys] at htwice
    rw [heq]
    exact ⟨true, rfl, fun _ => .inl htwice, fun _ => rfl⟩

/-- The order of the links does not matter. -/
theorem detectSupersessionCycles_perm {links links' : List LineageLink} (h : links.Perm links') :
    detectSupersessionCycles links = detectSupersessionCycles links' := by
  have hdigests := h.map (·.revisionDigest)
  have hedge : Edge links = Edge links' := by
    refine funext fun digest => funext fun parent => propext ?_
    rw [Edge, Edge, h.mem_iff, hdigests.mem_iff]
  obtain ⟨found, hfound, hiff⟩ := detectSupersessionCycles_iff links
  obtain ⟨found', hfound', hiff'⟩ := detectSupersessionCycles_iff links'
  rw [hedge, hdigests.nodup_iff, ← hiff'] at hiff
  rw [hfound, hfound', Bool.eq_iff_iff.2 hiff]

/-! ### The number in the digest -/

theorem canonicalMaterial_cons (field next : JsString × JsString)
    (rest : List (JsString × JsString)) :
    Provenance.canonicalMaterial (field :: next :: rest) =
      Provenance.lengthPrefixedField field.1 field.2 ++ js "|" ++
        Provenance.canonicalMaterial (next :: rest) := by
  rw [Provenance.canonicalMaterial, List.map_cons, List.map_cons, List.intercalate_cons_cons,
    Provenance.canonicalMaterial, List.map_cons]

/-- The first ASCII token behind a text is known from the bytes. -/
theorem encodedToken_inj {before value value' rest rest' : JsString} (h : isAscii value = true)
    (h' : isAscii value' = true)
    (heq : utf8Encode (before ++ (canonicalToken value ++ rest)) =
      utf8Encode (before ++ (canonicalToken value' ++ rest'))) : value = value' := by
  have hascii : ∀ {value : JsString}, isAscii value = true →
      isAscii (canonicalToken value) = true := by
    intro value h
    unfold canonicalToken
    exact isAscii_append.2 ⟨isAscii_append.2 ⟨isAscii_decimalText _, rfl⟩, h⟩
  have hhead : ∀ {value rest : JsString}, isAscii value = true →
      ∀ u ∈ (canonicalToken value ++ rest).head?, isLowSurrogate u = false := by
    intro value rest h u hu
    have hplain := hascii h
    cases htoken : canonicalToken value with
    | nil => exact absurd htoken (canonicalToken_selfDelimiting.nonempty trivial)
    | cons first others =>
        rw [htoken] at hu hplain
        cases hu
        exact not_isLowSurrogate (isAscii_cons.1 hplain).1
  rw [utf8Encode_append (hhead h), utf8Encode_append (hhead h'), List.append_cancel_left_eq] at heq
  have hdecoded := congrArg utf8Decode heq
  rw [utf8Decode_encode_append (hascii h), utf8Decode_encode_append (hascii h')] at hdecoded
  exact (canonicalToken_selfDelimiting.split trivial trivial hdecoded).1

/-- What stands before the number in the material of a family's documents. -/
def beforeNumber (sha256 : List UInt8 → JsString) (advisoryFamilyId : JsString) : JsString :=
  Provenance.lengthPrefixedField (js "domain") (js "maintainer_advisory_revision_v1") ++ js "|" ++
    Provenance.lengthPrefixedField (js "identityPolicy") maintainerReviewedIdentityPolicyVersion ++
    js "|" ++
    Provenance.lengthPrefixedField (js "family")
      (maintainerFamilyIdentity sha256 advisoryFamilyId) ++
    js "|" ++ canonicalToken (js "revision")

/-- The number is a token of the material. -/
theorem maintainerRevisionMaterial_number (sha256 : List UInt8 → JsString)
    (document : MaintainerReviewedAdvisoryDocument) :
    ∃ rest, maintainerRevisionMaterial sha256 document =
      beforeNumber sha256 document.advisoryFamilyId ++
        (canonicalToken (decimalText document.revisionNumber) ++ rest) := by
  refine ⟨js "|" ++ Provenance.canonicalMaterial
    [(js "content", maintainerContentFingerprint sha256 document),
     (js "ranges", maintainerRangeFingerprint sha256 document),
     (js "schema", document.schemaVersion),
     (js "canonicalization", maintainerReviewedCanonicalizationPolicyId),
     (js "license", licenseDecisionCanonical document.sourceLicenseDecision),
     (js "withdrawal", document.withdrawal),
     (js "supersedes", supersedesText document)], ?_⟩
  unfold maintainerRevisionMaterial beforeNumber
  rw [canonicalMaterial_cons, canonicalMaterial_cons, canonicalMaterial_cons,
    canonicalMaterial_cons, Provenance.lengthPrefixedField_eq (js "revision")]
  simp only [List.append_assoc]

/-- Two documents of one family with the same material have the same number. -/
theorem revisionNumber_of_material {sha256 : List UInt8 → JsString}
    {document document' : MaintainerReviewedAdvisoryDocument}
    (hfamily : document.advisoryFamilyId = document'.advisoryFamilyId)
    (heq : utf8Encode (maintainerRevisionMaterial sha256 document) =
      utf8Encode (maintainerRevisionMaterial sha256 document')) :
    document.revisionNumber = document'.revisionNumber := by
  obtain ⟨rest, hform⟩ := maintainerRevisionMaterial_number sha256 document
  obtain ⟨rest', hform'⟩ := maintainerRevisionMaterial_number sha256 document'
  rw [hform, hform', hfamily] at heq
  exact decimalText_inj
    (encodedToken_inj (isAscii_decimalText _) (isAscii_decimalText _) heq)

/-! ### Sequences of documents -/

section Sequence

variable (sha256 : List UInt8 → JsString)

/-- Each document against the one before it. -/
def supersessionSteps : Option DocumentObject → List DocumentObject →
    List LineageValidationResult
  | _, [] => []
  | prior, newRevision :: rest =>
      validateSupersessionStep sha256 newRevision prior ::
        supersessionSteps (some newRevision) rest

/-- The link of a document. -/
def linkOf (object : DocumentObject) : LineageLink :=
  ⟨maintainerRevisionIdentity sha256 object.document, object.document.supersedesRevisionId⟩

/-- What a correction keeps. -/
structure SameAdvisory (new prior : MaintainerReviewedAdvisoryDocument) : Prop where
  family : new.advisoryFamilyId = prior.advisoryFamilyId
  package : new.packageIdentityKey = prior.packageIdentityKey
  vulnerability : new.vulnerabilityId = prior.vulnerabilityId

/-- A document is a correction of another. -/
structure Corrects (new prior : DocumentObject) : Prop where
  same : SameAdvisory new.document prior.document
  number : new.document.revisionNumber = prior.document.revisionNumber + 1
  supersedes : new.document.supersedesRevisionId =
    some (maintainerRevisionIdentity sha256 prior.document)

variable {sha256}

/-- A valid step begins a lineage or corrects the revision before. -/
theorem validateSupersessionStep_valid {new : DocumentObject} {prior : Option DocumentObject}
    (h : (validateSupersessionStep sha256 new prior).isValid = true) :
    (validateSupersessionStep sha256 new prior = .valid false none ∧
        new.document.supersedesRevisionId = none ∧ new.document.revisionNumber = 1) ∨
      ∃ object, prior = some object ∧ Corrects sha256 new object ∧
        validateSupersessionStep sha256 new prior =
          .valid true (some (maintainerRevisionIdentity sha256 object.document)) := by
  unfold validateSupersessionStep at h ⊢
  dsimp only at h ⊢
  by_cases hbranded : (!new.branded) = true
  · rw [if_pos hbranded] at h
    exact absurd h Bool.false_ne_true
  rw [if_neg hbranded] at h ⊢
  cases hsupersedes : new.document.supersedesRevisionId with
  | none =>
      rw [hsupersedes] at h
      dsimp only at h ⊢
      by_cases hnumber : new.document.revisionNumber ≠ 1
      · rw [if_pos hnumber] at h
        exact absurd h Bool.false_ne_true
      · rw [if_neg hnumber]
        exact .inl ⟨rfl, rfl, not_not.1 hnumber⟩
  | some supersedes =>
      rw [hsupersedes] at h
      dsimp only at h ⊢
      by_cases hfirst : new.document.revisionNumber = 1
      · rw [if_pos hfirst] at h
        exact absurd h Bool.false_ne_true
      rw [if_neg hfirst] at h ⊢
      cases hprior : prior.filter (·.branded) with
      | none =>
          rw [hprior] at h
          exact absurd h Bool.false_ne_true
      | some object =>
          rw [hprior] at h
          dsimp only at h ⊢
          obtain ⟨hobject, -⟩ := Option.filter_eq_some_iff.1 hprior
          by_cases hfamily : new.document.advisoryFamilyId ≠ object.document.advisoryFamilyId
          · rw [if_pos hfamily] at h
            exact absurd h Bool.false_ne_true
          rw [if_neg hfamily] at h ⊢
          by_cases hnext : new.document.revisionNumber ≠ object.document.revisionNumber + 1
          · rw [if_pos hnext] at h
            exact absurd h Bool.false_ne_true
          rw [if_neg hnext] at h ⊢
          have hself : ¬(supersedes = maintainerRevisionIdentity sha256 object.document ∧
              new.document.revisionNumber = object.document.revisionNumber) := by
            rintro ⟨-, hsame⟩
            omega
          rw [if_neg hself] at h ⊢
          by_cases hdigest : supersedes ≠ maintainerRevisionIdentity sha256 object.document
          · rw [if_pos hdigest] at h
            exact absurd h Bool.false_ne_true
          rw [if_neg hdigest] at h ⊢
          by_cases hreused : maintainerRevisionIdentity sha256 new.document =
              maintainerRevisionIdentity sha256 object.document
          · rw [if_pos hreused] at h
            exact absurd h Bool.false_ne_true
          rw [if_neg hreused] at h ⊢
          by_cases hchanged :
              new.document.packageIdentityKey ≠ object.document.packageIdentityKey ∨
                new.document.vulnerabilityId ≠ object.document.vulnerabilityId ∨
                new.document.packageEcosystem ≠ object.document.packageEcosystem
          · rw [if_pos hchanged] at h
            exact absurd h Bool.false_ne_true
          rw [if_neg hchanged]
          rw [not_or, not_or, not_not, not_not] at hchanged
          refine .inr ⟨object, hobject, ⟨⟨not_not.1 hfamily, hchanged.1, hchanged.2.1⟩,
            not_not.1 hnext, ?_⟩, rfl⟩
          rw [hsupersedes, not_not.1 hdigest]

/-- The corrections after a document follow on each other. -/
theorem chain_of_steps {documents : List DocumentObject} :
    ∀ {prior : DocumentObject},
      (∀ step ∈ supersessionSteps sha256 (some prior) documents, step.corrects = true) →
      (prior :: documents).IsChain fun prior new => Corrects sha256 new prior := by
  induction documents with
  | nil => exact fun _ => List.IsChain.singleton _
  | cons new rest ih =>
      intro prior h
      rw [supersessionSteps, List.forall_mem_cons] at h
      obtain ⟨hstep, hrest⟩ := h
      refine List.isChain_cons_cons.2 ⟨?_, ih hrest⟩
      have hvalid : (validateSupersessionStep sha256 new (some prior)).isValid = true := by
        cases hresult : validateSupersessionStep sha256 new (some prior) with
        | valid _ _ => rfl
        | invalid _ _ =>
            rw [hresult] at hstep
            exact absurd hstep Bool.false_ne_true
      rcases validateSupersessionStep_valid hvalid with ⟨hbegins, -⟩ | ⟨object, hsame, hcorrects, -⟩
      · rw [hbegins] at hstep
        exact absurd hstep Bool.false_ne_true
      · cases hsame
        exact hcorrects

/-- Along corrections the numbers go up by one. -/
theorem numbers_of_chain {documents : List DocumentObject} :
    ∀ {first : DocumentObject},
      ((first :: documents).IsChain fun prior new => Corrects sha256 new prior) →
      (first :: documents).map (·.document.revisionNumber) =
        List.range' first.document.revisionNumber (documents.length + 1) := by
  induction documents with
  | nil => exact fun _ => rfl
  | cons new rest ih =>
      intro first h
      obtain ⟨hcorrects, hrest⟩ := List.isChain_cons_cons.1 h
      rw [List.map_cons, ih hrest, hcorrects.number, List.length_cons]
      rfl

/-- Along corrections the advisory stays the same. -/
theorem same_of_chain {documents : List DocumentObject} :
    ∀ {first : DocumentObject},
      ((first :: documents).IsChain fun prior new => Corrects sha256 new prior) →
      ∀ object ∈ first :: documents, SameAdvisory object.document first.document := by
  induction documents with
  | nil =>
      intro first _ object hobject
      rw [List.mem_singleton.1 hobject]
      exact ⟨rfl, rfl, rfl⟩
  | cons new rest ih =>
      intro first h object hobject
      obtain ⟨hcorrects, hrest⟩ := List.isChain_cons_cons.1 h
      rcases List.mem_cons.1 hobject with rfl | hobject
      · exact ⟨rfl, rfl, rfl⟩
      · have hsame := ih hrest object hobject
        exact ⟨hsame.family.trans hcorrects.same.family,
          hsame.package.trans hcorrects.same.package,
          hsame.vulnerability.trans hcorrects.same.vulnerability⟩

/-- A document behind the first corrects one of the sequence. -/
theorem prior_of_chain {documents : List DocumentObject} :
    ∀ {first : DocumentObject},
      ((first :: documents).IsChain fun prior new => Corrects sha256 new prior) →
      ∀ object ∈ documents, ∃ prior ∈ first :: documents, Corrects sha256 object prior := by
  induction documents with
  | nil => exact fun _ _ hobject => absurd hobject List.not_mem_nil
  | cons new rest ih =>
      intro first h object hobject
      obtain ⟨hcorrects, hrest⟩ := List.isChain_cons_cons.1 h
      rcases List.mem_cons.1 hobject with rfl | hobject
      · exact ⟨first, List.mem_cons_self, hcorrects⟩
      · obtain ⟨prior, hprior, hobject⟩ := ih hrest object hobject
        exact ⟨prior, List.mem_cons_of_mem first hprior, hobject⟩

/-- The digests of these documents do not collide. -/
def CollisionFree (sha256 : List UInt8 → JsString) (documents : List DocumentObject) : Prop :=
  ∀ object ∈ documents, ∀ other ∈ documents,
    maintainerRevisionIdentity sha256 object.document =
        maintainerRevisionIdentity sha256 other.document →
      utf8Encode (maintainerRevisionMaterial sha256 object.document) =
        utf8Encode (maintainerRevisionMaterial sha256 other.document)

/-- Along corrections the digest of a document says its number. -/
theorem number_of_identity {first : DocumentObject} {documents : List DocumentObject}
    (hfree : CollisionFree sha256 (first :: documents))
    (h : (first :: documents).IsChain fun prior new => Corrects sha256 new prior)
    {object other : DocumentObject} (hobject : object ∈ first :: documents)
    (hother : other ∈ first :: documents)
    (hsame : maintainerRevisionIdentity sha256 object.document =
      maintainerRevisionIdentity sha256 other.document) :
    object.document.revisionNumber = other.document.revisionNumber :=
  revisionNumber_of_material
    ((same_of_chain h object hobject).family.trans (same_of_chain h other hother).family.symm)
    (hfree object hobject other hother hsame)

/-- An edge between the links of a sequence of corrections goes down by one. -/
theorem edge_down {first : DocumentObject} {documents : List DocumentObject}
    (hfirst : first.document.supersedesRevisionId = none)
    (h : (first :: documents).IsChain fun prior new => Corrects sha256 new prior)
    {digest parent : JsString}
    (hedge : Edge ((first :: documents).map (linkOf sha256)) digest parent) :
    ∃ object ∈ first :: documents, ∃ prior ∈ first :: documents,
      digest = maintainerRevisionIdentity sha256 object.document ∧
        parent = maintainerRevisionIdentity sha256 prior.document ∧
        prior.document.revisionNumber < object.document.revisionNumber := by
  obtain ⟨object, hobject, hlink⟩ := List.mem_map.1 hedge.1
  obtain ⟨hdigest, hparent⟩ := LineageLink.mk.inj hlink
  rcases List.mem_cons.1 hobject with rfl | hbehind
  · rw [hfirst] at hparent
    exact absurd hparent nofun
  · obtain ⟨prior, hprior, hcorrects⟩ := prior_of_chain h object hbehind
    rw [hcorrects.supersedes] at hparent
    refine ⟨object, hobject, prior, hprior, hdigest.symm, (Option.some.inj hparent).symm, ?_⟩
    have := hcorrects.number
    omega

/-- A walk goes down. -/
theorem walk_down {first : DocumentObject} {documents : List DocumentObject}
    (hfree : CollisionFree sha256 (first :: documents))
    (hfirst : first.document.supersedesRevisionId = none)
    (h : (first :: documents).IsChain fun prior new => Corrects sha256 new prior)
    {digest parent : JsString}
    (hwalk : Relation.TransGen (Edge ((first :: documents).map (linkOf sha256))) digest parent) :
    ∃ object ∈ first :: documents, ∃ prior ∈ first :: documents,
      digest = maintainerRevisionIdentity sha256 object.document ∧
        parent = maintainerRevisionIdentity sha256 prior.document ∧
        prior.document.revisionNumber < object.document.revisionNumber := by
  induction hwalk with
  | single hedge => exact edge_down hfirst h hedge
  | tail _ hedge ih =>
      obtain ⟨object, hobject, between, hbetween, hdigest, hsame, hdown⟩ := ih
      obtain ⟨between', hbetween', prior, hprior, hsame', hparent, hdown'⟩ :=
        edge_down hfirst h hedge
      have hnumber := number_of_identity hfree h hbetween hbetween' (hsame.symm.trans hsame')
      exact ⟨object, hobject, prior, hprior, hdigest, hparent, by omega⟩

/-- The links of a sequence of corrections have no cycle. -/
theorem detectSupersessionCycles_chain {first : DocumentObject} {documents : List DocumentObject}
    (hfree : CollisionFree sha256 (first :: documents))
    (hfirst : first.document.supersedesRevisionId = none)
    (h : (first :: documents).IsChain fun prior new => Corrects sha256 new prior) :
    detectSupersessionCycles ((first :: documents).map (linkOf sha256)) = some false := by
  obtain ⟨found, hfound, hiff⟩ :=
    detectSupersessionCycles_iff ((first :: documents).map (linkOf sha256))
  rw [hfound, Option.some_inj, ← Bool.not_eq_true, hiff]
  rintro (htwice | ⟨digest, hcycle⟩)
  · refine htwice ?_
    have hnumbers : ((first :: documents).map (·.document.revisionNumber)).Nodup := by
      rw [numbers_of_chain h]
      exact List.nodup_range'
    rw [List.map_map]
    refine List.pairwise_map.2 ((List.pairwise_map.1 hnumbers).imp_of_mem ?_)
    intro object other hobject hother hdiffers hsame
    exact hdiffers (number_of_identity hfree h hobject hother hsame)
  · obtain ⟨object, hobject, prior, hprior, hdigest, hparent, hdown⟩ :=
      walk_down hfree hfirst h hcycle
    have := number_of_identity hfree h hobject hprior (hdigest.symm.trans hparent)
    omega

end Sequence

/-- The detector says whether a digest is there twice or the graph of the listed digests has a
cycle, in any order of the links.  In a sequence whose first document is valid without a
predecessor, and in which each later one is a valid correction of its predecessor, the numbers
are 1, 2, and so on, the advisory stays the same, and the detector finds no cycle. -/
theorem lineage_acyclic (sha256 : List UInt8 → JsString) :
    (∀ links : List LineageLink, ∃ found, detectSupersessionCycles links = some found ∧
      (found = true ↔ ¬(links.map (·.revisionDigest)).Nodup ∨
        ∃ digest, Relation.TransGen (Edge links) digest digest) ∧
      ∀ links', links.Perm links' → detectSupersessionCycles links' = some found) ∧
    ∀ documents : List DocumentObject, CollisionFree sha256 documents →
      (∀ step ∈ supersessionSteps sha256 none documents, step.isValid = true) →
      (∀ step ∈ (supersessionSteps sha256 none documents).tail, step.corrects = true) →
      documents.map (·.document.revisionNumber) = List.range' 1 documents.length ∧
        (∀ object ∈ documents, ∀ other ∈ documents,
          SameAdvisory object.document other.document) ∧
        detectSupersessionCycles (documents.map (linkOf sha256)) = some false := by
  constructor
  · intro links
    obtain ⟨found, hfound, hiff⟩ := detectSupersessionCycles_iff links
    exact ⟨found, hfound, hiff, fun links' h =>
      (detectSupersessionCycles_perm h).symm.trans hfound⟩
  · intro documents hfree hvalid hcorrects
    cases documents with
    | nil => exact ⟨rfl, fun _ h => absurd h List.not_mem_nil, rfl⟩
    | cons first rest =>
        have hchain := @chain_of_steps sha256 rest first hcorrects
        rcases validateSupersessionStep_valid (hvalid _ List.mem_cons_self) with
          ⟨-, hbegins, hone⟩ | ⟨object, habsent, -⟩
        · refine ⟨?_, fun object hobject other hother => ?_,
            detectSupersessionCycles_chain hfree hbegins hchain⟩
          · rw [numbers_of_chain hchain, hone, List.length_cons]
          · have hleft := same_of_chain hchain object hobject
            have hright := same_of_chain hchain other hother
            exact ⟨hleft.family.trans hright.family.symm,
              hleft.package.trans hright.package.symm,
              hleft.vulnerability.trans hright.vulnerability.symm⟩
        · exact absurd habsent nofun

/-! ### Samples -/

/-- A first revision. -/
def sampleFirst : DocumentObject := ⟨MaintainerDocument.sampleDocument, true⟩

/-- A first revision behind another is a valid step, but no correction. -/
theorem valid_steps_restart :
    ¬∀ (sha256 : List UInt8 → JsString) (documents : List DocumentObject),
      CollisionFree sha256 documents →
      (∀ step ∈ supersessionSteps sha256 none documents, step.isValid = true) →
      documents.map (·.document.revisionNumber) = List.range' 1 documents.length ∧
        detectSupersessionCycles (documents.map (linkOf sha256)) = some false := by
  intro h
  have hfree : CollisionFree (fun _ => js "d") [sampleFirst, sampleFirst] := by
    intro object hobject other hother _
    rw [List.mem_pair, or_self] at hobject hother
    rw [hobject, hother]
  have hvalid : ∀ step ∈ supersessionSteps (fun _ => js "d") none [sampleFirst, sampleFirst],
      step.isValid = true := by
    decide
  have hnumbers := (h (fun _ => js "d") [sampleFirst, sampleFirst] hfree hvalid).1
  exact absurd hnumbers (by decide)

/-- The digests of the texts that the sample documents are written as, which a few characters
tell apart. -/
def sampleSha256 (bytes : List UInt8) : JsString :=
  let holds := fun (index : Nat) (character : Char) =>
    bytes.getD index 0 == (unit character).toUInt8
  if holds 2 's' then
    js "7e05193a25db1e5e5807e7e02eb859d83c5ed80d37f0a74fd01b7a42708130e0"
  else if holds 3 'i' then
    js "682d797a73d3a295d9dc7ec6aad60893b1bb7be1561f57673235fdc961e4a745"
  else if holds 3 'c' then
    if holds 217 '1' then
      js "36f5c5b622b160f744bd1d5885ea13b130bc59eacd01c99e62d0778606729bba"
    else js "e7a0e4a3fdd090d3727174af9e15a0ad2ef97a8a934e08715c8bb4fe359b4e44"
  else if holds 8 '4' then
    js "a1befbc9806ac8f85ea8622acfe439fa8880d416e596ab074f7034b260abb016"
  else if holds 183 '1' then
    js "4863b59ec2bbb22288452f5f03ebb2e83b79d9980711d193b14e6d5354b5a4f8"
  else js "77a435c822d086dd3caaa4a8d5107e9ad85bb1014ccb0a9021d2dad04256b5ef"

/-- The correction of the first revision. -/
def sampleCorrection : DocumentObject :=
  ⟨{ MaintainerDocument.sampleDocument with
      revisionNumber := 2
      supersedesRevisionId :=
        some (js "4863b59ec2bbb22288452f5f03ebb2e83b79d9980711d193b14e6d5354b5a4f8") }, true⟩

/-- A first revision and its correction. -/
theorem lineage_acyclic_sample :
    detectSupersessionCycles ([sampleFirst, sampleCorrection].map (linkOf sampleSha256)) =
      some false := by
  have hdiffers : maintainerRevisionIdentity sampleSha256 sampleFirst.document ≠
      maintainerRevisionIdentity sampleSha256 sampleCorrection.document := by
    decide +kernel
  have hfree : CollisionFree sampleSha256 [sampleFirst, sampleCorrection] := by
    intro object hobject other hother hsame
    rcases List.mem_pair.1 hobject with rfl | rfl <;> rcases List.mem_pair.1 hother with rfl | rfl
    · rfl
    · exact absurd hsame hdiffers
    · exact absurd hsame.symm hdiffers
    · rfl
  exact ((lineage_acyclic sampleSha256).2 [sampleFirst, sampleCorrection] hfree
    (by decide +kernel) (by decide +kernel)).2.2

end PatchPilot.Matching.Lineage
