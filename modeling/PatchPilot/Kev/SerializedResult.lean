import PatchPilot.Foundation.JsonWriting
import PatchPilot.Foundation.SizeField
import PatchPilot.Foundation.Utf8

set_option autoImplicit false

/-!
# Kev: the size of a result (`parser-thread.ts`)

A result of the parser thread says how many bytes its own serialization has.  The size is
searched for by writing the result with the size measured last.  The texts of strings and of
the other numbers are parameters; nothing depends on them.
-/

namespace PatchPilot.Kev

open PatchPilot.Foundation

/-! ## Results -/

/-- `knownRansomwareCampaignUseValues`. -/
inductive KnownRansomwareCampaignUse
  | known | unknown | other
  deriving DecidableEq

def KnownRansomwareCampaignUse.text : KnownRansomwareCampaignUse → JsString
  | .known => js "known"
  | .unknown => js "unknown"
  | .other => js "other"

/-- `KevParserNormalizedEntry`. -/
structure KevParserNormalizedEntry where
  ordinal : JsNumber
  normalizedCve : JsString
  vendorProject : JsString
  product : JsString
  vulnerabilityName : JsString
  dateAdded : JsString
  shortDescription : JsString
  requiredAction : JsString
  dueDate : JsString
  knownRansomwareCampaignUse : KnownRansomwareCampaignUse
  rawKnownRansomwareCampaignUse : Option JsString
  notes : Option JsString
  cwes : List JsString
  deriving DecidableEq

/-- `kevParserWarningCodes`. -/
inductive KevParserWarningCode
  | unrecognizedRansomwareValue
  deriving DecidableEq

def KevParserWarningCode.text : KevParserWarningCode → JsString
  | .unrecognizedRansomwareValue => js "unrecognized_ransomware_value"

/-- `KevParserWarningSummary`. -/
structure KevParserWarningSummary where
  code : KevParserWarningCode
  count : JsNumber
  deriving DecidableEq

/-- `KevParserSuccessDraft`. -/
structure KevParserSuccessDraft where
  catalogVersion : JsString
  catalogReleasedAt : JsString
  expectedEntryCount : JsNumber
  entries : List KevParserNormalizedEntry
  entryCount : JsNumber
  warnings : List KevParserWarningSummary
  parserVersion : JsString
  normalizationVersion : JsString
  deriving DecidableEq

/-- `KevParserThreadSuccess`. -/
structure KevParserThreadSuccess extends KevParserSuccessDraft where
  serializedResultBytes : Nat
  deriving DecidableEq

/-! ## Serialization -/

/-- A text, or `null`. -/
def nullable (value : Option JsString) : JsonValue := value.elim .null .string

/-- The document of an entry. -/
def KevParserNormalizedEntry.json (entry : KevParserNormalizedEntry) : JsonValue :=
  .object
    [(js "ordinal", .number entry.ordinal),
      (js "normalizedCve", .string entry.normalizedCve),
      (js "vendorProject", .string entry.vendorProject),
      (js "product", .string entry.product),
      (js "vulnerabilityName", .string entry.vulnerabilityName),
      (js "dateAdded", .string entry.dateAdded),
      (js "shortDescription", .string entry.shortDescription),
      (js "requiredAction", .string entry.requiredAction),
      (js "dueDate", .string entry.dueDate),
      (js "knownRansomwareCampaignUse", .string entry.knownRansomwareCampaignUse.text),
      (js "rawKnownRansomwareCampaignUse", nullable entry.rawKnownRansomwareCampaignUse),
      (js "notes", nullable entry.notes),
      (js "cwes", .array (entry.cwes.map .string))]

/-- The document of a warning. -/
def KevParserWarningSummary.json (warning : KevParserWarningSummary) : JsonValue :=
  .object [(js "code", .string warning.code.text), (js "count", .number warning.count)]

/-- The members of a result before its size. -/
def KevParserSuccessDraft.members (draft : KevParserSuccessDraft) : JsonRecord :=
  [(js "ok", .boolean true),
    (js "catalogVersion", .string draft.catalogVersion),
    (js "catalogReleasedAt", .string draft.catalogReleasedAt),
    (js "expectedEntryCount", .number draft.expectedEntryCount),
    (js "entries", .array (draft.entries.map (·.json))),
    (js "entryCount", .number draft.entryCount),
    (js "warnings", .array (draft.warnings.map (·.json))),
    (js "parserVersion", .string draft.parserVersion),
    (js "normalizationVersion", .string draft.normalizationVersion)]

section

variable (texts : JsonTexts)

/-- `JSON.stringify` of a result.  The size is a whole number, which is written with its
digits; no text is so long that they would take an exponent. -/
def KevParserThreadSuccess.stringify (success : KevParserThreadSuccess) : JsString :=
  unit '{' :: [unit ','].intercalate
    (writeEntries texts success.members ++
      [texts.string (js "serializedResultBytes") ++
        unit ':' :: decimalText success.serializedResultBytes]) ++ [unit '}']

/-- `serializedJsonBytes`. -/
def serializedJsonBytes (success : KevParserThreadSuccess) : Nat :=
  utf8ByteLength (success.stringify texts)

/-- `SERIALIZED_RESULT_CONVERGENCE_LIMIT`. -/
def serializedResultConvergenceLimit : Nat := 8

/-- The error of a result that is too large. -/
structure UnprocessableEvidence where
  message : JsString
  deriving DecidableEq

def normalizedOutputTooLarge : UnprocessableEvidence := ⟨js "normalized_output_too_large"⟩

/-- The loop of `attachSerializedResultBytes`: as many iterations as are left, and the size
measured last. -/
def attachFrom (draft : KevParserSuccessDraft) (maxSerializedResultBytes : Rat) :
    Nat → Nat → Except UnprocessableEvidence KevParserThreadSuccess
  | 0, _ => .error normalizedOutputTooLarge
  | iterations + 1, serializedResultBytes =>
      let candidate : KevParserThreadSuccess := { draft with serializedResultBytes }
      let measured := serializedJsonBytes texts candidate
      if (measured : Rat) > maxSerializedResultBytes then .error normalizedOutputTooLarge
      else if measured = serializedResultBytes then .ok candidate
      else attachFrom draft maxSerializedResultBytes iterations measured

/-- `attachSerializedResultBytes`.  The maximum is a number that is not `NaN`: a request with
other limits than integers is refused by `parseLimits` before anything is parsed. -/
def attachSerializedResultBytes (draft : KevParserSuccessDraft) (maxSerializedResultBytes : Rat) :
    Except UnprocessableEvidence KevParserThreadSuccess :=
  attachFrom texts draft maxSerializedResultBytes serializedResultConvergenceLimit 0

end

/-! ## The size -/

section

variable (texts : JsonTexts) (draft : KevParserSuccessDraft)

/-- What a result measures beside its size. -/
def otherBytes : Nat :=
  utf8ByteLength (unit '{' :: [unit ','].intercalate (writeEntries texts draft.members) ++
    (unit ',' :: texts.string (js "serializedResultBytes") ++ [unit ':'])) + 1

/-- A result measures as much as its other text and the digits of its size. -/
theorem serializedJsonBytes_eq (serializedResultBytes : Nat) :
    serializedJsonBytes texts { draft with serializedResultBytes } =
      sizeWith (otherBytes texts draft) serializedResultBytes := by
  have hmembers : writeEntries texts draft.members ≠ [] := by
    intro h
    cases h
  have htext : ({ draft with serializedResultBytes } : KevParserThreadSuccess).stringify texts =
      (unit '{' :: [unit ','].intercalate (writeEntries texts draft.members) ++
        (unit ',' :: texts.string (js "serializedResultBytes") ++ [unit ':'])) ++
        (decimalText serializedResultBytes ++ [unit '}']) := by
    unfold KevParserThreadSuccess.stringify
    dsimp only
    rw [intercalate_append_singleton hmembers]
    simp only [List.append_assoc, List.cons_append, List.nil_append]
  have hascii : isAscii (decimalText serializedResultBytes ++ [unit '}']) = true :=
    isAscii_append.mpr ⟨isAscii_decimalText serializedResultBytes, by decide⟩
  unfold serializedJsonBytes sizeWith otherBytes
  rw [htext, utf8ByteLength_append_ascii _ hascii, List.length_append, List.length_singleton]
  omega

/-- The loop looks for the size of the result. -/
theorem attachFrom_eq (maxSerializedResultBytes : Rat) (iterations serializedResultBytes : Nat) :
    attachFrom texts draft maxSerializedResultBytes iterations serializedResultBytes =
      match settle (sizeWith (otherBytes texts draft))
        (fun size => decide ((size : Rat) ≤ maxSerializedResultBytes)) iterations
          serializedResultBytes with
      | some size => .ok { draft with serializedResultBytes := size }
      | none => .error normalizedOutputTooLarge := by
  induction iterations generalizing serializedResultBytes with
  | zero => rfl
  | succ iterations ih =>
      unfold attachFrom settle
      dsimp only
      rw [serializedJsonBytes_eq]
      by_cases hfits : (sizeWith (otherBytes texts draft) serializedResultBytes : Rat) ≤
          maxSerializedResultBytes
      · have hunfit : ¬ decide ((sizeWith (otherBytes texts draft) serializedResultBytes : Rat) ≤
            maxSerializedResultBytes) = false := by
          rw [decide_eq_true hfits]
          decide
        rw [if_neg (not_lt.mpr hfits), if_neg hunfit]
        by_cases hsame : sizeWith (otherBytes texts draft) serializedResultBytes =
            serializedResultBytes
        · rw [if_pos hsame, if_pos hsame]
        · rw [if_neg hsame, if_neg hsame]
          exact ih _
      · rw [if_pos (not_le.mp hfits), if_pos (decide_eq_false hfits)]

/-- A result has a least size that is its own, and is returned with it if that is no more
than the maximum. -/
theorem attachSerializedResultBytes_eq (maxSerializedResultBytes : Rat) :
    ∃ size, IsLeast {size | serializedJsonBytes texts { draft with serializedResultBytes := size } =
        size} size ∧
      attachSerializedResultBytes texts draft maxSerializedResultBytes =
        if (size : Rat) ≤ maxSerializedResultBytes then
          .ok { draft with serializedResultBytes := size }
        else .error normalizedOutputTooLarge := by
  have hfits : ∀ {a b : Nat}, a ≤ b → decide ((b : Rat) ≤ maxSerializedResultBytes) = true →
      decide ((a : Rat) ≤ maxSerializedResultBytes) = true := by
    intro a b hab hb
    exact decide_eq_true (le_trans (Nat.cast_le.mpr hab) (of_decide_eq_true hb))
  obtain ⟨size, hleast, hsettle⟩ := settle_sizeWith (otherBytes texts draft) hfits 4
  refine ⟨size, ?_, ?_⟩
  · simp only [serializedJsonBytes_eq]
    exact hleast
  · unfold attachSerializedResultBytes
    rw [attachFrom_eq]
    change (match settle _ _ (4 + 4) 0 with
      | some size => Except.ok _
      | none => _) = _
    rw [hsettle]
    by_cases hle : (size : Rat) ≤ maxSerializedResultBytes
    · rw [if_pos (decide_eq_true hle), if_pos hle]
    · rw [if_neg (by rw [decide_eq_false hle]; decide), if_neg hle]

end

end PatchPilot.Kev
