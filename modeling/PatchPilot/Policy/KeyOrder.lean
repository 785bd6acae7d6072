import PatchPilot.Foundation.KeyOrder
import PatchPilot.Policy.DefinitionDocument

set_option autoImplicit false

/-!
# Policy: the order of keys, and validating again (`definition.ts`, `facts.ts`)

Neither the result of a validation nor the list of its issues depends on the order of the
keys of its input, and validating an accepted output again gives it back.  Each reader
takes `SameData` to one result.
-/

namespace PatchPilot.Policy

open PatchPilot.Foundation

/-! ## Plain records -/

/-- Records with the same keys and related values. -/
structure SameRecord (record record' : PlainRecord) : Prop where
  distinct : record.keys.Nodup
  keys : record.keys.Perm record'.keys
  each : ∀ key value value', (key, value) ∈ record → (key, value') ∈ record' →
    SameData value value'

theorem SameRecord.has {record record' : PlainRecord} (h : SameRecord record record')
    (key : JsString) : record.has key = record'.has key := by
  unfold PlainRecord.has
  rw [Bool.eq_iff_iff, List.contains_iff_mem, List.contains_iff_mem, h.keys.mem_iff]

theorem PlainRecord.get_of_not_mem {record : PlainRecord} {key : JsString}
    (h : key ∉ record.keys) : record.get key = .undefined := by
  unfold PlainRecord.get
  rw [List.find?_eq_none.mpr fun entry hentry hkey => h
    (List.mem_map.mpr ⟨entry, hentry, of_decide_eq_true hkey⟩)]
  rfl

/-- A key that is there has its value. -/
theorem PlainRecord.mem_get {record : PlainRecord} {key : JsString} (h : key ∈ record.keys) :
    (key, record.get key) ∈ record := by
  cases hfind : record.find? fun entry => entry.1 = key with
  | none =>
      obtain ⟨entry, hentry, hkey⟩ := List.mem_map.mp h
      exact absurd (decide_eq_true hkey) (List.find?_eq_none.mp hfind entry hentry)
  | some entry =>
      have hkey : entry.1 = key := by simpa using List.find?_some hfind
      have hget : record.get key = entry.2 := by
        unfold PlainRecord.get
        rw [hfind]
        rfl
      rw [hget, ← hkey]
      exact List.mem_of_find?_eq_some hfind

theorem SameRecord.get {record record' : PlainRecord} (h : SameRecord record record')
    (key : JsString) : SameData (record.get key) (record'.get key) := by
  by_cases hkey : key ∈ record.keys
  · exact h.each key _ _ (PlainRecord.mem_get hkey)
      (PlainRecord.mem_get (h.keys.mem_iff.mp hkey))
  · rw [PlainRecord.get_of_not_mem hkey,
      PlainRecord.get_of_not_mem fun hkey' => hkey (h.keys.mem_iff.mpr hkey')]
    exact .refl _

/-- The records of related values. -/
inductive SamePlain : Option PlainRecord → Option PlainRecord → Prop
  | refl (record? : Option PlainRecord) : SamePlain record? record?
  | record {record record' : PlainRecord} (h : SameRecord record record') :
      SamePlain (some record) (some record')

theorem readPlainRecord_same {a b : JsValue} (h : SameData a b) :
    SamePlain (readPlainRecord a) (readPlainRecord b) := by
  cases h with
  | refl => exact .refl _
  | array => exact .refl _
  | object header distinct keys each =>
      unfold readPlainRecord
      dsimp only
      rw [mapM_plainEntry, mapM_plainEntry]
      split
      · exact .refl _
      · split
        · exact .refl _
        · exact .record ⟨distinct, keys, each⟩

/-- The elements of related values. -/
inductive SameArray : PlainArray → PlainArray → Prop
  | elements {values values' : List JsValue} (each : List.Forall₂ SameData values values') :
      SameArray (.elements values) (.elements values')
  | notArray : SameArray .notArray .notArray
  | tooLong : SameArray .tooLong .tooLong

theorem SameArray.refl : ∀ array : PlainArray, SameArray array array
  | .elements _ => .elements (List.forall₂_same.mpr fun value _ => .refl value)
  | .notArray => .notArray
  | .tooLong => .tooLong

theorem readPlainArray_same {a b : JsValue} (h : SameData a b) (maxLength : Nat) :
    SameArray (readPlainArray a maxLength) (readPlainArray b maxLength) := by
  cases h with
  | refl => exact .refl _
  | object => exact .notArray
  | array header properties length each =>
      unfold readPlainArray
      dsimp only
      rw [mapM_dataValue, mapM_dataValue, List.length_map, List.length_map, length]
      split
      · exact .notArray
      · split
        · exact .tooLong
        · dsimp only
          split
          · exact .notArray
          · exact .elements (List.forall₂_iff_get.mpr ⟨length, fun i h h' => each i h h'⟩)

/-! ## The readers of a definition -/

theorem oneOf_congr {α : Type} [CatalogToken α] {a b : JsValue} (h : SameData a b) :
    oneOf α a = oneOf α b := by
  cases h with
  | refl => rfl
  | object => rfl
  | array => rfl

theorem readInteger_congr {a b : JsValue} (h : SameData a b) (min max : Nat) (path : JsString) :
    readInteger a min max path = readInteger b min max path := by
  cases h with
  | refl => rfl
  | object => rfl
  | array => rfl

theorem isNumber_congr {a b : JsValue} (h : SameData a b) (n : Nat) :
    isNumber a n = isNumber b n := by
  cases h with
  | refl => rfl
  | object => rfl
  | array => rfl

theorem readRecordWithKeys_congr {β : Type} {a b : JsValue} (h : SameData a b)
    {keys : List JsString} {path : JsString} {code : PolicyDefinitionIssueCode}
    {k : Option PlainRecord → Check β}
    (hk : ∀ record record', SameRecord record record' → k (some record) = k (some record')) :
    readRecordWithKeys a keys path code >>= k = readRecordWithKeys b keys path code >>= k := by
  have hread := readPlainRecord_same h
  unfold readRecordWithKeys
  generalize readPlainRecord a = read at hread ⊢
  generalize readPlainRecord b = read' at hread ⊢
  cases hread with
  | refl => rfl
  | @record record record' hsame =>
      have hhas : record.has = record'.has := funext hsame.has
      have hunexpected : (record.keys.forM fun key => addWhen (key ∉ keys) path code) =
          record'.keys.forM fun key => addWhen (key ∉ keys) path code := forM_add_perm hsame.keys
      dsimp only
      rw [hhas, hunexpected]
      simp only [bind_assoc, pure_bind]
      refine congrArg _ (funext fun _ => congrArg _ (funext fun _ => ?_))
      split
      · exact hk record record' hsame
      · rfl

theorem validatePolicyKey_congr {a b : JsValue} (h : SameData a b) :
    validatePolicyKey a = validatePolicyKey b := by
  unfold validatePolicyKey
  rw [h.string?]

theorem validateDescription_congr {a b : JsValue} (h : SameData a b) (path : JsString) :
    validateDescription a path = validateDescription b path := by
  unfold validateDescription
  rw [h.string?]

theorem scanCatalogEntry_congr {a b : JsValue} (h : SameData a b) (index : Nat)
    (scan : CatalogScan) :
    scanCatalogEntry scan (a, index) = scanCatalogEntry scan (b, index) := by
  unfold scanCatalogEntry
  refine readRecordWithKeys_congr h fun record record' hsame => ?_
  dsimp only
  rw [validateDescription_congr (hsame.get (js "description")),
    @oneOf_congr FactorId _ _ _ (hsame.get (js "factorId"))]

theorem validateFactorCatalog_congr {a b : JsValue} (h : SameData a b) :
    validateFactorCatalog a = validateFactorCatalog b := by
  have hread := readPlainArray_same h (factorIds.length * 4)
  unfold validateFactorCatalog
  generalize readPlainArray a (factorIds.length * 4) = read at hread ⊢
  generalize readPlainArray b (factorIds.length * 4) = read' at hread ⊢
  cases hread with
  | notArray => rfl
  | tooLong => rfl
  | elements each =>
      dsimp only
      rw [foldlM_congr (fun a b i scan hab => scanCatalogEntry_congr hab i scan) each]

theorem validateWeights_congr {a b : JsValue} (h : SameData a b) :
    validateWeights a = validateWeights b := by
  unfold validateWeights
  refine readRecordWithKeys_congr h fun record record' hsame => ?_
  dsimp only
  have hread : (fun factorId : FactorId => readInteger (record.get (text factorId)) 0 weightSum
      (fieldPath (js "weights") (text factorId))) = fun factorId =>
        readInteger (record'.get (text factorId)) 0 weightSum
          (fieldPath (js "weights") (text factorId)) :=
    funext fun factorId : FactorId => readInteger_congr (hsame.get (text factorId)) _ _ _
  rw [hread]

theorem validateTokenPercents_congr {α : Type} [CatalogToken α] [DecidableEq α]
    {factorId : FactorId} {a b : JsValue} (h : SameData a b) :
    validateTokenPercents α factorId a = validateTokenPercents α factorId b := by
  have hread := readPlainRecord_same h
  unfold validateTokenPercents
  generalize readPlainRecord a = read at hread ⊢
  generalize readPlainRecord b = read' at hread ⊢
  cases hread with
  | refl => rfl
  | @record record record' hsame =>
      have hunexpected : (record.keys.forM fun key =>
          addWhen (key ∉ (tokens : List α).map text) (normalizationPath factorId) .unknownToken) =
            record'.keys.forM fun key =>
              addWhen (key ∉ (tokens : List α).map text) (normalizationPath factorId)
                .unknownToken := forM_add_perm hsame.keys
      have hpercents : (fun token : α =>
          if record.has (text token) then
            readInteger (record.get (text token)) 0 percentMax
              (fieldPath (normalizationPath factorId) (text token))
          else reject (fieldPath (normalizationPath factorId) (text token)) .missingToken) =
          fun token =>
            if record'.has (text token) then
              readInteger (record'.get (text token)) 0 percentMax
                (fieldPath (normalizationPath factorId) (text token))
            else reject (fieldPath (normalizationPath factorId) (text token)) .missingToken := by
        funext token
        rw [hsame.has, readInteger_congr (hsame.get (text token))]
      dsimp only
      rw [hunexpected, hpercents]

theorem readAgeBucket_congr {a b : JsValue} (h : SameData a b) (path : JsString) (index : Nat) :
    readAgeBucket path (a, index) = readAgeBucket path (b, index) := by
  unfold readAgeBucket
  refine readRecordWithKeys_congr h fun record record' hsame => ?_
  dsimp only
  rw [readInteger_congr (hsame.get (js "minDays")), readInteger_congr (hsame.get (js "percent"))]

theorem validateAgeBuckets_congr {a b : JsValue} (h : SameData a b) :
    validateAgeBuckets a = validateAgeBuckets b := by
  have hread := readPlainArray_same h findingAgeBucketsMax
  unfold validateAgeBuckets
  generalize readPlainArray a findingAgeBucketsMax = read at hread ⊢
  generalize readPlainArray b findingAgeBucketsMax = read' at hread ⊢
  cases hread with
  | notArray => rfl
  | tooLong => rfl
  | elements each =>
      dsimp only
      rw [each.length_eq, mapM_congr (fun a b i hab => readAgeBucket_congr hab _ i) each]

theorem validateNormalization_congr {a b : JsValue} (h : SameData a b) :
    validateNormalization a = validateNormalization b := by
  unfold validateNormalization
  refine readRecordWithKeys_congr h fun record record' hsame => ?_
  dsimp only
  rw [validateTokenPercents_congr (hsame.get (text FactorId.sourceSeverity)),
    validateTokenPercents_congr (hsame.get (text FactorId.kevListed)),
    validateTokenPercents_congr (hsame.get (text FactorId.environmentSensitivity)),
    validateTokenPercents_congr (hsame.get (text FactorId.internetExposure)),
    validateTokenPercents_congr (hsame.get (text FactorId.businessCriticality)),
    validateTokenPercents_congr (hsame.get (text FactorId.assetDataClassification)),
    validateTokenPercents_congr (hsame.get (text FactorId.directDependency)),
    validateTokenPercents_congr (hsame.get (text FactorId.fixAvailable)),
    validateAgeBuckets_congr (hsame.get (text FactorId.findingAgeDays))]

theorem readBand_congr {a b : JsValue} (h : SameData a b) (index : Nat) :
    readBand (a, index) = readBand (b, index) := by
  unfold readBand
  refine readRecordWithKeys_congr h fun record record' hsame => ?_
  dsimp only
  rw [@oneOf_congr PriorityBand _ _ _ (hsame.get (js "band")),
    readInteger_congr (hsame.get (js "minPriority")),
    readInteger_congr (hsame.get (js "dueDateRecommendationDays"))]

theorem validateBands_congr {a b : JsValue} (h : SameData a b) :
    validateBands a = validateBands b := by
  have hread := readPlainArray_same h (tokens : List PriorityBand).length
  unfold validateBands
  generalize readPlainArray a (tokens : List PriorityBand).length = read at hread ⊢
  generalize readPlainArray b (tokens : List PriorityBand).length = read' at hread ⊢
  cases hread with
  | notArray => rfl
  | tooLong => rfl
  | elements each =>
      dsimp only
      rw [each.length_eq, mapM_congr (fun a b i hab => readBand_congr hab i) each]

theorem validateRules_congr {a b : JsValue} (h : SameData a b) :
    validateRules a = validateRules b := by
  unfold validateRules
  refine readRecordWithKeys_congr h fun record record' hsame => ?_
  dsimp only
  rw [@oneOf_congr PriorityBand _ _ _ (hsame.get (js "kevMinimumBand"))]
  simp only [(hsame.get (js "kevEscalation")).string?]

theorem validateWhenPresent_congr {α : Type} {record record' : PlainRecord}
    (h : SameRecord record record') (key : JsString) {validate : JsValue → Check (Option α)}
    (hvalidate : ∀ a b, SameData a b → validate a = validate b) :
    validateWhenPresent record key validate = validateWhenPresent record' key validate := by
  unfold validateWhenPresent
  rw [h.has, hvalidate _ _ (h.get key)]

theorem checkPolicyDefinition_congr {record record' : PlainRecord} (h : SameRecord record record') :
    checkPolicyDefinition record = checkPolicyDefinition record' := by
  have hhas : record.has = record'.has := funext h.has
  have hunexpected : (record.keys.forM fun key =>
      addWhen (key ∉ topLevelKeys) (js "$") .unexpectedKey) =
        record'.keys.forM fun key => addWhen (key ∉ topLevelKeys) (js "$") .unexpectedKey :=
    forM_add_perm h.keys
  unfold checkPolicyDefinition
  rw [hunexpected, validateWhenPresent_congr h _ fun _ _ => validatePolicyKey_congr,
    validateWhenPresent_congr h _ fun _ _ => validateFactorCatalog_congr,
    validateWhenPresent_congr h _ fun _ _ => validateWeights_congr,
    validateWhenPresent_congr h _ fun _ _ => validateNormalization_congr,
    validateWhenPresent_congr h _ fun _ _ => validateBands_congr,
    validateWhenPresent_congr h _ fun _ _ => validateRules_congr]
  simp only [hhas, (h.get (js "engineContract")).string?]

/-- The order of keys does not change what the validation of a definition returns. -/
theorem validatePolicyDefinition_congr {a b : JsValue} (h : SameData a b) :
    validatePolicyDefinition a = validatePolicyDefinition b := by
  have hread := readPlainRecord_same h
  unfold validatePolicyDefinition
  generalize readPlainRecord a = read at hread ⊢
  generalize readPlainRecord b = read' at hread ⊢
  cases hread with
  | refl => rfl
  | record hsame =>
      dsimp only
      rw [isNumber_congr (hsame.get (js "schemaVersion")), checkPolicyDefinition_congr hsame]

/-! ## The readers of facts -/

/-- A payload whose values are read regardless of the order of keys. -/
def Payload.IgnoresKeyOrder {α : Type} (payload : Payload α) : Prop :=
  ∀ a b, SameData a b → payload.parse a = payload.parse b

/-- A factor whose payloads are. -/
structure FactorSpec.IgnoresKeyOrder {ω υ ρ : Type} (spec : FactorSpec ω υ ρ) : Prop where
  observed : spec.observed.IgnoresKeyOrder
  unknown : ∀ payload, spec.unknown = some payload → payload.IgnoresKeyOrder
  unavailable : ∀ payload, spec.unavailable = .inr payload → payload.IgnoresKeyOrder

theorem parseToken_congr {α : Type} [CatalogToken α] {a b : JsValue} (h : SameData a b)
    (code : FactInputIssueCode) : parseToken α code a = parseToken α code b := by
  unfold parseToken
  rw [oneOf_congr h]

theorem mapM_oneOf_congr {α : Type} [CatalogToken α] {l l' : List JsValue}
    (h : List.Forall₂ SameData l l') : l.mapM (oneOf α) = l'.mapM (oneOf α) := by
  induction h with
  | nil => rfl
  | cons hab _ ih => rw [List.mapM_cons, List.mapM_cons, oneOf_congr hab, ih]

theorem parseSeverityValues_congr {a b : JsValue} (h : SameData a b) :
    parseSeverityValues a = parseSeverityValues b := by
  have hread := readPlainArray_same h severityMaxValues
  unfold parseSeverityValues
  generalize readPlainArray a severityMaxValues = read at hread ⊢
  generalize readPlainArray b severityMaxValues = read' at hread ⊢
  cases hread with
  | notArray => rfl
  | tooLong => rfl
  | elements each =>
      dsimp only
      rw [each.length_eq, mapM_oneOf_congr each]

theorem parseAgeDays_congr {a b : JsValue} (h : SameData a b) :
    parseAgeDays a = parseAgeDays b := by
  cases h with
  | refl => rfl
  | object => rfl
  | array => rfl

theorem tokenPayload_ignores (α : Type) [CatalogToken α] :
    (tokenPayload α).IgnoresKeyOrder :=
  fun _ _ h => parseToken_congr h .invalidValue

theorem observedSpec_ignores (ω : Type) [CatalogToken ω] : (observedSpec ω).IgnoresKeyOrder where
  observed := tokenPayload_ignores ω
  unknown _ h := by cases h
  unavailable _ h := by cases h

theorem tokenSpec_ignores (ω υ : Type) [CatalogToken ω] [CatalogToken υ] :
    (tokenSpec ω υ).IgnoresKeyOrder where
  observed := tokenPayload_ignores ω
  unknown _ h := by
    cases h
    exact tokenPayload_ignores υ
  unavailable _ h := by cases h

theorem sourceSeveritySpec_ignores : sourceSeveritySpec.IgnoresKeyOrder where
  observed _ _ := parseSeverityValues_congr
  unknown _ h := by
    cases h
    exact tokenPayload_ignores SeverityUnknownToken
  unavailable _ h := by cases h

theorem kevListedSpec_ignores : kevListedSpec.IgnoresKeyOrder where
  observed := tokenPayload_ignores KevObservedToken
  unknown _ h := by
    cases h
    exact tokenPayload_ignores KevUnknownToken
  unavailable _ h := by
    cases h
    exact fun _ _ h => parseToken_congr h .invalidReason

theorem findingAgeDaysSpec_ignores : findingAgeDaysSpec.IgnoresKeyOrder where
  observed _ _ := parseAgeDays_congr
  unknown _ h := by cases h
  unavailable _ h := by cases h

theorem unexpectedProperty_congr {record record' : PlainRecord} (h : SameRecord record record')
    (allowed : List JsString) :
    unexpectedProperty record allowed = unexpectedProperty record' allowed := by
  unfold unexpectedProperty
  rw [h.keys.all_eq]

theorem readPayload_congr {α : Type} {record record' : PlainRecord} (h : SameRecord record record')
    {payload : Payload α} (hpayload : payload.IgnoresKeyOrder) :
    readPayload record payload = readPayload record' payload := by
  unfold readPayload
  rw [unexpectedProperty_congr h, h.has, hpayload _ _ (h.get payload.key)]

theorem parseFactor_congr {ω υ ρ : Type} {spec : FactorSpec ω υ ρ} (hspec : spec.IgnoresKeyOrder)
    {a b : JsValue} (h : SameData a b) : parseFactor spec a = parseFactor spec b := by
  have hread := readPlainRecord_same h
  unfold parseFactor
  generalize readPlainRecord a = read at hread ⊢
  generalize readPlainRecord b = read' at hread ⊢
  cases hread with
  | refl => rfl
  | @record record record' hsame =>
      dsimp only
      rw [hsame.has, oneOf_congr (hsame.get (js "state")),
        readPayload_congr hsame hspec.observed, unexpectedProperty_congr hsame]
      cases oneOf FactorInputState (record'.get (js "state")) with
      | none => rfl
      | some state =>
          cases state with
          | observed => rfl
          | unknown =>
              cases hpayload : spec.unknown with
              | none => rfl
              | some payload =>
                  dsimp only
                  rw [readPayload_congr hsame (hspec.unknown payload hpayload)]
          | unavailable =>
              cases hpayload : spec.unavailable with
              | inl reason => rfl
              | inr payload =>
                  dsimp only
                  rw [readPayload_congr hsame (hspec.unavailable payload hpayload)]

theorem readFact_congr {ω υ ρ : Type} {record record' : PlainRecord}
    (h : SameRecord record record') (factorId : FactorId) {spec : FactorSpec ω υ ρ}
    (hspec : spec.IgnoresKeyOrder) :
    readFact record factorId spec = readFact record' factorId spec := by
  unfold readFact
  rw [h.has, parseFactor_congr hspec (h.get (text factorId))]

/-- One issue for each unknown key is the same list, wherever the keys stand. -/
theorem unknownFactors_congr {record record' : PlainRecord} (h : SameRecord record record') :
    ((record.keys.filter fun key => key ∉ factorIds.map text).map
      fun _ => FactInputIssue.mk none .unknownFactor) =
    (record'.keys.filter fun key => key ∉ factorIds.map text).map
      fun _ => FactInputIssue.mk none .unknownFactor := by
  rw [List.map_const', List.map_const', (h.keys.filter _).length_eq]

/-- The order of keys does not change what the parsing of facts returns. -/
theorem parseFactInput_congr {a b : JsValue} (h : SameData a b) :
    parseFactInput a = parseFactInput b := by
  have hread := readPlainRecord_same h
  unfold parseFactInput
  generalize readPlainRecord a = read at hread ⊢
  generalize readPlainRecord b = read' at hread ⊢
  cases hread with
  | refl => rfl
  | record hsame =>
      dsimp only
      rw [unknownFactors_congr hsame, readFact_congr hsame _ sourceSeveritySpec_ignores,
        readFact_congr hsame _ kevListedSpec_ignores,
        readFact_congr hsame _ (observedSpec_ignores EnvironmentSensitivityToken),
        readFact_congr hsame _
          (tokenSpec_ignores InternetExposureToken InternetExposureUnknownToken),
        readFact_congr hsame _ (tokenSpec_ignores BusinessCriticalityToken UnspecifiedToken),
        readFact_congr hsame _ (tokenSpec_ignores AssetDataClassificationToken UnspecifiedToken),
        readFact_congr hsame _ (observedSpec_ignores DirectDependencyToken),
        readFact_congr hsame _ (tokenSpec_ignores FixAvailableToken FixAvailableUnknownToken),
        readFact_congr hsame _ findingAgeDaysSpec_ignores,
        readFact_congr hsame _ (observedSpec_ignores AdvisoryWithdrawnToken)]

/-! ## Both together -/

/-- Neither the result nor the issues depend on the order of keys, and what was accepted is
accepted again with the same value. -/
theorem validation_canonical :
    (∀ a b, SameData a b → validatePolicyDefinition a = validatePolicyDefinition b ∧
      parseFactInput a = parseFactInput b) ∧
    (∀ input definition, validatePolicyDefinition input = .ok definition →
      validatePolicyDefinition (definitionDocument definition) = .ok definition) ∧
    ∀ input facts, parseFactInput input = .ok facts →
      parseFactInput facts.document = .ok facts := by
  refine ⟨fun a b h => ⟨validatePolicyDefinition_congr h, parseFactInput_congr h⟩, ?_, ?_⟩
  · intro input definition h
    exact validatePolicyDefinition_document (validatePolicyDefinition_accepted h)
  · intro input facts h
    exact parseFactInput_document (parseFactInput_bounded h)

/-- The built-in definition with its keys in another order is accepted as the same definition,
and so is what it was read as. -/
theorem validation_canonical_builtin :
    ∃ a b, SameData a b ∧ validatePolicyDefinition a = validatePolicyDefinition b ∧
      ∃ definition, validatePolicyDefinition a = .ok definition ∧
        validatePolicyDefinition (definitionDocument definition) = .ok definition := by
  obtain ⟨hcongr, hagain, -⟩ := validation_canonical
  have hdistinct : (definitionEntries builtinPriorityPolicyDefinition.val).keys.Nodup :=
    (show topLevelKeys.Nodup by simp [topLevelKeys, js_inj])
  have hsame := SameData.record_perm hdistinct (List.reverse_perm _).symm
  have haccepted : validatePolicyDefinition
      (.record (definitionEntries builtinPriorityPolicyDefinition.val)) =
        .ok builtinPriorityPolicyDefinition.val :=
    validatePolicyDefinition_document
      ((validated_iff_accepted _).mp builtinPriorityPolicyDefinition.property)
  exact ⟨_, _, hsame, (hcongr _ _ hsame).1, _, haccepted, hagain _ _ haccepted⟩

end PatchPilot.Policy
