import PatchPilot.Policy.Facts

set_option autoImplicit false

/-!
# Policy: fact inputs as documents

`parseFactInput` reads documents.  Every fact input whose values are within bounds
has a document that parses back to it, so the inputs that parsing can produce are
exactly the bounded ones.
-/

namespace PatchPilot.Policy

open PatchPilot.Foundation

/-! ## Reading a record literal back -/

theorem mapM_plainEntry (entries : List (JsString × JsValue)) :
    (entries.map fun entry => (entry.1, JsProperty.data true entry.2)).mapM plainEntry =
      some entries := by
  induction entries with
  | nil => rfl
  | cons entry rest ih =>
      rw [List.map_cons, List.mapM_cons, ih]
      rfl

theorem readPlainRecord_record (entries : List (JsString × JsValue)) :
    readPlainRecord (.record entries) = some entries :=
  mapM_plainEntry entries

theorem mapM_dataValue (items : List JsValue) :
    (items.map fun item => some (JsProperty.data true item)).mapM dataValue = some items := by
  induction items with
  | nil => rfl
  | cons item rest ih =>
      rw [List.map_cons, List.mapM_cons, ih]
      rfl

theorem readPlainArray_list {items : List JsValue} {maxLength : Nat}
    (h : items.length ≤ maxLength) :
    readPlainArray (.list items) maxLength = .elements items := by
  have hlength : ¬ (items.map fun item => some (JsProperty.data true item)).length >
      maxLength := by
    rw [List.length_map]
    exact not_lt.mpr h
  unfold readPlainArray JsValue.list
  dsimp only
  rw [if_neg (by decide), if_neg hlength, mapM_dataValue]
  rfl

/-- A record of words, read at one of them. -/
theorem get_text {α : Type} [CatalogToken α] [DecidableEq α] (value : α → JsValue) (a : α) :
    PlainRecord.get ((tokens : List α).map fun b => (text b, value b)) (text a) = value a := by
  have hfind : ∀ l : List α, a ∈ l →
      (l.map fun b => (text b, value b)).find? (fun entry => entry.1 = text a) =
        some (text a, value a) := by
    intro l
    induction l with
    | nil =>
        intro h
        cases h
    | cons b rest ih =>
        intro h
        by_cases hab : b = a
        · subst hab
          simp
        · have htext : text b ≠ text a := fun h => hab (text_injective h)
          rw [List.map_cons, List.find?_cons_of_neg (by simpa using htext)]
          exact ih ((List.mem_cons.mp h).resolve_left (Ne.symm hab))
  unfold PlainRecord.get
  rw [hfind tokens (CatalogToken.complete a)]
  rfl

theorem keys_text {α : Type} [CatalogToken α] (value : α → JsValue) :
    PlainRecord.keys ((tokens : List α).map fun b => (text b, value b)) =
      (tokens : List α).map text := by
  unfold PlainRecord.keys
  rw [List.map_map]
  rfl

theorem has_text {α : Type} [CatalogToken α] (value : α → JsValue) (a : α) :
    PlainRecord.has ((tokens : List α).map fun b => (text b, value b)) (text a) = true := by
  unfold PlainRecord.has
  rw [keys_text, List.contains_iff_mem]
  exact List.mem_map_of_mem (CatalogToken.complete a)

/-! ## The document of a fact -/

/-- A record with a state and at most one payload. -/
def stateRecord (state : FactorInputState) (payload : List (JsString × JsValue)) : JsValue :=
  .record ((js "state", .string (text state)) :: payload)

/-- How the payloads of a fact are written. -/
structure FactWriter (ω υ ρ : Type) where
  observed : ω → JsValue
  unknown : υ → JsValue
  reason : ρ → JsValue

/-- The writer puts every payload where the specification expects it. -/
structure FactWriter.Writes {ω υ ρ : Type} (writer : FactWriter ω υ ρ)
    (spec : FactorSpec ω υ ρ) (accepted : ω → Prop) : Prop where
  observedKey : spec.observed.key ≠ js "state"
  observed : ∀ v, accepted v → spec.observed.parse (writer.observed v) = .ok v
  unknown : ∀ v, ∃ payload, spec.unknown = some payload ∧ payload.key ≠ js "state" ∧
    payload.parse (writer.unknown v) = .ok v
  unavailable : ∀ r, spec.unavailable = .inl r ∨ ∃ payload, spec.unavailable = .inr payload ∧
    payload.key ≠ js "state" ∧ payload.parse (writer.reason r) = .ok r

/-- The document of a fact. -/
def Fact.document {ω υ ρ : Type} (spec : FactorSpec ω υ ρ) (writer : FactWriter ω υ ρ) :
    Fact ω υ ρ → JsValue
  | .observed v => stateRecord .observed [(spec.observed.key, writer.observed v)]
  | .unknown v =>
      match spec.unknown with
      | none => stateRecord .unknown []
      | some payload => stateRecord .unknown [(payload.key, writer.unknown v)]
  | .unavailable r =>
      match spec.unavailable with
      | .inl _ => stateRecord .unavailable []
      | .inr payload => stateRecord .unavailable [(payload.key, writer.reason r)]

theorem readPayload_pair {α : Type} {payload : Payload α} {state value : JsValue} {a : α}
    (hkey : payload.key ≠ js "state") (hparse : payload.parse value = .ok a) :
    readPayload [(js "state", state), (payload.key, value)] payload = .ok a := by
  have hget : PlainRecord.get [(js "state", state), (payload.key, value)] payload.key =
      value := by
    unfold PlainRecord.get
    rw [List.find?_cons_of_neg (by simpa using Ne.symm hkey)]
    simp
  have hhas : PlainRecord.has [(js "state", state), (payload.key, value)] payload.key =
      true := by
    simp [PlainRecord.has, PlainRecord.keys]
  have hissues : unexpectedProperty [(js "state", state), (payload.key, value)]
      [js "state", payload.key] = [] := by
    simp [unexpectedProperty, PlainRecord.keys]
  unfold readPayload
  dsimp only
  rw [hissues, hhas, hget, hparse]
  rfl

/-- A fact is read back from its document. -/
theorem parseFactor_document {ω υ ρ : Type} {spec : FactorSpec ω υ ρ}
    {writer : FactWriter ω υ ρ} {accepted : ω → Prop} (h : writer.Writes spec accepted)
    (fact : Fact ω υ ρ) (hfact : ∀ v, fact = .observed v → accepted v) :
    parseFactor spec (fact.document spec writer) = .ok fact := by
  have hstate : ∀ (state : FactorInputState) (payload : List (JsString × JsValue)),
      PlainRecord.has ((js "state", .string (text state)) :: payload) (js "state") = true ∧
      oneOf FactorInputState
        (PlainRecord.get ((js "state", .string (text state)) :: payload) (js "state")) =
          some state := by
    intro state payload
    exact ⟨by simp [PlainRecord.has, PlainRecord.keys],
      by simp [PlainRecord.get, oneOf_eq_some]⟩
  cases fact with
  | observed v =>
      unfold parseFactor Fact.document stateRecord
      rw [readPlainRecord_record]
      dsimp only
      rw [(hstate _ _).1, (hstate _ _).2]
      dsimp only
      rw [readPayload_pair h.observedKey (h.observed v (hfact v rfl))]
      rfl
  | unknown v =>
      obtain ⟨payload, hspec, hkey, hparse⟩ := h.unknown v
      unfold parseFactor Fact.document stateRecord
      rw [hspec]
      dsimp only
      rw [readPlainRecord_record]
      dsimp only
      rw [(hstate _ _).1, (hstate _ _).2]
      dsimp only
      rw [readPayload_pair hkey hparse]
      rfl
  | unavailable r =>
      rcases h.unavailable r with hspec | ⟨payload, hspec, hkey, hparse⟩
      · unfold parseFactor Fact.document stateRecord
        rw [hspec]
        dsimp only
        rw [readPlainRecord_record]
        dsimp only
        rw [(hstate _ _).1, (hstate _ _).2]
        rfl
      · unfold parseFactor Fact.document stateRecord
        rw [hspec]
        dsimp only
        rw [readPlainRecord_record]
        dsimp only
        rw [(hstate _ _).1, (hstate _ _).2]
        dsimp only
        rw [readPayload_pair hkey hparse]
        rfl

/-! ## The document of the ten facts -/

/-- A token as a value. -/
def tokenJson {α : Type} [CatalogToken α] (token : α) : JsValue := .string (text token)

theorem parseToken_tokenJson {α : Type} [CatalogToken α] (code : FactInputIssueCode)
    (token : α) : parseToken α code (tokenJson token) = .ok token := by
  unfold parseToken tokenJson
  rw [oneOf_eq_some.mpr rfl]

theorem valueKey_ne_state : js "value" ≠ js "state" := by decide

/-- The writer of a factor of tokens. -/
def tokenWriter (ω υ : Type) [CatalogToken ω] [CatalogToken υ] : FactWriter ω υ Unit :=
  ⟨tokenJson, tokenJson, fun _ => .undefined⟩

/-- The writer of a factor of tokens without unknown tokens. -/
def observedWriter (ω : Type) [CatalogToken ω] : FactWriter ω Empty Unit :=
  ⟨tokenJson, Empty.elim, fun _ => .undefined⟩

theorem tokenWriter_writes (ω υ : Type) [CatalogToken ω] [CatalogToken υ] :
    (tokenWriter ω υ).Writes (tokenSpec ω υ) fun _ => True where
  observedKey := valueKey_ne_state
  observed v _ := parseToken_tokenJson .invalidValue v
  unknown v := ⟨_, rfl, valueKey_ne_state, parseToken_tokenJson .invalidValue v⟩
  unavailable _ := .inl rfl

theorem observedWriter_writes (ω : Type) [CatalogToken ω] :
    (observedWriter ω).Writes (observedSpec ω) fun _ => True where
  observedKey := valueKey_ne_state
  observed v _ := parseToken_tokenJson .invalidValue v
  unknown v := v.elim
  unavailable _ := .inl rfl

/-- The writer of `source_severity`. -/
def sourceSeverityWriter : FactWriter (List SeverityRating) SeverityUnknownToken Unit :=
  ⟨fun values => .list (values.map tokenJson), tokenJson, fun _ => .undefined⟩

theorem parseSeverityValues_list {values : List SeverityRating}
    (h : 0 < values.length ∧ values.length ≤ severityMaxValues) :
    parseSeverityValues (.list (values.map tokenJson)) = .ok values := by
  have hread : ∀ l : List SeverityRating,
      (l.map tokenJson).mapM (oneOf SeverityRating) = some l := by
    intro l
    induction l with
    | nil => rfl
    | cons rating rest ih =>
        rw [List.map_cons, List.mapM_cons, ih, tokenJson, oneOf_eq_some.mpr rfl]
        rfl
  have hlength : (values.map tokenJson).length ≤ severityMaxValues := by
    rw [List.length_map]
    exact h.2
  have hnonempty : ¬ (values.map tokenJson).length = 0 := by
    rw [List.length_map]
    omega
  unfold parseSeverityValues
  rw [readPlainArray_list hlength]
  dsimp only
  rw [if_neg hnonempty, hread]

theorem sourceSeverityWriter_writes : sourceSeverityWriter.Writes sourceSeveritySpec
    fun values => 0 < values.length ∧ values.length ≤ severityMaxValues where
  observedKey := by decide
  observed _ h := parseSeverityValues_list h
  unknown v := ⟨_, rfl, valueKey_ne_state, parseToken_tokenJson .invalidValue v⟩
  unavailable _ := .inl rfl

/-- The writer of `kev_listed`. -/
def kevListedWriter : FactWriter KevObservedToken KevUnknownToken KevUnavailableReason :=
  ⟨tokenJson, tokenJson, tokenJson⟩

theorem kevListedWriter_writes : kevListedWriter.Writes kevListedSpec fun _ => True where
  observedKey := by decide
  observed v _ := parseToken_tokenJson .invalidValue v
  unknown v := ⟨_, rfl, valueKey_ne_state, parseToken_tokenJson .invalidValue v⟩
  unavailable r := .inr ⟨_, rfl, by decide, parseToken_tokenJson .invalidReason r⟩

/-- The writer of `finding_age_days`. -/
def findingAgeDaysWriter : FactWriter Nat Empty Unit :=
  ⟨fun days => .number (.finite days), Empty.elim, fun _ => .undefined⟩

theorem parseAgeDays_number {days : Nat} (h : days ≤ findingAgeDaysMax) :
    parseAgeDays (.number (.finite days)) = .ok days := by
  have hden : ((days : Nat) : Rat).den = 1 := rfl
  have hnum : ((days : Nat) : Rat).num = days := rfl
  unfold parseAgeDays
  dsimp only
  rw [hden, hnum, if_neg (by decide), if_neg (by omega), Int.toNat_natCast]

theorem findingAgeDaysWriter_writes : findingAgeDaysWriter.Writes findingAgeDaysSpec
    fun days => days ≤ findingAgeDaysMax where
  observedKey := by decide
  observed _ h := parseAgeDays_number h
  unknown v := v.elim
  unavailable _ := .inl rfl

/-- The document of one factor. -/
def PriorityFactInput.factDocument (facts : PriorityFactInput) : FactorId → JsValue
  | .sourceSeverity => facts.sourceSeverity.document sourceSeveritySpec sourceSeverityWriter
  | .kevListed => facts.kevListed.document kevListedSpec kevListedWriter
  | .environmentSensitivity =>
      facts.environmentSensitivity.document (observedSpec _) (observedWriter _)
  | .internetExposure => facts.internetExposure.document (tokenSpec _ _) (tokenWriter _ _)
  | .businessCriticality =>
      facts.businessCriticality.document (tokenSpec _ _) (tokenWriter _ _)
  | .assetDataClassification =>
      facts.assetDataClassification.document (tokenSpec _ _) (tokenWriter _ _)
  | .directDependency => facts.directDependency.document (observedSpec _) (observedWriter _)
  | .fixAvailable => facts.fixAvailable.document (tokenSpec _ _) (tokenWriter _ _)
  | .findingAgeDays => facts.findingAgeDays.document findingAgeDaysSpec findingAgeDaysWriter
  | .advisoryWithdrawn =>
      facts.advisoryWithdrawn.document (observedSpec _) (observedWriter _)

/-- The document of a fact input. -/
def PriorityFactInput.document (facts : PriorityFactInput) : JsValue :=
  .record ((tokens : List FactorId).map fun factorId =>
    (text factorId, facts.factDocument factorId))

theorem readFact_document {ω υ ρ : Type} {facts : PriorityFactInput} {factorId : FactorId}
    {spec : FactorSpec ω υ ρ} {writer : FactWriter ω υ ρ} {accepted : ω → Prop}
    {fact : Fact ω υ ρ} (hdocument : facts.factDocument factorId = fact.document spec writer)
    (h : writer.Writes spec accepted) (hfact : ∀ v, fact = .observed v → accepted v) :
    readFact ((tokens : List FactorId).map fun factorId =>
      (text factorId, facts.factDocument factorId)) factorId spec = .ok fact := by
  unfold readFact
  rw [has_text, get_text, hdocument, parseFactor_document h fact hfact]
  rfl

/-- A bounded fact input is read back from its document. -/
theorem parseFactInput_document {facts : PriorityFactInput} (h : BoundedFacts facts) :
    parseFactInput facts.document = .ok facts := by
  unfold parseFactInput PriorityFactInput.document
  rw [readPlainRecord_record]
  dsimp only
  rw [readFact_document rfl sourceSeverityWriter_writes h.severityValues,
    readFact_document rfl kevListedWriter_writes fun _ _ => trivial,
    @readFact_document _ _ _ facts .environmentSensitivity _ _ _ _ rfl
      (observedWriter_writes EnvironmentSensitivityToken) fun _ _ => trivial,
    @readFact_document _ _ _ facts .internetExposure _ _ _ _ rfl
      (tokenWriter_writes InternetExposureToken InternetExposureUnknownToken)
      fun _ _ => trivial,
    @readFact_document _ _ _ facts .businessCriticality _ _ _ _ rfl
      (tokenWriter_writes BusinessCriticalityToken UnspecifiedToken) fun _ _ => trivial,
    @readFact_document _ _ _ facts .assetDataClassification _ _ _ _ rfl
      (tokenWriter_writes AssetDataClassificationToken UnspecifiedToken) fun _ _ => trivial,
    @readFact_document _ _ _ facts .directDependency _ _ _ _ rfl
      (observedWriter_writes DirectDependencyToken) fun _ _ => trivial,
    @readFact_document _ _ _ facts .fixAvailable _ _ _ _ rfl
      (tokenWriter_writes FixAvailableToken FixAvailableUnknownToken) fun _ _ => trivial,
    @readFact_document _ _ _ facts .findingAgeDays _ _ _ _ rfl findingAgeDaysWriter_writes
      h.ageDays,
    @readFact_document _ _ _ facts .advisoryWithdrawn _ _ _ _ rfl
      (observedWriter_writes AdvisoryWithdrawnToken) fun _ _ => trivial]
  have hkeys : (PlainRecord.keys ((tokens : List FactorId).map fun factorId =>
      (text factorId, facts.factDocument factorId))).filter
        (fun key => key ∉ factorIds.map text) = [] := by
    rw [keys_text, List.filter_eq_nil_iff]
    intro key hkey
    simpa using hkey
  rw [hkeys]
  rfl

/-- A bounded fact input, as one that parsing produced. -/
def PriorityFactInput.parsed (facts : PriorityFactInput) (h : BoundedFacts facts) :
    ParsedPriorityFactInput :=
  ⟨facts, facts.document, parseFactInput_document h⟩

/-- Parsing produces exactly the bounded fact inputs. -/
theorem parsed_iff_boundedFacts (facts : PriorityFactInput) :
    (∃ input, parseFactInput input = .ok facts) ↔ BoundedFacts facts := by
  constructor
  · rintro ⟨input, h⟩
    exact parseFactInput_bounded h
  · intro h
    exact (facts.parsed h).property

end PatchPilot.Policy
