import PatchPilot.Foundation.Comparator
import PatchPilot.Foundation.Fallible
import PatchPilot.Policy.Definition

set_option autoImplicit false

/-!
# Policy: fact inputs (`facts.ts`)

A fact input names what was observed of each of the ten factors, or that nothing
was.  The ten fact types of the source differ in their tokens only, so they are
one type `Fact` with three parameters: `Empty` where a state is not accepted and
`Unit` where a state has no payload.
-/

namespace PatchPilot.Policy

open PatchPilot.Foundation

/-- What was observed of a factor, or why nothing was. -/
inductive Fact (ω υ ρ : Type)
  | observed (value : ω)
  | unknown (value : υ)
  | unavailable (reason : ρ)
  deriving DecidableEq

/-- The field `state`. -/
def Fact.state {ω υ ρ : Type} : Fact ω υ ρ → FactorInputState
  | .observed _ => .observed
  | .unknown _ => .unknown
  | .unavailable _ => .unavailable

/-- `SourceSeverityFact`. -/
abbrev SourceSeverityFact := Fact (List SeverityRating) SeverityUnknownToken Unit

/-- `KevListedFact`. -/
abbrev KevListedFact := Fact KevObservedToken KevUnknownToken KevUnavailableReason

/-- `EnvironmentSensitivityFact`. -/
abbrev EnvironmentSensitivityFact := Fact EnvironmentSensitivityToken Empty Unit

/-- `InternetExposureFact`. -/
abbrev InternetExposureFact := Fact InternetExposureToken InternetExposureUnknownToken Unit

/-- `BusinessCriticalityFact`. -/
abbrev BusinessCriticalityFact := Fact BusinessCriticalityToken UnspecifiedToken Unit

/-- `AssetDataClassificationFact`. -/
abbrev AssetDataClassificationFact := Fact AssetDataClassificationToken UnspecifiedToken Unit

/-- `DirectDependencyFact`. -/
abbrev DirectDependencyFact := Fact DirectDependencyToken Empty Unit

/-- `FixAvailableFact`. -/
abbrev FixAvailableFact := Fact FixAvailableToken FixAvailableUnknownToken Unit

/-- `FindingAgeDaysFact`. -/
abbrev FindingAgeDaysFact := Fact Nat Empty Unit

/-- `AdvisoryWithdrawnFact`. -/
abbrev AdvisoryWithdrawnFact := Fact AdvisoryWithdrawnToken Empty Unit

/-- `PriorityFactInput`. -/
structure PriorityFactInput where
  sourceSeverity : SourceSeverityFact
  kevListed : KevListedFact
  environmentSensitivity : EnvironmentSensitivityFact
  internetExposure : InternetExposureFact
  businessCriticality : BusinessCriticalityFact
  assetDataClassification : AssetDataClassificationFact
  directDependency : DirectDependencyFact
  fixAvailable : FixAvailableFact
  findingAgeDays : FindingAgeDaysFact
  advisoryWithdrawn : AdvisoryWithdrawnFact
  deriving DecidableEq

/-- `FactInputIssueCode`, without `facts_not_parsed`, which parsing does not use. -/
inductive FactInputIssueCode
  | factsNotPlainObject | missingFactor | unknownFactor | factorNotPlainObject
  | missingState | invalidState | stateNotAccepted | unexpectedProperty | missingValue
  | invalidValue | valueNotInteger | valueOutOfRange | valuesCountOutOfRange
  | missingReason | invalidReason
  deriving DecidableEq

/-- `FACT_INPUT_ISSUE_CODES`. -/
instance : CatalogToken FactInputIssueCode where
  tokens := [.factsNotPlainObject, .missingFactor, .unknownFactor, .factorNotPlainObject,
    .missingState, .invalidState, .stateNotAccepted, .unexpectedProperty, .missingValue,
    .invalidValue, .valueNotInteger, .valueOutOfRange, .valuesCountOutOfRange,
    .missingReason, .invalidReason]
  text
    | .factsNotPlainObject => js "facts_not_plain_object"
    | .missingFactor => js "missing_factor"
    | .unknownFactor => js "unknown_factor"
    | .factorNotPlainObject => js "factor_not_plain_object"
    | .missingState => js "missing_state"
    | .invalidState => js "invalid_state"
    | .stateNotAccepted => js "state_not_accepted"
    | .unexpectedProperty => js "unexpected_property"
    | .missingValue => js "missing_value"
    | .invalidValue => js "invalid_value"
    | .valueNotInteger => js "value_not_integer"
    | .valueOutOfRange => js "value_out_of_range"
    | .valuesCountOutOfRange => js "values_count_out_of_range"
    | .missingReason => js "missing_reason"
    | .invalidReason => js "invalid_reason"
  complete a := by cases a <;> decide
  distinct := by decide +kernel

/-- `FactInputIssue`. -/
structure FactInputIssue where
  factorId : Option FactorId
  code : FactInputIssueCode
  deriving DecidableEq

/-- `FactInputError`. -/
structure FactInputError where
  issues : List FactInputIssue
  deriving DecidableEq

/-! ## One factor -/

/-- A payload: the property that carries it, the code for its absence and how it is
read. -/
structure Payload (α : Type) where
  key : JsString
  missing : FactInputIssueCode
  parse : JsValue → Except FactInputIssueCode α

/-- `FactorSpec`: the payloads of the three states.  An unknown state without a
payload is not accepted; an unavailable state without one has no reason. -/
structure FactorSpec (ω υ ρ : Type) where
  observed : Payload ω
  unknown : Option (Payload υ)
  unavailable : ρ ⊕ Payload ρ

/-- `parseToken`. -/
def parseToken (α : Type) [CatalogToken α] (code : FactInputIssueCode) (raw : JsValue) :
    Except FactInputIssueCode α :=
  match oneOf α raw with
  | some token => .ok token
  | none => .error code

/-- `parseSeverityValues`. -/
def parseSeverityValues (raw : JsValue) : Except FactInputIssueCode (List SeverityRating) :=
  match readPlainArray raw severityMaxValues with
  | .notArray => .error .invalidValue
  | .tooLong => .error .valuesCountOutOfRange
  | .elements values =>
      if values.length = 0 then .error .valuesCountOutOfRange
      else
        match values.mapM (oneOf SeverityRating) with
        | some ratings => .ok ratings
        | none => .error .invalidValue

/-- `parseAgeDays`. -/
def parseAgeDays (raw : JsValue) : Except FactInputIssueCode Nat :=
  match raw with
  | .number (.finite value) =>
      if value.den ≠ 1 then .error .valueNotInteger
      else if value.num < 0 ∨ value.num > findingAgeDaysMax then .error .valueOutOfRange
      else .ok value.num.toNat
  | .number _ => .error .valueNotInteger
  | _ => .error .invalidValue

/-- A token in the property `value`. -/
def tokenPayload (α : Type) [CatalogToken α] : Payload α :=
  ⟨js "value", .missingValue, parseToken α .invalidValue⟩

/-- The entry of `FACTOR_SPECS` for a factor of one observed token, without unknown
tokens. -/
def observedSpec (ω : Type) [CatalogToken ω] : FactorSpec ω Empty Unit :=
  ⟨tokenPayload ω, none, .inl ()⟩

/-- The entry of `FACTOR_SPECS` for a factor of one observed or unknown token. -/
def tokenSpec (ω υ : Type) [CatalogToken ω] [CatalogToken υ] : FactorSpec ω υ Unit :=
  ⟨tokenPayload ω, some (tokenPayload υ), .inl ()⟩

/-- `FACTOR_SPECS.source_severity`. -/
def sourceSeveritySpec : FactorSpec (List SeverityRating) SeverityUnknownToken Unit :=
  ⟨⟨js "values", .missingValue, parseSeverityValues⟩,
    some (tokenPayload SeverityUnknownToken), .inl ()⟩

/-- `FACTOR_SPECS.kev_listed`. -/
def kevListedSpec : FactorSpec KevObservedToken KevUnknownToken KevUnavailableReason :=
  ⟨tokenPayload KevObservedToken, some (tokenPayload KevUnknownToken),
    .inr ⟨js "reason", .missingReason, parseToken KevUnavailableReason .invalidReason⟩⟩

/-- `FACTOR_SPECS.finding_age_days`. -/
def findingAgeDaysSpec : FactorSpec Nat Empty Unit :=
  ⟨⟨js "value", .missingValue, parseAgeDays⟩, none, .inl ()⟩

/-- The issue for a property that is neither the state nor the payload. -/
def unexpectedProperty (record : PlainRecord) (allowed : List JsString) :
    List FactInputIssueCode :=
  if record.keys.all allowed.contains then [] else [.unexpectedProperty]

/-- The payload of a state. -/
def readPayload {α : Type} (record : PlainRecord) (payload : Payload α) :
    Except (List FactInputIssueCode) α :=
  let issues := unexpectedProperty record [js "state", payload.key]
  if record.has payload.key = false then .error (issues ++ [payload.missing])
  else
    match payload.parse (record.get payload.key) with
    | .error code => .error (issues ++ [code])
    | .ok value => if issues = [] then .ok value else .error issues

/-- `parseFactor`. -/
def parseFactor {ω υ ρ : Type} (spec : FactorSpec ω υ ρ) (raw : JsValue) :
    Except (List FactInputIssueCode) (Fact ω υ ρ) :=
  match readPlainRecord raw with
  | none => .error [.factorNotPlainObject]
  | some record =>
      if record.has (js "state") = false then .error [.missingState]
      else
        match oneOf FactorInputState (record.get (js "state")) with
        | none => .error [.invalidState]
        | some .observed => (readPayload record spec.observed).map .observed
        | some .unknown =>
            match spec.unknown with
            | none => .error [.stateNotAccepted]
            | some payload => (readPayload record payload).map .unknown
        | some .unavailable =>
            match spec.unavailable with
            | .inr payload => (readPayload record payload).map .unavailable
            | .inl reason =>
                let issues := unexpectedProperty record [js "state"]
                if issues = [] then .ok (.unavailable reason) else .error issues

/-! ## The whole input -/

/-- The ordinal `compareIssues` sorts by. -/
def FactInputIssue.ordinal (issue : FactInputIssue) : Nat :=
  match issue.factorId with
  | none => factorIds.length + 1
  | some factorId => factorOrdinal factorId

/-- `compareIssues`. -/
def compareIssues : FactInputIssue → FactInputIssue → Ordering :=
  compareLex (comapCmp compare FactInputIssue.ordinal)
    (comapCmp compareCodeUnits fun issue => text issue.code)

/-- `factInputError`. -/
def factInputError (issues : List FactInputIssue) : FactInputError :=
  ⟨sortBy compareIssues issues.dedup⟩

/-- The fact of one factor, or its issues. -/
def readFact {ω υ ρ : Type} (record : PlainRecord) (factorId : FactorId)
    (spec : FactorSpec ω υ ρ) : Except (List FactInputIssue) (Fact ω υ ρ) :=
  if record.has (text factorId) = false then .error [⟨some factorId, .missingFactor⟩]
  else
    (parseFactor spec (record.get (text factorId))).mapError fun codes =>
      codes.map fun code => ⟨some factorId, code⟩

/-- The issues of a reading. -/
def issuesOf {α : Type} : Except (List FactInputIssue) α → List FactInputIssue
  | .error issues => issues
  | .ok _ => []

/-- `parseFactInput`. -/
def parseFactInput (input : JsValue) : Except FactInputError PriorityFactInput :=
  match readPlainRecord input with
  | none => .error (factInputError [⟨none, .factsNotPlainObject⟩])
  | some record =>
      let unknownFactors := (record.keys.filter fun key => key ∉ factorIds.map text).map
        fun _ => FactInputIssue.mk none .unknownFactor
      let sourceSeverity := readFact record .sourceSeverity sourceSeveritySpec
      let kevListed := readFact record .kevListed kevListedSpec
      let environmentSensitivity := readFact record .environmentSensitivity
        (observedSpec EnvironmentSensitivityToken)
      let internetExposure := readFact record .internetExposure
        (tokenSpec InternetExposureToken InternetExposureUnknownToken)
      let businessCriticality := readFact record .businessCriticality
        (tokenSpec BusinessCriticalityToken UnspecifiedToken)
      let assetDataClassification := readFact record .assetDataClassification
        (tokenSpec AssetDataClassificationToken UnspecifiedToken)
      let directDependency := readFact record .directDependency
        (observedSpec DirectDependencyToken)
      let fixAvailable := readFact record .fixAvailable
        (tokenSpec FixAvailableToken FixAvailableUnknownToken)
      let findingAgeDays := readFact record .findingAgeDays findingAgeDaysSpec
      let advisoryWithdrawn := readFact record .advisoryWithdrawn
        (observedSpec AdvisoryWithdrawnToken)
      let issues := unknownFactors ++ issuesOf sourceSeverity ++ issuesOf kevListed ++
        issuesOf environmentSensitivity ++ issuesOf internetExposure ++
        issuesOf businessCriticality ++ issuesOf assetDataClassification ++
        issuesOf directDependency ++ issuesOf fixAvailable ++ issuesOf findingAgeDays ++
        issuesOf advisoryWithdrawn
      let facts : Except (List FactInputIssue) PriorityFactInput := do
        pure (PriorityFactInput.mk (← sourceSeverity) (← kevListed)
          (← environmentSensitivity) (← internetExposure) (← businessCriticality)
          (← assetDataClassification) (← directDependency) (← fixAvailable)
          (← findingAgeDays) (← advisoryWithdrawn))
      if issues.length > 0 then .error (factInputError issues)
      else facts.mapError factInputError

/-- `ParsedPriorityFactInput`: facts that parsing produced. -/
def ParsedPriorityFactInput : Type :=
  { facts : PriorityFactInput // ∃ input, parseFactInput input = .ok facts }

/-! ## What parsing establishes -/

/-- The values of accepted facts lie within their bounds. -/
structure BoundedFacts (facts : PriorityFactInput) : Prop where
  severityValues : ∀ values, facts.sourceSeverity = .observed values →
    0 < values.length ∧ values.length ≤ severityMaxValues
  ageDays : ∀ days, facts.findingAgeDays = .observed days → days ≤ findingAgeDaysMax

theorem length_of_mapM {α β : Type} {f : α → Option β} :
    ∀ {l : List α} {bs : List β}, l.mapM f = some bs → bs.length = l.length := by
  intro l
  induction l with
  | nil =>
      intro bs h
      cases h
      rfl
  | cons a rest ih =>
      intro bs h
      rw [List.mapM_cons] at h
      obtain ⟨b, -, h⟩ := Option.bind_eq_some_iff.mp h
      obtain ⟨tail, htail, h⟩ := Option.bind_eq_some_iff.mp h
      cases h
      rw [List.length_cons, List.length_cons, ih htail]

theorem readPlainArray_length {value : JsValue} {maxLength : Nat} {values : List JsValue}
    (h : readPlainArray value maxLength = .elements values) : values.length ≤ maxLength := by
  unfold readPlainArray at h
  split at h
  · rename_i header slots properties
    split at h
    · cases h
    · split at h
      · cases h
      · rename_i hlength
        split at h
        · cases h
        · rename_i read hread
          split at h
          · cases h
          · cases h
            rw [length_of_mapM hread]
            exact not_lt.mp hlength
  · cases h

theorem parseSeverityValues_bounded {raw : JsValue} {ratings : List SeverityRating}
    (h : parseSeverityValues raw = .ok ratings) :
    0 < ratings.length ∧ ratings.length ≤ severityMaxValues := by
  unfold parseSeverityValues at h
  split at h
  · cases h
  · cases h
  · rename_i values hvalues
    split at h
    · cases h
    · rename_i hnonempty
      split at h
      · rename_i read hread
        cases h
        rw [length_of_mapM hread]
        exact ⟨Nat.pos_of_ne_zero hnonempty, readPlainArray_length hvalues⟩
      · cases h

theorem parseAgeDays_bounded {raw : JsValue} {days : Nat} (h : parseAgeDays raw = .ok days) :
    days ≤ findingAgeDaysMax := by
  unfold parseAgeDays at h
  split at h
  · split at h
    · cases h
    · split at h
      · cases h
      · cases h
        omega
  · cases h
  · cases h

theorem readPayload_ok {α : Type} {record : PlainRecord} {payload : Payload α} {value : α}
    (h : readPayload record payload = .ok value) :
    payload.parse (record.get payload.key) = .ok value := by
  unfold readPayload at h
  dsimp only at h
  split at h
  · cases h
  · split at h
    · cases h
    · rename_i read hread
      split at h
      · cases h
        exact hread
      · cases h

theorem parseFactor_observed {ω υ ρ : Type} {spec : FactorSpec ω υ ρ} {raw : JsValue}
    {value : ω} (h : parseFactor spec raw = .ok (.observed value)) :
    ∃ payload, spec.observed.parse payload = .ok value := by
  unfold parseFactor at h
  split at h
  · cases h
  · rename_i record _
    split at h
    · cases h
    · split at h
      · cases h
      · obtain ⟨read, hread, hvalue⟩ := map_eq_ok.mp h
        cases hvalue
        exact ⟨_, readPayload_ok hread⟩
      · -- the two other states give other facts
        split at h
        · cases h
        · obtain ⟨_, -, hvalue⟩ := map_eq_ok.mp h
          cases hvalue
      · split at h
        · obtain ⟨_, -, hvalue⟩ := map_eq_ok.mp h
          cases hvalue
        · dsimp only at h
          split at h <;> cases h

/-- An observed fact has a value that its payload parser accepted. -/
theorem readFact_observed {ω υ ρ : Type} {record : PlainRecord} {factorId : FactorId}
    {spec : FactorSpec ω υ ρ} {value : ω}
    (h : readFact record factorId spec = .ok (.observed value)) :
    ∃ payload, spec.observed.parse payload = .ok value := by
  unfold readFact at h
  split at h
  · cases h
  · exact parseFactor_observed (mapError_eq_ok.mp h)

/-- Every accepted input has bounded values. -/
theorem parseFactInput_bounded {input : JsValue} {facts : PriorityFactInput}
    (h : parseFactInput input = .ok facts) : BoundedFacts facts := by
  unfold parseFactInput at h
  split at h
  · cases h
  · dsimp only at h
    split at h
    · cases h
    · -- acceptance reads the ten facts one after the other
      rw [mapError_eq_ok] at h
      obtain ⟨severity, hseverity, h⟩ := bind_eq_ok.mp h
      obtain ⟨kev, -, h⟩ := bind_eq_ok.mp h
      obtain ⟨environment, -, h⟩ := bind_eq_ok.mp h
      obtain ⟨exposure, -, h⟩ := bind_eq_ok.mp h
      obtain ⟨criticality, -, h⟩ := bind_eq_ok.mp h
      obtain ⟨classification, -, h⟩ := bind_eq_ok.mp h
      obtain ⟨dependency, -, h⟩ := bind_eq_ok.mp h
      obtain ⟨fix, -, h⟩ := bind_eq_ok.mp h
      obtain ⟨age, hage, h⟩ := bind_eq_ok.mp h
      obtain ⟨withdrawn, -, h⟩ := bind_eq_ok.mp h
      cases h
      refine ⟨?_, ?_⟩
      · rintro values rfl
        obtain ⟨_, hparse⟩ := readFact_observed hseverity
        exact parseSeverityValues_bounded hparse
      · rintro days rfl
        obtain ⟨_, hparse⟩ := readFact_observed hage
        exact parseAgeDays_bounded hparse

end PatchPilot.Policy
