import PatchPilot.Foundation.Base64Url
import PatchPilot.Policy.CanonicalJson
import PatchPilot.Risk.RemediationRead

set_option autoImplicit false

/-!
# Risk: cursor tokens of the remediation queue (`remediation-queue-cursor.ts`)

A cursor leaves the service as the base 64 text of a small JSON document and comes back
as whatever a client sends.  The reader accepts a closed set of keys with texts of a
fixed form, and on the tokens that the writer makes of well-formed cursors it returns the
cursor, text for text: no numeral is read as a number on the way.
-/

namespace PatchPilot.Risk

open PatchPilot.Foundation
open PatchPilot.Policy

/-! ## Writing -/

/-- `REMEDIATION_QUEUE_CURSOR_VERSION`. -/
def remediationQueueCursorVersion : Nat := 1

/-- `REMEDIATION_QUEUE_MAX_CURSOR_LENGTH`. -/
def remediationQueueMaxCursorLength : Nat := 2048

/-- A value of a payload. -/
inductive PayloadValue
  | version
  | text (value : JsString)
  | flag (value : Bool)
  deriving DecidableEq

/-- The text of a value. -/
def PayloadValue.stringify : PayloadValue → JsString
  | .version => decimalText remediationQueueCursorVersion
  | .text value => jsonString value
  | .flag value => if value then js "true" else js "false"

/-- The value that the text denotes. -/
def PayloadValue.value : PayloadValue → JsonValue
  | .version => .number (.finite remediationQueueCursorVersion)
  | .text value => .string value
  | .flag value => .boolean value

/-- The entries of a payload. -/
abbrev Payload := List (JsString × PayloadValue)

/-- The text of a member. -/
def memberText (entry : JsString × PayloadValue) : JsString :=
  jsonString entry.1 ++ unit ':' :: entry.2.stringify

/-- The texts of members between commas. -/
def joinMembers : List JsString → JsString
  | [] => []
  | [member] => member
  | member :: rest => member ++ unit ',' :: joinMembers rest

/-- `JSON.stringify(payload)`. -/
def stringifyPayload (payload : Payload) : JsString :=
  unit '{' :: joinMembers (payload.map memberText) ++ [unit '}']

/-- The word of a section. -/
def sectionText : RemediationQueueSection → JsString
  | .ranked => js "ranked"
  | .incomparable => js "incomparable"
  | .notCalculated => js "not_calculated"

/-- The payload of a cursor. -/
def cursorPayload (cursor : RemediationQueueCursor) : Payload :=
  [(js "v", .version), (js "s", .text (sectionText cursor.queueSection)),
    (js "h", .text cursor.reference.policyDefinitionSha256),
    (js "e", .text cursor.reference.engineVersion)] ++
  match cursor with
  | .ranked _ key =>
      [(js "p", .text key.priorityText), (js "es", .flag key.escalationRecommended),
        (js "k", .flag key.kevListed), (js "sv", .text key.severityText),
        (js "t", .text key.firstObservedAt), (js "i", .text key.findingId)]
  | .incomparable _ calculatedAt findingId =>
      [(js "t", .text calculatedAt), (js "i", .text findingId)]
  | .notCalculated _ firstObservedAt findingId =>
      [(js "t", .text firstObservedAt), (js "i", .text findingId)]

/-- `encodeRemediationQueueCursor`. -/
def encodeRemediationQueueCursor (cursor : RemediationQueueCursor) : JsString :=
  base64Encode (utf8Encode (stringifyPayload (cursorPayload cursor)))

/-! ## Reading -/

/-- `ENGINE_TEXT`. -/
def isEngineText (s : JsString) : Bool :=
  decide (1 ≤ s.length) && decide (s.length ≤ 64) && s.all isPrintable

/-- A field that is a text which a pattern accepts. -/
def textField (record : JsonRecord) (name : JsString) (pattern : JsString → Bool) :
    Option JsString :=
  match record.get name with
  | some (.string value) => if pattern value then some value else none
  | _ => none

/-- A field that is a boolean. -/
def flagField (record : JsonRecord) (name : JsString) : Option Bool :=
  match record.get name with
  | some (.boolean value) => some value
  | _ => none

/-- `readShared`. -/
def readShared (record : JsonRecord) : Option (CursorReference × JsString) := do
  let hash ← textField record (js "h") isSha256Text
  let engine ← textField record (js "e") isEngineText
  let findingId ← textField record (js "i") isUuidLower
  some (⟨hash, engine⟩, findingId)

/-- `exactKeys`. -/
def exactKeys (record : JsonRecord) (keys : List JsString) : Bool :=
  decide (record.length = keys.length) && keys.all fun key => (record.get key).isSome

/-- The keys of a ranked cursor. -/
def rankedKeys : List JsString :=
  [js "v", js "s", js "h", js "e", js "p", js "es", js "k", js "sv", js "t", js "i"]

/-- `decodeRanked`. -/
def decodeRanked (record : JsonRecord) : Option RemediationQueueCursor := do
  if exactKeys record rankedKeys = false then none
  else do
    let (reference, findingId) ← readShared record
    let priorityText ← textField record (js "p") isDecimalText
    let severityText ← textField record (js "sv") isDecimalText
    let firstObservedAt ← textField record (js "t") isIsoText
    let escalationRecommended ← flagField record (js "es")
    let kevListed ← flagField record (js "k")
    some (.ranked reference ⟨priorityText, escalationRecommended, kevListed, severityText,
      firstObservedAt, findingId⟩)

/-- The keys of a cursor that is not ranked. -/
def shortKeys : List JsString := [js "v", js "s", js "h", js "e", js "t", js "i"]

/-- `decodeIncomparable`. -/
def decodeIncomparable (record : JsonRecord) : Option RemediationQueueCursor := do
  if exactKeys record shortKeys = false then none
  else do
    let (reference, findingId) ← readShared record
    let calculatedAt ← textField record (js "t") isIsoText
    some (.incomparable reference calculatedAt findingId)

/-- `decodeNotCalculated`. -/
def decodeNotCalculated (record : JsonRecord) : Option RemediationQueueCursor := do
  if exactKeys record shortKeys = false then none
  else do
    let (reference, findingId) ← readShared record
    let firstObservedAt ← textField record (js "t") isIsoText
    some (.notCalculated reference firstObservedAt findingId)

/-- The cursor of a parsed document. -/
def decodeRecord (record : JsonRecord) : Option RemediationQueueCursor :=
  match record.get (js "v"), record.get (js "s") with
  | some (.number version), some (.string section_) =>
      if version.strictEquals (.finite remediationQueueCursorVersion) = false then none
      else if section_ = js "ranked" then decodeRanked record
      else if section_ = js "incomparable" then decodeIncomparable record
      else if section_ = js "not_calculated" then decodeNotCalculated record
      else none
  | _, _ => none

/-- `decodeRemediationQueueCursor`; `none` is `ok: false`. -/
def decodeRemediationQueueCursor (value : JsString) : Option RemediationQueueCursor :=
  if value.length = 0 ∨ value.length > remediationQueueMaxCursorLength then none
  else if value.all isBase64Letter = false then none
  else
    let decoded := utf8Decode (base64Decode value)
    if decoded.length = 0 ∨ decoded.contains 0 then none
    else ((parseJson decoded).bind JsonValue.record?).bind decodeRecord

/-! ## Well-formed cursors -/

/-- A cursor whose texts the reader accepts. -/
def RemediationQueueCursor.wellFormed (cursor : RemediationQueueCursor) : Bool :=
  isSha256Text cursor.reference.policyDefinitionSha256 &&
    isEngineText cursor.reference.engineVersion &&
  match cursor with
  | .ranked _ key =>
      isDecimalText key.priorityText && isDecimalText key.severityText &&
        isIsoText key.firstObservedAt && isUuidLower key.findingId
  | .incomparable _ calculatedAt findingId => isIsoText calculatedAt && isUuidLower findingId
  | .notCalculated _ firstObservedAt findingId =>
      isIsoText firstObservedAt && isUuidLower findingId

/-! ## Strings -/

/-- Only a quote and a backslash are escaped in printable text. -/
theorem quotedUnit_printable {u : UInt16} (h : isPrintable u = true) :
    quotedUnit u = if u = unit '"' ∨ u = unit '\\' then [unit '\\', u] else [u] := by
  have hall : ∀ n < 0x7F, 0x20 ≤ n → quotedUnit n.toUInt16 =
      if n.toUInt16 = unit '"' ∨ n.toUInt16 = unit '\\' then [unit '\\', n.toUInt16]
      else [n.toUInt16] := by decide +kernel
  simp only [isPrintable, Bool.and_eq_true, decide_eq_true_eq, UInt16.le_iff_toNat_le] at h
  have hcase := hall u.toNat (Nat.lt_succ_of_le h.2) h.1
  rwa [Nat.toUInt16_eq, UInt16.ofNat_toNat] at hcase

theorem quotedUnits_printable {s : JsString} (h : s.all isPrintable = true) :
    quotedUnits s = s.flatMap quotedUnit := by
  induction s with
  | nil => rfl
  | cons u rest ih =>
      rw [List.all_cons, Bool.and_eq_true] at h
      cases rest with
      | nil => simp [quotedUnits]
      | cons v rest =>
          have hascii : isAscii [u] = true :=
            isAscii_of_isPrintable (by rw [List.all_cons, h.1]; rfl)
          rw [quotedUnits, not_isHighSurrogate (isAscii_cons.mp hascii).1, List.flatMap_cons,
            ih h.2]
          rfl

/-- The reader gives printable text back. -/
theorem parseChars_quoted {s : JsString} (h : s.all isPrintable = true) (rest : JsString) :
    parseChars (quotedUnits s ++ unit '"' :: rest) = some (s, rest) := by
  rw [quotedUnits_printable h]
  induction s with
  | nil => exact parseChars_end rest
  | cons u s ih =>
      rw [List.all_cons, Bool.and_eq_true] at h
      have hrest := ih h.2
      rw [List.flatMap_cons, List.append_assoc, quotedUnit_printable h.1]
      split
      · rename_i hu
        rcases hu with rfl | rfl
        · exact parseChars_escaped (by decide) rfl hrest
        · exact parseChars_escaped (by decide) rfl hrest
      · rename_i hu
        obtain ⟨hquote, hbackslash⟩ := not_or.mp hu
        have hlow : 0x20 ≤ u := by
          have hprintable := h.1
          simp only [isPrintable, Bool.and_eq_true, decide_eq_true_eq] at hprintable
          exact hprintable.1
        exact parseChars_plain hquote hbackslash hlow hrest

/-- A quoted text is printable and not much longer. -/
theorem jsonString_printable {s : JsString} (h : s.all isPrintable = true) :
    (jsonString s).all isPrintable = true ∧ (jsonString s).length ≤ 2 * s.length + 2 := by
  have hunits : (s.flatMap quotedUnit).all isPrintable = true ∧
      (s.flatMap quotedUnit).length ≤ 2 * s.length := by
    induction s with
    | nil => exact ⟨rfl, Nat.le_refl 0⟩
    | cons u s ih =>
        rw [List.all_cons, Bool.and_eq_true] at h
        obtain ⟨hall, hlength⟩ := ih h.2
        have hbackslash : isPrintable (unit '\\') = true := by decide
        rw [List.flatMap_cons, List.all_append, List.length_append, List.length_cons, hall,
          quotedUnit_printable h.1]
        split
        · simp only [List.all_cons, List.all_nil, hbackslash, h.1, Bool.and_self, true_and,
            List.length_cons, List.length_nil]
          omega
        · simp only [List.all_cons, List.all_nil, h.1, Bool.and_self, true_and,
            List.length_cons, List.length_nil]
          omega
  have hquote : isPrintable (unit '"') = true := by decide
  unfold jsonString
  rw [quotedUnits_printable h]
  simp only [List.cons_append, List.all_cons, List.all_append, List.all_nil, hunits.1, hquote,
    Bool.and_self, true_and, List.length_cons, List.length_append, List.length_nil]
  omega

/-! ## Payloads -/

/-- A value that the reader gives back inside a longer text. -/
def ReadsBack (v : PayloadValue) : Prop :=
  ∀ fuel c rest, c = unit ',' ∨ c = unit '}' →
    parseValue (fuel + 1) (v.stringify ++ c :: rest) = some (v.value, c :: rest)

theorem readsBack_text {s : JsString} (h : s.all isPrintable = true) :
    ReadsBack (.text s) := by
  intro fuel c rest _
  have hchars := parseChars_quoted h (c :: rest)
  change parseValue (fuel + 1) (jsonString s ++ c :: rest) = some (.string s, c :: rest)
  rw [jsonString, List.cons_append, List.cons_append, List.append_assoc, List.singleton_append]
  exact parseValue_string hchars

theorem readsBack_flag (b : Bool) : ReadsBack (.flag b) := by
  intro fuel c rest _
  cases b <;> rfl

theorem readsBack_version : ReadsBack .version := by
  intro fuel c rest hc
  have hdigits : decimalText remediationQueueCursorVersion = [0x31] := by decide
  have hnumber : binary64 1 = .finite 1 := by decide +kernel
  have hc' : isDigit c = false ∧ c ≠ unit '.' ∧ c ≠ unit 'e' ∧ c ≠ unit 'E' := by
    rcases hc with rfl | rfl <;> decide
  have hparse : parseNumber (0x31 :: c :: rest) = some (.finite 1, c :: rest) := by
    unfold parseNumber
    have hminus : expectUnit (unit '-') (0x31 :: c :: rest) = none := expectUnit_ne _ (by decide)
    have htake : (0x31 :: c :: rest).takeWhile isDigit = [0x31] := by
      rw [List.takeWhile_cons_of_pos (by decide), List.takeWhile_cons_of_neg (by simp [hc'.1])]
    have hdrop : (0x31 :: c :: rest).dropWhile isDigit = c :: rest := by
      rw [List.dropWhile_cons_of_pos (by decide), List.dropWhile_cons_of_neg (by simp [hc'.1])]
    have hfraction : parseFraction (c :: rest) = some ([], c :: rest) := by
      rw [parseFraction, expectUnit_ne _ hc'.2.1]
    have hexponent : parseExponent (c :: rest) = some (0, c :: rest) := by
      rw [parseExponent, expectUnit_ne _ hc'.2.2.1, expectUnit_ne _ hc'.2.2.2]
      rfl
    have hone : (digitsValue [0x31] : Rat) * (10 : Rat) ^ ((0 : Int) - (0 : Nat)) = 1 := by
      rw [show digitsValue [0x31] = 1 by decide]
      norm_num
    have hvalid : ¬ (([0x31] : JsString) = [] ∨
        ([0x31] : JsString).length > 1 ∧ ([0x31] : JsString).head? = some (unit '0')) := by
      decide
    simp only [hminus, Option.isSome_none, Option.getD_none, htake, hdrop, hfraction,
      if_neg hvalid, Option.bind_eq_bind, Option.bind_some, hexponent, Bool.false_eq_true,
      if_false, List.append_nil, List.length_nil, hone, hnumber]
  change parseValue (fuel + 1) (decimalText remediationQueueCursorVersion ++ c :: rest) = _
  rw [hdigits, List.singleton_append, parseValue, skipSpace_cons _ (by decide)]
  simp only [if_neg (show (0x31 : UInt16) ≠ unit '{' by decide),
    if_neg (show (0x31 : UInt16) ≠ unit '[' by decide),
    if_neg (show (0x31 : UInt16) ≠ unit '"' by decide)]
  rw [if_pos (by decide), hparse]
  rfl

/-- A payload that the reader gives back. -/
structure PayloadReadable (payload : Payload) : Prop where
  names : ∀ entry ∈ payload, entry.1.all isPrintable = true
  values : ∀ entry ∈ payload, ReadsBack entry.2
  distinct : (payload.map Prod.fst).Nodup

/-- The record of a payload. -/
def payloadRecord (payload : Payload) : JsonRecord :=
  payload.map fun entry => (entry.1, entry.2.value)

/-- The reader gives the members back one after another. -/
theorem parseMembers_joinMembers (payload : Payload) :
    ∀ (fuel : Nat) (record : JsonRecord) (rest : JsString), payload ≠ [] →
      payload.length < fuel → (∀ entry ∈ payload, entry.1.all isPrintable = true) →
      (∀ entry ∈ payload, ReadsBack entry.2) →
      (record.map Prod.fst ++ payload.map Prod.fst).Nodup →
      parseMembers fuel record (joinMembers (payload.map memberText) ++ unit '}' :: rest) =
        some (.object (record ++ payloadRecord payload), rest) := by
  induction payload with
  | nil => exact fun fuel record rest h => absurd rfl h
  | cons entry payload ih =>
      intro fuel record rest _ hfuel hnames hvalues hdistinct
      obtain ⟨fuel, rfl⟩ : ∃ f, fuel = f + 2 := ⟨fuel - 2, by simp at hfuel; omega⟩
      have hname := hnames entry List.mem_cons_self
      have hvalue := hvalues entry List.mem_cons_self
      have hnew : entry.1 ∉ record.map Prod.fst := by
        intro hmem
        exact (List.nodup_append.mp hdistinct).2.2 _ hmem _ List.mem_cons_self rfl
      have hmember : ∀ tail, memberText entry ++ tail =
          unit '"' :: (quotedUnits entry.1 ++
            unit '"' :: unit ':' :: (entry.2.stringify ++ tail)) := by
        intro tail
        simp [memberText, jsonString]
      cases payload with
      | nil =>
          rw [List.map_cons, List.map_nil, joinMembers, hmember,
            parseMembers_last (parseChars_quoted hname _) (hvalue _ _ _ (.inr rfl)),
            JsonRecord.set_new hnew]
          rfl
      | cons next payload =>
          have htail := ih (fuel + 1) (record ++ [(entry.1, entry.2.value)]) rest nofun
            (by simp at hfuel ⊢; omega) (fun e he => hnames e (List.mem_cons_of_mem _ he))
            (fun e he => hvalues e (List.mem_cons_of_mem _ he))
            (by simpa [List.append_assoc] using hdistinct)
          rw [List.map_cons, joinMembers.eq_3 _ _ (by simp), List.append_assoc, List.cons_append,
            hmember,
            parseMembers_more (parseChars_quoted hname _) (hvalue _ _ _ (.inl rfl)),
            JsonRecord.set_new hnew, htail]
          simp [payloadRecord]

theorem length_joinMembers (payload : Payload) :
    payload.length ≤ (joinMembers (payload.map memberText)).length := by
  have hmember : ∀ entry : JsString × PayloadValue, 1 ≤ (memberText entry).length := by
    intro entry
    simp [memberText, jsonString]
  induction payload with
  | nil => exact Nat.zero_le _
  | cons entry payload ih =>
      have hentry := hmember entry
      cases payload with
      | nil => simpa [joinMembers] using hentry
      | cons next payload =>
          rw [List.map_cons, joinMembers.eq_3 _ _ (by simp)]
          simp only [List.length_append, List.length_cons] at ih ⊢
          omega

/-- Parsing the text of a payload gives its record. -/
theorem parseJson_stringifyPayload {payload : Payload} (hne : payload ≠ [])
    (h : PayloadReadable payload) :
    parseJson (stringifyPayload payload) = some (.object (payloadRecord payload)) := by
  obtain ⟨entry, rest, hpayload⟩ := List.exists_cons_of_ne_nil hne
  have hquote : ∃ tail, joinMembers (payload.map memberText) = unit '"' :: tail := by
    rw [hpayload]
    cases rest with
    | nil => exact ⟨_, rfl⟩
    | cons next rest =>
        rw [List.map_cons, joinMembers.eq_3 _ _ (by simp)]
        exact ⟨_, rfl⟩
  obtain ⟨tail, htail⟩ := hquote
  have hlength := length_joinMembers payload
  have htext : stringifyPayload payload = unit '{' :: unit '"' :: (tail ++ [unit '}']) := by
    rw [stringifyPayload, htail]
    rfl
  have hmembers : ∀ fuel, payload.length < fuel →
      parseMembers fuel [] (unit '"' :: (tail ++ [unit '}'])) =
        some (.object (payloadRecord payload), []) := by
    intro fuel hfuel
    have hparse := parseMembers_joinMembers payload fuel [] [] hne hfuel h.names h.values
      (by simpa using h.distinct)
    rw [htail] at hparse
    exact hparse
  have hsize : (stringifyPayload payload).length =
      (joinMembers (payload.map memberText)).length + 2 := by
    simp [stringifyPayload]
  unfold parseJson
  rw [hsize, htext, parseValue_object (by decide) (by decide), hmembers _ (by omega)]
  rfl

/-! ## Tokens -/

/-- A bound for the length of the text of a value. -/
def PayloadValue.bound : PayloadValue → Nat
  | .version => 1
  | .text value => 2 * value.length + 2
  | .flag _ => 5

theorem stringify_printable {v : PayloadValue}
    (h : ∀ s, v = .text s → s.all isPrintable = true) :
    v.stringify.all isPrintable = true ∧ v.stringify.length ≤ v.bound := by
  cases v with
  | version => exact ⟨by decide, by decide⟩
  | text s => exact jsonString_printable (h s rfl)
  | flag b => cases b <;> exact ⟨by decide, by decide⟩

/-- A payload of printable text is printable text, not much longer than its parts. -/
theorem joinMembers_printable (payload : Payload)
    (hnames : ∀ entry ∈ payload, entry.1.all isPrintable = true)
    (hvalues : ∀ entry ∈ payload, ∀ s, entry.2 = .text s → s.all isPrintable = true) :
    (joinMembers (payload.map memberText)).all isPrintable = true ∧
      (joinMembers (payload.map memberText)).length ≤
        (payload.map fun entry => 2 * entry.1.length + 4 + entry.2.bound).sum := by
  have hmember : ∀ entry ∈ payload, (memberText entry).all isPrintable = true ∧
      (memberText entry).length ≤ 2 * entry.1.length + 3 + entry.2.bound := by
    intro entry hentry
    obtain ⟨hname, hnameLength⟩ := jsonString_printable (hnames entry hentry)
    obtain ⟨hvalue, hvalueLength⟩ := stringify_printable (hvalues entry hentry)
    have hcolon : isPrintable (unit ':') = true := by decide
    unfold memberText
    rw [List.all_append, List.all_cons, hname, hcolon, hvalue, List.length_append,
      List.length_cons]
    exact ⟨rfl, by omega⟩
  clear hnames hvalues
  induction payload with
  | nil => exact ⟨rfl, Nat.le_refl 0⟩
  | cons entry payload ih =>
      obtain ⟨hentry, hlength⟩ := hmember entry List.mem_cons_self
      obtain ⟨hrest, hrestLength⟩ := ih fun e he => hmember e (List.mem_cons_of_mem _ he)
      cases payload with
      | nil =>
          refine ⟨by simpa [joinMembers] using hentry, ?_⟩
          simp only [List.map_cons, List.map_nil, joinMembers, List.sum_cons, List.sum_nil]
          omega
      | cons next payload =>
          have hcomma : isPrintable (unit ',') = true := by decide
          have hjoin : joinMembers ((entry :: next :: payload).map memberText) =
              memberText entry ++ unit ',' :: joinMembers ((next :: payload).map memberText) := rfl
          have hsum : ((entry :: next :: payload).map fun entry =>
              2 * entry.1.length + 4 + entry.2.bound).sum =
              2 * entry.1.length + 4 + entry.2.bound + ((next :: payload).map fun entry =>
                2 * entry.1.length + 4 + entry.2.bound).sum := rfl
          rw [hjoin, hsum, List.all_append, List.all_cons, hentry, hcomma, hrest,
            List.length_append, List.length_cons]
          exact ⟨rfl, by omega⟩

/-- The reader parses the token of a readable payload that is not too long. -/
theorem decode_encode_payload {payload : Payload} (hne : payload ≠ [])
    (h : PayloadReadable payload)
    (hvalues : ∀ entry ∈ payload, ∀ s, entry.2 = .text s → s.all isPrintable = true)
    (hbound : (payload.map fun entry => 2 * entry.1.length + 4 + entry.2.bound).sum ≤ 1000) :
    decodeRemediationQueueCursor (base64Encode (utf8Encode (stringifyPayload payload))) =
      decodeRecord (payloadRecord payload) := by
  obtain ⟨hmembers, hlength⟩ := joinMembers_printable payload h.names hvalues
  have hprintable : (stringifyPayload payload).all isPrintable = true := by
    have hopen : isPrintable (unit '{') = true := by decide
    have hclose : isPrintable (unit '}') = true := by decide
    simp [stringifyPayload, hopen, hclose, hmembers]
  have hascii := isAscii_of_isPrintable hprintable
  have hsize : (stringifyPayload payload).length ≤ 1002 := by
    simp only [stringifyPayload, List.cons_append, List.length_cons, List.length_append,
      List.length_nil]
    omega
  have hpos : 0 < (stringifyPayload payload).length := Nat.succ_pos _
  have hbytes : (utf8Encode (stringifyPayload payload)).length =
      (stringifyPayload payload).length := by
    rw [utf8Encode_ascii _ hascii, List.length_map]
  have htoken := length_base64Encode (utf8Encode (stringifyPayload payload))
  have hnonempty : base64Encode (utf8Encode (stringifyPayload payload)) ≠ [] := by
    refine base64Encode_ne_nil fun hnil => ?_
    rw [hnil] at hbytes
    exact absurd hbytes (by simp only [List.length_nil]; omega)
  have hnul : (stringifyPayload payload).contains 0 = false := by
    rw [Bool.eq_false_iff]
    intro hzero
    have hmem := List.all_eq_true.mp hprintable 0 (by simpa using hzero)
    exact absurd hmem (by decide)
  have hlimits : ¬ ((base64Encode (utf8Encode (stringifyPayload payload))).length = 0 ∨
      (base64Encode (utf8Encode (stringifyPayload payload))).length >
        remediationQueueMaxCursorLength) := by
    rw [not_or]
    refine ⟨fun hzero => hnonempty (List.length_eq_zero_iff.mp hzero), ?_⟩
    have hmax : remediationQueueMaxCursorLength = 2048 := rfl
    omega
  have hdecoded : ¬ ((stringifyPayload payload).length = 0 ∨
      (stringifyPayload payload).contains 0 = true) := by
    rw [hnul, not_or]
    exact ⟨by omega, Bool.false_ne_true⟩
  unfold decodeRemediationQueueCursor
  rw [if_neg hlimits, base64Encode_letters, if_neg (by decide), base64Decode_encode,
    utf8Decode_encode _ hascii]
  simp only [if_neg hdecoded, parseJson_stringifyPayload hne h, Option.bind_some,
    JsonValue.record?]

/-! ## The round trip of a cursor -/

theorem isPrintable_of_isUuidVersion {u : UInt16} (h : isUuidVersion u = true) :
    isPrintable u = true :=
  isPrintable_of_le (by decide) (by decide) h

theorem isPrintable_of_isUuidVariant {u : UInt16} (h : isUuidVariant u = true) :
    isPrintable u = true := by
  simp only [isUuidVariant, Bool.or_eq_true, beq_iff_eq] at h
  rcases h with ((rfl | rfl) | rfl) | rfl <;> decide

/-- A lower-case UUID is 36 printable characters. -/
theorem isUuidLower_printable {s : JsString} (h : isUuidLower s = true) :
    s.all isPrintable = true ∧ s.length = 36 := by
  refine ⟨all_of_hasShape ?_ h, length_of_hasShape h⟩
  intro place hplace u hu
  simp only [uuidLowerShape, List.replicate, List.cons_append, List.nil_append, List.mem_cons,
    List.not_mem_nil, or_false] at hplace
  have hcases : place = isLowerHex ∨ place = exactly '-' ∨ place = isUuidVersion ∨
      place = isUuidVariant := by tauto
  rcases hcases with rfl | rfl | rfl | rfl
  · exact isPrintable_of_isLowerHex hu
  · exact isPrintable_of_exactly (by decide) hu
  · exact isPrintable_of_isUuidVersion hu
  · exact isPrintable_of_isUuidVariant hu

/-- A hash is 64 printable characters. -/
theorem isSha256Text_printable {s : JsString} (h : isSha256Text s = true) :
    s.all isPrintable = true ∧ s.length = 64 := by
  refine ⟨all_of_hasShape ?_ h, length_of_hasShape h⟩
  intro place hplace u hu
  rw [List.eq_of_mem_replicate hplace] at hu
  exact isPrintable_of_isLowerHex hu

/-- A decimal text is at most sixteen printable characters. -/
theorem isDecimalText_printable {s : JsString} (h : isDecimalText s = true) :
    s.all isPrintable = true ∧ s.length ≤ 16 := by
  have hwhole : (s.takeWhile isDigit).all isPrintable = true ∧
      (s.takeWhile isDigit).length ≤ 9 := by
    refine ⟨List.all_eq_true.mpr fun u hu =>
      isPrintable_of_isDigit (List.mem_takeWhile_imp hu), ?_⟩
    unfold isDecimalText at h
    rw [Bool.and_eq_true, Bool.or_eq_true] at h
    rcases h.1 with hzero | hlong
    · rw [of_decide_eq_true hzero]
      decide
    · simp only [Bool.and_eq_true, decide_eq_true_eq] at hlong
      exact hlong.1.2
  have hfraction : (s.dropWhile isDigit).all isPrintable = true ∧
      (s.dropWhile isDigit).length ≤ 7 := by
    unfold isDecimalText at h
    rw [Bool.and_eq_true] at h
    have htail := h.2
    split at htail
    · rename_i hnil
      rw [hnil]
      exact ⟨rfl, Nat.zero_le 7⟩
    · rename_i point fraction hcons
      rw [hcons]
      simp only [Bool.and_eq_true, decide_eq_true_eq, beq_iff_eq] at htail
      have hpoint : isPrintable (unit '.') = true := by decide
      rw [List.all_cons, htail.1.1.1, hpoint, Bool.true_and, List.length_cons]
      exact ⟨List.all_eq_true.mpr fun u hu =>
        isPrintable_of_isDigit (List.all_eq_true.mp htail.2 u hu), by omega⟩
  rw [← List.takeWhile_append_dropWhile (p := isDigit) (l := s), List.all_append, hwhole.1,
    hfraction.1, List.length_append]
  exact ⟨rfl, by omega⟩

theorem isEngineText_printable {s : JsString} (h : isEngineText s = true) :
    s.all isPrintable = true ∧ s.length ≤ 64 := by
  simp only [isEngineText, Bool.and_eq_true, decide_eq_true_eq] at h
  exact ⟨h.2, h.1.2⟩

/-- A value of printable text, within a bound. -/
def PayloadValue.Fits (v : PayloadValue) (bound : Nat) : Prop :=
  (∀ s, v = .text s → s.all isPrintable = true) ∧ v.bound ≤ bound

theorem fits_text {s : JsString} {n : Nat} (h : s.all isPrintable = true ∧ s.length ≤ n) :
    (PayloadValue.text s).Fits (2 * n + 2) := by
  refine ⟨fun t ht => ?_, ?_⟩
  · cases ht
    exact h.1
  · exact Nat.add_le_add_right (Nat.mul_le_mul_left 2 h.2) 2

theorem fits_flag (b : Bool) : (PayloadValue.flag b).Fits 5 := ⟨nofun, Nat.le_refl 5⟩

theorem fits_version : PayloadValue.version.Fits 1 := ⟨nofun, Nat.le_refl 1⟩

theorem fits_section (queueSection : RemediationQueueSection) :
    (PayloadValue.text (sectionText queueSection)).Fits (2 * 14 + 2) := by
  refine fits_text ?_
  cases queueSection <;> decide

theorem readsBack_of_fits {v : PayloadValue} {n : Nat} (h : v.Fits n) : ReadsBack v := by
  cases v with
  | version => exact readsBack_version
  | text s => exact readsBack_text (h.1 s rfl)
  | flag b => exact readsBack_flag b

/-- The token of entries that fit. -/
theorem decode_encode_fits {payload : Payload} {bounds : List Nat} (hne : payload ≠ [])
    (hnames : ∀ name ∈ payload.map Prod.fst, name.all isPrintable = true ∧ name.length ≤ 2)
    (hdistinct : (payload.map Prod.fst).Nodup)
    (hfits : List.Forall₂ (fun entry bound => entry.2.Fits bound) payload bounds)
    (hbound : 8 * bounds.length + bounds.sum ≤ 1000) :
    decodeRemediationQueueCursor (base64Encode (utf8Encode (stringifyPayload payload))) =
      decodeRecord (payloadRecord payload) := by
  have hfit : ∀ entry ∈ payload, ∃ bound, entry.2.Fits bound := by
    intro entry hentry
    obtain ⟨bound, -, hbound⟩ := mem_of_forall₂ hfits hentry
    exact ⟨bound, hbound⟩
  have hsum : (payload.map fun entry => 2 * entry.1.length + 4 + entry.2.bound).sum ≤
      8 * bounds.length + bounds.sum := by
    clear hne hdistinct hbound hfit
    induction hfits with
    | nil => exact Nat.le_refl 0
    | @cons entry bound payload bounds hentry _ ih =>
        have hname := (hnames entry.1 List.mem_cons_self).2
        have hrest := ih fun name hname => hnames name (List.mem_cons_of_mem _ hname)
        have hvalue := hentry.2
        simp only [List.map_cons, List.sum_cons, List.length_cons]
        omega
  refine decode_encode_payload hne ⟨?_, ?_, hdistinct⟩ ?_ (hsum.trans hbound)
  · exact fun entry hentry => (hnames entry.1 (List.mem_map_of_mem hentry)).1
  · intro entry hentry
    obtain ⟨bound, hbound⟩ := hfit entry hentry
    exact readsBack_of_fits hbound
  · intro entry hentry
    obtain ⟨bound, hbound⟩ := hfit entry hentry
    exact hbound.1

theorem textField_eq {record : JsonRecord} {name : JsString} {pattern : JsString → Bool}
    (value : JsString) (h : record.get name = some (.string value))
    (hpattern : pattern value = true) :
    textField record name pattern = some value := by
  rw [textField, h]
  exact if_pos hpattern

/-- The keys of a cursor. -/
def cursorKeys : RemediationQueueSection → List JsString
  | .ranked => rankedKeys
  | .incomparable => shortKeys
  | .notCalculated => shortKeys

theorem map_fst_cursorPayload (cursor : RemediationQueueCursor) :
    (cursorPayload cursor).map Prod.fst = cursorKeys cursor.queueSection := by
  cases cursor <;> rfl

theorem cursorKeys_short (queueSection : RemediationQueueSection) :
    (cursorKeys queueSection).Nodup ∧
      ∀ name ∈ cursorKeys queueSection, name.all isPrintable = true ∧ name.length ≤ 2 := by
  cases queueSection <;> decide

/-- The token of a cursor whose entries fit. -/
theorem decode_encode_cursor {cursor : RemediationQueueCursor} {bounds : List Nat}
    (hfits : List.Forall₂ (fun entry bound => entry.2.Fits bound) (cursorPayload cursor) bounds)
    (hbound : 8 * bounds.length + bounds.sum ≤ 1000) :
    decodeRemediationQueueCursor (encodeRemediationQueueCursor cursor) =
      decodeRecord (payloadRecord (cursorPayload cursor)) := by
  obtain ⟨hdistinct, hnames⟩ := cursorKeys_short cursor.queueSection
  rw [← map_fst_cursorPayload] at hdistinct hnames
  exact decode_encode_fits nofun hnames hdistinct hfits hbound

/-- The record of a cursor is read by the reader of its section. -/
theorem decodeRecord_cursor (cursor : RemediationQueueCursor) :
    decodeRecord (payloadRecord (cursorPayload cursor)) =
      match cursor.queueSection with
      | .ranked => decodeRanked (payloadRecord (cursorPayload cursor))
      | .incomparable => decodeIncomparable (payloadRecord (cursorPayload cursor))
      | .notCalculated => decodeNotCalculated (payloadRecord (cursorPayload cursor)) := by
  have hversion : (JsNumber.finite remediationQueueCursorVersion).strictEquals
      (.finite remediationQueueCursorVersion) = true := by
    simp [JsNumber.strictEquals]
  have hv : (payloadRecord (cursorPayload cursor)).get (js "v") =
      some (.number (.finite remediationQueueCursorVersion)) := rfl
  have hs : (payloadRecord (cursorPayload cursor)).get (js "s") =
      some (.string (sectionText cursor.queueSection)) := rfl
  unfold decodeRecord
  rw [hv, hs]
  simp only [hversion, Bool.true_eq_false, if_false]
  cases cursor.queueSection
  · exact if_pos rfl
  · rw [if_neg (by decide)]
    exact if_pos rfl
  · rw [if_neg (by decide), if_neg (by decide)]
    exact if_pos rfl

theorem exactKeys_cursor (cursor : RemediationQueueCursor) :
    exactKeys (payloadRecord (cursorPayload cursor)) (cursorKeys cursor.queueSection) = true := by
  cases cursor <;> rfl

/-- The fields that every cursor has. -/
theorem readShared_cursor {cursor : RemediationQueueCursor} {findingId : JsString}
    (hhash : isSha256Text cursor.reference.policyDefinitionSha256 = true)
    (hengine : isEngineText cursor.reference.engineVersion = true)
    (hid : isUuidLower findingId = true)
    (hget : (payloadRecord (cursorPayload cursor)).get (js "i") = some (.string findingId)) :
    readShared (payloadRecord (cursorPayload cursor)) = some (cursor.reference, findingId) := by
  unfold readShared
  rw [textField_eq cursor.reference.policyDefinitionSha256 rfl hhash,
    textField_eq cursor.reference.engineVersion rfl hengine, textField_eq _ hget hid]
  rfl

/-- **Round trip.**  The reader gives back every well-formed cursor from its token. -/
theorem decode_encodeRemediationQueueCursor {cursor : RemediationQueueCursor}
    (h : cursor.wellFormed = true) :
    decodeRemediationQueueCursor (encodeRemediationQueueCursor cursor) = some cursor := by
  unfold RemediationQueueCursor.wellFormed at h
  rw [Bool.and_eq_true, Bool.and_eq_true] at h
  obtain ⟨⟨hhash, hengine⟩, hkey⟩ := h
  have hhash' := fits_text ((isSha256Text_printable hhash).imp_right Nat.le_of_eq)
  have hengine' := fits_text (isEngineText_printable hengine)
  have hkeys := exactKeys_cursor cursor
  have htime : ∀ {s}, isIsoText s = true → (PayloadValue.text s).Fits (2 * 24 + 2) := fun hiso =>
    fits_text ⟨isPrintable_of_isIsoText hiso, Nat.le_of_eq (length_of_hasShape hiso)⟩
  have huuid : ∀ {s}, isUuidLower s = true → (PayloadValue.text s).Fits (2 * 36 + 2) :=
    fun hid => fits_text ((isUuidLower_printable hid).imp_right Nat.le_of_eq)
  cases cursor with
  | ranked reference key =>
      simp only [Bool.and_eq_true] at hkey
      obtain ⟨⟨⟨hpriority, hseverity⟩, hobserved⟩, hid⟩ := hkey
      have hfits : List.Forall₂ (fun entry bound => entry.2.Fits bound)
          (cursorPayload (.ranked reference key)) _ :=
        .cons fits_version <| .cons (fits_section .ranked) <| .cons hhash' <| .cons hengine' <|
          .cons (fits_text (isDecimalText_printable hpriority)) <| .cons (fits_flag _) <|
          .cons (fits_flag _) <| .cons (fits_text (isDecimalText_printable hseverity)) <|
          .cons (htime hobserved) <| .cons (huuid hid) .nil
      rw [decode_encode_cursor hfits (by decide), decodeRecord_cursor]
      change decodeRanked _ = _
      unfold decodeRanked
      rw [if_neg fun hfalse => Bool.false_ne_true (hfalse.symm.trans hkeys),
        readShared_cursor hhash hengine hid rfl]
      simp only [Option.bind_eq_bind, Option.bind_some]
      rw [textField_eq key.priorityText rfl hpriority,
        textField_eq key.severityText rfl hseverity,
        textField_eq key.firstObservedAt rfl hobserved]
      rfl
  | incomparable reference calculatedAt findingId =>
      rw [Bool.and_eq_true] at hkey
      obtain ⟨hcalculated, hid⟩ := hkey
      have hfits : List.Forall₂ (fun entry bound => entry.2.Fits bound)
          (cursorPayload (.incomparable reference calculatedAt findingId)) _ :=
        .cons fits_version <| .cons (fits_section .incomparable) <| .cons hhash' <|
          .cons hengine' <| .cons (htime hcalculated) <| .cons (huuid hid) .nil
      rw [decode_encode_cursor hfits (by decide), decodeRecord_cursor]
      change decodeIncomparable _ = _
      unfold decodeIncomparable
      rw [if_neg fun hfalse => Bool.false_ne_true (hfalse.symm.trans hkeys),
        readShared_cursor hhash hengine hid rfl]
      simp only [Option.bind_eq_bind, Option.bind_some]
      rw [textField_eq calculatedAt rfl hcalculated]
      rfl
  | notCalculated reference firstObservedAt findingId =>
      rw [Bool.and_eq_true] at hkey
      obtain ⟨hobserved, hid⟩ := hkey
      have hfits : List.Forall₂ (fun entry bound => entry.2.Fits bound)
          (cursorPayload (.notCalculated reference firstObservedAt findingId)) _ :=
        .cons fits_version <| .cons (fits_section .notCalculated) <| .cons hhash' <|
          .cons hengine' <| .cons (htime hobserved) <| .cons (huuid hid) .nil
      rw [decode_encode_cursor hfits (by decide), decodeRecord_cursor]
      change decodeNotCalculated _ = _
      unfold decodeNotCalculated
      rw [if_neg fun hfalse => Bool.false_ne_true (hfalse.symm.trans hkeys),
        readShared_cursor hhash hengine hid rfl]
      simp only [Option.bind_eq_bind, Option.bind_some]
      rw [textField_eq firstObservedAt rfl hobserved]
      rfl

end PatchPilot.Risk
