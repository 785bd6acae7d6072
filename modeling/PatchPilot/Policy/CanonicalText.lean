import PatchPilot.Foundation.JsonWriting
import PatchPilot.Foundation.NumberText
import PatchPilot.Foundation.WellFormedText
import PatchPilot.Policy.CanonicalJson

set_option autoImplicit false

/-!
# Policy: canonical texts read back (`canonical-json.ts`)

`JSON.parse` gives every string back that `JSON.stringify` wrote, with its control characters
and its lone surrogates.  So the canonical text of a value is a text of its document.

`JSON.stringify` escapes the surrogates that stand alone, so its text is well formed.  The
UTF-8 bytes of such a text lose nothing: documents with the same bytes are one document.
-/

namespace PatchPilot.Policy

open PatchPilot.Foundation

/-! ## Strings -/

theorem hexDigitValue_hexDigit {n : Nat} (h : n < 16) : hexDigitValue (hexDigit n) = some n := by
  have hall : ∀ n : Fin 16, hexDigitValue (hexDigit n.val) = some n.val := by decide
  exact hall ⟨n, h⟩

/-- The four digits of an escape are those of its code unit. -/
theorem parseChars_unicodeEscape (u : UInt16) {rest s tail : JsString}
    (h : parseChars rest = some (s, tail)) :
    parseChars (unicodeEscape u ++ rest) = some (u :: s, tail) := by
  have hlt := u.toNat_lt
  have hunit : hexUnit (hexDigit (u.toNat / 0x1000)) (hexDigit (u.toNat / 0x100 % 0x10))
      (hexDigit (u.toNat / 0x10 % 0x10)) (hexDigit (u.toNat % 0x10)) = some u := by
    unfold hexUnit
    simp only [Option.bind_eq_bind, Option.bind_some,
      hexDigitValue_hexDigit (show u.toNat / 0x1000 < 16 by omega),
      hexDigitValue_hexDigit (show u.toNat / 0x100 % 0x10 < 16 by omega),
      hexDigitValue_hexDigit (show u.toNat / 0x10 % 0x10 < 16 by omega),
      hexDigitValue_hexDigit (show u.toNat % 0x10 < 16 by omega)]
    have hsum : u.toNat / 0x1000 * 0x1000 + u.toNat / 0x100 % 0x10 * 0x100 +
        u.toNat / 0x10 % 0x10 * 0x10 + u.toNat % 0x10 = u.toNat := by omega
    rw [hsum, Nat.toUInt16_eq, UInt16.ofNat_toNat]
  have hquote : unit '\\' ≠ unit '"' := by decide
  unfold unicodeEscape
  simp only [List.cons_append, List.nil_append]
  rw [parseChars.eq_def]
  simp only [if_neg hquote, if_true, hunit, h, Option.bind_some, Option.map_some]

/-- A code unit on its own is read back. -/
theorem parseChars_quotedUnit (u : UInt16) {rest s tail : JsString}
    (h : parseChars rest = some (s, tail)) :
    parseChars (quotedUnit u ++ rest) = some (u :: s, tail) := by
  unfold quotedUnit
  split
  · rename_i hu
    subst hu
    exact parseChars_escaped (by decide) rfl h
  split
  · rename_i hu
    subst hu
    exact parseChars_escaped (by decide) rfl h
  split
  · rename_i hu
    subst hu
    exact parseChars_escaped (by decide) rfl h
  split
  · rename_i hu
    subst hu
    exact parseChars_escaped (by decide) rfl h
  split
  · rename_i hu
    subst hu
    exact parseChars_escaped (by decide) rfl h
  split
  · rename_i hu
    subst hu
    exact parseChars_escaped (by decide) rfl h
  split
  · rename_i hu
    subst hu
    exact parseChars_escaped (by decide) rfl h
  split
  · exact parseChars_unicodeEscape u h
  · rename_i hquote hbackslash hplain
    exact parseChars_plain hquote hbackslash (UInt16.not_lt.mp fun hlt => hplain (.inl hlt)) h

theorem parseChars_surrogate {u : UInt16} (hu : (isHighSurrogate u || isLowSurrogate u) = true)
    {rest s tail : JsString} (h : parseChars rest = some (s, tail)) :
    parseChars (u :: rest) = some (u :: s, tail) := by
  have hlow : (0xD800 : UInt16) ≤ u := by
    rcases (Bool.or_eq_true _ _).mp hu with hhigh | hlow
    · exact of_decide_eq_true ((Bool.and_eq_true _ _).mp hhigh).1
    · exact UInt16.le_trans (by decide) (of_decide_eq_true ((Bool.and_eq_true _ _).mp hlow).1)
  refine parseChars_plain ?_ ?_ (UInt16.le_trans (by decide) hlow) h
  · rintro rfl
    exact absurd hlow (by decide)
  · rintro rfl
    exact absurd hlow (by decide)

/-- The reader gives every string back. -/
theorem parseChars_quotedUnits (s rest : JsString) :
    parseChars (quotedUnits s ++ unit '"' :: rest) = some (s, rest) := by
  induction s using quotedUnits.induct with
  | case1 => exact parseChars_end rest
  | case2 u => exact parseChars_quotedUnit u (parseChars_end rest)
  | case3 u v s hpair ih =>
      obtain ⟨hu, hv⟩ := (Bool.and_eq_true _ _).mp hpair
      rw [quotedUnits, if_pos hpair, List.cons_append, List.cons_append]
      exact parseChars_surrogate (by rw [hu, Bool.true_or])
        (parseChars_surrogate (by rw [hv, Bool.or_true]) ih)
  | case4 u v s hpair ih =>
      rw [quotedUnits, if_neg hpair, List.append_assoc]
      exact parseChars_quotedUnit u ih

theorem stringReadsBack (s : JsString) : StringReadsBack (jsonString s) s := by
  refine ⟨quotedUnits s ++ [unit '"'], rfl, fun rest => ?_⟩
  rw [List.append_assoc, List.singleton_append]
  exact parseChars_quotedUnits s rest

/-- The texts of `JSON.stringify`. -/
def jsonTexts (numberText : Rat → JsString) : JsonTexts := ⟨jsonString, numberText⟩

/-- Texts of numbers that the reader gives back, as those of `Number::toString` are. -/
def NumbersReadBack (numberText : Rat → JsString) : Prop :=
  ∀ value, IsDouble value → NumberReadsBack (numberText value) value

theorem jsonTexts_readBack {numberText : Rat → JsString} (h : NumbersReadBack numberText) :
    (jsonTexts numberText).ReadBack where
  string := stringReadsBack
  number := h

/-! ## Well-formed texts -/

theorem isAscii_unicodeEscape (u : UInt16) : isAscii (unicodeEscape u) = true := by
  have hdigit : ∀ n, n < 16 → hexDigit n ≤ 0x7F := by decide
  have hlt := u.toNat_lt
  have hdigits : isAscii [hexDigit (u.toNat / 0x1000), hexDigit (u.toNat / 0x100 % 0x10),
      hexDigit (u.toNat / 0x10 % 0x10), hexDigit (u.toNat % 0x10)] = true := by
    unfold isAscii
    simp only [List.all_cons, List.all_nil, Bool.and_true, Bool.and_eq_true, decide_eq_true_eq]
    exact ⟨hdigit _ (by omega), hdigit _ (by omega), hdigit _ (by omega), hdigit _ (by omega)⟩
  have hmark : isAscii [unit '\\', unit 'u'] = true := by decide
  exact isAscii_append.mpr ⟨hmark, hdigits⟩

/-- A surrogate that stands alone is escaped. -/
theorem isWellFormed_quotedUnit (u : UInt16) : isWellFormed (quotedUnit u) = true := by
  unfold quotedUnit
  split_ifs with h1 h2 h3 h4 h5 h6 h7 hescaped
  all_goals try exact isWellFormed_of_isAscii (by decide)
  · exact isWellFormed_of_isAscii (isAscii_unicodeEscape u)
  · refine isWellFormed_singleton (Bool.or_eq_false_iff.mpr ⟨?_, ?_⟩)
    · exact eq_false_of_ne_true fun hhigh => hescaped (.inr (.inl hhigh))
    · exact eq_false_of_ne_true fun hlow => hescaped (.inr (.inr hlow))

theorem isWellFormed_quotedUnits (s : JsString) : isWellFormed (quotedUnits s) = true := by
  induction s using quotedUnits.induct with
  | case1 => rfl
  | case2 u =>
      rw [quotedUnits]
      exact isWellFormed_quotedUnit u
  | case3 u v rest hpair ih =>
      rw [quotedUnits, if_pos hpair, isWellFormed, if_pos hpair]
      exact ih
  | case4 u v rest hpair ih =>
      rw [quotedUnits, if_neg hpair]
      exact isWellFormed_append (isWellFormed_quotedUnit u) ih

theorem isWellFormed_jsonString (s : JsString) : isWellFormed (jsonString s) = true :=
  isWellFormed_cons (by decide)
    (isWellFormed_append (isWellFormed_quotedUnits s) (isWellFormed_singleton (by decide)))

/-- What stands before a rest is ASCII. -/
def AsciiBefore (s rest : JsString) : Prop := ∃ read, s = read ++ rest ∧ isAscii read = true

theorem AsciiBefore.refl (s : JsString) : AsciiBefore s s := ⟨[], rfl, rfl⟩

theorem AsciiBefore.trans {s t rest : JsString} (h : AsciiBefore s t) (h' : AsciiBefore t rest) :
    AsciiBefore s rest := by
  obtain ⟨read, rfl, hread⟩ := h
  obtain ⟨read', rfl, hread'⟩ := h'
  exact ⟨read ++ read', (List.append_assoc read read' rest).symm,
    isAscii_append.mpr ⟨hread, hread'⟩⟩

theorem asciiBefore_expectUnit {u : UInt16} (hu : u ≤ 0x7F) {s rest : JsString}
    (h : expectUnit u s = some rest) : AsciiBefore s rest := by
  cases s with
  | nil => cases h
  | cons v tail =>
      by_cases hsame : v = u
      · subst hsame
        rw [expectUnit_self] at h
        cases h
        exact ⟨[v], rfl, isAscii_cons.mpr ⟨hu, rfl⟩⟩
      · rw [expectUnit_ne tail hsame] at h
        cases h

theorem asciiBefore_digits (s : JsString) : AsciiBefore s (s.dropWhile isDigit) := by
  refine ⟨s.takeWhile isDigit, List.takeWhile_append_dropWhile.symm, ?_⟩
  refine List.all_eq_true.mpr fun u hu => decide_eq_true ?_
  have hdigit := List.mem_takeWhile_imp hu
  unfold isDigit at hdigit
  rw [Bool.and_eq_true, decide_eq_true_eq, decide_eq_true_eq] at hdigit
  exact UInt16.le_trans hdigit.2 (by decide)

theorem asciiBefore_fraction {s fraction rest : JsString}
    (h : parseFraction s = some (fraction, rest)) : AsciiBefore s rest := by
  unfold parseFraction at h
  split at h
  · cases h
    exact .refl s
  · rename_i behind hpoint
    split at h
    · cases h
    · cases h
      exact (asciiBefore_expectUnit (by decide) hpoint).trans (asciiBefore_digits behind)

theorem asciiBefore_exponent {s rest : JsString} {exponent : Int}
    (h : parseExponent s = some (exponent, rest)) : AsciiBefore s rest := by
  unfold parseExponent at h
  split at h
  · cases h
    exact .refl s
  · rename_i behind hletter
    have hbefore : AsciiBefore s behind := by
      rcases Option.or_eq_some_iff.mp hletter with hletter | ⟨-, hletter⟩
      · exact asciiBefore_expectUnit (by decide) hletter
      · exact asciiBefore_expectUnit (by decide) hletter
    have hsign : AsciiBefore behind
        (((expectUnit (unit '-') behind).or (expectUnit (unit '+') behind)).getD behind) := by
      cases hminus : expectUnit (unit '-') behind with
      | some signed => exact asciiBefore_expectUnit (by decide) hminus
      | none =>
          cases hplus : expectUnit (unit '+') behind with
          | some signed => exact asciiBefore_expectUnit (by decide) hplus
          | none => exact .refl behind
    dsimp only at h
    split at h
    · cases h
    · cases h
      exact hbefore.trans (hsign.trans (asciiBefore_digits _))

/-- What the reader takes for a number is ASCII. -/
theorem asciiBefore_number {s rest : JsString} {value : JsNumber}
    (h : parseNumber s = some (value, rest)) : AsciiBefore s rest := by
  have hsign : AsciiBefore s ((expectUnit (unit '-') s).getD s) := by
    cases hminus : expectUnit (unit '-') s with
    | some signed => exact asciiBefore_expectUnit (by decide) hminus
    | none => exact .refl s
  unfold parseNumber at h
  dsimp only at h
  split at h
  · cases h
  · obtain ⟨⟨fraction, behind⟩, hfraction, h⟩ := Option.bind_eq_some_iff.mp h
    obtain ⟨⟨exponent, last⟩, hexponent, h⟩ := Option.bind_eq_some_iff.mp h
    cases h
    exact hsign.trans ((asciiBefore_digits _).trans ((asciiBefore_fraction hfraction).trans
      (asciiBefore_exponent hexponent)))

/-- The text of a number that the reader gives back is ASCII. -/
theorem isAscii_numberText {text : JsString} {value : Rat} (h : NumberReadsBack text value) :
    isAscii text = true := by
  have hread := h.parse [] (.inl rfl)
  obtain ⟨read, hread, hascii⟩ := asciiBefore_number hread
  rw [List.append_nil, List.append_nil] at hread
  rw [hread]
  exact hascii

/-! ## Documents -/

theorem numbersReadBack_exactText : NumbersReadBack exactText := fun _ => numberReadsBack_exactText

theorem jsonTexts_exactText : (jsonTexts exactText).ReadBack :=
  jsonTexts_readBack numbersReadBack_exactText

/-- What `JSON.stringify` writes is well formed. -/
theorem isWellFormed_writeJson {numberText : Rat → JsString} (h : NumbersReadBack numberText)
    {value : JsonValue} (hwritable : JsonWritable value) :
    isWellFormed (writeJson (jsonTexts numberText) value) = true := by
  have hbracket : ∀ {before after : UInt16} {body : JsString}, isSurrogate before = false →
      isWellFormed body = true → isSurrogate after = false →
        isWellFormed (before :: body ++ [after]) = true := fun hbefore hbody hafter =>
    isWellFormed_append (isWellFormed_cons hbefore hbody) (isWellFormed_singleton hafter)
  have hcomma : isWellFormed [unit ','] = true := by decide
  induction value using JsonValue.tree with
  | null => exact isWellFormed_js _
  | boolean value =>
      cases value with
      | true => exact isWellFormed_js _
      | false => exact isWellFormed_js _
  | number value =>
      cases hwritable with
      | number double => exact isWellFormed_of_isAscii (isAscii_numberText (h _ double))
  | string value => exact isWellFormed_jsonString value
  | array items ih =>
      cases hwritable with
      | array each =>
          rw [writeJson, writeItems_eq]
          refine hbracket (by decide) (isWellFormed_intercalate hcomma fun part hpart => ?_)
            (by decide)
          obtain ⟨item, hitem, rfl⟩ := List.mem_map.mp hpart
          exact ih item hitem (each item hitem)
  | object entries ih =>
      cases hwritable with
      | object names each =>
          rw [writeJson, writeEntries_eq]
          refine hbracket (by decide) (isWellFormed_intercalate hcomma fun part hpart => ?_)
            (by decide)
          obtain ⟨entry, hentry, rfl⟩ := List.mem_map.mp hpart
          exact isWellFormed_append (isWellFormed_jsonString entry.1)
            (isWellFormed_cons (by decide) (ih entry hentry (each entry hentry)))

/-- The bytes of a document are read as the document. -/
theorem parseJson_bytes {numberText : Rat → JsString} (h : NumbersReadBack numberText)
    {value : JsonValue} (hwritable : JsonWritable value) :
    parseJson (utf8Decode (utf8Encode (writeJson (jsonTexts numberText) value))) = some value := by
  rw [utf8Decode_encode_wellFormed _ (isWellFormed_writeJson h hwritable)]
  exact parseJson_writeJson (jsonTexts_readBack h) hwritable

/-- Documents with the same bytes are one document. -/
theorem writeJson_bytes_inj {numberText : Rat → JsString} (h : NumbersReadBack numberText)
    {value value' : JsonValue} (hvalue : JsonWritable value) (hvalue' : JsonWritable value')
    (heq : utf8Encode (writeJson (jsonTexts numberText) value) =
      utf8Encode (writeJson (jsonTexts numberText) value')) : value = value' := by
  have hread := parseJson_bytes h hvalue
  rw [heq, parseJson_bytes h hvalue'] at hread
  exact (Option.some.inj hread).symm

end PatchPilot.Policy
