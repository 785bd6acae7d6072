import PatchPilot.Matching.Request
import PatchPilot.Matching.Reviewed

set_option autoImplicit false

/-!
# Matching: the texts of the provenance (`product-evidence-provenance/canonical.ts`)

The provenance writes fields behind their lengths, with a bar between them, and writes the
ranges of an advisory once more, from records of a name and a value where the evaluation has
objects with one property.  A list of fields is known from its text, and the two texts of the
ranges are the same.
-/

namespace PatchPilot.Matching.Provenance

open PatchPilot.Foundation

/-! ## Fields -/

/-- `lengthPrefixedField`. -/
def lengthPrefixedField (name value : JsString) : JsString :=
  decimalText name.length ++ js ":" ++ name ++ decimalText value.length ++ js ":" ++ value

/-- `canonicalMaterial`. -/
def canonicalMaterial (fields : List (JsString × JsString)) : JsString :=
  (js "|").intercalate (fields.map fun field => lengthPrefixedField field.1 field.2)

theorem lengthPrefixedField_eq (name value : JsString) :
    lengthPrefixedField name value = canonicalToken name ++ canonicalToken value := by
  unfold lengthPrefixedField canonicalToken
  simp only [List.append_assoc]

/-- A field says where it ends. -/
theorem lengthPrefixedField_selfDelimiting :
    SelfDelimiting (fun _ : JsString × JsString => True ∧ True)
      (fun field => lengthPrefixedField field.1 field.2) := by
  have hpair := canonicalToken_selfDelimiting.pair canonicalToken_selfDelimiting
  rw [show (fun field : JsString × JsString => lengthPrefixedField field.1 field.2) = _ from
    funext fun field => lengthPrefixedField_eq field.1 field.2]
  exact hpair

/-- A list of fields is known from its text. -/
theorem canonicalMaterial_inj {fields fields' : List (JsString × JsString)} :
    canonicalMaterial fields = canonicalMaterial fields' ↔ fields = fields' := by
  refine ⟨fun h => ?_, congrArg canonicalMaterial⟩
  exact lengthPrefixedField_selfDelimiting.intercalate_inj (js "|")
    (fun _ _ => ⟨trivial, trivial⟩) (fun _ _ => ⟨trivial, trivial⟩) h

/-! ## Ranges -/

/-- `compareCodeUnits`: the difference of the first units that differ, or of the lengths. -/
def compareCodeUnits : JsString → JsString → Int
  | left :: lefts, right :: rights =>
      let difference : Int := left.toNat - right.toNat
      if difference ≠ 0 then difference else compareCodeUnits lefts rights
  | lefts, rights => lefts.length - rights.length

/-- The comparator of a sort: the sign of a number. -/
def signOf (difference : Int) : Ordering := compare difference 0

/-- `canonicalToken`. -/
def canonicalToken (value : JsString) : JsString :=
  decimalText value.length ++ js ":" ++ value

/-- `session14RangeSortKey`. -/
def session14RangeSortKey (range : CanonicalRange) : JsString :=
  let events := (range.events.map fun event =>
    canonicalToken event.name ++ canonicalToken event.value).flatten
  canonicalToken range.type ++ canonicalToken events

/-- `session14RangeCanonical`. -/
def session14RangeCanonical (ranges : List CanonicalRange) (explicitVersions : List JsString) :
    JsString :=
  let compareTexts := fun left right => signOf (compareCodeUnits left right)
  let rangeText := (sortBy compareTexts (ranges.map session14RangeSortKey)).flatten
  let explicit := (sortBy compareTexts (explicitVersions.map canonicalToken)).flatten
  canonicalToken rangeText ++ canonicalToken explicit

/-- `session14RangeFingerprint`. -/
def session14RangeFingerprint (sha256Utf8 : JsString → JsString) (ranges : List CanonicalRange)
    (explicitVersions : List JsString) : JsString :=
  sha256Utf8 (session14RangeCanonical ranges explicitVersions)

/-- The order of code units is the order of their numbers. -/
theorem compare_toNat (left right : UInt16) :
    compare left right = compare left.toNat right.toNat := by
  change compareOfLessAndEq left right = compareOfLessAndEq left.toNat right.toNat
  unfold compareOfLessAndEq
  simp only [UInt16.lt_iff_toNat_lt, ← UInt16.toNat_inj]

/-- The sign of the difference is the order of the code units. -/
theorem signOf_compareCodeUnits (left right : JsString) :
    signOf (compareCodeUnits left right) = Foundation.compareCodeUnits left right := by
  unfold signOf Foundation.compareCodeUnits
  induction left generalizing right with
  | nil =>
      cases right with
      | nil => rfl
      | cons unit rest =>
          rw [List.compareLex_nil_cons, compare_lt_iff_lt]
          unfold compareCodeUnits
          rw [List.length_nil, List.length_cons]
          omega
  | cons leftUnit lefts ih =>
      cases right with
      | nil =>
          rw [List.compareLex_cons_nil, compare_gt_iff_gt]
          unfold compareCodeUnits
          rw [List.length_nil, List.length_cons]
          omega
      | cons rightUnit rights =>
          rw [List.compareLex_cons_cons]
          unfold compareCodeUnits
          dsimp only
          have hcompare : compare leftUnit rightUnit =
              compare leftUnit.toNat rightUnit.toNat := compare_toNat leftUnit rightUnit
          rw [hcompare]
          rcases lt_trichotomy leftUnit.toNat rightUnit.toNat with hlt | heq | hgt
          · rw [compare_lt_iff_lt.mpr hlt, if_pos (by omega), compare_lt_iff_lt.mpr (by omega)]
            rfl
          · rw [compare_eq_iff_eq.mpr heq, if_neg (by omega), ih]
            rfl
          · rw [compare_gt_iff_gt.mpr hgt, if_pos (by omega), compare_gt_iff_gt.mpr (by omega)]
            rfl

/-- A range has the same text as its object in the evaluation. -/
theorem session14RangeSortKey_eq (range : CanonicalRange) :
    session14RangeSortKey range = oneRangeCanonical range.draft := by
  unfold session14RangeSortKey oneRangeCanonical CanonicalRange.draft
  dsimp only
  rw [List.flatMap_map]
  rfl

/-- The provenance and the evaluation write the same text of the ranges. -/
theorem session14RangeCanonical_eq (ranges : List CanonicalRange)
    (explicitVersions : List JsString) :
    session14RangeCanonical ranges explicitVersions =
      rangeCanonical (ranges.map CanonicalRange.draft) explicitVersions := by
  have hcompare : (fun left right => signOf (compareCodeUnits left right)) =
      Foundation.compareCodeUnits :=
    funext fun left => funext fun right => signOf_compareCodeUnits left right
  have hkeys : ranges.map session14RangeSortKey =
      (ranges.map CanonicalRange.draft).map oneRangeCanonical := by
    rw [List.map_map]
    exact List.map_congr_left fun range _ => session14RangeSortKey_eq range
  unfold session14RangeCanonical rangeCanonical
  dsimp only
  rw [hcompare, hkeys]
  rfl

/-- The text of a list of fields is known to be of that list alone, and the fingerprint of a
list of ranges is the one that the evaluation takes of their objects. -/
theorem provenance_canonical :
    (∀ fields fields' : List (JsString × JsString),
      canonicalMaterial fields = canonicalMaterial fields' ↔ fields = fields') ∧
    ∀ (ranges : List CanonicalRange) (explicitVersions : List JsString),
      session14RangeCanonical ranges explicitVersions =
          rangeCanonical (ranges.map CanonicalRange.draft) explicitVersions ∧
        ∀ sha256Utf8 : JsString → JsString,
          session14RangeFingerprint sha256Utf8 ranges explicitVersions =
            sha256Utf8 (rangeCanonical (ranges.map CanonicalRange.draft) explicitVersions) := by
  refine ⟨fun _ _ => canonicalMaterial_inj, fun ranges explicitVersions => ?_⟩
  have heq := session14RangeCanonical_eq ranges explicitVersions
  refine ⟨heq, fun sha256Utf8 => ?_⟩
  unfold session14RangeFingerprint
  rw [heq]

/-- A value that looks like an encoded field. -/
example : canonicalMaterial [(js "a", js "1:b0:")] ≠
    canonicalMaterial [(js "a", []), (js "b", [])] := by decide

end PatchPilot.Matching.Provenance
