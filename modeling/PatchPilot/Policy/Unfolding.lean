import PatchPilot.Policy.CanonicalObjects

set_option autoImplicit false

/-!
# Policy: objects as trees (`canonical-json.ts`)

The evaluator's `canonicalJson` takes a tree, the one here takes objects that refer to each
other.  They are one function: unfolding the references down to the depth limit gives a tree,
and the tree has the text that the objects have.  Objects in a cycle have no text, and neither
has their tree, because it is cut off at the limit.
-/

namespace PatchPilot.Policy.Objects

open PatchPilot.Foundation

/-! ## Unfolding -/

/-- A descriptor, with the tree of its value. -/
def Descriptor.unfolded (tree : Datum → JsValue) : Descriptor → JsProperty
  | .data enumerable value => .data enumerable (tree value)
  | .accessor enumerable => .accessor enumerable

/-- The properties of an object, with the trees of their values. -/
def unfoldedProperties (tree : Datum → JsValue) (properties : List (JsString × Descriptor)) :
    List (JsString × JsProperty) :=
  properties.map fun property => (property.1, property.2.unfolded tree)

/-- The slots of an array, with the trees of their values. -/
def unfoldedSlots (tree : Datum → JsValue) (slots : List (Option Descriptor)) :
    List (Option JsProperty) :=
  slots.map (Option.map (Descriptor.unfolded tree))

/-- The tree of a value.  Objects below the depth are cut off. -/
def unfolded (heap : Heap) : Nat → Datum → JsValue
  | _, .undefined => .undefined
  | _, .null => .null
  | _, .boolean value => .boolean value
  | _, .number value _ => .number value
  | _, .string value => .string value
  | _, .other => .other
  | 0, .reference _ => .other
  | depth + 1, .reference object =>
      match heap object with
      | .array header slots properties _ =>
          .array header (unfoldedSlots (unfolded heap depth) slots)
            (unfoldedProperties (unfolded heap depth) properties)
      | .object header properties _ =>
          .object header (unfoldedProperties (unfolded heap depth) properties)

/-! ## Plain data of a tree -/

section

variable {tree : Datum → JsValue} {header : ObjectHeader}
  {properties : List (JsString × Descriptor)}

theorem dataValue_unfolded (slot : Option Descriptor) :
    dataValue (slot.map (Descriptor.unfolded tree)) = (dataDatum slot).map tree := by
  cases slot with
  | none => rfl
  | some descriptor => cases descriptor <;> rfl

theorem plainEntry_unfolded (property : JsString × Descriptor) :
    plainEntry (property.1, property.2.unfolded tree) =
      (plainDatum property).map fun entry => (entry.1, tree entry.2) := by
  obtain ⟨name, descriptor⟩ := property
  cases descriptor with
  | data enumerable value => cases enumerable <;> rfl
  | accessor enumerable => rfl

theorem readPlainRecord_unfolded :
    Policy.readPlainRecord (.object header (unfoldedProperties tree properties)) =
      (readPlainRecord header properties).map
        (List.map fun entry => (entry.1, tree entry.2)) := by
  unfold Policy.readPlainRecord readPlainRecord unfoldedProperties
  dsimp only
  split
  · rfl
  · split
    · rfl
    · exact mapM_map_of_eq plainEntry_unfolded properties

theorem all_isIndexKey_unfolded :
    (unfoldedProperties tree properties).all (fun p => isIndexKey p.1) =
      properties.all fun p => isIndexKey p.1 := by
  rw [unfoldedProperties, List.all_map]
  rfl

/-- An array is read as elements when its tree is, and these are the trees of the elements. -/
theorem readPlainArray_unfolded {slots : List (Option Descriptor)} {maxLength : Nat}
    {trees : List JsValue} :
    Policy.readPlainArray
        (.array header (unfoldedSlots tree slots) (unfoldedProperties tree properties))
        maxLength = .elements trees ↔
      (readPlainArray header slots properties maxLength).map (List.map tree) = some trees := by
  unfold Policy.readPlainArray readPlainArray
  dsimp only
  rw [all_isIndexKey_unfolded, unfoldedSlots, List.length_map,
    mapM_map_of_eq dataValue_unfolded slots]
  by_cases hprototype : header.prototype = .arrayPrototype
  · rw [if_neg (not_not.mpr hprototype), if_neg (not_not.mpr hprototype)]
    by_cases hlength : slots.length > maxLength
    · rw [if_pos hlength, if_pos hlength]
      exact iff_of_false (by rintro ⟨⟩) (by rintro ⟨⟩)
    · rw [if_neg hlength, if_neg hlength]
      cases slots.mapM dataDatum with
      | none => exact iff_of_false (by rintro ⟨⟩) (by rintro ⟨⟩)
      | some values =>
          dsimp only [Option.map_some]
          split
          · exact iff_of_false (by rintro ⟨⟩) (by rintro ⟨⟩)
          · rw [PlainArray.elements.injEq, Option.map_some, Option.some.injEq]
  · rw [if_pos hprototype, if_pos hprototype]
    exact iff_of_false (by rintro ⟨⟩) (by rintro ⟨⟩)

/-- A name is looked up in a record of trees as it is in the record. -/
theorem get_unfolded (hundefined : tree .undefined = .undefined)
    (record : List (JsString × Datum)) (key : JsString) :
    PlainRecord.get (record.map fun entry => (entry.1, tree entry.2)) key =
      tree (get record key) := by
  unfold PlainRecord.get get
  rw [List.find?_map]
  change ((Option.map _ (record.find? fun entry => entry.1 = key)).map Prod.snd).getD _ = _
  cases record.find? fun entry => entry.1 = key with
  | none => exact hundefined.symm
  | some entry => rfl

end

theorem unfolded_undefined (heap : Heap) (depth : Nat) :
    unfolded heap depth .undefined = .undefined := by
  cases depth <;> rfl

/-! ## Cycles have no text -/

section

variable {numberText : Rat → JsString} {heap : Heap}

/-- An object whose tree has a text is inside of no cycle. -/
theorem acc_of_serialized : ∀ {depth : Nat} {object : Nat} {text : JsString},
    Policy.serialize numberText depth (unfolded heap depth (.reference object)) = some text →
      Acc (Holds heap) object := by
  intro depth
  induction depth with
  | zero =>
      intro object text h
      cases h
  | succ depth ih =>
      intro object text h
      refine ⟨_, fun inner hholds => ?_⟩
      rw [unfolded] at h
      split at h
      · rename_i header slots properties stray found
        rw [Policy.serialize] at h
        split at h
        · rename_i trees hread
          obtain ⟨values, hvalues, rfl⟩ :=
            Option.map_eq_some_iff.mp (readPlainArray_unfolded.mp hread)
          have hdense := (readPlainArray_eq_some.mp hvalues).2.2.2.2
          obtain ⟨texts, htexts, -⟩ := Option.bind_eq_some_iff.mp h
          have hinner := (holds_of_slot found hdense).mp hholds
          obtain ⟨text', htext'⟩ :=
            exists_of_mapM_eq_some htexts (List.mem_map.mpr ⟨_, hinner, rfl⟩)
          exact ih htext'
        · cases h
      · rename_i header properties distinct found
        rw [Policy.serialize, readPlainRecord_unfolded] at h
        obtain ⟨trees, htrees, h⟩ := Option.bind_eq_some_iff.mp h
        obtain ⟨record, hrecord, rfl⟩ := Option.map_eq_some_iff.mp htrees
        have hplain := (readPlainRecord_eq_some.mp hrecord).2.2
        have hnames : (record.map Prod.fst).Nodup := (names_of_plain hplain) ▸ distinct
        obtain ⟨members, hmembers, -⟩ := Option.bind_eq_some_iff.mp h
        obtain ⟨name, hentry⟩ := (holds_of_entry found hplain).mp hholds
        have hkey : name ∈ sortBy compareCodeUnits (PlainRecord.keys
            (record.map fun entry => (entry.1, unfolded heap depth entry.2))) := by
          refine (sortBy_perm compareCodeUnits _).mem_iff.mpr ?_
          rw [PlainRecord.keys, List.map_map]
          exact List.mem_map.mpr ⟨_, hentry, rfl⟩
        obtain ⟨member, hmember⟩ := exists_of_mapM_eq_some hmembers hkey
        obtain ⟨text', htext', -⟩ := Option.bind_eq_some_iff.mp hmember
        rw [get_unfolded (unfolded_undefined heap depth), get_of_mem hnames hentry] at htext'
        exact ih htext'

end

/-! ## One text -/

section

variable {numberText : Rat → JsString} {heap : Heap}

/-- The text of an array, if its items have the texts of their trees. -/
theorem toOption_array {depth object : Nat} {ancestors : List Nat} {header : ObjectHeader}
    {slots : List (Option Descriptor)} {properties : List (JsString × Descriptor)}
    {stray : ∀ property ∈ properties, isArrayIndex property.1 = false}
    (found : heap object = .array header slots properties stray)
    (fresh : object ∉ ancestors)
    (heach : ∀ value, (∀ inner, value = .reference inner → Holds heap inner object) →
      (serialize numberText heap depth (object :: ancestors) value).toOption =
        Policy.serialize numberText depth (unfolded heap depth value)) :
    (serialize numberText heap (depth + 1) ancestors (.reference object)).toOption =
      Policy.serialize numberText (depth + 1) (unfolded heap (depth + 1) (.reference object)) := by
  rw [serialize, if_neg fresh, unfolded, found]
  dsimp only
  rw [Policy.serialize]
  cases hread : readPlainArray header slots properties canonicalJsonMaxArrayLength with
  | none =>
      dsimp only
      split
      · rename_i trees htrees
        have hnone := readPlainArray_unfolded.mp htrees
        rw [hread] at hnone
        cases hnone
      · rfl
  | some values =>
      have htrees := readPlainArray_unfolded.mpr
        (congrArg (Option.map (List.map (unfolded heap depth))) hread)
      have hdense := (readPlainArray_eq_some.mp hread).2.2.2.2
      have hitems : values.mapM (fun value =>
          (serialize numberText heap depth (object :: ancestors) value).toOption) =
            (values.map (unfolded heap depth)).mapM (Policy.serialize numberText depth) := by
        rw [List.mapM_map]
        refine mapM_congr_of_mem fun value hvalue => heach value fun inner heq => ?_
        exact (holds_of_slot found hdense).mpr (heq ▸ hvalue)
      dsimp only
      rw [htrees, toOption_bind, toOption_mapM, hitems]
      rfl

/-- The text of a record, if its values have the texts of their trees. -/
theorem toOption_object {depth object : Nat} {ancestors : List Nat} {header : ObjectHeader}
    {properties : List (JsString × Descriptor)} {distinct : (properties.map Prod.fst).Nodup}
    (found : heap object = .object header properties distinct)
    (fresh : object ∉ ancestors)
    (heach : ∀ value, (∀ inner, value = .reference inner → Holds heap inner object) →
      (serialize numberText heap depth (object :: ancestors) value).toOption =
        Policy.serialize numberText depth (unfolded heap depth value)) :
    (serialize numberText heap (depth + 1) ancestors (.reference object)).toOption =
      Policy.serialize numberText (depth + 1) (unfolded heap (depth + 1) (.reference object)) := by
  rw [serialize, if_neg fresh, unfolded, found]
  dsimp only
  rw [Policy.serialize, readPlainRecord_unfolded]
  cases hread : readPlainRecord header properties with
  | none => rfl
  | some record =>
      have hplain := (readPlainRecord_eq_some.mp hread).2.2
      have hnames : (record.map Prod.fst).Nodup := (names_of_plain hplain) ▸ distinct
      have hkeys : PlainRecord.keys (record.map fun entry =>
          (entry.1, unfolded heap depth entry.2)) = record.map Prod.fst := by
        rw [PlainRecord.keys, List.map_map]
        rfl
      have hmembers : ((sortBy compareCodeUnits (record.map Prod.fst)).mapM fun key =>
          (do
            let text ← serialize numberText heap depth (object :: ancestors) (get record key)
            Except.ok (jsonString key ++ unit ':' :: text)).toOption) =
          (sortBy compareCodeUnits (record.map Prod.fst)).mapM (memberText numberText depth
            (record.map fun entry => (entry.1, unfolded heap depth entry.2))) := by
        refine mapM_congr_of_mem fun key hkey => ?_
        obtain ⟨⟨name, value⟩, hentry, rfl⟩ :=
          List.mem_map.mp ((sortBy_perm compareCodeUnits _).mem_iff.mp hkey)
        have hvalue := heach value fun inner heq =>
          (holds_of_entry found hplain).mpr ⟨name, heq ▸ hentry⟩
        rw [memberText, get_unfolded (unfolded_undefined heap depth), get_of_mem hnames hentry,
          toOption_bind, hvalue]
        rfl
      dsimp only [Option.map_some]
      rw [toOption_bind, toOption_mapM, hmembers, ← hkeys]
      rfl

/-- The text of a value is the text of its tree. -/
theorem toOption_serialize : ∀ {depth : Nat} {ancestors : List Nat} {value : Datum},
    Inside heap ancestors value →
      (serialize numberText heap depth ancestors value).toOption =
        Policy.serialize numberText depth (unfolded heap depth value) := by
  intro depth
  induction depth with
  | zero =>
      intro ancestors value hinside
      cases value with
      | number value double => cases value <;> rfl
      | _ => rfl
  | succ depth ih =>
      intro ancestors value hinside
      cases value with
      | number value double => cases value <;> rfl
      | reference object =>
          by_cases hcycle : object ∈ ancestors
          · -- The object is inside of itself, and what has a text is not.
            rw [serialize, if_pos hcycle]
            symm
            by_contra htext
            obtain ⟨text, htext⟩ := Option.ne_none_iff_exists'.mp htext
            exact not_transGen_self (acc_of_serialized htext) (hinside object hcycle object rfl)
          · have hinner : ∀ value, (∀ inner, value = .reference inner → Holds heap inner object) →
                (serialize numberText heap depth (object :: ancestors) value).toOption =
                  Policy.serialize numberText depth (unfolded heap depth value) :=
              fun value hholds => ih (hinside.cons hholds)
            cases found : heap object with
            | array header slots properties stray => exact toOption_array found hcycle hinner
            | object header properties distinct => exact toOption_object found hcycle hinner
      | _ => rfl

end

/-- The text of a value is the one that the evaluator takes of its tree. -/
theorem toOption_canonicalJson (numberText : Rat → JsString) (heap : Heap) (value : Datum) :
    (canonicalJson numberText heap value).toOption =
      Policy.canonicalJson numberText (unfolded heap canonicalJsonMaxDepth value) :=
  toOption_serialize fun _ hancestor => absurd hancestor List.not_mem_nil

end PatchPilot.Policy.Objects
