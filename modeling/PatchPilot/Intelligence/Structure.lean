import PatchPilot.Foundation.JsonTree
import PatchPilot.Foundation.TreeWalk
import PatchPilot.Intelligence.Failures

set_option autoImplicit false

/-!
# Intelligence: the structure of a parsed document (`json-structure.ts`)

`inspectJsonStructure` walks a document with a stack of frames, and refuses it when a value
is too deep, when there are too many values, when a string or a key is too long, when a key
is forbidden, or when a number is not finite.  The depth and the number of the values are
those that a recursion over the document gives.
-/

namespace PatchPilot.Intelligence

open PatchPilot.Foundation

/-! ## Frames -/

/-- `StructureFrame`.  The place stands for the identity of the value: what is read from a
document is a tree, so a value is told from every other by the way to it. -/
structure StructureFrame where
  value : JsonValue
  depth : Nat
  place : List Nat

/-- The frame that the stack starts with. -/
def rootFrame (value : JsonValue) : StructureFrame := ⟨value, 1, []⟩

/-- The frames of what is directly below a value, in the order in which they leave the
stack. -/
def childFrames (frame : StructureFrame) : List StructureFrame :=
  frame.value.children.mapIdx fun i child => ⟨child, frame.depth + 1, i :: frame.place⟩

/-- The number of values in a document. -/
def valueCount : JsonValue → Nat := JsonValue.total fun _ => 1

theorem values_childFrames (frame : StructureFrame) :
    (childFrames frame).map StructureFrame.value = frame.value.children := by
  refine List.ext_getElem ?_ fun i h h' => ?_
  · rw [List.length_map, childFrames, List.length_mapIdx]
  · rw [List.getElem_map]
    exact congrArg StructureFrame.value List.getElem_mapIdx

theorem map_childFrames {α : Type} (f : JsonValue → α) (frame : StructureFrame) :
    (childFrames frame).map (fun child => f child.value) = frame.value.children.map f := by
  rw [← values_childFrames, List.map_map]
  rfl

theorem forall_childFrames {P : JsonValue → Prop} {frame : StructureFrame} :
    (∀ child ∈ childFrames frame, P child.value) ↔ ∀ child ∈ frame.value.children, P child := by
  rw [← values_childFrames, List.forall_mem_map]

theorem depth_childFrames {frame child : StructureFrame} (h : child ∈ childFrames frame) :
    child.depth = frame.depth + 1 := by
  obtain ⟨i, hi, rfl⟩ := List.mem_mapIdx.mp h
  rfl

/-- The frames of a document as a tree. -/
def structureFrames : Branching StructureFrame where
  below := childFrames
  size frame := valueCount frame.value
  smaller frame := by
    rw [map_childFrames, valueCount, JsonValue.total_eq]
    exact Nat.lt_add_of_pos_left Nat.one_pos

theorem structureFrames_placed : structureFrames.Placed StructureFrame.place := by
  intro frame i h
  exact congrArg StructureFrame.place List.getElem_mapIdx

/-- The frames that are taken from the stack for a document. -/
def framesOf (value : JsonValue) : List StructureFrame :=
  structureFrames.preorder (rootFrame value)

/-- What holds of every value that is taken from the stack holds everywhere. -/
theorem forall_framesOf {P : JsonValue → Prop} (value : JsonValue) :
    (∀ frame ∈ framesOf value, P frame.value) ↔ value.Everywhere P :=
  structureFrames.forall_preorder (Q := fun frame => frame.value.Everywhere P)
    (fun _ => JsonValue.everywhere_iff.trans
      (and_congr_right fun _ => forall_childFrames.symm)) (rootFrame value)

/-- The values that are taken from the stack add up to the total. -/
theorem sum_framesOf (own : JsonValue → Nat) (value : JsonValue) :
    ((framesOf value).map fun frame => own frame.value).sum = value.total own :=
  structureFrames.sum_preorder _ (fun frame => frame.value.total own)
    (fun frame => by
      rw [JsonValue.total_eq]
      exact congrArg (fun rest => own frame.value + List.sum rest) (map_childFrames _ frame).symm)
    (rootFrame value)

/-- The deepest frame is as deep as the document. -/
theorem depth_framesOf (value : JsonValue) (bound : Nat) :
    (∀ frame ∈ framesOf value, frame.depth ≤ bound) ↔ value.depth ≤ bound := by
  have hdepth : ∀ frame : StructureFrame, frame.depth + frame.value.depth ≤ bound + 1 ↔
      frame.depth ≤ bound ∧
        ∀ child ∈ structureFrames.below frame, child.depth + child.value.depth ≤ bound + 1 := by
    intro frame
    constructor
    · intro h
      have hpos := frame.value.depth_pos
      obtain ⟨rest, hrest⟩ : ∃ rest, frame.depth + rest = bound := ⟨bound - frame.depth, by omega⟩
      have hbelow := JsonValue.depth_le_iff.mp (show frame.value.depth ≤ rest + 1 by omega)
      refine ⟨by omega, fun child hchild => ?_⟩
      have hchildren := forall_childFrames.mpr hbelow child hchild
      have hdeeper := depth_childFrames hchild
      omega
    · rintro ⟨hframe, hchildren⟩
      obtain ⟨rest, hrest⟩ : ∃ rest, frame.depth + rest = bound := ⟨bound - frame.depth, by omega⟩
      have hbelow : frame.value.depth ≤ rest + 1 := by
        refine JsonValue.depth_le_iff.mpr (forall_childFrames.mp fun child hchild => ?_)
        have hwithin := hchildren child hchild
        have hdeeper := depth_childFrames hchild
        omega
      omega
  rw [framesOf, structureFrames.forall_preorder hdepth]
  exact ⟨fun h => by change 1 + value.depth ≤ bound + 1 at h; omega,
    fun h => by change 1 + value.depth ≤ bound + 1; omega⟩

/-! ## The walk -/

/-- The limits that are read of `KevParserLimits`. -/
structure KevParserLimits where
  jsonMaxDepth : Nat
  jsonMaxNodes : Nat
  jsonMaxStringBytes : Nat

/-- `FORBIDDEN_OBJECT_KEYS`. -/
def forbiddenObjectKeys : List JsString :=
  [js "__proto__", js "constructor", js "prototype"]

section

variable (limits : KevParserLimits)

/-- The loop over the keys of an object. -/
def inspectKeys : List JsString → Except IntelligenceSafeFailureCode Unit
  | [] => .ok ()
  | key :: rest =>
      if key ∈ forbiddenObjectKeys then .error .prototypePollution
      else if limits.jsonMaxStringBytes < utf8ByteLength key then .error .jsonStringLength
      else inspectKeys rest

/-- What is read of a value apart from what is below it. -/
def inspectValue : JsonValue → Except IntelligenceSafeFailureCode Unit
  | .string text =>
      if limits.jsonMaxStringBytes < utf8ByteLength text then .error .jsonStringLength else .ok ()
  | .number (.finite _) => .ok ()
  | .number _ => .error .jsonSyntax
  | .null | .boolean _ | .array _ => .ok ()
  | .object entries => inspectKeys limits (entries.map Prod.fst)

/-- What is done with a frame, and with the number of nodes before it. -/
def inspectFrame (nodes : Nat) (frame : StructureFrame) : Except IntelligenceSafeFailureCode Nat :=
  if limits.jsonMaxDepth < frame.depth then .error .jsonDepth
  else if limits.jsonMaxNodes < nodes + 1 then .error .jsonNodes
  else (inspectValue limits frame.value).map fun _ => nodes + 1

/-- `inspectJsonStructure`. -/
def inspectJsonStructure (value : JsonValue) : Except IntelligenceSafeFailureCode Unit :=
  (structureFrames.walk (inspectFrame limits) [rootFrame value] 0).map fun _ => ()

/-! ## What is let through -/

/-- The string or the keys that a value has itself are allowed. -/
def TextsAllowed : JsonValue → Prop
  | .string text => utf8ByteLength text ≤ limits.jsonMaxStringBytes
  | .object entries => ∀ key ∈ entries.map Prod.fst,
      key ∉ forbiddenObjectKeys ∧ utf8ByteLength key ≤ limits.jsonMaxStringBytes
  | _ => True

/-- A value is no infinite number. -/
def FiniteNumber : JsonValue → Prop
  | .number value => ∃ q, value = .finite q
  | _ => True

/-- A document within the limits. -/
structure WithinLimits (value : JsonValue) : Prop where
  depth : value.depth ≤ limits.jsonMaxDepth
  nodes : valueCount value ≤ limits.jsonMaxNodes
  texts : value.Everywhere (TextsAllowed limits)

theorem inspectKeys_eq_ok {keys : List JsString} :
    inspectKeys limits keys = .ok () ↔
      ∀ key ∈ keys, key ∉ forbiddenObjectKeys ∧ utf8ByteLength key ≤ limits.jsonMaxStringBytes := by
  induction keys with
  | nil => exact iff_of_true rfl fun _ h => absurd h List.not_mem_nil
  | cons key rest ih =>
      rw [inspectKeys, guard_eq_ok, guard_eq_ok, ih, List.forall_mem_cons, Nat.not_lt, and_assoc]

theorem inspectValue_eq_ok {value : JsonValue} :
    inspectValue limits value = .ok () ↔ TextsAllowed limits value ∧ FiniteNumber value := by
  cases value with
  | string text =>
      rw [inspectValue, guard_eq_ok, Nat.not_lt]
      exact ⟨fun h => ⟨h.1, trivial⟩, fun h => ⟨h.1, rfl⟩⟩
  | number value =>
      cases value with
      | finite q => exact iff_of_true rfl ⟨trivial, q, rfl⟩
      | nan => exact iff_of_false nofun fun h => nomatch h.2
      | infinity negative => exact iff_of_false nofun fun h => nomatch h.2
  | object entries =>
      rw [inspectValue, inspectKeys_eq_ok]
      exact (and_iff_left trivial).symm
  | _ => exact iff_of_true rfl ⟨trivial, trivial⟩

/-- What a frame is let through for. -/
def FrameAllowed (frame : StructureFrame) : Prop :=
  frame.depth ≤ limits.jsonMaxDepth ∧ TextsAllowed limits frame.value ∧ FiniteNumber frame.value

theorem inspectFrame_eq_ok (nodes nodes' : Nat) (frame : StructureFrame) :
    inspectFrame limits nodes frame = .ok nodes' ↔
      FrameAllowed limits frame ∧ nodes + 1 ≤ limits.jsonMaxNodes ∧ nodes' = nodes + 1 := by
  rw [inspectFrame, guard_eq_ok, guard_eq_ok, map_eq_ok, Nat.not_lt, Nat.not_lt]
  constructor
  · rintro ⟨hdepth, hnodes, ⟨⟩, hvalue, rfl⟩
    exact ⟨⟨hdepth, (inspectValue_eq_ok limits).mp hvalue⟩, hnodes, rfl⟩
  · rintro ⟨⟨hdepth, hvalue⟩, hnodes, rfl⟩
    exact ⟨hdepth, hnodes, (), (inspectValue_eq_ok limits).mpr hvalue, rfl⟩

/-- A document is let through when it is within the limits and its numbers are finite. -/
theorem inspectJsonStructure_eq_ok (value : JsonValue) :
    inspectJsonStructure limits value = .ok () ↔
      WithinLimits limits value ∧ value.Everywhere FiniteNumber := by
  have hwalk : ∀ nodes,
      structureFrames.walk (inspectFrame limits) [rootFrame value] 0 = .ok nodes ↔
        (∀ frame ∈ framesOf value, FrameAllowed limits frame) ∧
          valueCount value ≤ limits.jsonMaxNodes ∧ nodes = valueCount value := by
    intro nodes
    have hcount : (framesOf value).foldl (fun count _ => count + 1) 0 = valueCount value :=
      (foldl_sum _ id (fun _ => 1) (fun _ _ => rfl) _ 0).trans
        ((Nat.zero_add _).trans (sum_framesOf (fun _ => 1) value))
    rw [Branching.walk_eq, List.flatMap_singleton, ← hcount]
    exact foldlM_eq_ok_iff _ (fun count _ => count + 1)
      (fun count => count ≤ limits.jsonMaxNodes) (fun _ _ => True) (fun _ _ _ _ => trivial)
      (fun nodes frame _ nodes' _ _ => inspectFrame_eq_ok limits nodes nodes' frame)
      (fun _ _ h => Nat.le_of_succ_le h) _ 0 nodes trivial (Nat.zero_le _)
  rw [inspectJsonStructure, map_eq_ok]
  constructor
  · rintro ⟨nodes, h, -⟩
    obtain ⟨hframes, hnodes, -⟩ := (hwalk nodes).mp h
    refine ⟨⟨?_, hnodes, ?_⟩, ?_⟩
    · exact (depth_framesOf value _).mp fun frame hframe => (hframes frame hframe).1
    · exact (forall_framesOf value).mp fun frame hframe => (hframes frame hframe).2.1
    · exact (forall_framesOf value).mp fun frame hframe => (hframes frame hframe).2.2
  · rintro ⟨⟨hdepth, hnodes, htexts⟩, hfinite⟩
    refine ⟨_, (hwalk _).mpr ⟨fun frame hframe => ⟨?_, ?_, ?_⟩, hnodes, rfl⟩, rfl⟩
    · exact (depth_framesOf value _).mpr hdepth frame hframe
    · exact (forall_framesOf value).mpr htexts frame hframe
    · exact (forall_framesOf value).mpr hfinite frame hframe

end

end PatchPilot.Intelligence
