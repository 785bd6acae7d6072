/-
  Foundation/JsonTree.lean --- documents that differ in the order of their members.

  The order of the members of an object is no part of what a document says.  Documents are
  compared member by member; among the documents that say the same there is one whose
  names are in order, at every depth.
-/
import Mathlib.Data.List.Forall2
import PatchPilot.Foundation.Comparator
import PatchPilot.Foundation.JsValue

set_option autoImplicit false

namespace PatchPilot.Foundation

/-! ## Induction -/

/-- What holds of a document when it holds of what is nested in it holds of every document. -/
@[elab_as_elim]
theorem JsonValue.tree {motive : JsonValue → Prop} (null : motive .null)
    (boolean : ∀ value, motive (.boolean value)) (number : ∀ value, motive (.number value))
    (string : ∀ value, motive (.string value))
    (array : ∀ items, (∀ item ∈ items, motive item) → motive (.array items))
    (object : ∀ entries, (∀ entry ∈ entries, motive entry.2) → motive (.object entries))
    (value : JsonValue) : motive value :=
  @JsonValue.rec motive (fun items => ∀ item ∈ items, motive item)
    (fun entries => ∀ entry ∈ entries, motive entry.2) (fun entry => motive entry.2)
    null boolean number string array object
    (fun _ h => absurd h List.not_mem_nil)
    (fun _ _ hitem hrest item h => (List.mem_cons.mp h).elim (fun heq => heq ▸ hitem) (hrest item))
    (fun _ h => absurd h List.not_mem_nil)
    (fun _ _ hentry hrest entry h =>
      (List.mem_cons.mp h).elim (fun heq => heq ▸ hentry) (hrest entry))
    (fun _ _ h => h) value

/-! ## Recursion -/

namespace JsonValue

/-- The values directly below a value. -/
def children : JsonValue → List JsonValue
  | .array items => items
  | .object entries => entries.map Prod.snd
  | _ => []

section

variable {α : Type} (f : JsonValue → List α → α)

mutual

/-- What a value comes to, from the value itself and what the values below it come to. -/
def fold : JsonValue → α
  | .null => f .null []
  | .boolean value => f (.boolean value) []
  | .number value => f (.number value) []
  | .string value => f (.string value) []
  | .array items => f (.array items) (foldItems items)
  | .object entries => f (.object entries) (foldEntries entries)

/-- What the items of an array come to. -/
def foldItems : List JsonValue → List α
  | [] => []
  | item :: rest => fold item :: foldItems rest

/-- What the members of an object come to. -/
def foldEntries : List (JsString × JsonValue) → List α
  | [] => []
  | (_, value) :: rest => fold value :: foldEntries rest

end

theorem foldItems_eq (items : List JsonValue) : foldItems f items = items.map (fold f) := by
  induction items with
  | nil => rfl
  | cons item rest ih => rw [foldItems, ih, List.map_cons]

theorem foldEntries_eq (entries : JsonRecord) :
    foldEntries f entries = (entries.map Prod.snd).map (fold f) := by
  induction entries with
  | nil => rfl
  | cons entry rest ih => rw [foldEntries, ih, List.map_cons, List.map_cons]

/-- A value and what is below it. -/
theorem fold_eq (value : JsonValue) : value.fold f = f value (value.children.map (fold f)) := by
  cases value with
  | array items => rw [fold, foldItems_eq]; rfl
  | object entries => rw [fold, foldEntries_eq]; rfl
  | _ => rfl

end

/-- The depth of a value: 1 for a value with nothing below it. -/
def depth : JsonValue → Nat := fold fun _ below => below.foldr max 0 + 1

/-- What the values of a tree have in all, each `own` of it. -/
def total (own : JsonValue → Nat) : JsonValue → Nat := fold fun value below => own value + below.sum

/-- What holds of a value and of every value below it. -/
def Everywhere (P : JsonValue → Prop) : JsonValue → Prop :=
  fold fun value below => P value ∧ ∀ holds ∈ below, holds

/-- A value is within a depth when all that is below it is within one less. -/
theorem depth_le_iff {value : JsonValue} {bound : Nat} :
    value.depth ≤ bound + 1 ↔ ∀ child ∈ value.children, child.depth ≤ bound := by
  have hmax : ∀ depths : List Nat, depths.foldr max 0 ≤ bound ↔ ∀ d ∈ depths, d ≤ bound := by
    intro depths
    induction depths with
    | nil => exact iff_of_true (Nat.zero_le _) fun _ h => absurd h List.not_mem_nil
    | cons d depths ih => rw [List.foldr_cons, Nat.max_le, ih, List.forall_mem_cons]
  rw [depth, fold_eq, Nat.add_le_add_iff_right, hmax, List.forall_mem_map]

theorem depth_pos (value : JsonValue) : 0 < value.depth := by
  rw [depth, fold_eq]
  exact Nat.succ_pos _

theorem total_eq (own : JsonValue → Nat) (value : JsonValue) :
    value.total own = own value + (value.children.map (total own)).sum :=
  fold_eq _ value

theorem everywhere_iff {P : JsonValue → Prop} {value : JsonValue} :
    value.Everywhere P ↔ P value ∧ ∀ child ∈ value.children, child.Everywhere P := by
  rw [Everywhere, fold_eq, List.forall_mem_map]

end JsonValue

/-! ## The same document -/

/-- Documents that are equal up to the order of members. -/
inductive SameJson : JsonValue → JsonValue → Prop
  | null : SameJson .null .null
  | boolean (value : Bool) : SameJson (.boolean value) (.boolean value)
  | number (value : JsNumber) : SameJson (.number value) (.number value)
  | string (value : JsString) : SameJson (.string value) (.string value)
  | array {items items' : List JsonValue} (length : items.length = items'.length)
      (each : ∀ (i : Nat) (h : i < items.length) (h' : i < items'.length),
        SameJson items[i] items'[i]) : SameJson (.array items) (.array items')
  | object {entries entries' : JsonRecord}
      (names : (entries.map Prod.fst).Perm (entries'.map Prod.fst))
      (each : ∀ name value value', (name, value) ∈ entries → (name, value') ∈ entries' →
        SameJson value value') : SameJson (.object entries) (.object entries')

theorem SameJson.symm {a b : JsonValue} (h : SameJson a b) : SameJson b a := by
  induction h with
  | null => exact .null
  | boolean value => exact .boolean value
  | number value => exact .number value
  | string value => exact .string value
  | array length each ih => exact .array length.symm fun i h h' => ih i h' h
  | object names each ih =>
      exact .object names.symm fun name value value' h h' => ih name value' value h' h

/-- A name of an object has a value. -/
theorem exists_value {entries : JsonRecord} {name : JsString}
    (h : name ∈ entries.map Prod.fst) : ∃ value, (name, value) ∈ entries := by
  obtain ⟨⟨name, value⟩, hentry, rfl⟩ := List.mem_map.mp h
  exact ⟨value, hentry⟩

theorem SameJson.trans {a b : JsonValue} (h : SameJson a b) :
    ∀ {c : JsonValue}, SameJson b c → SameJson a c := by
  induction h with
  | null => exact id
  | boolean value => exact id
  | number value => exact id
  | string value => exact id
  | array length each ih =>
      intro c hbc
      cases hbc with
      | array length' each' =>
          exact .array (length.trans length') fun i h h' =>
            ih i h (length ▸ h) (each' i (length ▸ h) h')
  | object names each ih =>
      intro c hbc
      cases hbc with
      | object names' each' =>
          refine .object (names.trans names') fun name value value'' h h'' => ?_
          have hname := names.mem_iff.mp (List.mem_map.mpr ⟨_, h, rfl⟩)
          obtain ⟨value', h'⟩ := exists_value hname
          exact ih name value value' h h' (each' name value' value'' h' h'')

/-! ## Names in order -/

/-- The names of every object are in order. -/
inductive NamesSorted : JsonValue → Prop
  | null : NamesSorted .null
  | boolean (value : Bool) : NamesSorted (.boolean value)
  | number (value : JsNumber) : NamesSorted (.number value)
  | string (value : JsString) : NamesSorted (.string value)
  | array {items : List JsonValue} (each : ∀ item ∈ items, NamesSorted item) :
      NamesSorted (.array items)
  | object {entries : JsonRecord}
      (names : (entries.map Prod.fst).Pairwise fun a b => compareCodeUnits a b = .lt)
      (each : ∀ entry ∈ entries, NamesSorted entry.2) : NamesSorted (.object entries)

/-- Names in order are in one order. -/
theorem eq_of_perm_of_sorted {names names' : List JsString} (h : names.Perm names')
    (hsorted : names.Pairwise fun a b => compareCodeUnits a b = .lt)
    (hsorted' : names'.Pairwise fun a b => compareCodeUnits a b = .lt) : names = names' := by
  refine h.eq_of_pairwise ?_ hsorted hsorted'
  intro a b _ _ hab hba
  rw [@Std.OrientedCmp.eq_swap _ compareCodeUnits _ b a, hab] at hba
  cases hba

/-- Entries with the same names in the same order, and one value for a name, are the same. -/
theorem entries_eq {entries entries' : JsonRecord}
    (hnames : entries.map Prod.fst = entries'.map Prod.fst)
    (hvalues : ∀ name value value', (name, value) ∈ entries → (name, value') ∈ entries' →
      value = value') : entries = entries' := by
  induction entries generalizing entries' with
  | nil => exact (List.map_eq_nil_iff.mp hnames.symm).symm
  | cons entry entries ih =>
      cases entries' with
      | nil => cases hnames
      | cons entry' entries' =>
          obtain ⟨name, value⟩ := entry
          obtain ⟨name', value'⟩ := entry'
          rw [List.map_cons, List.map_cons] at hnames
          obtain ⟨hname, hrest⟩ := List.cons.inj hnames
          dsimp only at hname
          subst hname
          rw [hvalues name value value' List.mem_cons_self List.mem_cons_self,
            ih hrest fun name value value' h h' =>
              hvalues name value value' (List.mem_cons_of_mem _ h) (List.mem_cons_of_mem _ h')]

/-- Of the documents that say the same, one has its names in order. -/
theorem SameJson.eq_of_sorted {a b : JsonValue} (h : SameJson a b) :
    NamesSorted a → NamesSorted b → a = b := by
  induction h with
  | null => exact fun _ _ => rfl
  | boolean value => exact fun _ _ => rfl
  | number value => exact fun _ _ => rfl
  | string value => exact fun _ _ => rfl
  | array length each ih =>
      intro ha hb
      cases ha with
      | array ha =>
          cases hb with
          | array hb =>
              refine congrArg JsonValue.array (List.ext_getElem length fun i h h' => ?_)
              exact ih i h h' (ha _ (List.getElem_mem h)) (hb _ (List.getElem_mem h'))
  | object names each ih =>
      intro ha hb
      cases ha with
      | object hnames ha =>
          cases hb with
          | object hnames' hb =>
              refine congrArg JsonValue.object
                (entries_eq (eq_of_perm_of_sorted names hnames hnames') ?_)
              intro name value value' h h'
              exact ih name value value' h h' (ha _ h) (hb _ h')

/-! ## Limits -/

/-- Nesting of at most so many containers, and no array of more than so many items. -/
inductive Within (maxItems : Nat) : Nat → JsonValue → Prop
  | null (depth : Nat) : Within maxItems depth .null
  | boolean (depth : Nat) (value : Bool) : Within maxItems depth (.boolean value)
  | number (depth : Nat) (value : JsNumber) : Within maxItems depth (.number value)
  | string (depth : Nat) (value : JsString) : Within maxItems depth (.string value)
  | array {depth : Nat} {items : List JsonValue} (length : items.length ≤ maxItems)
      (each : ∀ item ∈ items, Within maxItems depth item) :
      Within maxItems (depth + 1) (.array items)
  | object {depth : Nat} {entries : JsonRecord}
      (each : ∀ entry ∈ entries, Within maxItems depth entry.2) :
      Within maxItems (depth + 1) (.object entries)

end PatchPilot.Foundation
