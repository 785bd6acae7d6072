/-
  Foundation/TextShape.lean --- texts of a fixed length with a class at every place.

  Identifiers, hashes and time stamps are texts of this kind.  What their readers rely on
  is decided class by class: a text whose classes are ASCII is ASCII, and its length is
  that of its shape.  A hash is the text of a number, in hexadecimal digits.
-/
import PatchPilot.Foundation.JsString

set_option autoImplicit false

namespace PatchPilot.Foundation

/-- A class for every place of a text. -/
abbrev TextShape := List (UInt16 → Bool)

/-- The class of one character. -/
def exactly (c : Char) (u : UInt16) : Bool := u == unit c

/-- `[ -~]`. -/
def isPrintable (u : UInt16) : Bool := 0x20 ≤ u && u ≤ 0x7E

/-- Every place of the text is in its class. -/
def hasShape : TextShape → JsString → Bool
  | [], [] => true
  | place :: shape, u :: s => place u && hasShape shape s
  | _, _ => false

theorem length_of_hasShape {shape : TextShape} :
    ∀ {s : JsString}, hasShape shape s = true → s.length = shape.length := by
  induction shape with
  | nil =>
      intro s h
      cases s with
      | nil => rfl
      | cons u s => cases h
  | cons place shape ih =>
      intro s h
      cases s with
      | nil => cases h
      | cons u s =>
          rw [hasShape, Bool.and_eq_true] at h
          rw [List.length_cons, List.length_cons, ih h.2]

/-- What every class of a shape implies holds at every place of the text. -/
theorem all_of_hasShape {p : UInt16 → Bool} {shape : TextShape}
    (hclasses : ∀ place ∈ shape, ∀ u, place u = true → p u = true) :
    ∀ {s : JsString}, hasShape shape s = true → s.all p = true := by
  induction shape with
  | nil =>
      intro s h
      cases s with
      | nil => rfl
      | cons u s => cases h
  | cons place shape ih =>
      intro s h
      cases s with
      | nil => cases h
      | cons u s =>
          rw [hasShape, Bool.and_eq_true] at h
          rw [List.all_cons, hclasses place List.mem_cons_self u h.1, Bool.true_and]
          exact ih (fun place hplace => hclasses place (List.mem_cons_of_mem _ hplace)) h.2

/-! ## Printable classes -/

theorem isPrintable_of_le {low high u : UInt16} (hlow : 0x20 ≤ low) (hhigh : high ≤ 0x7E)
    (h : (decide (low ≤ u) && decide (u ≤ high)) = true) : isPrintable u = true := by
  simp only [Bool.and_eq_true, decide_eq_true_eq] at h
  simp only [isPrintable, Bool.and_eq_true, decide_eq_true_eq]
  exact ⟨UInt16.le_trans hlow h.1, UInt16.le_trans h.2 hhigh⟩

theorem isPrintable_of_isDigit {u : UInt16} (h : isDigit u = true) : isPrintable u = true :=
  isPrintable_of_le (by decide) (by decide) h

theorem isPrintable_of_isLowerHex {u : UInt16} (h : isLowerHex u = true) :
    isPrintable u = true := by
  rcases (Bool.or_eq_true _ _).mp h with hdigit | hletter
  · exact isPrintable_of_isDigit hdigit
  · exact isPrintable_of_le (by decide) (by decide) hletter

theorem isPrintable_of_exactly {c : Char} {u : UInt16} (hc : isPrintable (unit c) = true)
    (h : exactly c u = true) : isPrintable u = true := by
  rw [eq_of_beq h]
  exact hc

/-- Printable text is ASCII. -/
theorem isAscii_of_isPrintable {s : JsString} (h : s.all isPrintable = true) :
    isAscii s = true := by
  refine List.all_eq_true.mpr fun u hu => ?_
  have hprintable := List.all_eq_true.mp h u hu
  simp only [isPrintable, Bool.and_eq_true, decide_eq_true_eq] at hprintable
  exact decide_eq_true (UInt16.le_trans hprintable.2 (by decide))

/-! ## Hexadecimal texts -/

/-- The last hexadecimal digits of a number, so many of them. -/
def hexText (width n : Nat) : JsString :=
  (List.range width).map fun place => unit (Nat.digitChar (n / 16 ^ (width - 1 - place) % 16))

theorem length_hexText (width n : Nat) : (hexText width n).length = width := by
  unfold hexText
  rw [List.length_map, List.length_range]

theorem isLowerHex_hexText (width n : Nat) : (hexText width n).all isLowerHex = true := by
  have hdigit : ∀ digit < 16, isLowerHex (unit (Nat.digitChar digit)) = true := by decide
  unfold hexText
  rw [List.all_map]
  exact List.all_eq_true.mpr fun place _ => hdigit _ (Nat.mod_lt _ (by decide))

end PatchPilot.Foundation
