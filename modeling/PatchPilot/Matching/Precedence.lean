import PatchPilot.Foundation.Comparator
import PatchPilot.Foundation.SemverPrecedence
import PatchPilot.Matching.Version
import PatchPilot.Matching.VersionGrammar

set_option autoImplicit false

/-!
# Matching: precedence is a linear order (`compare.ts`)

`compareStrictSemverCores` is written as nested early returns.  This module
shows that it is one lexicographic comparator, hence a linear order on cores,
and that the result word `unknown` never occurs.

No hypothesis about the identifiers is needed for that: the comparator orders
arbitrary code-unit strings, and the classification only decides which of them
are versions.

`compareStrictSemverCores` never converts a numeral.  Classification lets only
numerals without leading zeros through, so the comparison by length and code unit
is the comparison of numbers: the result is item 11 of SemVer 2.0.0 on natural
numbers of any size.
-/

namespace PatchPilot.Matching

open PatchPilot.Foundation
open PatchPilot.Foundation.Semver

theorem compareDecimalIdentifiers_eq_lex :
    compareDecimalIdentifiers = compareLex (compareOn List.length) compareCodeUnits := by
  funext left right
  simp only [compareDecimalIdentifiers, compareLex, compareOn]
  rcases Nat.lt_trichotomy left.length right.length with h | h | h
  · simp [Nat.ne_of_lt h, h, Nat.compare_eq_lt.mpr h]
  · simp [h]
  · simp [Nat.ne_of_gt h, Nat.not_lt_of_gt h, Nat.compare_eq_gt.mpr h]

instance : Std.TransCmp compareDecimalIdentifiers := by
  rw [compareDecimalIdentifiers_eq_lex]
  infer_instance

instance : Std.LawfulEqCmp compareDecimalIdentifiers := by
  rw [compareDecimalIdentifiers_eq_lex]
  exact compareLex_lawfulEq fun _ _ _ h => Std.LawfulEqCmp.eq_of_compare h

/-- The length that decides between two numeric identifiers, and nothing for
the others. -/
def numericLength (s : JsString) : Nat := if isDecimal s then s.length else 0

theorem comparePrereleaseIdentifier_eq_lex :
    comparePrereleaseIdentifier =
      compareLex (compareOn (fun s => !isDecimal s))
        (compareLex (compareOn numericLength) compareCodeUnits) := by
  funext left right
  simp only [comparePrereleaseIdentifier, compareDecimalIdentifiers_eq_lex, compareLex,
    compareOn, numericLength]
  cases hl : isDecimal left <;> cases hr : isDecimal right <;> simp <;> rfl

instance : Std.TransCmp comparePrereleaseIdentifier := by
  rw [comparePrereleaseIdentifier_eq_lex]
  infer_instance

instance : Std.LawfulEqCmp comparePrereleaseIdentifier := by
  rw [comparePrereleaseIdentifier_eq_lex]
  exact compareLex_lawfulEq fun _ _ _ h =>
    Std.LawfulEqCmp.eq_of_compare (compareLex_eq_eq.mp h).2

theorem comparePrereleaseParts_eq_lex :
    ∀ left right : List JsString,
      comparePrereleaseParts left right =
        List.compareLex comparePrereleaseIdentifier left right := by
  intro left
  induction left with
  | nil =>
      intro right
      cases right with
      | nil => rfl
      | cons part right => rfl
  | cons leftPart left ih =>
      intro right
      cases right with
      | nil => rfl
      | cons rightPart right =>
          rw [comparePrereleaseParts, List.compareLex_cons_cons]
          cases comparePrereleaseIdentifier leftPart rightPart with
          | lt => rfl
          | eq => exact ih right
          | gt => rfl

/-- The release itself is compared as the greatest prerelease list. -/
theorem comparePrerelease_eq_lex :
    comparePrerelease =
      compareLex (compareOn Option.isNone)
        (comapCmp (List.compareLex comparePrereleaseIdentifier) (·.getD [])) := by
  funext left right
  cases left <;> cases right <;>
    simp [comparePrerelease, compareLex, compareOn, comapCmp,
      comparePrereleaseParts_eq_lex, List.compareLex_nil_nil] <;> rfl

instance : Std.TransCmp comparePrerelease := by
  rw [comparePrerelease_eq_lex]
  infer_instance

instance : Std.LawfulEqCmp comparePrerelease := by
  rw [comparePrerelease_eq_lex]
  refine compareLex_lawfulEq ?_
  intro left right hnone hparts
  have hparts : left.getD [] = right.getD [] := Std.LawfulEqCmp.eq_of_compare hparts
  have hnone : left.isNone = right.isNone := Std.LawfulEqCmp.eq_of_compare hnone
  cases left <;> cases right <;> simp_all

/-! ## The order on cores -/

/-- The lexicographic comparator behind `compareStrictSemverCores`. -/
def cmpCore : StrictSemverCore → StrictSemverCore → Ordering :=
  compareLex (comapCmp compareDecimalIdentifiers (·.major))
    (compareLex (comapCmp compareDecimalIdentifiers (·.minor))
      (compareLex (comapCmp compareDecimalIdentifiers (·.patch))
        (comapCmp comparePrerelease (·.prerelease))))

instance : Std.TransCmp cmpCore := by
  unfold cmpCore
  infer_instance

instance : Std.LawfulEqCmp cmpCore := by
  refine compareLex_lawfulEq ?_
  intro left right hmajor hrest
  obtain ⟨hminor, hrest⟩ := compareLex_eq_eq.mp hrest
  obtain ⟨hpatch, hprerelease⟩ := compareLex_eq_eq.mp hrest
  have hmajor : left.major = right.major := Std.LawfulEqCmp.eq_of_compare hmajor
  have hminor : left.minor = right.minor := Std.LawfulEqCmp.eq_of_compare hminor
  have hpatch : left.patch = right.patch := Std.LawfulEqCmp.eq_of_compare hpatch
  have hprerelease : left.prerelease = right.prerelease :=
    Std.LawfulEqCmp.eq_of_compare hprerelease
  cases left
  cases right
  simp_all

/-- SemVer precedence as a linear order. -/
instance : LinearOrder StrictSemverCore := linearOrderOfCmp cmpCore

/-- The nested early returns compute the lexicographic comparator; in
particular the result word is never `unknown`. -/
theorem compareStrictSemverCores_eq (left right : StrictSemverCore) :
    compareStrictSemverCores left right = compareResult (cmpCore left right) := by
  simp only [compareStrictSemverCores, cmpCore, compareLex, comapCmp]
  cases compareDecimalIdentifiers left.major right.major with
  | lt => rfl
  | gt => rfl
  | eq =>
      cases compareDecimalIdentifiers left.minor right.minor with
      | lt => rfl
      | gt => rfl
      | eq =>
          cases compareDecimalIdentifiers left.patch right.patch <;> rfl

/-! ## Identifiers -/

theorem compareDecimalIdentifiers_eq_compare {left right : JsString}
    (hleft : NumericIdentifier left) (hright : NumericIdentifier right) :
    compareDecimalIdentifiers left right =
      compare (decimalValue left) (decimalValue right) := by
  rw [compare_decimalValue hleft hright]
  unfold compareDecimalIdentifiers
  exact ite_not _ _ _

theorem numericIdentifier_of_isDecimal {s : JsString} (h : PrereleaseIdentifier s)
    (hdecimal : isDecimal s = true) : NumericIdentifier s := by
  rcases prereleaseIdentifier_iff.mp h with hnumeric | ⟨halphanumeric, -⟩
  · exact hnumeric
  · rw [hdecimal] at halphanumeric
    cases halphanumeric

theorem comparePrereleaseIdentifier_eq_compareIdentifier {left right : JsString}
    (hleft : PrereleaseIdentifier left) (hright : PrereleaseIdentifier right) :
    comparePrereleaseIdentifier left right =
      compareIdentifier (readIdentifier left) (readIdentifier right) := by
  unfold comparePrereleaseIdentifier readIdentifier
  cases hl : isDecimal left with
  | true =>
      cases hr : isDecimal right with
      | true =>
          exact compareDecimalIdentifiers_eq_compare (numericIdentifier_of_isDecimal hleft hl)
            (numericIdentifier_of_isDecimal hright hr)
      | false => rfl
  | false =>
      cases hr : isDecimal right with
      | true => rfl
      | false => rfl

theorem comparePrereleaseParts_eq_compareIdentifiers : ∀ {left right : List JsString},
    (∀ s ∈ left, PrereleaseIdentifier s) → (∀ s ∈ right, PrereleaseIdentifier s) →
      comparePrereleaseParts left right =
        compareIdentifiers (left.map readIdentifier) (right.map readIdentifier) := by
  intro left
  induction left with
  | nil =>
      intro right _ _
      cases right with
      | nil => rfl
      | cons s right => rfl
  | cons s left ih =>
      intro right hleft hright
      cases right with
      | nil => rfl
      | cons t right =>
          obtain ⟨hs, hleft⟩ := List.forall_mem_cons.mp hleft
          obtain ⟨ht, hright⟩ := List.forall_mem_cons.mp hright
          rw [comparePrereleaseParts, List.map_cons, List.map_cons, compareIdentifiers,
            comparePrereleaseIdentifier_eq_compareIdentifier hs ht, ih hleft hright]
          cases compareIdentifier (readIdentifier s) (readIdentifier t) with
          | lt => rfl
          | eq => rfl
          | gt => rfl

/-! ## Versions -/

/-- The core of a version, `strictSemverCore`. -/
def StrictSemver.core (version : StrictSemver) : StrictSemverCore :=
  ⟨version.major, version.minor, version.patch,
    version.prerelease.map (·.splitOn (unit '.'))⟩

/-- The numbers and identifiers that a version denotes. -/
def StrictSemver.semver (version : StrictSemver) : Semver.Version where
  major := decimalValue version.major
  minor := decimalValue version.minor
  patch := decimalValue version.patch
  prerelease := version.prerelease.map fun text => (text.splitOn (unit '.')).map readIdentifier

/-- A version that classification has found valid. -/
def StrictSemver.Classified (version : StrictSemver) : Prop :=
  ∃ raw, classifyObservedNpmVersion raw = .validStrictSemver version

/-- What comparison relies on. -/
structure ComparableCore (core : StrictSemverCore) : Prop where
  major : NumericIdentifier core.major
  minor : NumericIdentifier core.minor
  patch : NumericIdentifier core.patch
  prerelease : ∀ identifiers ∈ core.prerelease, ∀ s ∈ identifiers, PrereleaseIdentifier s

theorem StrictSemver.Classified.comparable {version : StrictSemver} (h : version.Classified) :
    ComparableCore version.core := by
  obtain ⟨raw, hraw⟩ := h
  obtain ⟨-, parts, hparts, -, rfl⟩ := exists_of_classifyObservedNpmVersion hraw
  have hwf := hparts.wellFormed
  refine ⟨hwf.major, hwf.minor, hwf.patch, fun identifiers hidentifiers => ?_⟩
  obtain ⟨text, htext, rfl⟩ := Option.map_eq_some_iff.mp hidentifiers
  obtain ⟨pieces, hpieces, rfl⟩ := Option.map_eq_some_iff.mp htext
  obtain ⟨hne, hall⟩ := hwf.prerelease pieces hpieces
  rw [splitOn_dotted hne (hwf.prerelease_characters pieces hpieces)]
  exact hall

theorem comparePrerelease_eq_comparePrereleases {left right : Option (List JsString)}
    (hleft : ∀ identifiers ∈ left, ∀ s ∈ identifiers, PrereleaseIdentifier s)
    (hright : ∀ identifiers ∈ right, ∀ s ∈ identifiers, PrereleaseIdentifier s) :
    comparePrerelease left right = comparePrereleases (left.map (·.map readIdentifier))
      (right.map (·.map readIdentifier)) := by
  cases left with
  | none =>
      cases right with
      | none => rfl
      | some identifiers => rfl
  | some identifiers =>
      cases right with
      | none => rfl
      | some identifiers' =>
          exact comparePrereleaseParts_eq_compareIdentifiers (hleft identifiers rfl)
            (hright identifiers' rfl)

/-- The comparator of cores is precedence. -/
theorem cmpCore_eq_precedence {left right : StrictSemver} (hleft : ComparableCore left.core)
    (hright : ComparableCore right.core) :
    cmpCore left.core right.core = precedence left.semver right.semver := by
  have hprerelease := comparePrerelease_eq_comparePrereleases hleft.prerelease hright.prerelease
  have hread : ∀ version : StrictSemver, version.core.prerelease.map (·.map readIdentifier) =
      version.semver.prerelease := by
    intro version
    exact Option.map_map _ _ _
  rw [hread, hread] at hprerelease
  unfold cmpCore precedence compareLex comapCmp
  dsimp only
  rw [compareDecimalIdentifiers_eq_compare hleft.major hright.major,
    compareDecimalIdentifiers_eq_compare hleft.minor hright.minor,
    compareDecimalIdentifiers_eq_compare hleft.patch hright.patch, hprerelease]
  rfl

/-! ## The order on versions -/

/-- A three-way comparison is the precedence of the versions in a domain, and with it a
total preorder whose equivalence is that of the texts without build metadata. -/
structure IsSemverOrder (domain : StrictSemver → Prop)
    (cmp : StrictSemver → StrictSemver → NpmCompareResult) : Prop where
  precedence : ∀ {left right}, domain left → domain right →
    cmp left right = compareResult (Semver.precedence left.semver right.semver)
  reflexive : ∀ {version}, domain version → cmp version version = .equal
  antisymmetric : ∀ {left right}, domain left → domain right →
    cmp left right ≠ .greaterThan → cmp right left ≠ .greaterThan → cmp left right = .equal
  transitive : ∀ {a b c}, domain a → domain b → domain c →
    cmp a b ≠ .greaterThan → cmp b c ≠ .greaterThan → cmp a c ≠ .greaterThan
  total : ∀ {left right}, domain left → domain right →
    cmp left right ≠ .greaterThan ∨ cmp right left ≠ .greaterThan
  known : ∀ {left right}, domain left → domain right → cmp left right ≠ .unknown
  equal_iff : ∀ {left right}, domain left → domain right →
    (cmp left right = .equal ↔ left.major = right.major ∧ left.minor = right.minor ∧
      left.patch = right.patch ∧ left.prerelease = right.prerelease)

theorem compareResult_eq_equal {o : Ordering} : compareResult o = .equal ↔ o = .eq := by
  cases o <;> decide

theorem compareResult_ne_greaterThan {o : Ordering} :
    compareResult o ≠ .greaterThan ↔ o.isLE = true := by
  cases o <;> decide

/-- Two versions have the same core when they differ in nothing but build metadata. -/
theorem core_eq_iff {left right : StrictSemver} :
    left.core = right.core ↔ left.major = right.major ∧ left.minor = right.minor ∧
      left.patch = right.patch ∧ left.prerelease = right.prerelease := by
  have hsplit : Function.Injective fun text : JsString => text.splitOn (unit '.') := by
    intro text text' heq
    have heq : text.splitOn (unit '.') = text'.splitOn (unit '.') := heq
    rw [← dotted_splitOn text, heq, dotted_splitOn]
  unfold StrictSemver.core
  rw [StrictSemverCore.mk.injEq, (Option.map_injective hsplit).eq_iff]

/-- The comparison of the cores of classified versions is precedence, a total preorder. -/
theorem compareStrictSemverCores_isSemverOrder :
    IsSemverOrder StrictSemver.Classified
      fun left right => compareStrictSemverCores left.core right.core where
  precedence hleft hright := by
    rw [compareStrictSemverCores_eq, cmpCore_eq_precedence hleft.comparable hright.comparable]
  reflexive {version} _ := by
    rw [compareStrictSemverCores_eq, compareResult_eq_equal]
    exact Std.ReflCmp.compare_self
  antisymmetric {left right} _ _ hle hge := by
    rw [compareStrictSemverCores_eq, compareResult_ne_greaterThan] at hle hge
    rw [compareStrictSemverCores_eq, compareResult_eq_equal]
    exact Std.LawfulEqCmp.compare_eq_iff_eq.mpr (le_antisymm hle hge)
  transitive {a b c} _ _ _ hab hbc := by
    rw [compareStrictSemverCores_eq, compareResult_ne_greaterThan] at hab hbc ⊢
    exact Std.TransCmp.isLE_trans hab hbc
  total {left right} _ _ := by
    rw [compareStrictSemverCores_eq, compareStrictSemverCores_eq,
      compareResult_ne_greaterThan, compareResult_ne_greaterThan]
    exact le_total left.core right.core
  known {left right} _ _ := by
    rw [compareStrictSemverCores_eq]
    cases cmpCore left.core right.core <;> decide
  equal_iff {left right} _ _ := by
    rw [compareStrictSemverCores_eq, compareResult_eq_equal, ← core_eq_iff]
    exact Std.LawfulEqCmp.compare_eq_iff_eq

example : (strictSemverCore (classifyObservedNpmVersion (js "1.0.0-rc.9+build"))).bind (fun left =>
    (strictSemverCore (classifyObservedNpmVersion (js "1.0.0-rc.10"))).map fun right =>
      compareStrictSemverCores left right) = some .lessThan := by
  decide +kernel

end PatchPilot.Matching
