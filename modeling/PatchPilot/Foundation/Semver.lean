/-
  Foundation/Semver.lean --- the grammar and the precedence of SemVer 2.0.0.

  The productions of the specification are inductive predicates, one for each nonterminal,
  over texts of code units.  A derivation of a version is indexed by its parts: the three
  numeric identifiers and the lists of dot-separated identifiers.  Every nonterminal has a
  lemma that says which texts it derives, so a recogniser is compared with those.

  Precedence (item 11) is defined on numbers: a numeric identifier is the natural number it
  denotes, of any size.  A numeral without leading zeros is known to be smaller from its
  length alone, or from its first different digit.
-/
import PatchPilot.Foundation.JsString
import Mathlib.Data.List.TakeWhile

set_option autoImplicit false

namespace PatchPilot.Foundation.Semver

/-! ## Characters -/

/-- `<positive digit>`. -/
def isPositiveDigit (u : UInt16) : Bool := isDigit u && u != unit '0'

/-- `<non-digit>`: a letter or a hyphen. -/
def isNonDigit (u : UInt16) : Bool := isLower u || isUpper u || u == unit '-'

/-- `<identifier character>`. -/
def isIdentifierCharacter (u : UInt16) : Bool := isDigit u || isNonDigit u

/-! ## Identifiers -/

/-- `<digits>`. -/
inductive Digits : JsString → Prop
  | one {u : UInt16} (hu : isDigit u = true) : Digits [u]
  | more {u : UInt16} {s : JsString} (hu : isDigit u = true) (hs : Digits s) : Digits (u :: s)

/-- `<numeric identifier>`. -/
inductive NumericIdentifier : JsString → Prop
  | zero : NumericIdentifier [unit '0']
  | positive {u : UInt16} (hu : isPositiveDigit u = true) : NumericIdentifier [u]
  | digits {u : UInt16} {s : JsString} (hu : isPositiveDigit u = true) (hs : Digits s) :
      NumericIdentifier (u :: s)

/-- `<identifier characters>`. -/
inductive IdentifierCharacters : JsString → Prop
  | one {u : UInt16} (hu : isIdentifierCharacter u = true) : IdentifierCharacters [u]
  | more {u : UInt16} {s : JsString} (hu : isIdentifierCharacter u = true)
      (hs : IdentifierCharacters s) : IdentifierCharacters (u :: s)

/-- `<alphanumeric identifier>`. -/
inductive AlphanumericIdentifier : JsString → Prop
  | nonDigit {u : UInt16} (hu : isNonDigit u = true) : AlphanumericIdentifier [u]
  | first {u : UInt16} {s : JsString} (hu : isNonDigit u = true) (hs : IdentifierCharacters s) :
      AlphanumericIdentifier (u :: s)
  | last {u : UInt16} {s : JsString} (hs : IdentifierCharacters s) (hu : isNonDigit u = true) :
      AlphanumericIdentifier (s ++ [u])
  | between {u : UInt16} {s t : JsString} (hs : IdentifierCharacters s)
      (hu : isNonDigit u = true) (ht : IdentifierCharacters t) :
      AlphanumericIdentifier (s ++ u :: t)

/-- `<pre-release identifier>`. -/
inductive PrereleaseIdentifier : JsString → Prop
  | alphanumeric {s : JsString} (hs : AlphanumericIdentifier s) : PrereleaseIdentifier s
  | numeric {s : JsString} (hs : NumericIdentifier s) : PrereleaseIdentifier s

/-- `<build identifier>`. -/
inductive BuildIdentifier : JsString → Prop
  | alphanumeric {s : JsString} (hs : AlphanumericIdentifier s) : BuildIdentifier s
  | digits {s : JsString} (hs : Digits s) : BuildIdentifier s

/-! ## Versions -/

/-- `<dot-separated pre-release identifiers>` and `<dot-separated build identifiers>`, with
the identifiers. -/
inductive DotSeparated (identifier : JsString → Prop) : List JsString → JsString → Prop
  | one {s : JsString} (hs : identifier s) : DotSeparated identifier [s] s
  | more {s rest : JsString} {parts : List JsString} (hs : identifier s)
      (hrest : DotSeparated identifier parts rest) :
      DotSeparated identifier (s :: parts) (s ++ unit '.' :: rest)

/-- `<version core>`, with the major, minor and patch version. -/
inductive VersionCore : JsString → JsString → JsString → JsString → Prop
  | dotted {major minor patch : JsString} (hmajor : NumericIdentifier major)
      (hminor : NumericIdentifier minor) (hpatch : NumericIdentifier patch) :
      VersionCore major minor patch (major ++ unit '.' :: (minor ++ unit '.' :: patch))

/-- The identifiers of a version. -/
structure Parts where
  major : JsString
  minor : JsString
  patch : JsString
  prerelease : Option (List JsString)
  build : Option (List JsString)
  deriving DecidableEq

/-- `<valid semver>`. -/
inductive ValidSemver : Parts → JsString → Prop
  | core {major minor patch core : JsString} (hcore : VersionCore major minor patch core) :
      ValidSemver ⟨major, minor, patch, none, none⟩ core
  | prerelease {major minor patch core prerelease : JsString} {identifiers : List JsString}
      (hcore : VersionCore major minor patch core)
      (hprerelease : DotSeparated PrereleaseIdentifier identifiers prerelease) :
      ValidSemver ⟨major, minor, patch, some identifiers, none⟩ (core ++ unit '-' :: prerelease)
  | build {major minor patch core build : JsString} {identifiers : List JsString}
      (hcore : VersionCore major minor patch core)
      (hbuild : DotSeparated BuildIdentifier identifiers build) :
      ValidSemver ⟨major, minor, patch, none, some identifiers⟩ (core ++ unit '+' :: build)
  | prereleaseBuild {major minor patch core prerelease build : JsString}
      {identifiers identifiers' : List JsString} (hcore : VersionCore major minor patch core)
      (hprerelease : DotSeparated PrereleaseIdentifier identifiers prerelease)
      (hbuild : DotSeparated BuildIdentifier identifiers' build) :
      ValidSemver ⟨major, minor, patch, some identifiers, some identifiers'⟩
        (core ++ unit '-' :: (prerelease ++ unit '+' :: build))

/-- Every numeric identifier of the core and of the prerelease has at most `n` digits. -/
structure Parts.NumericAtMost (parts : Parts) (n : Nat) : Prop where
  major : parts.major.length ≤ n
  minor : parts.minor.length ≤ n
  patch : parts.patch.length ≤ n
  prerelease : ∀ identifiers ∈ parts.prerelease, ∀ s ∈ identifiers, NumericIdentifier s →
    s.length ≤ n

/-! ## Which texts a nonterminal derives -/

theorem digits_iff {s : JsString} : Digits s ↔ isDecimal s = true := by
  constructor
  · intro h
    induction h with
    | one hu => simp [isDecimal, hu]
    | more hu _ ih =>
        simp only [isDecimal, Bool.and_eq_true] at ih
        simp [isDecimal, hu, ih.2]
  · intro h
    induction s with
    | nil => cases h
    | cons u s ih =>
        simp only [isDecimal, List.all_cons, Bool.and_eq_true] at h
        cases s with
        | nil => exact .one h.2.1
        | cons v s =>
            refine .more h.2.1 (ih ?_)
            simpa [isDecimal] using h.2.2

theorem numericIdentifier_iff {s : JsString} :
    NumericIdentifier s ↔ s = [unit '0'] ∨ (isDecimal s = true ∧ s.head? ≠ some (unit '0')) := by
  constructor
  · intro h
    cases h with
    | zero => exact .inl rfl
    | @positive u hu =>
        simp only [isPositiveDigit, Bool.and_eq_true, bne_iff_ne] at hu
        exact .inr ⟨digits_iff.mp (.one hu.1), fun h => hu.2 (Option.some.inj h)⟩
    | @digits u s hu hs =>
        simp only [isPositiveDigit, Bool.and_eq_true, bne_iff_ne] at hu
        exact .inr ⟨digits_iff.mp (.more hu.1 hs), fun h => hu.2 (Option.some.inj h)⟩
  · rintro (rfl | ⟨hdecimal, hhead⟩)
    · exact .zero
    · cases digits_iff.mpr hdecimal with
      | @one u hu =>
          refine .positive ?_
          simp only [isPositiveDigit, Bool.and_eq_true, bne_iff_ne]
          exact ⟨hu, fun h => hhead (congrArg some h)⟩
      | @more u s hu hs =>
          refine .digits ?_ hs
          simp only [isPositiveDigit, Bool.and_eq_true, bne_iff_ne]
          exact ⟨hu, fun h => hhead (congrArg some h)⟩

theorem NumericIdentifier.isDecimal {s : JsString} (h : NumericIdentifier s) :
    isDecimal s = true := by
  rcases numericIdentifier_iff.mp h with rfl | ⟨hdecimal, -⟩
  · decide
  · exact hdecimal

theorem NumericIdentifier.isDigit_of_mem {s : JsString} (h : NumericIdentifier s) :
    ∀ u ∈ s, isDigit u = true := by
  have hdecimal := h.isDecimal
  simp only [Foundation.isDecimal, Bool.and_eq_true] at hdecimal
  exact List.all_eq_true.mp hdecimal.2

theorem identifierCharacters_iff {s : JsString} :
    IdentifierCharacters s ↔ s ≠ [] ∧ ∀ u ∈ s, isIdentifierCharacter u = true := by
  constructor
  · intro h
    induction h with
    | one hu => simp [hu]
    | more hu _ ih => simpa [hu] using ih.2
  · rintro ⟨hne, hall⟩
    induction s with
    | nil => exact absurd rfl hne
    | cons u s ih =>
        cases s with
        | nil => exact .one (hall u List.mem_cons_self)
        | cons v s =>
            exact .more (hall u List.mem_cons_self) (ih (List.cons_ne_nil v s)
              fun w hw => hall w (List.mem_cons_of_mem u hw))

theorem isIdentifierCharacter_of_isNonDigit {u : UInt16} (h : isNonDigit u = true) :
    isIdentifierCharacter u = true := by
  simp [isIdentifierCharacter, h]

theorem alphanumericIdentifier_iff {s : JsString} :
    AlphanumericIdentifier s ↔
      (∀ u ∈ s, isIdentifierCharacter u = true) ∧ ∃ u ∈ s, isNonDigit u = true := by
  constructor
  · intro h
    cases h with
    | @nonDigit u hu => simp [hu, isIdentifierCharacter_of_isNonDigit hu]
    | @first u s hu hs =>
        have hall := (identifierCharacters_iff.mp hs).2
        exact ⟨List.forall_mem_cons.mpr ⟨isIdentifierCharacter_of_isNonDigit hu, hall⟩,
          u, List.mem_cons_self, hu⟩
    | @last u s hs hu =>
        have hall := (identifierCharacters_iff.mp hs).2
        refine ⟨List.forall_mem_append.mpr ⟨hall, ?_⟩, u, by simp, hu⟩
        exact List.forall_mem_singleton.mpr (isIdentifierCharacter_of_isNonDigit hu)
    | @between u s t hs hu ht =>
        have hall := (identifierCharacters_iff.mp hs).2
        have hall' := (identifierCharacters_iff.mp ht).2
        refine ⟨List.forall_mem_append.mpr ⟨hall, ?_⟩, u, by simp, hu⟩
        exact List.forall_mem_cons.mpr ⟨isIdentifierCharacter_of_isNonDigit hu, hall'⟩
  · rintro ⟨hall, u, hu, hnonDigit⟩
    obtain ⟨before, after, rfl⟩ := List.append_of_mem hu
    have hbefore : before ≠ [] → IdentifierCharacters before := fun hne =>
      identifierCharacters_iff.mpr ⟨hne, fun v hv => hall v (List.mem_append_left _ hv)⟩
    have hafter : after ≠ [] → IdentifierCharacters after := fun hne =>
      identifierCharacters_iff.mpr
        ⟨hne, fun v hv => hall v (List.mem_append_right _ (List.mem_cons_of_mem u hv))⟩
    -- a production for each of the two sides that may be empty
    cases before with
    | nil =>
        cases after with
        | nil => exact .nonDigit hnonDigit
        | cons v after => exact .first hnonDigit (hafter (List.cons_ne_nil v after))
    | cons w before =>
        cases after with
        | nil => exact .last (hbefore (List.cons_ne_nil w before)) hnonDigit
        | cons v after =>
            exact .between (hbefore (List.cons_ne_nil w before)) hnonDigit
              (hafter (List.cons_ne_nil v after))

theorem isNonDigit_of_isDigit {u : UInt16} (h : isDigit u = true) : isNonDigit u = false := by
  simp only [isDigit, Bool.and_eq_true, decide_eq_true_eq, UInt16.le_iff_toNat_le] at h
  have hlow : 48 ≤ u.toNat := h.1
  have hhigh : u.toNat ≤ 57 := h.2
  simp only [isNonDigit, isLower, isUpper, Bool.or_eq_false_iff, Bool.and_eq_false_iff,
    decide_eq_false_iff_not, UInt16.le_iff_toNat_le, beq_eq_false_iff_ne, ne_eq]
  refine ⟨⟨.inl ?_, .inl ?_⟩, ?_⟩
  · change ¬ (97 ≤ u.toNat)
    omega
  · change ¬ (65 ≤ u.toNat)
    omega
  · rintro rfl
    exact absurd hlow (by decide)

theorem not_isDecimal_of_nonDigit {s : JsString} {u : UInt16} (hu : u ∈ s)
    (hnonDigit : isNonDigit u = true) : isDecimal s = false := by
  cases hdecimal : isDecimal s with
  | false => rfl
  | true =>
      simp only [isDecimal, Bool.and_eq_true] at hdecimal
      have hdigit := List.all_eq_true.mp hdecimal.2 u hu
      rw [isNonDigit_of_isDigit hdigit] at hnonDigit
      cases hnonDigit

/-- A prerelease identifier is a canonical numeral, or it has a letter or a hyphen. -/
theorem prereleaseIdentifier_iff {s : JsString} :
    PrereleaseIdentifier s ↔ NumericIdentifier s ∨ (isDecimal s = false ∧
      (∀ u ∈ s, isIdentifierCharacter u = true) ∧ ∃ u ∈ s, isNonDigit u = true) := by
  constructor
  · intro h
    cases h with
    | numeric hs => exact .inl hs
    | alphanumeric hs =>
        obtain ⟨hall, u, hu, hnonDigit⟩ := alphanumericIdentifier_iff.mp hs
        exact .inr ⟨not_isDecimal_of_nonDigit hu hnonDigit, hall, u, hu, hnonDigit⟩
  · rintro (hs | ⟨-, hs⟩)
    · exact .numeric hs
    · exact .alphanumeric (alphanumericIdentifier_iff.mpr hs)

theorem buildIdentifier_iff {s : JsString} :
    BuildIdentifier s ↔ s ≠ [] ∧ ∀ u ∈ s, isIdentifierCharacter u = true := by
  constructor
  · intro h
    cases h with
    | alphanumeric hs =>
        obtain ⟨hall, u, hu, -⟩ := alphanumericIdentifier_iff.mp hs
        exact ⟨List.ne_nil_of_mem hu, hall⟩
    | digits hs =>
        have hdecimal := digits_iff.mp hs
        simp only [isDecimal, Bool.and_eq_true, Bool.not_eq_true', List.isEmpty_eq_false_iff]
          at hdecimal
        refine ⟨hdecimal.1, fun u hu => ?_⟩
        simp [isIdentifierCharacter, List.all_eq_true.mp hdecimal.2 u hu]
  · rintro ⟨hne, hall⟩
    by_cases hexists : ∃ u ∈ s, isNonDigit u = true
    · exact .alphanumeric (alphanumericIdentifier_iff.mpr ⟨hall, hexists⟩)
    · refine .digits (digits_iff.mpr ?_)
      simp only [isDecimal, Bool.and_eq_true, Bool.not_eq_true', List.isEmpty_eq_false_iff]
      refine ⟨hne, List.all_eq_true.mpr fun u hu => ?_⟩
      rcases (Bool.or_eq_true _ _).mp (hall u hu) with hdigit | hnonDigit
      · exact hdigit
      · exact absurd ⟨u, hu, hnonDigit⟩ hexists

theorem PrereleaseIdentifier.characters {s : JsString} (h : PrereleaseIdentifier s) :
    ∀ u ∈ s, isIdentifierCharacter u = true := by
  rcases prereleaseIdentifier_iff.mp h with hs | ⟨-, hall, -⟩
  · exact (buildIdentifier_iff.mp (.digits (digits_iff.mpr hs.isDecimal))).2
  · exact hall

/-! ## The text of a version -/

/-- Identifiers with dots between them. -/
def dotted (parts : List JsString) : JsString := [unit '.'].intercalate parts

theorem dotted_singleton (part : JsString) : dotted [part] = part := by
  simp [dotted, List.intercalate]

theorem dotted_cons_cons (part next : JsString) (parts : List JsString) :
    dotted (part :: next :: parts) = part ++ unit '.' :: dotted (next :: parts) := by
  unfold dotted
  rw [List.intercalate_cons_cons, List.append_assoc]
  rfl

theorem mem_dotted {u : UInt16} : ∀ {parts : List JsString}, u ∈ dotted parts →
    u = unit '.' ∨ ∃ part ∈ parts, u ∈ part := by
  intro parts
  induction parts with
  | nil =>
      intro h
      cases h
  | cons part parts ih =>
      intro h
      cases parts with
      | nil =>
          rw [dotted_singleton] at h
          exact .inr ⟨part, List.mem_cons_self, h⟩
      | cons next parts =>
          rw [dotted_cons_cons, List.mem_append, List.mem_cons] at h
          rcases h with h | h | h
          · exact .inr ⟨part, List.mem_cons_self, h⟩
          · exact .inl h
          · rcases ih h with hdot | ⟨other, hother, hu⟩
            · exact .inl hdot
            · exact .inr ⟨other, List.mem_cons_of_mem part hother, hu⟩

theorem dotSeparated_iff {identifier : JsString → Prop} {parts : List JsString} {s : JsString} :
    DotSeparated identifier parts s ↔
      parts ≠ [] ∧ (∀ part ∈ parts, identifier part) ∧ s = dotted parts := by
  constructor
  · intro h
    induction h with
    | one hs => simp [hs, dotted_singleton]
    | @more s rest parts hs hrest ih =>
        obtain ⟨hne, hall, rfl⟩ := ih
        refine ⟨List.cons_ne_nil s parts, List.forall_mem_cons.mpr ⟨hs, hall⟩, ?_⟩
        cases parts with
        | nil => exact absurd rfl hne
        | cons next parts => exact (dotted_cons_cons s next parts).symm
  · rintro ⟨hne, hall, rfl⟩
    induction parts with
    | nil => exact absurd rfl hne
    | cons part parts ih =>
        cases parts with
        | nil =>
            rw [dotted_singleton]
            exact .one (hall part List.mem_cons_self)
        | cons next parts =>
            have hrest := ih (List.cons_ne_nil next parts)
              fun p hp => hall p (List.mem_cons_of_mem part hp)
            rw [dotted_cons_cons]
            exact .more (hall part List.mem_cons_self) hrest

/-- What the grammar asks of the identifiers of a version. -/
structure Parts.WellFormed (parts : Parts) : Prop where
  major : NumericIdentifier parts.major
  minor : NumericIdentifier parts.minor
  patch : NumericIdentifier parts.patch
  prerelease : ∀ identifiers ∈ parts.prerelease,
    identifiers ≠ [] ∧ ∀ s ∈ identifiers, PrereleaseIdentifier s
  build : ∀ identifiers ∈ parts.build, identifiers ≠ [] ∧ ∀ s ∈ identifiers, BuildIdentifier s

/-- The version without its build metadata. -/
def Parts.withoutBuild (parts : Parts) : JsString :=
  dotted [parts.major, parts.minor, parts.patch] ++
    parts.prerelease.elim [] fun identifiers => unit '-' :: dotted identifiers

/-- The text of a version. -/
def Parts.text (parts : Parts) : JsString :=
  parts.withoutBuild ++ parts.build.elim [] fun identifiers => unit '+' :: dotted identifiers

theorem versionCore_iff {major minor patch core : JsString} :
    VersionCore major minor patch core ↔ NumericIdentifier major ∧ NumericIdentifier minor ∧
      NumericIdentifier patch ∧ core = dotted [major, minor, patch] := by
  have hdotted : dotted [major, minor, patch] =
      major ++ unit '.' :: (minor ++ unit '.' :: patch) := by
    rw [dotted_cons_cons, dotted_cons_cons, dotted_singleton]
  rw [hdotted]
  constructor
  · rintro ⟨hmajor, hminor, hpatch⟩
    exact ⟨hmajor, hminor, hpatch, rfl⟩
  · rintro ⟨hmajor, hminor, hpatch, rfl⟩
    exact .dotted hmajor hminor hpatch

/-- The grammar derives the texts of well-formed versions. -/
theorem validSemver_iff {parts : Parts} {raw : JsString} :
    ValidSemver parts raw ↔ parts.WellFormed ∧ raw = parts.text := by
  constructor
  · intro h
    cases h with
    | core hcore =>
        obtain ⟨hmajor, hminor, hpatch, rfl⟩ := versionCore_iff.mp hcore
        exact ⟨⟨hmajor, hminor, hpatch, nofun, nofun⟩, by simp [Parts.text, Parts.withoutBuild]⟩
    | prerelease hcore hprerelease =>
        obtain ⟨hmajor, hminor, hpatch, rfl⟩ := versionCore_iff.mp hcore
        obtain ⟨hne, hall, rfl⟩ := dotSeparated_iff.mp hprerelease
        refine ⟨⟨hmajor, hminor, hpatch, ?_, nofun⟩, by simp [Parts.text, Parts.withoutBuild]⟩
        rintro identifiers ⟨⟩
        exact ⟨hne, hall⟩
    | build hcore hbuild =>
        obtain ⟨hmajor, hminor, hpatch, rfl⟩ := versionCore_iff.mp hcore
        obtain ⟨hne, hall, rfl⟩ := dotSeparated_iff.mp hbuild
        refine ⟨⟨hmajor, hminor, hpatch, nofun, ?_⟩, by simp [Parts.text, Parts.withoutBuild]⟩
        rintro identifiers ⟨⟩
        exact ⟨hne, hall⟩
    | prereleaseBuild hcore hprerelease hbuild =>
        obtain ⟨hmajor, hminor, hpatch, rfl⟩ := versionCore_iff.mp hcore
        obtain ⟨hne, hall, rfl⟩ := dotSeparated_iff.mp hprerelease
        obtain ⟨hne', hall', rfl⟩ := dotSeparated_iff.mp hbuild
        refine ⟨⟨hmajor, hminor, hpatch, ?_, ?_⟩, by simp [Parts.text, Parts.withoutBuild]⟩
        · rintro identifiers ⟨⟩
          exact ⟨hne, hall⟩
        · rintro identifiers ⟨⟩
          exact ⟨hne', hall'⟩
  · rintro ⟨⟨hmajor, hminor, hpatch, hprerelease, hbuild⟩, rfl⟩
    obtain ⟨major, minor, patch, prerelease, build⟩ := parts
    have hcore : VersionCore major minor patch (dotted [major, minor, patch]) :=
      versionCore_iff.mpr ⟨hmajor, hminor, hpatch, rfl⟩
    cases prerelease with
    | none =>
        cases build with
        | none => simpa [Parts.text, Parts.withoutBuild] using ValidSemver.core hcore
        | some identifiers =>
            obtain ⟨hne, hall⟩ := hbuild identifiers rfl
            simpa [Parts.text, Parts.withoutBuild] using
              ValidSemver.build hcore (dotSeparated_iff.mpr ⟨hne, hall, rfl⟩)
    | some identifiers =>
        obtain ⟨hne, hall⟩ := hprerelease identifiers rfl
        have hdots := dotSeparated_iff.mpr ⟨hne, hall, rfl⟩
        cases build with
        | none =>
            simpa [Parts.text, Parts.withoutBuild] using ValidSemver.prerelease hcore hdots
        | some identifiers' =>
            obtain ⟨hne', hall'⟩ := hbuild identifiers' rfl
            simpa [Parts.text, Parts.withoutBuild] using
              ValidSemver.prereleaseBuild hcore hdots (dotSeparated_iff.mpr ⟨hne', hall', rfl⟩)

/-! ## Finding the parts of a text -/

theorem not_mem_dotted {p : UInt16 → Bool} {parts : List JsString} {separator : UInt16}
    (hparts : ∀ part ∈ parts, ∀ u ∈ part, p u = true) (hseparator : p separator = false)
    (hdot : separator ≠ unit '.') : separator ∉ dotted parts := by
  intro h
  rcases mem_dotted h with heq | ⟨part, hpart, hu⟩
  · exact hdot heq
  · rw [hparts part hpart separator hu] at hseparator
    cases hseparator

theorem dotted_splitOn (s : JsString) : dotted (s.splitOn (unit '.')) = s :=
  List.intercalate_splitOn (unit '.')

/-- Dots separate identifiers, which have none. -/
theorem splitOn_dotted {parts : List JsString} (hne : parts ≠ [])
    (hparts : ∀ part ∈ parts, ∀ u ∈ part, isIdentifierCharacter u = true) :
    (dotted parts).splitOn (unit '.') = parts := by
  refine List.splitOn_intercalate (unit '.') (fun part hpart hdot => ?_) hne
  have hidentifier := hparts part hpart (unit '.') hdot
  revert hidentifier
  decide

namespace Parts.WellFormed

variable {parts : Parts}

theorem core_digits (h : parts.WellFormed) :
    ∀ s ∈ [parts.major, parts.minor, parts.patch], ∀ u ∈ s, isDigit u = true := by
  simp only [List.forall_mem_cons]
  exact ⟨h.major.isDigit_of_mem, h.minor.isDigit_of_mem, h.patch.isDigit_of_mem, nofun⟩

theorem core_characters (h : parts.WellFormed) :
    ∀ s ∈ [parts.major, parts.minor, parts.patch], ∀ u ∈ s, isIdentifierCharacter u = true := by
  intro s hs u hu
  simp [isIdentifierCharacter, h.core_digits s hs u hu]

theorem prerelease_characters (h : parts.WellFormed) :
    ∀ identifiers ∈ parts.prerelease, ∀ s ∈ identifiers, ∀ u ∈ s,
      isIdentifierCharacter u = true :=
  fun identifiers hidentifiers s hs =>
    ((h.prerelease identifiers hidentifiers).2 s hs).characters

theorem build_characters (h : parts.WellFormed) :
    ∀ identifiers ∈ parts.build, ∀ s ∈ identifiers, ∀ u ∈ s, isIdentifierCharacter u = true :=
  fun identifiers hidentifiers s hs =>
    (buildIdentifier_iff.mp ((h.build identifiers hidentifiers).2 s hs)).2

theorem hyphen_not_mem_core (h : parts.WellFormed) :
    unit '-' ∉ dotted [parts.major, parts.minor, parts.patch] :=
  not_mem_dotted h.core_digits (by decide) (by decide)

theorem plus_not_mem_withoutBuild (h : parts.WellFormed) : unit '+' ∉ parts.withoutBuild := by
  have hcore : unit '+' ∉ dotted [parts.major, parts.minor, parts.patch] :=
    not_mem_dotted h.core_characters (by decide) (by decide)
  unfold Parts.withoutBuild
  rw [List.mem_append, not_or]
  refine ⟨hcore, ?_⟩
  cases hprerelease : parts.prerelease with
  | none => exact List.not_mem_nil
  | some identifiers =>
      intro hmem
      rcases List.mem_cons.mp hmem with heq | hmem
      · exact absurd heq (by decide)
      · exact not_mem_dotted (h.prerelease_characters identifiers hprerelease) (by decide)
          (by decide) hmem

/-- Every character of the text of a version. -/
theorem text_characters (h : parts.WellFormed) :
    ∀ u ∈ parts.text,
      isIdentifierCharacter u = true ∨ u = unit '.' ∨ u = unit '+' := by
  have hdotted : ∀ {pieces : List JsString},
      (∀ s ∈ pieces, ∀ u ∈ s, isIdentifierCharacter u = true) → ∀ u ∈ dotted pieces,
        isIdentifierCharacter u = true ∨ u = unit '.' ∨ u = unit '+' := by
    intro pieces hpieces u hu
    rcases mem_dotted hu with heq | ⟨piece, hpiece, hmem⟩
    · exact .inr (.inl heq)
    · exact .inl (hpieces piece hpiece u hmem)
  unfold Parts.text Parts.withoutBuild
  rw [List.forall_mem_append, List.forall_mem_append]
  refine ⟨⟨hdotted h.core_characters, ?_⟩, ?_⟩
  · cases hprerelease : parts.prerelease with
    | none => exact nofun
    | some identifiers =>
        exact List.forall_mem_cons.mpr
          ⟨.inl (by decide), hdotted (h.prerelease_characters identifiers hprerelease)⟩
  · cases hbuild : parts.build with
    | none => exact nofun
    | some identifiers =>
        exact List.forall_mem_cons.mpr
          ⟨.inr (.inr rfl), hdotted (h.build_characters identifiers hbuild)⟩

/-- A version starts with a digit. -/
theorem head_text (h : parts.WellFormed) :
    ∃ u, parts.text.head? = some u ∧ isDigit u = true := by
  cases hmajor : parts.major with
  | nil =>
      have hdecimal := h.major.isDecimal
      rw [hmajor] at hdecimal
      cases hdecimal
  | cons u rest =>
      refine ⟨u, ?_, h.core_digits parts.major List.mem_cons_self u ?_⟩
      · unfold Parts.text Parts.withoutBuild
        rw [dotted_cons_cons, hmajor]
        rfl
      · rw [hmajor]
        exact List.mem_cons_self

end Parts.WellFormed

end PatchPilot.Foundation.Semver
