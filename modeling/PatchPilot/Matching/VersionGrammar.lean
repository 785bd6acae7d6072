import PatchPilot.Foundation.Semver
import PatchPilot.Matching.Version

set_option autoImplicit false

/-!
# Matching: the versions that are recognised (`version.ts`)

`classifyObservedNpmVersion` screens the raw text for characters, cuts it at the first `+`
and at the first `-` and checks the parts.  No character it screens for occurs in a text of
the SemVer grammar, a core and a prerelease have no `+` and a core has no `-`, so the cuts
find the parts of the derivation: what is recognised is exactly the grammar, up to the size
of the text and of its numbers.
-/

namespace PatchPilot.Matching

open PatchPilot.Foundation
open PatchPilot.Foundation.Semver

/-! ## Cutting a text -/

theorem cutAtFirst_of_not_mem {separator : UInt16} {s : JsString} (h : separator ∉ s) :
    cutAtFirst separator s = (s, none) := by
  unfold cutAtFirst
  rw [List.idxOf?_eq_none_iff.mpr h]

theorem cutAtFirst_append {separator : UInt16} {before : JsString} (h : separator ∉ before)
    (rest : JsString) :
    cutAtFirst separator (before ++ separator :: rest) = (before, some rest) := by
  have hfound : (before ++ separator :: rest).idxOf? separator = some before.length := by
    refine List.idxOf?_eq_some_iff.mpr ⟨by simp, by simp, fun j hj => ?_⟩
    rw [List.getElem_append_left hj]
    exact fun heq => h (heq ▸ List.getElem_mem hj)
  unfold cutAtFirst
  rw [hfound]
  simp

/-- The text before the cut has no separator, and the pieces make up the text. -/
theorem cutAtFirst_spec (separator : UInt16) (s : JsString) :
    separator ∉ (cutAtFirst separator s).1 ∧
      s = (cutAtFirst separator s).1 ++
        (cutAtFirst separator s).2.elim [] fun rest => separator :: rest := by
  by_cases h : separator ∈ s
  · obtain ⟨before, rest, rfl, hbefore⟩ := List.eq_append_cons_of_mem h
    rw [cutAtFirst_append hbefore]
    exact ⟨hbefore, rfl⟩
  · rw [cutAtFirst_of_not_mem h]
    exact ⟨h, (List.append_nil s).symm⟩

/-! ## Identifiers -/

theorem classifyNumericIdentifier_cases (s : JsString) :
    (¬ NumericIdentifier s ∧ classifyNumericIdentifier s = .malformed) ∨
      (NumericIdentifier s ∧ npmVersionNumericIdentifierMaxDigits < s.length ∧
        classifyNumericIdentifier s = .overflow) ∨
      (NumericIdentifier s ∧ s.length ≤ npmVersionNumericIdentifierMaxDigits ∧
        classifyNumericIdentifier s = .valid) := by
  have hguard : (s == js "0" || (isDecimal s && s.head? != some (unit '0'))) = true ↔
      NumericIdentifier s := by
    rw [numericIdentifier_iff]
    simp only [Bool.or_eq_true, beq_iff_eq, Bool.and_eq_true, bne_iff_ne]
    rfl
  unfold classifyNumericIdentifier
  split
  · rename_i hnot
    refine .inl ⟨fun hnumeric => ?_, rfl⟩
    rw [hguard.mpr hnumeric] at hnot
    cases hnot
  · rename_i hnot
    have hnumeric := hguard.mp (Bool.not_eq_false' _ |>.mp (Bool.not_eq_true _ |>.mp hnot))
    split
    · rename_i hlong
      exact .inr (.inl ⟨hnumeric, hlong, rfl⟩)
    · rename_i hshort
      exact .inr (.inr ⟨hnumeric, Nat.le_of_not_lt hshort, rfl⟩)

theorem classifyNumericIdentifier_valid_iff {s : JsString} :
    classifyNumericIdentifier s = .valid ↔
      NumericIdentifier s ∧ s.length ≤ npmVersionNumericIdentifierMaxDigits := by
  rcases classifyNumericIdentifier_cases s with
    ⟨hnot, hclass⟩ | ⟨-, hlong, hclass⟩ | ⟨hnumeric, hshort, hclass⟩
  · exact iff_of_false (by rw [hclass]; exact nofun) fun h => hnot h.1
  · exact iff_of_false (by rw [hclass]; exact nofun) fun h => Nat.not_lt.mpr h.2 hlong
  · exact iff_of_true hclass ⟨hnumeric, hshort⟩

/-- A prerelease identifier whose number, if it is one, is not too long. -/
def AcceptedIdentifier (s : JsString) : Prop :=
  PrereleaseIdentifier s ∧
    (NumericIdentifier s → s.length ≤ npmVersionNumericIdentifierMaxDigits)

theorem not_acceptedIdentifier_nil : ¬ AcceptedIdentifier [] := by
  rintro ⟨hidentifier, -⟩
  rcases prereleaseIdentifier_iff.mp hidentifier with hnumeric | ⟨-, -, u, hu, -⟩
  · cases hnumeric
  · cases hu

/-- The loop finds a prerelease valid when it has seen no overflow and accepts the rest. -/
theorem classifyPrereleaseParts_valid_iff : ∀ (parts : List JsString) (overflow : Bool),
    classifyPrereleaseParts parts overflow = .valid ↔
      overflow = false ∧ ∀ part ∈ parts, AcceptedIdentifier part := by
  intro parts
  induction parts with
  | nil =>
      intro overflow
      cases overflow with
      | false => exact iff_of_true rfl ⟨rfl, fun _ h => absurd h List.not_mem_nil⟩
      | true => exact iff_of_false nofun fun h => nomatch h.1
  | cons part rest ih =>
      intro overflow
      rw [List.forall_mem_cons, and_left_comm, classifyPrereleaseParts]
      split
      · rename_i hempty
        rw [List.isEmpty_iff.mp hempty]
        exact iff_of_false nofun fun h => not_acceptedIdentifier_nil h.1
      · split
        · rename_i hdecimal
          rcases classifyNumericIdentifier_cases part with
            ⟨hnot, hclass⟩ | ⟨hnumeric, hlong, hclass⟩ | ⟨hnumeric, hshort, hclass⟩
          · rw [hclass]
            refine iff_of_false nofun fun h => ?_
            rcases prereleaseIdentifier_iff.mp h.1.1 with hnumeric | ⟨halphanumeric, -⟩
            · exact hnot hnumeric
            · rw [hdecimal] at halphanumeric
              cases halphanumeric
          · rw [hclass]
            refine (ih true).trans (iff_of_false (fun h => nomatch h.1) fun h => ?_)
            exact Nat.not_lt.mpr (h.1.2 hnumeric) hlong
          · rw [hclass]
            exact (ih overflow).trans
              (iff_and_self.mpr fun _ => ⟨.numeric hnumeric, fun _ => hshort⟩)
        · rename_i hdecimal
          have hplain : isDecimal part = false := Bool.not_eq_true _ |>.mp hdecimal
          have hnotNumeric : ¬ NumericIdentifier part := fun h => by
            rw [h.isDecimal] at hplain
            cases hplain
          split
          · rename_i hcharacters
            refine iff_of_false nofun fun h => ?_
            rcases prereleaseIdentifier_iff.mp h.1.1 with hnumeric | ⟨-, hall, hexists⟩
            · exact hnotNumeric hnumeric
            · have hall' : part.all isIdentifierUnit = true := List.all_eq_true.mpr hall
              have hany : part.any isAlphaOrHyphen = true := List.any_eq_true.mpr hexists
              rw [hall', hany] at hcharacters
              cases hcharacters
          · rename_i hcharacters
            simp only [Bool.or_eq_true, Bool.not_eq_true', not_or, Bool.not_eq_false]
              at hcharacters
            have hidentifier : PrereleaseIdentifier part :=
              prereleaseIdentifier_iff.mpr (.inr ⟨hplain, List.all_eq_true.mp hcharacters.1,
                List.any_eq_true.mp hcharacters.2⟩)
            exact (ih overflow).trans
              (iff_and_self.mpr fun _ => ⟨hidentifier, fun h => absurd h hnotNumeric⟩)

theorem classifyPrerelease_valid_iff {value : JsString} :
    classifyPrerelease value = .valid ↔
      ∀ part ∈ value.splitOn (unit '.'), AcceptedIdentifier part := by
  unfold classifyPrerelease
  split
  · rename_i hempty
    rw [List.isEmpty_iff.mp hempty]
    refine iff_of_false nofun fun h => not_acceptedIdentifier_nil (h [] ?_)
    exact List.mem_singleton.mpr rfl
  · rw [classifyPrereleaseParts_valid_iff]
    exact and_iff_right rfl

theorem isBuildIdentifier_iff {value : JsString} :
    isBuildIdentifier value = true ↔ BuildIdentifier value := by
  rw [buildIdentifier_iff]
  unfold isBuildIdentifier
  rw [Bool.and_eq_true, List.all_eq_true, Bool.not_eq_true', List.isEmpty_eq_false_iff]
  rfl

/-- The check of the build metadata. -/
theorem buildCheck_iff {text : JsString} :
    (text.isEmpty || (text.splitOn (unit '.')).any (!isBuildIdentifier ·)) = false ↔
      ∀ part ∈ text.splitOn (unit '.'), BuildIdentifier part := by
  rw [Bool.or_eq_false_iff, List.any_eq_false]
  simp only [Bool.not_eq_true', Bool.not_eq_false, isBuildIdentifier_iff]
  refine and_iff_right_of_imp fun h => ?_
  cases text with
  | nil =>
      have hempty := (buildIdentifier_iff.mp (h [] (List.mem_singleton.mpr rfl))).1
      exact absurd rfl hempty
  | cons u text => rfl

/-! ## The parts of a text -/

/-- `[0-9A-Za-z.+-]`. -/
def isVersionUnit (u : UInt16) : Bool :=
  isIdentifierUnit u || u == unit '.' || u == unit '+'

/-- No character of a version is screened for. -/
theorem isVersionUnit_screened {u : UInt16} (h : isVersionUnit u = true) :
    decide (u ≤ 0x7F) = true ∧ isWhiteSpace u = false ∧
      rangeExpressionUnits.contains u = false := by
  have hascii : u.toNat < 128 := by
    simp only [isVersionUnit, isIdentifierUnit, isAlphaOrHyphen, isDigit, isLower, isUpper,
      Bool.or_eq_true, Bool.and_eq_true, decide_eq_true_eq, beq_iff_eq,
      UInt16.le_iff_toNat_le] at h
    rcases h with (((hdigit | (hlower | hupper) | rfl) | rfl) | rfl)
    · exact Nat.lt_of_le_of_lt hdigit.2 (by decide)
    · exact Nat.lt_of_le_of_lt hlower.2 (by decide)
    · exact Nat.lt_of_le_of_lt hupper.2 (by decide)
    · decide
    · decide
    · decide
  have htable : ∀ n < 128, isVersionUnit n.toUInt16 = true →
      decide (n.toUInt16 ≤ 0x7F) = true ∧ isWhiteSpace n.toUInt16 = false ∧
        rangeExpressionUnits.contains n.toUInt16 = false := by
    decide
  have hu : u.toNat.toUInt16 = u := UInt16.ofNat_toNat
  have hrow := htable u.toNat hascii
  rw [hu] at hrow
  exact hrow h

/-- The first plus of a version starts its build metadata. -/
theorem cutAtFirst_text {parts : Parts} (h : parts.WellFormed) :
    cutAtFirst (unit '+') parts.text = (parts.withoutBuild, parts.build.map dotted) := by
  unfold Parts.text
  cases parts.build with
  | none =>
      rw [Option.elim_none, List.append_nil]
      exact cutAtFirst_of_not_mem h.plus_not_mem_withoutBuild
  | some identifiers => exact cutAtFirst_append h.plus_not_mem_withoutBuild (dotted identifiers)

/-- The first hyphen before that starts its prerelease. -/
theorem cutAtFirst_withoutBuild {parts : Parts} (h : parts.WellFormed) :
    cutAtFirst (unit '-') parts.withoutBuild =
      (dotted [parts.major, parts.minor, parts.patch], parts.prerelease.map dotted) := by
  unfold Parts.withoutBuild
  cases parts.prerelease with
  | none =>
      rw [Option.elim_none, List.append_nil]
      exact cutAtFirst_of_not_mem h.hyphen_not_mem_core
  | some identifiers => exact cutAtFirst_append h.hyphen_not_mem_core (dotted identifiers)

/-- The parts of a version, as the source keeps them. -/
def versionOf (parts : Parts) : StrictSemver where
  raw := parts.text
  major := parts.major
  minor := parts.minor
  patch := parts.patch
  prerelease := parts.prerelease.map dotted
  build := parts.build.map dotted

/-- A text has at most one derivation. -/
theorem eq_of_text_eq {parts parts' : Parts} (h : parts.WellFormed) (h' : parts'.WellFormed)
    (heq : parts.text = parts'.text) : parts = parts' := by
  have hbuild := cutAtFirst_text h
  rw [heq, cutAtFirst_text h'] at hbuild
  obtain ⟨hwithout, hbuild⟩ := Prod.mk.inj hbuild
  have hprerelease := cutAtFirst_withoutBuild h
  rw [← hwithout, cutAtFirst_withoutBuild h'] at hprerelease
  obtain ⟨hcore, hprerelease⟩ := Prod.mk.inj hprerelease
  have hnumbers := splitOn_dotted (List.cons_ne_nil _ _) h.core_characters
  rw [← hcore, splitOn_dotted (List.cons_ne_nil _ _) h'.core_characters] at hnumbers
  -- identifiers are the pieces of the text they make up
  have hpieces : ∀ {found found' : Option (List JsString)},
      (∀ identifiers ∈ found, identifiers ≠ [] ∧
        ∀ s ∈ identifiers, ∀ u ∈ s, isIdentifierCharacter u = true) →
      (∀ identifiers ∈ found', identifiers ≠ [] ∧
        ∀ s ∈ identifiers, ∀ u ∈ s, isIdentifierCharacter u = true) →
      found'.map dotted = found.map dotted → found = found' := by
    intro found found' hfound hfound' hmap
    cases found with
    | none =>
        cases found' with
        | none => rfl
        | some identifiers' => cases hmap
    | some identifiers =>
        cases found' with
        | none => cases hmap
        | some identifiers' =>
            obtain ⟨hne, hall⟩ := hfound identifiers rfl
            obtain ⟨hne', hall'⟩ := hfound' identifiers' rfl
            rw [← splitOn_dotted hne hall, ← splitOn_dotted hne' hall', Option.some.inj hmap]
  have hpre := hpieces
    (fun ids hids => ⟨(h.prerelease ids hids).1, h.prerelease_characters ids hids⟩)
    (fun ids hids => ⟨(h'.prerelease ids hids).1, h'.prerelease_characters ids hids⟩)
    hprerelease
  have hmeta := hpieces
    (fun ids hids => ⟨(h.build ids hids).1, h.build_characters ids hids⟩)
    (fun ids hids => ⟨(h'.build ids hids).1, h'.build_characters ids hids⟩) hbuild
  obtain ⟨major, minor, patch, prerelease, build⟩ := parts
  obtain ⟨major', minor', patch', prerelease', build'⟩ := parts'
  cases hnumbers
  cases hpre
  cases hmeta
  rfl

/-! ## What is recognised -/

/-- The versions of the grammar whose numbers are not too long. -/
structure Recognised (parts : Parts) : Prop where
  wellFormed : parts.WellFormed
  bounded : parts.NumericAtMost npmVersionNumericIdentifierMaxDigits

/-- A screened text is valid when it is the text of recognised parts. -/
theorem classifyScreenedVersion_text {parts : Parts} (h : Recognised parts) :
    classifyScreenedVersion parts.text = .validStrictSemver (versionOf parts) := by
  obtain ⟨hwf, hbounded⟩ := h
  have hcore := splitOn_dotted (List.cons_ne_nil _ _) hwf.core_characters
  have hbuild : (parts.build.map dotted).any (fun text =>
      text.isEmpty || (text.splitOn (unit '.')).any (!isBuildIdentifier ·)) = false := by
    cases hparts : parts.build with
    | none => rfl
    | some identifiers =>
        obtain ⟨hne, hall⟩ := hwf.build identifiers hparts
        refine buildCheck_iff.mpr ?_
        rw [splitOn_dotted hne (hwf.build_characters identifiers hparts)]
        exact hall
  have hmajor := classifyNumericIdentifier_valid_iff.mpr ⟨hwf.major, hbounded.major⟩
  have hminor := classifyNumericIdentifier_valid_iff.mpr ⟨hwf.minor, hbounded.minor⟩
  have hpatch := classifyNumericIdentifier_valid_iff.mpr ⟨hwf.patch, hbounded.patch⟩
  have hnumbers : [parts.major, parts.minor, parts.patch].map classifyNumericIdentifier =
      [.valid, .valid, .valid] := by
    rw [List.map_cons, List.map_cons, List.map_singleton, hmajor, hminor, hpatch]
  unfold classifyScreenedVersion
  rw [cutAtFirst_text hwf]
  dsimp only
  rw [hbuild, cutAtFirst_withoutBuild hwf]
  dsimp only
  rw [if_neg Bool.false_ne_true, hcore]
  dsimp only
  rw [hnumbers, if_neg (by decide), if_neg (by decide)]
  cases hparts : parts.prerelease with
  | none =>
      unfold versionOf
      rw [hparts]
      rfl
  | some identifiers =>
      obtain ⟨hne, hall⟩ := hwf.prerelease identifiers hparts
      have hvalid : classifyPrerelease (dotted identifiers) = .valid := by
        rw [classifyPrerelease_valid_iff,
          splitOn_dotted hne (hwf.prerelease_characters identifiers hparts)]
        exact fun s hs => ⟨hall s hs, hbounded.prerelease identifiers hparts s hs⟩
      unfold versionOf
      rw [hparts]
      dsimp only [Option.map_some]
      rw [hvalid]

/-- A screened text that is valid is the text of recognised parts. -/
theorem exists_of_classifyScreenedVersion {raw : JsString} {version : StrictSemver}
    (h : classifyScreenedVersion raw = .validStrictSemver version) :
    ∃ parts, Recognised parts ∧ raw = parts.text ∧ version = versionOf parts := by
  obtain ⟨-, hraw⟩ := cutAtFirst_spec (unit '+') raw
  unfold classifyScreenedVersion at h
  generalize cutAtFirst (unit '+') raw = cut at h hraw
  obtain ⟨withoutBuild, buildText⟩ := cut
  dsimp only at h hraw
  split at h
  · cases h
  rename_i hbuild
  obtain ⟨-, hwithout⟩ := cutAtFirst_spec (unit '-') withoutBuild
  generalize cutAtFirst (unit '-') withoutBuild = cut at h hwithout
  obtain ⟨core, prerelease⟩ := cut
  dsimp only at h hwithout
  split at h
  rotate_left
  · cases h
  rename_i major minor patch hcore
  split at h
  · cases h
  rename_i hmalformed
  split at h
  · cases h
  rename_i hoverflow
  have hnumeric : ∀ s ∈ [major, minor, patch],
      NumericIdentifier s ∧ s.length ≤ npmVersionNumericIdentifierMaxDigits := by
    intro s hs
    rw [← classifyNumericIdentifier_valid_iff]
    have hmem := List.mem_map_of_mem (f := classifyNumericIdentifier) hs
    cases hclass : classifyNumericIdentifier s with
    | valid => rfl
    | malformed =>
        rw [hclass] at hmem
        exact absurd (List.any_eq_true.mpr ⟨_, hmem, rfl⟩) hmalformed
    | overflow =>
        rw [hclass] at hmem
        exact absurd (List.any_eq_true.mpr ⟨_, hmem, rfl⟩) hoverflow
  have hprerelease : ∀ text ∈ prerelease,
      ∀ part ∈ text.splitOn (unit '.'), AcceptedIdentifier part := by
    rintro text ⟨⟩
    rw [← classifyPrerelease_valid_iff]
    rw [Option.map_some] at h
    cases hclass : classifyPrerelease text with
    | valid => rfl
    | malformed =>
        rw [hclass] at h
        cases h
    | overflow =>
        rw [hclass] at h
        cases h
  have hversion : version = ⟨raw, major, minor, patch, prerelease, buildText⟩ := by
    split at h
    · cases h
    · cases h
    · exact (ObservedVersionClassification.validStrictSemver.inj h).symm
  have hbuildParts : ∀ text ∈ buildText, ∀ part ∈ text.splitOn (unit '.'),
      BuildIdentifier part := by
    rintro text ⟨⟩
    exact buildCheck_iff.mp (Bool.not_eq_true _ |>.mp hbuild)
  -- identifiers that are cut out of a text make it up again
  have hjoined : ∀ found : Option JsString,
      (found.map fun text : JsString => text.splitOn (unit '.')).map dotted = found := by
    intro found
    rw [Option.map_map]
    exact (Option.map_congr fun text _ => dotted_splitOn text).trans Option.map_id'
  have helim : ∀ (separator : UInt16) (found : Option JsString),
      ((found.map fun text : JsString => text.splitOn (unit '.')).elim []
        fun identifiers => separator :: dotted identifiers) =
          found.elim [] fun rest => separator :: rest := by
    intro separator found
    cases found with
    | none => rfl
    | some text => exact congrArg (separator :: ·) (dotted_splitOn text)
  have htext : raw = Parts.text ⟨major, minor, patch, prerelease.map (·.splitOn (unit '.')),
      buildText.map (·.splitOn (unit '.'))⟩ := by
    unfold Parts.text Parts.withoutBuild
    dsimp only
    rw [helim, helim, ← hcore, dotted_splitOn, ← hwithout, ← hraw]
  refine ⟨⟨major, minor, patch, prerelease.map (·.splitOn (unit '.')),
    buildText.map (·.splitOn (unit '.'))⟩, ⟨⟨?_, ?_, ?_, ?_, ?_⟩, ⟨?_, ?_, ?_, ?_⟩⟩, htext, ?_⟩
  · exact (hnumeric major (by simp)).1
  · exact (hnumeric minor (by simp)).1
  · exact (hnumeric patch (by simp)).1
  · intro identifiers hidentifiers
    obtain ⟨text, htext, rfl⟩ := Option.map_eq_some_iff.mp hidentifiers
    exact ⟨List.splitOn_ne_nil _ _, fun s hs => (hprerelease text htext s hs).1⟩
  · intro identifiers hidentifiers
    obtain ⟨text, htext, rfl⟩ := Option.map_eq_some_iff.mp hidentifiers
    exact ⟨List.splitOn_ne_nil _ _, hbuildParts text htext⟩
  · exact (hnumeric major (by simp)).2
  · exact (hnumeric minor (by simp)).2
  · exact (hnumeric patch (by simp)).2
  · intro identifiers hidentifiers
    obtain ⟨text, htext, rfl⟩ := Option.map_eq_some_iff.mp hidentifiers
    exact fun s hs => (hprerelease text htext s hs).2
  · unfold versionOf
    rw [hversion, ← htext]
    dsimp only
    rw [hjoined, hjoined]

/-- A version is written with identifier characters, dots and a plus. -/
theorem isVersionUnit_of_mem_text {parts : Parts} (h : parts.WellFormed) :
    ∀ u ∈ parts.text, isVersionUnit u = true := by
  intro u hu
  unfold isVersionUnit
  rcases h.text_characters u hu with hidentifier | rfl | rfl
  · rw [Bool.or_eq_true, Bool.or_eq_true]
    exact .inl (.inl hidentifier)
  · decide
  · decide

/-- The screening lets every version of the grammar through. -/
theorem classifyObservedNpmVersion_text {parts : Parts} (h : parts.WellFormed)
    (hsize : utf8ByteLength parts.text ≤ npmRawVersionMaxUtf8Bytes) :
    classifyObservedNpmVersion parts.text = classifyScreenedVersion parts.text := by
  obtain ⟨first, hhead, hdigit⟩ := h.head_text
  have hscreened : ∀ u ∈ parts.text, decide (u ≤ 0x7F) = true ∧ isWhiteSpace u = false ∧
      rangeExpressionUnits.contains u = false :=
    fun u hu => isVersionUnit_screened (isVersionUnit_of_mem_text h u hu)
  have hascii : isAscii parts.text = true :=
    List.all_eq_true.mpr fun u hu => (hscreened u hu).1
  have hspace : parts.text.any isWhiteSpace = false :=
    List.any_eq_false.mpr fun u hu => by rw [(hscreened u hu).2.1]; exact Bool.false_ne_true
  have hrange : parts.text.any (rangeExpressionUnits.contains ·) = false :=
    List.any_eq_false.mpr fun u hu => by rw [(hscreened u hu).2.2]; exact Bool.false_ne_true
  have htrim : trim parts.text = parts.text := by
    have hkept : ∀ {s : JsString}, (∀ u ∈ s, isWhiteSpace u = false) →
        s.dropWhile isWhiteSpace = s := by
      intro s hs
      refine List.dropWhile_eq_self_iff.mpr fun hlength => ?_
      rw [hs _ (List.getElem_mem hlength)]
      exact Bool.false_ne_true
    unfold trim
    rw [hkept fun u hu => (hscreened u hu).2.1,
      hkept fun u hu => (hscreened u (List.mem_reverse.mp hu)).2.1, List.reverse_reverse]
  have hempty : parts.text.isEmpty = false := by
    rw [List.isEmpty_eq_false_iff]
    intro hnil
    rw [hnil] at hhead
    cases hhead
  have hv : (parts.text.head? == some (unit 'v') || parts.text.head? == some (unit 'V')) =
      false := by
    rw [hhead, Bool.or_eq_false_iff, beq_eq_false_iff_ne, beq_eq_false_iff_ne]
    refine ⟨fun heq => ?_, fun heq => ?_⟩
    · rw [Option.some.inj heq] at hdigit
      exact absurd hdigit (by decide)
    · rw [Option.some.inj heq] at hdigit
      exact absurd hdigit (by decide)
  have hmalformed : (!isAscii parts.text || parts.text != trim parts.text ||
      parts.text.any isWhiteSpace) = false := by
    rw [hascii, htrim, hspace, bne_self_eq_false]
    rfl
  unfold classifyObservedNpmVersion
  rw [hempty, if_neg Bool.false_ne_true, if_neg (Nat.not_lt.mpr hsize), hmalformed,
    if_neg Bool.false_ne_true, hv, if_neg Bool.false_ne_true, hrange, if_neg Bool.false_ne_true]

/-- A valid version is the text of recognised parts, within the bound. -/
theorem exists_of_classifyObservedNpmVersion {raw : JsString} {version : StrictSemver}
    (h : classifyObservedNpmVersion raw = .validStrictSemver version) :
    utf8ByteLength raw ≤ npmRawVersionMaxUtf8Bytes ∧
      ∃ parts, Recognised parts ∧ raw = parts.text ∧ version = versionOf parts := by
  unfold classifyObservedNpmVersion at h
  split at h
  · cases h
  split at h
  · cases h
  rename_i hsize
  split at h
  · cases h
  split at h
  · cases h
  split at h
  · cases h
  exact ⟨Nat.not_lt.mp hsize, exists_of_classifyScreenedVersion h⟩

/-- The text that the parts of a version make up. -/
def StrictSemver.text (version : StrictSemver) : JsString :=
  version.major ++ js "." ++ version.minor ++ js "." ++ version.patch ++
    (version.prerelease.elim [] fun prerelease => js "-" ++ prerelease) ++
      (version.build.elim [] fun build => js "+" ++ build)

theorem text_versionOf (parts : Parts) : (versionOf parts).text = parts.text := by
  obtain ⟨major, minor, patch, prerelease, build⟩ := parts
  have hcore : major ++ js "." ++ minor ++ js "." ++ patch = dotted [major, minor, patch] := by
    rw [dotted_cons_cons, dotted_cons_cons, dotted_singleton]
    simp only [List.append_assoc]
    rfl
  unfold StrictSemver.text versionOf
  dsimp only
  rw [hcore]
  cases prerelease with
  | none =>
      cases build with
      | none => rfl
      | some build => rfl
  | some prerelease =>
      cases build with
      | none => rfl
      | some build => rfl

/-- The recogniser accepts the grammar of SemVer 2.0.0, up to 256 bytes and numbers of 20
digits, and it loses nothing of the text. -/
theorem classifyObservedNpmVersion_valid_iff (raw : JsString) :
    ((classifyObservedNpmVersion raw).classification = .validStrictSemver ↔
        utf8ByteLength raw ≤ 256 ∧ (∃ parts, ValidSemver parts raw) ∧
          ∀ parts, ValidSemver parts raw → parts.NumericAtMost 20) ∧
      ∀ version, classifyObservedNpmVersion raw = .validStrictSemver version →
        version.text = raw := by
  refine ⟨⟨fun h => ?_, ?_⟩, fun version h => ?_⟩
  · have hvalid : ∃ version, classifyObservedNpmVersion raw = .validStrictSemver version := by
      cases hclass : classifyObservedNpmVersion raw with
      | validStrictSemver version => exact ⟨version, rfl⟩
      | absent _ | malformed _ | unsupported _ | capacityExceeded _ =>
          rw [hclass] at h
          cases h
    obtain ⟨version, hversion⟩ := hvalid
    obtain ⟨hsize, parts, hparts, rfl, -⟩ := exists_of_classifyObservedNpmVersion hversion
    refine ⟨hsize, ⟨parts, validSemver_iff.mpr ⟨hparts.wellFormed, rfl⟩⟩, fun other hother => ?_⟩
    obtain ⟨hwf, htext⟩ := validSemver_iff.mp hother
    rw [← eq_of_text_eq hparts.wellFormed hwf htext]
    exact hparts.bounded
  · rintro ⟨hsize, ⟨parts, hderives⟩, hbounded⟩
    obtain ⟨hwf, rfl⟩ := validSemver_iff.mp hderives
    rw [classifyObservedNpmVersion_text hwf hsize,
      classifyScreenedVersion_text ⟨hwf, hbounded parts hderives⟩]
    rfl
  · obtain ⟨-, parts, -, rfl, rfl⟩ := exists_of_classifyObservedNpmVersion h
    exact text_versionOf parts

end PatchPilot.Matching
