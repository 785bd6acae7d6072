/-
  Foundation/WellFormedText.lean --- strings that their UTF-8 bytes determine.

  A string is well formed when its surrogates come in pairs.  The bytes of such a string
  are decoded to the string again, one code point at a time, so no two of them have the
  same bytes.  A lone surrogate is replaced, and is not known from the bytes.
-/
import Mathlib.Tactic.IntervalCases
import PatchPilot.Foundation.Utf8

set_option autoImplicit false

namespace PatchPilot.Foundation

/-- Half of a surrogate pair. -/
def isSurrogate (u : UInt16) : Bool := isHighSurrogate u || isLowSurrogate u

/-- `isWellFormed`: every surrogate is one of a pair. -/
def isWellFormed : JsString → Bool
  | [] => true
  | [u] => !isSurrogate u
  | u :: v :: rest =>
      if isHighSurrogate u && isLowSurrogate v then isWellFormed rest
      else !isSurrogate u && isWellFormed (v :: rest)

attribute [grind =] isWellFormed

/-! ## Steps of the decoder -/

theorem toNat_toUInt8_of_lt {n : Nat} (h : n < 256) : n.toUInt8.toNat = n :=
  Nat.mod_eq_of_lt h

/-- A byte that starts a sequence of two. -/
theorem utf8Start_two {k : Nat} (hlow : 2 ≤ k) (hhigh : k < 32) :
    utf8Start (0xC0 + k).toUInt8 = ([], some ⟨k, 1, 0x80, 0xBF⟩) := by
  interval_cases k
  all_goals rfl

/-- A byte that starts a sequence of three. -/
theorem utf8Start_three {k : Nat} (h : k < 16) :
    utf8Start (0xE0 + k).toUInt8 =
      ([], some ⟨k, 2, if k = 0 then 0xA0 else 0x80, if k = 13 then 0x9F else 0xBF⟩) := by
  interval_cases k
  all_goals rfl

/-- A byte that starts a sequence of four. -/
theorem utf8Start_four {k : Nat} (h : k < 5) :
    utf8Start (0xF0 + k).toUInt8 =
      ([], some ⟨k, 3, if k = 0 then 0x90 else 0x80, if k = 4 then 0x8F else 0xBF⟩) := by
  interval_cases k
  all_goals rfl

theorem utf8DecodeFrom_cons (pending : Option Utf8Pending) (b : UInt8) (rest : List UInt8) :
    utf8DecodeFrom pending (b :: rest) =
      (utf8Step pending b).1 ++ utf8DecodeFrom (utf8Step pending b).2 rest := by
  cases pending <;> rfl

/-- A byte that continues a sequence and does not end it. -/
theorem decode_continued {bits missing k : Nat} {lower upper : UInt8} (rest : List UInt8)
    (hk : k < 64) (hlower : lower.toNat ≤ 0x80 + k) (hupper : 0x80 + k ≤ upper.toNat)
    (hmissing : missing ≠ 0) :
    utf8DecodeFrom (some ⟨bits, missing + 1, lower, upper⟩) ((0x80 + k).toUInt8 :: rest) =
      utf8DecodeFrom (some ⟨bits * 0x40 + k, missing, 0x80, 0xBF⟩) rest := by
  have hbyte := toNat_toUInt8_of_lt (show 0x80 + k < 256 by omega)
  have hin : (decide (lower ≤ (0x80 + k).toUInt8) && decide ((0x80 + k).toUInt8 ≤ upper)) =
      true := by
    simp only [Bool.and_eq_true, decide_eq_true_eq, UInt8.le_iff_toNat_le, hbyte]
    exact ⟨hlower, hupper⟩
  have hbits : (0x80 + k).toUInt8.toNat % 0x40 = k := by omega
  rw [utf8DecodeFrom_cons]
  unfold utf8Step
  dsimp only
  rw [hin, if_pos rfl, hbits, if_neg (by omega), Nat.add_sub_cancel, List.nil_append]

/-- A byte that ends a sequence. -/
theorem decode_ended {bits k : Nat} {lower upper : UInt8} (rest : List UInt8) (hk : k < 64)
    (hlower : lower.toNat ≤ 0x80 + k) (hupper : 0x80 + k ≤ upper.toNat) :
    utf8DecodeFrom (some ⟨bits, 1, lower, upper⟩) ((0x80 + k).toUInt8 :: rest) =
      codePointUnits (bits * 0x40 + k) ++ utf8DecodeFrom none rest := by
  have hbyte := toNat_toUInt8_of_lt (show 0x80 + k < 256 by omega)
  have hin : (decide (lower ≤ (0x80 + k).toUInt8) && decide ((0x80 + k).toUInt8 ≤ upper)) =
      true := by
    simp only [Bool.and_eq_true, decide_eq_true_eq, UInt8.le_iff_toNat_le, hbyte]
    exact ⟨hlower, hupper⟩
  have hbits : (0x80 + k).toUInt8.toNat % 0x40 = k := by omega
  rw [utf8DecodeFrom_cons]
  unfold utf8Step
  dsimp only
  rw [hin, if_pos rfl, hbits, if_pos rfl]

/-! ## Code points -/

theorem surrogate_bounds {u : UInt16} :
    isSurrogate u = true ↔ 0xD800 ≤ u.toNat ∧ u.toNat ≤ 0xDFFF := by
  have hhigh : (0xD800 : UInt16).toNat = 0xD800 := rfl
  have hhigh' : (0xDBFF : UInt16).toNat = 0xDBFF := rfl
  have hlow : (0xDC00 : UInt16).toNat = 0xDC00 := rfl
  have hlow' : (0xDFFF : UInt16).toNat = 0xDFFF := rfl
  simp only [isSurrogate, isHighSurrogate, isLowSurrogate, Bool.or_eq_true, Bool.and_eq_true,
    decide_eq_true_eq, UInt16.le_iff_toNat_le, hhigh, hhigh', hlow, hlow']
  omega

/-- A code unit on its own is decoded from its bytes. -/
theorem decode_unit {u : UInt16} (h : isSurrogate u = false) (rest : List UInt8) :
    utf8DecodeFrom none (unitUtf8 u ++ rest) = u :: utf8DecodeFrom none rest := by
  have hsurrogate : ¬ (0xD800 ≤ u.toNat ∧ u.toNat ≤ 0xDFFF) := by
    rw [← surrogate_bounds, h]
    exact Bool.false_ne_true
  have hlt := u.toNat_lt
  have hback : u.toNat.toUInt16 = u := UInt16.toNat_inj.mp (Nat.mod_eq_of_lt hlt)
  have hunits : codePointUnits u.toNat = [u] := by
    unfold codePointUnits
    rw [if_pos (by omega), hback]
  have hone : u ≤ 0x7F ↔ u.toNat ≤ 0x7F := UInt16.le_iff_toNat_le
  have htwo : u ≤ 0x7FF ↔ u.toNat ≤ 0x7FF := UInt16.le_iff_toNat_le
  unfold unitUtf8
  split
  · rename_i hascii
    have hstart : utf8Start u.toUInt8 = ([u], none) := by
      have hbyte : u.toUInt8 ≤ 0x7F := by
        rw [UInt8.le_iff_toNat_le, toNat_toUInt8 hascii]
        exact hone.mp hascii
      have hunit : u.toUInt8.toUInt16 = u := by
        apply UInt16.toNat_inj.mp
        rw [UInt8.toNat_toUInt16, toNat_toUInt8 hascii]
      rw [utf8Start, if_pos hbyte, hunit]
    change utf8DecodeFrom none (u.toUInt8 :: rest) = _
    rw [utf8DecodeFrom_cons, utf8Step, hstart]
    rfl
  · rename_i hascii
    rw [hone] at hascii
    split
    · rename_i hshort
      rw [htwo] at hshort
      have hpoint : u.toNat / 0x40 * 0x40 + u.toNat / 2 ^ 0 % 0x40 = u.toNat := by omega
      change utf8DecodeFrom none ((0xC0 + u.toNat / 0x40).toUInt8 ::
        (0x80 + u.toNat / 2 ^ 0 % 0x40).toUInt8 :: rest) = _
      rw [utf8DecodeFrom_cons, utf8Step, utf8Start_two (by omega) (by omega)]
      dsimp only
      rw [List.nil_append, decode_ended rest (by omega) (Nat.le_add_right _ _)
        (show 0x80 + _ ≤ 0xBF by omega), hpoint, hunits]
      rfl
    · rename_i hlong
      rw [htwo] at hlong
      have hlone : (isHighSurrogate u || isLowSurrogate u) = false := h
      rw [hlone, if_neg Bool.false_ne_true]
      have hpoint : (u.toNat / 0x1000 * 0x40 + u.toNat / 2 ^ 6 % 0x40) * 0x40 +
          u.toNat / 2 ^ 0 % 0x40 = u.toNat := by omega
      change utf8DecodeFrom none ((0xE0 + u.toNat / 0x1000).toUInt8 ::
        (0x80 + u.toNat / 2 ^ 6 % 0x40).toUInt8 :: (0x80 + u.toNat / 2 ^ 0 % 0x40).toUInt8 ::
          rest) = _
      rw [utf8DecodeFrom_cons, utf8Step, utf8Start_three (by omega)]
      dsimp only
      -- the ranges leave out what is written in two bytes, and the surrogates
      have hlower : (if u.toNat / 0x1000 = 0 then (0xA0 : UInt8) else 0x80).toNat ≤
          0x80 + u.toNat / 2 ^ 6 % 0x40 := by
        split
        · exact (show 0xA0 ≤ _ by omega)
        · exact Nat.le_add_right _ _
      have hupper : 0x80 + u.toNat / 2 ^ 6 % 0x40 ≤
          (if u.toNat / 0x1000 = 13 then (0x9F : UInt8) else 0xBF).toNat := by
        split
        · exact (show _ ≤ 0x9F by omega)
        · exact (show _ ≤ 0xBF by omega)
      rw [List.nil_append, decode_continued _ (by omega) hlower hupper (by decide),
        decode_ended rest (by omega) (Nat.le_add_right _ _) (show 0x80 + _ ≤ 0xBF by omega),
        hpoint, hunits]
      rfl

/-- A surrogate pair is decoded from its bytes. -/
theorem decode_pair {u v : UInt16} (hu : isHighSurrogate u = true) (hv : isLowSurrogate v = true)
    (rest : List UInt8) :
    utf8DecodeFrom none (pairUtf8 u v ++ rest) = u :: v :: utf8DecodeFrom none rest := by
  simp only [isHighSurrogate, isLowSurrogate, Bool.and_eq_true, decide_eq_true_eq,
    UInt16.le_iff_toNat_le] at hu hv
  have hhigh : (0xD800 : UInt16).toNat = 0xD800 := rfl
  have hhigh' : (0xDBFF : UInt16).toNat = 0xDBFF := rfl
  have hlow : (0xDC00 : UInt16).toNat = 0xDC00 := rfl
  have hlow' : (0xDFFF : UInt16).toNat = 0xDFFF := rfl
  rw [hhigh, hhigh'] at hu
  rw [hlow, hlow'] at hv
  have hunits : codePointUnits (pairCodePoint u v) = [u, v] := by
    unfold codePointUnits pairCodePoint
    rw [if_neg (by omega)]
    have hfirst : (0xD800 + (0x10000 + (u.toNat - 0xD800) * 0x400 + (v.toNat - 0xDC00) -
        0x10000) / 0x400) = u.toNat := by omega
    have hsecond : (0xDC00 + (0x10000 + (u.toNat - 0xD800) * 0x400 + (v.toNat - 0xDC00) -
        0x10000) % 0x400) = v.toNat := by omega
    rw [hfirst, hsecond]
    refine congrArg₂ (fun a b => [a, b]) ?_ ?_
    · exact UInt16.toNat_inj.mp (Nat.mod_eq_of_lt u.toNat_lt)
    · exact UInt16.toNat_inj.mp (Nat.mod_eq_of_lt v.toNat_lt)
  have hbounds : 0x10000 ≤ pairCodePoint u v ∧ pairCodePoint u v ≤ 0x10FFFF := by
    unfold pairCodePoint
    omega
  unfold pairUtf8 continuationByte
  dsimp only
  generalize pairCodePoint u v = codePoint at hunits hbounds ⊢
  obtain ⟨hmin, hmax⟩ := hbounds
  have hpoint : ((codePoint / 0x40000 * 0x40 + codePoint / 2 ^ 12 % 0x40) * 0x40 +
      codePoint / 2 ^ 6 % 0x40) * 0x40 + codePoint / 2 ^ 0 % 0x40 = codePoint := by omega
  have hlower : (if codePoint / 0x40000 = 0 then (0x90 : UInt8) else 0x80).toNat ≤
      0x80 + codePoint / 2 ^ 12 % 0x40 := by
    split
    · exact (show 0x90 ≤ _ by omega)
    · exact Nat.le_add_right _ _
  have hupper : 0x80 + codePoint / 2 ^ 12 % 0x40 ≤
      (if codePoint / 0x40000 = 4 then (0x8F : UInt8) else 0xBF).toNat := by
    split
    · exact (show _ ≤ 0x8F by omega)
    · exact (show _ ≤ 0xBF by omega)
  rw [List.cons_append, List.cons_append, List.cons_append, List.cons_append, List.nil_append,
    utf8DecodeFrom_cons, utf8Step, utf8Start_four (by omega)]
  dsimp only
  rw [List.nil_append, decode_continued _ (by omega) hlower hupper (by decide),
    decode_continued _ (by omega) (Nat.le_add_right _ _) (show 0x80 + _ ≤ 0xBF by omega)
      (by decide),
    decode_ended rest (by omega) (Nat.le_add_right _ _) (show 0x80 + _ ≤ 0xBF by omega), hpoint,
    hunits]
  rfl

/-! ## Well-formed strings -/

/-- Decoding gives a well-formed string back. -/
theorem utf8Decode_encode_wellFormed (s : JsString) (h : isWellFormed s = true) :
    utf8Decode (utf8Encode s) = s := by
  unfold utf8Decode
  induction s using utf8Encode.induct with
  | case1 => rfl
  | case2 u =>
      rw [isWellFormed, Bool.not_eq_true'] at h
      have hunit := decode_unit h []
      rw [List.append_nil] at hunit
      exact hunit
  | case3 u v rest hpair ih =>
      rw [isWellFormed, if_pos hpair] at h
      obtain ⟨hu, hv⟩ := (Bool.and_eq_true _ _).mp hpair
      rw [utf8Encode, if_pos hpair, decode_pair hu hv, ih h]
  | case4 u v rest hpair ih =>
      rw [isWellFormed, if_neg hpair, Bool.and_eq_true, Bool.not_eq_true'] at h
      rw [utf8Encode, if_neg hpair, decode_unit h.1, ih h.2]

/-- Well-formed strings with the same bytes are equal. -/
theorem utf8Encode_inj {s t : JsString} (hs : isWellFormed s = true) (ht : isWellFormed t = true)
    (h : utf8Encode s = utf8Encode t) : s = t := by
  rw [← utf8Decode_encode_wellFormed s hs, h, utf8Decode_encode_wellFormed t ht]

theorem not_isSurrogate {u : UInt16} (h : u ≤ 0x7F) : isSurrogate u = false := by
  have hle : u.toNat ≤ 0x7F := UInt16.le_iff_toNat_le.mp h
  refine eq_false_of_ne_true fun hsurrogate => ?_
  have hbounds := surrogate_bounds.mp hsurrogate
  omega

/-- ASCII text is well formed. -/
theorem isWellFormed_of_isAscii {s : JsString} (h : isAscii s = true) : isWellFormed s = true := by
  induction s with
  | nil => rfl
  | cons u s ih =>
      obtain ⟨hu, hs⟩ := isAscii_cons.mp h
      cases s with
      | nil => rw [isWellFormed, not_isSurrogate hu, Bool.not_false]
      | cons v rest =>
          rw [isWellFormed, not_isHighSurrogate hu, Bool.false_and, if_neg Bool.false_ne_true,
            not_isSurrogate hu, ih hs]
          rfl

/-- A code unit has at most three bytes. -/
theorem length_utf8Encode_le (s : JsString) : (utf8Encode s).length ≤ 3 * s.length := by
  have hunit : ∀ u : UInt16, (unitUtf8 u).length ≤ 3 := by
    intro u
    unfold unitUtf8
    split
    · exact (by decide : 1 ≤ 3)
    split
    · exact (by decide : 2 ≤ 3)
    split
    · exact le_refl 3
    · exact le_refl 3
  induction s using utf8Encode.induct with
  | case1 => exact le_refl _
  | case2 u => exact hunit u
  | case3 u v rest hpair ih =>
      rw [utf8Encode, if_pos hpair, List.length_append, List.length_cons, List.length_cons]
      have hlength : (pairUtf8 u v).length = 4 := rfl
      omega
  | case4 u v rest hpair ih =>
      have hlength := hunit u
      rw [utf8Encode, if_neg hpair, List.length_append, List.length_cons]
      omega

/-! ## Parts of a text -/

/-- Well-formed parts make a well-formed text. -/
theorem isWellFormed_append {s t : JsString} (hs : isWellFormed s = true)
    (ht : isWellFormed t = true) : isWellFormed (s ++ t) = true := by
  induction s using isWellFormed.induct with
  | case1 => exact ht
  | case2 u =>
      rw [isWellFormed, Bool.not_eq_true'] at hs
      have hhigh : isHighSurrogate u = false := (Bool.or_eq_false_iff.mp hs).1
      cases t with
      | nil => rw [List.append_nil, isWellFormed, hs, Bool.not_false]
      | cons v rest =>
          have hstep : isWellFormed (u :: v :: rest) = true := by
            rw [isWellFormed, hhigh, Bool.false_and, if_neg Bool.false_ne_true, hs, ht]
            rfl
          exact hstep
  | case3 u v rest hpair ih =>
      rw [isWellFormed, if_pos hpair] at hs
      rw [List.cons_append, List.cons_append, isWellFormed, if_pos hpair]
      exact ih hs
  | case4 u v rest hpair ih =>
      rw [isWellFormed, if_neg hpair, Bool.and_eq_true] at hs
      rw [List.cons_append, List.cons_append, isWellFormed, if_neg hpair, hs.1, Bool.true_and,
        ← List.cons_append]
      exact ih hs.2

theorem isWellFormed_singleton {u : UInt16} (h : isSurrogate u = false) :
    isWellFormed [u] = true := by
  rw [isWellFormed, h, Bool.not_false]

theorem isWellFormed_cons {u : UInt16} {s : JsString} (hu : isSurrogate u = false)
    (hs : isWellFormed s = true) : isWellFormed (u :: s) = true :=
  isWellFormed_append (isWellFormed_singleton hu) hs

theorem isWellFormed_utf16 (c : Char) : isWellFormed (utf16 c) = true := by
  have hc := toNat_char c
  have hword : ∀ {n : Nat}, n < 65536 → n.toUInt16.toNat = n := fun h => Nat.mod_eq_of_lt h
  unfold utf16
  split
  · refine isWellFormed_singleton (Bool.eq_false_iff.mpr fun h => ?_)
    rw [surrogate_bounds, hword (by omega)] at h
    omega
  · rw [isWellFormed, if_pos, isWellFormed]
    rw [isHighSurrogate, isLowSurrogate]
    simp only [Bool.and_eq_true, decide_eq_true_eq, UInt16.le_iff_toNat_le]
    rw [hword (by omega), hword (by omega)]
    change (0xD800 ≤ _ ∧ _ ≤ 0xDBFF) ∧ 0xDC00 ≤ _ ∧ _ ≤ 0xDFFF
    omega

/-- A literal is well formed. -/
theorem isWellFormed_js (s : String) : isWellFormed (js s) = true := by
  unfold js
  induction s.toList with
  | nil => rfl
  | cons c cs ih => exact isWellFormed_append (isWellFormed_utf16 c) ih

theorem isWellFormed_intercalate {separator : JsString} (hseparator : isWellFormed separator = true)
    {parts : List JsString} (h : ∀ part ∈ parts, isWellFormed part = true) :
    isWellFormed (separator.intercalate parts) = true := by
  induction parts with
  | nil => rfl
  | cons part rest ih =>
      obtain ⟨hpart, hrest⟩ := List.forall_mem_cons.mp h
      cases rest with
      | nil =>
          rw [List.intercalate_singleton]
          exact hpart
      | cons next rest =>
          rw [List.intercalate_cons_cons]
          exact isWellFormed_append (isWellFormed_append hpart hseparator) (ih hrest)

/-- A text is encoded part by part, unless a part ends within a pair. -/
theorem utf8Encode_append {t : JsString} (ht : ∀ u ∈ t.head?, isLowSurrogate u = false)
    (s : JsString) : utf8Encode (s ++ t) = utf8Encode s ++ utf8Encode t := by
  induction s using utf8Encode.induct with
  | case1 => rfl
  | case2 u =>
      cases t with
      | nil => rw [List.append_nil, utf8Encode, List.append_nil]
      | cons v rest =>
          have hstep : utf8Encode (u :: v :: rest) = unitUtf8 u ++ utf8Encode (v :: rest) := by
            rw [utf8Encode, ht v rfl, Bool.and_false, if_neg Bool.false_ne_true]
          exact hstep
  | case3 u v rest hpair ih =>
      rw [List.cons_append, List.cons_append, utf8Encode, if_pos hpair, utf8Encode, if_pos hpair,
        ih, List.append_assoc]
  | case4 u v rest hpair ih =>
      rw [List.cons_append, List.cons_append, utf8Encode, if_neg hpair, utf8Encode, if_neg hpair,
        ← List.cons_append, ih, List.append_assoc]

/-- An ASCII code unit is one byte of the whole. -/
theorem utf8Encode_cons_ascii {u : UInt16} (h : u ≤ 0x7F) (rest : JsString) :
    utf8Encode (u :: rest) = u.toUInt8 :: utf8Encode rest := by
  cases rest with
  | nil => exact unitUtf8_ascii h
  | cons v rest =>
      rw [utf8Encode, not_isHighSurrogate h, Bool.false_and, if_neg Bool.false_ne_true,
        unitUtf8_ascii h, List.singleton_append]

/-- An ASCII part is decoded from the bytes of the whole. -/
theorem utf8Decode_encode_append {s : JsString} (h : isAscii s = true) (t : JsString) :
    utf8Decode (utf8Encode (s ++ t)) = s ++ utf8Decode (utf8Encode t) := by
  induction s with
  | nil => rfl
  | cons u rest ih =>
      obtain ⟨hu, hrest⟩ := isAscii_cons.mp h
      have hbytes : utf8Encode (u :: (rest ++ t)) = unitUtf8 u ++ utf8Encode (rest ++ t) := by
        rw [utf8Encode_cons_ascii hu, unitUtf8_ascii hu, List.singleton_append]
      rw [List.cons_append, hbytes, utf8Decode, decode_unit (not_isSurrogate hu)]
      exact congrArg (u :: ·) (ih hrest)

end PatchPilot.Foundation
