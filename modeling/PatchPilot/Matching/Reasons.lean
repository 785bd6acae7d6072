import PatchPilot.Matching.Affectedness

set_option autoImplicit false

/-!
# Matching: the reasons a range contributes

A well-formed range contributes very few explanation codes.  At most one of its
intervals contains the version, so an including range names how that interval
ends and, when it starts at the version, the boundary; an excluding range names
one reason only.  What is left to chance is whether *two* ranges contribute the
same code, and this module says when they do.
-/

namespace PatchPilot.Matching

open PatchPilot.Foundation

/-! ## One range -/

/-- The range ends at a last affected version. -/
def closesInclusively (range : AdvisoryRangeDraft) : Bool :=
  (rangeMarks range).any (fun m => m.kind = .lastAffected)

/-- The range has an introduction of the precedence of `v`. -/
def startsAt (v : StrictSemverCore) (range : AdvisoryRangeDraft) : Bool :=
  (introductions (rangeMarks range)).any (fun bound => bound = .version v)

/-- Every introduction of the range is above `v`. -/
def precedes (v : StrictSemverCore) (range : AdvisoryRangeDraft) : Bool :=
  (introductions (rangeMarks range)).all (fun bound => .version v < bound)

/-- The codes of a range that includes `v`. -/
def includingCodes (v : StrictSemverCore) (range : AdvisoryRangeDraft) :
    List ExplanationCode :=
  (if startsAt v range then [.affectedAtIntroducedBoundary] else []) ++
    [if closesInclusively range then .affectedWithinLastAffectedRange
      else .affectedWithinIntroducedFixedRange]

/-- The code of a range that excludes `v`. -/
def excludingCode (v : StrictSemverCore) (range : AdvisoryRangeDraft) : ExplanationCode :=
  if precedes v range then .unaffectedBeforeIntroduced
  else if closesInclusively range then .unaffectedAfterLastAffected
  else .unaffectedAtOrAfterFixedBoundary

theorem rangeIntervals_describes {range : AdvisoryRangeDraft} (hwf : WellFormedRange range)
    (hcontra : ¬ IsContradictory range) :
    (cover (rangeMarks range)).Describes (rangeMarks range) :=
  cover_describes (compileRange_cases hwf hcontra).2

theorem closesInclusively_iff {range : AdvisoryRangeDraft} (hwf : WellFormedRange range)
    (hcontra : ¬ IsContradictory range) :
    closesInclusively range = true ↔ ∃ i ∈ rangeIntervals range, i.IsLastAffected := by
  have hdescribes := rangeIntervals_describes hwf hcontra
  rw [closesInclusively, List.any_eq_true, rangeIntervals, hdescribes.lastAffected]
  simp

/-- A range that ends at a last affected version is one interval. -/
theorem rangeIntervals_closesInclusively {range : AdvisoryRangeDraft}
    (hwf : WellFormedRange range) (hcontra : ¬ IsContradictory range)
    (hcloses : closesInclusively range = true) :
    ∃ o e, o ≤ e ∧ rangeIntervals range = [.lastAffected o e] := by
  have hlast : ∃ m ∈ rangeMarks range, m.kind = .lastAffected := by
    simpa [closesInclusively] using hcloses
  have hfixed : ¬ ∃ m ∈ rangeMarks range, m.kind = .fixed := by
    intro hfixed
    refine hwf.unmixed ⟨?_, ?_⟩
    · simpa [kindCount, List.countP_pos_iff] using hfixed
    · simpa [kindCount, List.countP_pos_iff] using hlast
  exact (rangeIntervals_describes hwf hcontra).intervals_lastAffected hfixed hlast

theorem introductions_rangeMarks {range : AdvisoryRangeDraft} (hwf : WellFormedRange range)
    (hcontra : ¬ IsContradictory range) :
    introductions (rangeMarks range) =
      (rangeIntervals range).map AffectedInterval.introducedAt :=
  (rangeIntervals_describes hwf hcontra).starts.symm

/-- Only one element of the list contributes to the concatenation. -/
theorem flatMap_eq_of_unique {α β : Type} {P : α → Prop} {f : α → List β} :
    ∀ {l : List α} {i : α}, l.Pairwise (fun a b => ¬ (P a ∧ P b)) →
      (∀ a, ¬ P a → f a = []) → i ∈ l → P i → l.flatMap f = f i := by
  intro l
  induction l with
  | nil =>
      intro i _ _ hi _
      cases hi
  | cons a rest ih =>
      intro i hunique hnil hi hP
      obtain ⟨hhead, htail⟩ := List.pairwise_cons.mp hunique
      rw [List.flatMap_cons]
      rcases List.mem_cons.mp hi with rfl | hi
      · have hrest : rest.flatMap f = [] := by
          refine List.flatMap_eq_nil_iff.mpr fun b hb => hnil b fun hPb => ?_
          exact hhead b hb ⟨hP, hPb⟩
        rw [hrest, List.append_nil]
      · have ha : f a = [] := hnil a fun hPa => hhead i hi ⟨hPa, hP⟩
        rw [ha, List.nil_append, ih htail hnil hi hP]

/-- The codes of an including range. -/
theorem flatMap_inclusionReasons {range : AdvisoryRangeDraft} (hwf : WellFormedRange range)
    (hcontra : ¬ IsContradictory range) {v : StrictSemverCore}
    (hsweep : osvSweep v range = true) :
    (rangeIntervals range).flatMap (inclusionReasons (.version v)) =
      includingCodes v range := by
  have hordered := (rangeIntervals_describes hwf hcontra).ordered
  obtain ⟨i, hi, hcontains⟩ :=
    (sweep_iff_cover (compileRange_cases hwf hcontra).2).mp hsweep
  have hunique := flatMap_eq_of_unique (f := inclusionReasons (.version v))
    (hordered.disjoint (.version v)) (fun j hj => if_neg hj) hi hcontains
  have hstart : i.introducedAt = .version v ↔ startsAt v range = true := by
    rw [hordered.start_eq_iff hi hcontains, startsAt, introductions_rangeMarks hwf hcontra]
    simp [rangeIntervals]
  have hcloses : i.IsLastAffected ↔ closesInclusively range = true := by
    constructor
    · intro hlast
      exact (closesInclusively_iff hwf hcontra).mpr ⟨i, hi, hlast⟩
    · intro hcloses
      obtain ⟨o, e, -, hone⟩ := rangeIntervals_closesInclusively hwf hcontra hcloses
      have hmem : i ∈ [AffectedInterval.lastAffected o e] := hone ▸ hi
      rw [List.mem_singleton.mp hmem]
      trivial
  rw [rangeIntervals, hunique]
  unfold inclusionReasons includingCodes
  rw [if_pos hcontains]
  simp only [hstart]
  cases i with
  | unbounded _ => rw [if_neg (mt hcloses.mpr id)]
  | fixed _ _ => rw [if_neg (mt hcloses.mpr id)]
  | lastAffected _ _ => rw [if_pos (hcloses.mp trivial)]

/-- The code of an excluding range. -/
theorem exclusionFlags_rangeIntervals {range : AdvisoryRangeDraft}
    (hwf : WellFormedRange range) (hcontra : ¬ IsContradictory range)
    {v : StrictSemverCore} (hsweep : osvSweep v range = false) :
    (exclusionFlags (.version v) (rangeIntervals range)).codes = [excludingCode v range] := by
  have hnone : ∀ i ∈ rangeIntervals range, ¬ i.Contains (.version v) := by
    intro i hi hcontains
    have htrue := (sweep_iff_cover (compileRange_cases hwf hcontra).2).mpr ⟨i, hi, hcontains⟩
    rw [osvSweep, htrue] at hsweep
    cases hsweep
  have hbefore : precedes v range =
      (rangeIntervals range).all (fun i => decide (.version v < i.introducedAt)) := by
    rw [precedes, introductions_rangeMarks hwf hcontra, List.all_map]
    rfl
  have hpast : ∀ i ∈ rangeIntervals range, i.introducedAt ≤ .version v →
      isPastFixed (.version v) i = true ∨ isPastLastAffected (.version v) i = true := by
    intro i hi hstart
    have hout := hnone i hi
    cases i with
    | unbounded start => exact absurd hstart hout
    | fixed start stop =>
        left
        simpa [isPastFixed] using not_lt.mp fun hlt => hout ⟨hstart, hlt⟩
    | lastAffected start stop =>
        right
        simpa [isPastLastAffected] using not_le.mp fun hle => hout ⟨hstart, hle⟩
  have hdirected := (rangeIntervals_describes hwf hcontra).ordered.directed
  unfold exclusionFlags ExclusionFlags.codes excludingCode
  rw [← hbefore]
  cases hcloses : closesInclusively range with
  | true =>
      obtain ⟨o, e, hoe, hone⟩ := rangeIntervals_closesInclusively hwf hcontra hcloses
      rw [hone] at hpast hbefore ⊢
      rw [List.all_cons, List.all_nil, Bool.and_true] at hbefore
      by_cases hstart : o ≤ .version v
      · have hlast : e < .version v := by
          simpa [isPastFixed, isPastLastAffected] using
            hpast (.lastAffected o e) (by simp) hstart
        have hnot : precedes v range = false :=
          hbefore.trans (decide_eq_false (not_lt.mpr hstart))
        simp [hnot, isPastFixed, isPastLastAffected, hlast]
      · have hlt : .version v < o := not_le.mp hstart
        have hyes : precedes v range = true := hbefore.trans (decide_eq_true hlt)
        have hnot : ¬ e < .version v := not_lt_of_ge (le_trans hlt.le hoe)
        simp [hyes, isPastFixed, isPastLastAffected, hnot]
  | false =>
      have hlast : (rangeIntervals range).any (isPastLastAffected (.version v)) = false := by
        refine List.any_eq_false.mpr fun i hi => ?_
        cases i with
        | unbounded _ => simp [isPastLastAffected]
        | fixed _ _ => simp [isPastLastAffected]
        | lastAffected o e =>
            have htrue := (closesInclusively_iff hwf hcontra).mpr ⟨_, hi, trivial⟩
            rw [hcloses] at htrue
            cases htrue
      rw [hlast]
      cases hprecedes : precedes v range with
      | true =>
          have hfixed : (rangeIntervals range).any (isPastFixed (.version v)) = false := by
            rw [hprecedes, eq_comm, List.all_eq_true] at hbefore
            refine List.any_eq_false.mpr fun i hi => ?_
            have hlt : VersionBound.version v < i.introducedAt :=
              of_decide_eq_true (hbefore i hi)
            cases i with
            | unbounded _ => simp [isPastFixed]
            | fixed start stop =>
                have hdir : start ≤ stop := hdirected _ hi
                simpa [isPastFixed] using lt_of_lt_of_le hlt hdir
            | lastAffected _ _ => simp [isPastFixed]
          simp [hfixed]
      | false =>
          have hfixed : (rangeIntervals range).any (isPastFixed (.version v)) = true := by
            rw [hprecedes, eq_comm, List.all_eq_false] at hbefore
            obtain ⟨i, hi, hstart⟩ := hbefore
            have hle : i.introducedAt ≤ .version v := by simpa using hstart
            rcases hpast i hi hle with hfixed | hlastAt
            · exact List.any_eq_true.mpr ⟨i, hi, hfixed⟩
            · exact absurd hlastAt (List.any_eq_false.mp hlast i hi)
          simp [hfixed]

/-! ## All ranges -/

theorem decisionState_includedCodes {ranges : List AdvisoryRangeDraft}
    (hwf : ∀ range ∈ ranges, WellFormedRange range)
    (hconsistent : ∀ range ∈ ranges, ¬ IsContradictory range) (v : StrictSemverCore) :
    (decisionState v ranges).includedCodes =
      ranges.flatMap fun range =>
        if provesInclusion v range then includingCodes v range else [] := by
  simp only [decisionState, List.flatMap_map]
  refine List.flatMap_congr fun range hrange => ?_
  unfold rangeEffect
  by_cases hsweep : osvSweep v range = true
  · have hcodes := flatMap_inclusionReasons (hwf range hrange) (hconsistent range hrange)
      hsweep
    by_cases hlimit : belowLimit v range = true
    · rw [if_pos hsweep, if_pos hlimit, if_pos ⟨hsweep, hlimit⟩]
      exact hcodes
    · rw [if_pos hsweep, if_neg hlimit, if_neg fun h => hlimit h.2]
      rfl
  · rw [if_neg hsweep, if_neg fun h => hsweep h.1]
    rfl

theorem decisionState_excludedCodes {ranges : List AdvisoryRangeDraft}
    (hwf : ∀ range ∈ ranges, WellFormedRange range)
    (hconsistent : ∀ range ∈ ranges, ¬ IsContradictory range) {v : StrictSemverCore}
    (hsweeps : ∀ range ∈ ranges, osvSweep v range = false) :
    (decisionState v ranges).excludedCodes = ranges.map (excludingCode v) := by
  simp only [decisionState, List.flatMap_map]
  rw [List.map_eq_flatMap]
  refine List.flatMap_congr fun range hrange => ?_
  rw [rangeEffect, hsweeps range hrange]
  exact exclusionFlags_rangeIntervals (hwf range hrange) (hconsistent range hrange)
    (hsweeps range hrange)

/-- Two ranges that include `v` for a common reason: they end in the same way, or
both start at `v`. -/
def ShareInclusionReason (v : StrictSemverCore) (left right : AdvisoryRangeDraft) : Prop :=
  closesInclusively left = closesInclusively right ∨
    (startsAt v left = true ∧ startsAt v right = true)

/-- Two ranges that exclude `v` for a common reason: `v` precedes both, or it
precedes neither and they end in the same way. -/
def ShareExclusionReason (v : StrictSemverCore) (left right : AdvisoryRangeDraft) : Prop :=
  (precedes v left = true ∧ precedes v right = true) ∨
    (precedes v left = false ∧ precedes v right = false ∧
      closesInclusively left = closesInclusively right)

theorem includingCodes_disjoint_iff (v : StrictSemverCore) (left right : AdvisoryRangeDraft) :
    (includingCodes v left).Disjoint (includingCodes v right) ↔
      ¬ ShareInclusionReason v left right := by
  unfold includingCodes ShareInclusionReason
  cases closesInclusively left <;> cases closesInclusively right <;>
    cases startsAt v left <;> cases startsAt v right <;> simp

theorem includingCodes_nodup (v : StrictSemverCore) (range : AdvisoryRangeDraft) :
    (includingCodes v range).Nodup := by
  unfold includingCodes
  cases startsAt v range <;> cases closesInclusively range <;> decide

theorem excludingCode_eq_iff (v : StrictSemverCore) (left right : AdvisoryRangeDraft) :
    excludingCode v left = excludingCode v right ↔ ShareExclusionReason v left right := by
  unfold excludingCode ShareExclusionReason
  cases precedes v left <;> cases precedes v right <;>
    cases closesInclusively left <;> cases closesInclusively right <;> simp

/-- The codes of the including ranges repeat unless the reasons of any two of them
differ. -/
theorem includedCodes_nodup_iff {ranges : List AdvisoryRangeDraft}
    (hwf : ∀ range ∈ ranges, WellFormedRange range)
    (hconsistent : ∀ range ∈ ranges, ¬ IsContradictory range) (v : StrictSemverCore) :
    (decisionState v ranges).includedCodes.Nodup ↔
      ranges.Pairwise fun left right =>
        provesInclusion v left → provesInclusion v right →
          ¬ ShareInclusionReason v left right := by
  rw [decisionState_includedCodes hwf hconsistent, List.nodup_flatMap]
  have hsingle : ∀ range ∈ ranges,
      (if provesInclusion v range then includingCodes v range else []).Nodup := by
    intro range _
    split
    · exact includingCodes_nodup v range
    · exact List.nodup_nil
  rw [and_iff_right hsingle]
  refine List.Pairwise.iff fun left right => ?_
  rw [Function.onFun_apply]
  by_cases hleft : provesInclusion v left
  · by_cases hright : provesInclusion v right
    · simp only [hleft, hright, if_true, true_imp_iff]
      exact includingCodes_disjoint_iff v left right
    · simp [hright]
  · simp [hleft]

/-- The codes of the excluding ranges repeat unless the reasons of any two of them
differ. -/
theorem excludedCodes_nodup_iff {ranges : List AdvisoryRangeDraft}
    (hwf : ∀ range ∈ ranges, WellFormedRange range)
    (hconsistent : ∀ range ∈ ranges, ¬ IsContradictory range) {v : StrictSemverCore}
    (hsweeps : ∀ range ∈ ranges, osvSweep v range = false) :
    ((decisionState v ranges).excludedCodes ++
        [ExplanationCode.unaffectedOutsideAllRanges]).Nodup ↔
      ranges.Pairwise fun left right => ¬ ShareExclusionReason v left right := by
  rw [decisionState_excludedCodes hwf hconsistent hsweeps]
  have houtside : ExplanationCode.unaffectedOutsideAllRanges ∉ ranges.map (excludingCode v) := by
    intro hmem
    obtain ⟨range, -, hcode⟩ := List.mem_map.mp hmem
    unfold excludingCode at hcode
    revert hcode
    cases precedes v range <;> cases closesInclusively range <;> simp
  rw [List.nodup_append]
  have happend : (ranges.map (excludingCode v)).Nodup ↔ _ := List.pairwise_map
  simp only [List.nodup_cons, List.not_mem_nil, not_false_eq_true, List.nodup_nil,
    List.mem_singleton, forall_eq, true_and, and_self]
  rw [happend]
  constructor
  · rintro ⟨hpairs, -⟩
    exact hpairs.imp fun hne => mt (excludingCode_eq_iff v _ _).mpr hne
  · intro hpairs
    refine ⟨hpairs.imp fun hne => mt (excludingCode_eq_iff v _ _).mp hne, ?_⟩
    rintro code hcode rfl
    exact houtside hcode

end PatchPilot.Matching
