import Mathlib.Data.List.Nodup
import Mathlib.Data.List.Perm.Subperm
import PatchPilot.Osv.Attempts.Adapter

set_option autoImplicit false

/-!
# Osv: attempts without gaps

An attempt after the first follows one that failed and is retried.  This is kept by an
insertion of an attempt that follows such a one and has an ordinal that is not taken, and by
every update that leaves the terminal attempts alone.
-/

namespace PatchPilot.Osv

open PatchPilot.Foundation

/-! ## Counting -/

/-- Distinct positive numbers without a gap are counted from one to their number. -/
theorem perm_range'_of_closed {l : List Nat} (hnodup : l.Nodup) (hpos : ∀ n ∈ l, 1 ≤ n)
    (hclosed : ∀ n ∈ l, n = 1 ∨ n - 1 ∈ l) : l.Perm (List.range' 1 l.length) := by
  -- everything below a number of the list is in the list
  have hbelow : ∀ n ∈ l, ∀ m, 1 ≤ m → m ≤ n → m ∈ l := by
    intro n
    induction n with
    | zero => exact fun hmem => absurd (hpos 0 hmem) (by omega)
    | succ n ih =>
        intro hmem m hm hle
        rcases Nat.lt_or_eq_of_le hle with hlt | heq
        · rcases hclosed (n + 1) hmem with hone | hbefore
          · omega
          · exact ih hbefore m hm (by omega)
        · rw [heq]
          exact hmem
  have hle : ∀ n ∈ l, n ≤ l.length := by
    intro n hmem
    have hsubset : List.range' 1 n ⊆ l := by
      intro m hm
      rw [List.mem_range'_1] at hm
      exact hbelow n hmem m hm.1 (by omega)
    have hlength := ((List.nodup_range' 1 Nat.one_pos).subperm hsubset).length_le
    rwa [List.length_range'] at hlength
  have hsubset : l ⊆ List.range' 1 l.length := by
    intro n hmem
    rw [List.mem_range'_1]
    have hn := hle n hmem
    have hn' := hpos n hmem
    omega
  refine (hnodup.subperm hsubset).perm_of_length_le ?_
  rw [List.length_range']

/-! ## The attempts of the tables -/

/-- An attempt failed and is retried. -/
def AttemptRow.Retried (row : AttemptRow) : Prop :=
  row.state = .retryableFailed ∧ row.retryDisposition = .durableRetry

theorem AttemptRow.Retried.isTerminal {row : AttemptRow} (h : row.Retried) :
    row.state.isTerminal = true := by
  rw [h.1]
  rfl

/-- An attempt is the one before an entry, and is retried. -/
structure AttemptRow.Precedes (before : AttemptRow) (target : AttemptTarget)
    (attemptOrdinal : Nat) : Prop where
  target : before.target = target
  ordinal : before.attemptOrdinal + 1 = attemptOrdinal
  retried : before.Retried

/-- An entry is the first of its target, or an attempt precedes it. -/
def AttemptTables.Reached (tables : AttemptTables) (target : AttemptTarget)
    (attemptOrdinal : Nat) : Prop :=
  attemptOrdinal = 1 ∨ ∃ before ∈ tables.attempts, before.Precedes target attemptOrdinal

/-- What holds of the attempts. -/
structure AttemptTables.Dense (tables : AttemptTables) : Prop where
  checks : ∀ row ∈ tables.attempts, row.satisfiesChecks = true
  ids : (tables.attempts.map (·.id)).Nodup
  entries : (tables.attempts.map AttemptRow.entry).Nodup
  reached : ∀ row ∈ tables.attempts, tables.Reached row.target row.attemptOrdinal

/-- Attempts stay, with their identifiers and entries, and terminal ones as they are. -/
def AttemptTables.Later (tables tables' : AttemptTables) : Prop :=
  ∀ row ∈ tables.attempts, ∃ row' ∈ tables'.attempts,
    row'.id = row.id ∧ row'.entry = row.entry ∧ (row.state.isTerminal = true → row' = row)

theorem AttemptTables.Later.refl (tables : AttemptTables) : tables.Later tables :=
  fun row hrow => ⟨row, hrow, rfl, rfl, fun _ => rfl⟩

theorem AttemptTables.Later.trans {tables tables' tables'' : AttemptTables}
    (h : tables.Later tables') (h' : tables'.Later tables'') : tables.Later tables'' := by
  intro row hrow
  obtain ⟨row', hrow', hid, hentry, hsame⟩ := h row hrow
  obtain ⟨row'', hrow'', hid', hentry', hsame'⟩ := h' row' hrow'
  refine ⟨row'', hrow'', hid'.trans hid, hentry'.trans hentry, fun hterminal => ?_⟩
  have heq := hsame hterminal
  rw [hsame' (by rw [heq]; exact hterminal), heq]

/-- A terminal attempt stays as it is. -/
theorem AttemptTables.Later.terminal {tables tables' : AttemptTables} (h : tables.Later tables')
    {row : AttemptRow} (hrow : row ∈ tables.attempts) (hterminal : row.state.isTerminal = true) :
    row ∈ tables'.attempts := by
  obtain ⟨row', hrow', -, -, hsame⟩ := h row hrow
  rw [← hsame hterminal]
  exact hrow'

theorem AttemptTables.Reached.later {tables tables' : AttemptTables} {target : AttemptTarget}
    {attemptOrdinal : Nat} (h : tables.Reached target attemptOrdinal)
    (hlater : tables.Later tables') : tables'.Reached target attemptOrdinal := by
  rcases h with hfirst | ⟨before, hmem, hprecedes⟩
  · exact .inl hfirst
  · exact .inr ⟨before, hlater.terminal hmem hprecedes.retried.isTerminal, hprecedes⟩

/-- What a lock keeps as it is: no attempt with the entry appears, and the row is the same. -/
def AttemptKey.Same : AttemptKey → AttemptTables → AttemptTables → Prop
  | .entry target attemptOrdinal, tables, tables' =>
      (∀ row ∈ tables.attempts, row.entry ≠ (target, attemptOrdinal)) →
        ∀ row ∈ tables'.attempts, row.entry ≠ (target, attemptOrdinal)
  | .row id, tables, tables' =>
      ∀ row, row.id = id → (row ∈ tables.attempts ↔ row ∈ tables'.attempts)

/-- The discipline of the attempts. -/
def attemptDiscipline : Discipline attemptSchema where
  Good := AttemptTables.Dense
  Later := AttemptTables.Later
  Same := AttemptKey.Same
  later_refl := AttemptTables.Later.refl
  later_trans := AttemptTables.Later.trans
  same_refl := by
    intro key tables
    cases key with
    | entry target attemptOrdinal => exact id
    | row id => exact fun _ _ => Iff.rfl
  same_trans := by
    intro key tables tables' tables'' h h'
    cases key with
    | entry target attemptOrdinal => exact fun hnone => h' (h hnone)
    | row id => exact fun row hid => (h row hid).trans (h' row hid)

/-! ## Insertions -/

section

variable {tables : AttemptTables} {row : AttemptRow}

/-- A row may be inserted: it has an identifier and an entry of its own, and is reached. -/
structure AttemptTables.MayInsert (tables : AttemptTables) (row : AttemptRow) : Prop where
  checks : row.satisfiesChecks = true
  id : ∀ other ∈ tables.attempts, other.id ≠ row.id
  entry : ∀ other ∈ tables.attempts, other.entry ≠ row.entry
  reached : tables.Reached row.target row.attemptOrdinal

theorem later_inserted : tables.Later (AttemptTables.apply (.inserted row) tables) :=
  fun other hother => ⟨other, List.mem_append_left _ hother, rfl, rfl, fun _ => rfl⟩

theorem mem_inserted {other : AttemptRow} :
    other ∈ (AttemptTables.apply (.inserted row) tables).attempts ↔
      other ∈ tables.attempts ∨ other = row := by
  change other ∈ tables.attempts ++ [row] ↔ _
  rw [List.mem_append, List.mem_singleton]

theorem dense_inserted (h : tables.Dense) (hmay : tables.MayInsert row) :
    (AttemptTables.apply (.inserted row) tables).Dense where
  checks := by
    intro other hother
    rcases mem_inserted.mp hother with hold | rfl
    · exact h.checks other hold
    · exact hmay.checks
  ids := by
    change ((tables.attempts ++ [row]).map (·.id)).Nodup
    rw [List.map_append, List.map_singleton]
    refine h.ids.append (List.nodup_singleton _) fun id hid hnew => ?_
    obtain ⟨other, hother, rfl⟩ := List.mem_map.mp hid
    exact hmay.id other hother (List.mem_singleton.mp hnew)
  entries := by
    change ((tables.attempts ++ [row]).map AttemptRow.entry).Nodup
    rw [List.map_append, List.map_singleton]
    refine h.entries.append (List.nodup_singleton _) fun entry hentry hnew => ?_
    obtain ⟨other, hother, rfl⟩ := List.mem_map.mp hentry
    exact hmay.entry other hother (List.mem_singleton.mp hnew)
  reached := by
    intro other hother
    rcases mem_inserted.mp hother with hold | rfl
    · exact (h.reached other hold).later later_inserted
    · exact hmay.reached.later later_inserted

/-- An insertion changes its entry and its identifier alone. -/
theorem same_inserted {key : AttemptKey} (hentry : key ≠ .entry row.target row.attemptOrdinal)
    (hid : key ≠ .row row.id) : key.Same tables (AttemptTables.apply (.inserted row) tables) := by
  cases key with
  | entry target attemptOrdinal =>
      intro hnone other hother
      rcases mem_inserted.mp hother with hold | rfl
      · exact hnone other hold
      · intro heq
        obtain ⟨rfl, rfl⟩ := Prod.mk.inj heq
        exact hentry rfl
  | row id =>
      intro other hother
      rw [mem_inserted]
      refine ⟨.inl, fun hmem => hmem.resolve_right fun heq => hid ?_⟩
      rw [← hother, heq]

end

/-! ## Updates -/

section

variable {tables : AttemptTables} {row : AttemptRow}

/-- A row may be updated: its attempt is there, with the same entry, and is not terminal. -/
structure AttemptTables.MayUpdate (tables : AttemptTables) (row : AttemptRow) : Prop where
  checks : row.satisfiesChecks = true
  old : ∃ old ∈ tables.attempts, old.id = row.id ∧ old.entry = row.entry ∧
    old.state.isTerminal = false

/-- The row of an identifier after an update. -/
def replaced (row other : AttemptRow) : AttemptRow := if other.id = row.id then row else other

theorem mem_updated {other : AttemptRow} :
    other ∈ (AttemptTables.apply (.updated row) tables).attempts ↔
      ∃ before ∈ tables.attempts, replaced row before = other := by
  change other ∈ tables.attempts.map _ ↔ _
  rw [List.mem_map]
  rfl

/-- An update keeps identifiers and entries, and terminal attempts altogether. -/
theorem replaced_keeps (h : tables.Dense) (hmay : tables.MayUpdate row) {other : AttemptRow}
    (hother : other ∈ tables.attempts) :
    (replaced row other).id = other.id ∧ (replaced row other).entry = other.entry ∧
      (other.state.isTerminal = true → replaced row other = other) := by
  obtain ⟨old, hold, hid, hentry, hopen⟩ := hmay.old
  unfold replaced
  split
  · rename_i hsame
    have heq : other = old := List.inj_on_of_nodup_map h.ids hother hold (hsame.trans hid.symm)
    subst heq
    exact ⟨hid.symm, hentry.symm, fun hterminal => by rw [hopen] at hterminal; cases hterminal⟩
  · exact ⟨rfl, rfl, fun _ => rfl⟩

theorem later_updated (h : tables.Dense) (hmay : tables.MayUpdate row) :
    tables.Later (AttemptTables.apply (.updated row) tables) := by
  intro other hother
  exact ⟨replaced row other, mem_updated.mpr ⟨other, hother, rfl⟩, replaced_keeps h hmay hother⟩

theorem dense_updated (h : tables.Dense) (hmay : tables.MayUpdate row) :
    (AttemptTables.apply (.updated row) tables).Dense where
  checks := by
    intro other hother
    obtain ⟨before, hbefore, rfl⟩ := mem_updated.mp hother
    unfold replaced
    split
    · exact hmay.checks
    · exact h.checks before hbefore
  ids := by
    change ((tables.attempts.map (replaced row)).map (·.id)).Nodup
    rw [List.map_map]
    have hids : tables.attempts.map (AttemptRow.id ∘ replaced row) =
        tables.attempts.map AttemptRow.id :=
      List.map_congr_left fun other hother => (replaced_keeps h hmay hother).1
    exact hids ▸ h.ids
  entries := by
    change ((tables.attempts.map (replaced row)).map AttemptRow.entry).Nodup
    rw [List.map_map]
    have hentries : tables.attempts.map (AttemptRow.entry ∘ replaced row) =
        tables.attempts.map AttemptRow.entry :=
      List.map_congr_left fun other hother => (replaced_keeps h hmay hother).2.1
    exact hentries ▸ h.entries
  reached := by
    intro other hother
    obtain ⟨before, hbefore, rfl⟩ := mem_updated.mp hother
    obtain ⟨htarget, hordinal⟩ := Prod.mk.inj (replaced_keeps h hmay hbefore).2.1
    rw [htarget, hordinal]
    exact (h.reached before hbefore).later (later_updated h hmay)

/-- An update changes the row of its identifier alone. -/
theorem same_updated (h : tables.Dense) (hmay : tables.MayUpdate row) {key : AttemptKey}
    (hid : key ≠ .row row.id) : key.Same tables (AttemptTables.apply (.updated row) tables) := by
  cases key with
  | entry target attemptOrdinal =>
      intro hnone other hother
      obtain ⟨before, hbefore, rfl⟩ := mem_updated.mp hother
      rw [(replaced_keeps h hmay hbefore).2.1]
      exact hnone before hbefore
  | row id =>
      intro other hother
      have hne : other.id ≠ row.id := by
        rw [hother]
        exact fun heq => hid (by rw [heq])
      rw [mem_updated]
      constructor
      · exact fun hmem => ⟨other, hmem, if_neg hne⟩
      · rintro ⟨before, hbefore, heq⟩
        unfold replaced at heq
        split at heq
        · rw [heq] at hne
          exact absurd rfl hne
        · rw [← heq]
          exact hbefore

end

/-! ## What density says of a target -/

/-- The most attempts of a stage. -/
def attemptLimit : OsvRuntimeRetryableStage → Nat
  | .inventoryConvergence => 1
  | .parserExecutionTimeout => 2
  | _ => 3

/-- The attempts of a target. -/
def AttemptTables.attemptsOf (tables : AttemptTables) (target : AttemptTarget) :
    List AttemptRow :=
  tables.attempts.filter fun row => row.target = target

/-- An attempt is planned or running. -/
def AttemptRow.isActive (row : AttemptRow) : Bool :=
  decide (row.state = .planned) || decide (row.state = .running)

/-- The attempts of a target are counted from one on and are not more than its stage allows;
all of them but the last are retried; and at most one is active. -/
structure InOrder (attempts : List AttemptRow) (limit : Nat) : Prop where
  counted : (attempts.map (·.attemptOrdinal)).Perm (List.range' 1 attempts.length)
  limited : attempts.length ≤ limit
  retried : ∀ row ∈ attempts, row.attemptOrdinal < attempts.length → row.Retried
  active : attempts.countP AttemptRow.isActive ≤ 1

section

variable {tables : AttemptTables}

theorem mem_attemptsOf {target : AttemptTarget} {row : AttemptRow} :
    row ∈ tables.attemptsOf target ↔ row ∈ tables.attempts ∧ row.target = target := by
  unfold AttemptTables.attemptsOf
  rw [List.mem_filter, decide_eq_true_eq]

/-- The ordinal check keeps an ordinal below the limit of the stage. -/
theorem ordinal_of_checks {row : AttemptRow} (h : row.satisfiesChecks = true) :
    1 ≤ row.attemptOrdinal ∧ row.attemptOrdinal ≤ attemptLimit row.target.stage := by
  have hordinal : row.ordinalCheck = true := by
    unfold AttemptRow.satisfiesChecks at h
    simp only [Bool.and_eq_true] at h
    exact h.1.1.2
  unfold AttemptRow.ordinalCheck at hordinal
  simp only [Bool.and_eq_true, Bool.or_eq_true, decide_eq_true_eq, List.mem_cons,
    List.not_mem_nil, or_false] at hordinal
  obtain ⟨⟨hany, htimeout⟩, hinventory⟩ := hordinal
  cases hstage : row.target.stage <;> rw [hstage] at htimeout hinventory <;>
    simp [attemptLimit] at htimeout hinventory ⊢ <;> omega

/-- Two attempts of a target with one ordinal are the same. -/
theorem eq_of_ordinal (h : tables.Dense) {target : AttemptTarget} {left right : AttemptRow}
    (hleft : left ∈ tables.attemptsOf target) (hright : right ∈ tables.attemptsOf target)
    (heq : left.attemptOrdinal = right.attemptOrdinal) : left = right := by
  obtain ⟨hl, hltarget⟩ := mem_attemptsOf.mp hleft
  obtain ⟨hr, hrtarget⟩ := mem_attemptsOf.mp hright
  refine List.inj_on_of_nodup_map h.entries hl hr ?_
  unfold AttemptRow.entry
  rw [hltarget, hrtarget, heq]

theorem nodup_ordinals (h : tables.Dense) (target : AttemptTarget) :
    ((tables.attemptsOf target).map (·.attemptOrdinal)).Nodup := by
  refine List.Nodup.map_on (fun left hleft right hright => eq_of_ordinal h hleft hright) ?_
  exact h.ids.of_map.filter _

/-- An attempt after the first has one before it, which is retried. -/
theorem exists_before (h : tables.Dense) {target : AttemptTarget} {row : AttemptRow}
    (hrow : row ∈ tables.attemptsOf target) (hne : row.attemptOrdinal ≠ 1) :
    ∃ before ∈ tables.attemptsOf target,
      before.attemptOrdinal + 1 = row.attemptOrdinal ∧ before.Retried := by
  obtain ⟨hmem, htarget⟩ := mem_attemptsOf.mp hrow
  obtain ⟨before, hbefore, hprecedes⟩ := (h.reached row hmem).resolve_left hne
  refine ⟨before, mem_attemptsOf.mpr ⟨hbefore, ?_⟩, hprecedes.ordinal, hprecedes.retried⟩
  rw [hprecedes.target, htarget]

/-- The attempts of a target are in order. -/
theorem inOrder_of_dense (h : tables.Dense) (target : AttemptTarget) :
    InOrder (tables.attemptsOf target) (attemptLimit target.stage) := by
  have hchecks : ∀ row ∈ tables.attemptsOf target,
      1 ≤ row.attemptOrdinal ∧ row.attemptOrdinal ≤ attemptLimit target.stage := by
    intro row hrow
    obtain ⟨hmem, htarget⟩ := mem_attemptsOf.mp hrow
    rw [← htarget]
    exact ordinal_of_checks (h.checks row hmem)
  have hcounted : ((tables.attemptsOf target).map (·.attemptOrdinal)).Perm
      (List.range' 1 (tables.attemptsOf target).length) := by
    have hperm := perm_range'_of_closed (nodup_ordinals h target)
      (fun n hn => by
        obtain ⟨row, hrow, rfl⟩ := List.mem_map.mp hn
        exact (hchecks row hrow).1)
      (fun n hn => by
        obtain ⟨row, hrow, rfl⟩ := List.mem_map.mp hn
        by_cases hone : row.attemptOrdinal = 1
        · exact .inl hone
        · obtain ⟨before, hbefore, hordinal, -⟩ := exists_before h hrow hone
          exact .inr (List.mem_map.mpr ⟨before, hbefore, by omega⟩))
    rwa [List.length_map] at hperm
  have hmem : ∀ n, 1 ≤ n → n ≤ (tables.attemptsOf target).length →
      ∃ row ∈ tables.attemptsOf target, row.attemptOrdinal = n := by
    intro n hn hle
    have hin := hcounted.symm.subset (List.mem_range'_1.mpr ⟨hn, by omega⟩)
    exact List.mem_map.mp hin
  have hretried : ∀ row ∈ tables.attemptsOf target,
      row.attemptOrdinal < (tables.attemptsOf target).length → row.Retried := by
    intro row hrow hlt
    obtain ⟨next, hnext, hordinal⟩ := hmem (row.attemptOrdinal + 1) (by omega) hlt
    have hpos := (hchecks row hrow).1
    obtain ⟨before, hbefore, hbeforeOrdinal, hbeforeRetried⟩ :=
      exists_before h hnext (by omega)
    rw [eq_of_ordinal h hrow hbefore (by omega)]
    exact hbeforeRetried
  refine ⟨hcounted, ?_, hretried, ?_⟩
  · by_cases hnone : (tables.attemptsOf target).length = 0
    · omega
    · obtain ⟨row, hrow, hordinal⟩ := hmem (tables.attemptsOf target).length (by omega)
        (Nat.le_refl _)
      have hle := (hchecks row hrow).2
      omega
  · -- an active attempt is not retried, so it is the last
    have hlast : ∀ row ∈ (tables.attemptsOf target).filter AttemptRow.isActive,
        row.attemptOrdinal = (tables.attemptsOf target).length := by
      intro row hrow
      obtain ⟨hrow, hactive⟩ := List.mem_filter.mp hrow
      have hin := hcounted.subset (List.mem_map.mpr ⟨row, hrow, rfl⟩)
      rw [List.mem_range'_1] at hin
      by_contra hne
      have hstate := (hretried row hrow (by omega)).1
      unfold AttemptRow.isActive at hactive
      rw [hstate] at hactive
      cases hactive
    rw [List.countP_eq_length_filter]
    by_contra hmore
    obtain ⟨left, right, rest, heq⟩ : ∃ left right rest,
        (tables.attemptsOf target).filter AttemptRow.isActive = left :: right :: rest := by
      match hfilter : (tables.attemptsOf target).filter AttemptRow.isActive with
      | [] => rw [hfilter] at hmore; exact absurd (Nat.zero_le 1) hmore
      | [_] => rw [hfilter] at hmore; exact absurd (Nat.le_refl 1) hmore
      | left :: right :: rest => exact ⟨left, right, rest, rfl⟩
    have hnodup := ((h.ids.of_map.filter (fun row => decide (row.target = target))).filter
      AttemptRow.isActive)
    change ((tables.attemptsOf target).filter AttemptRow.isActive).Nodup at hnodup
    rw [heq] at hnodup hlast
    have hleft : left ∈ tables.attemptsOf target :=
      List.mem_of_mem_filter (p := AttemptRow.isActive) (by rw [heq]; exact List.mem_cons_self)
    have hright : right ∈ tables.attemptsOf target :=
      List.mem_of_mem_filter (p := AttemptRow.isActive)
        (by rw [heq]; exact List.mem_cons_of_mem _ List.mem_cons_self)
    have hsame := eq_of_ordinal h hleft hright
      ((hlast left List.mem_cons_self).trans
        (hlast right (List.mem_cons_of_mem _ List.mem_cons_self)).symm)
    exact (List.nodup_cons.mp hnodup).1 (by rw [hsame]; exact List.mem_cons_self)

end

end PatchPilot.Osv
