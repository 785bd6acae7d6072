import PatchPilot.Foundation.Fallible
import PatchPilot.Osv.LeaseAdapter
import PatchPilot.Osv.LeaseRuns

set_option autoImplicit false

/-!
# Osv: what every statement keeps

The versions of the lease row only grow, and so do their fencing tokens.  As long as a
transaction that has locked the row is open, the committed row stays as it was, so the
trigger compares an update with the version that its commit replaces.
-/

namespace PatchPilot.Osv

open PatchPilot.Foundation

/-! ## Ownership -/

/-- A row is held by the run, the holder and the fencing token that a proof names. -/
structure OwnedBy (sha256 : JsString → JsString) (row : LeaseRow)
    (proof : OsvRuntimeLeaseOwnershipProof) : Prop where
  state : row.state = .held
  runId : row.runId = proof.runId
  holder : ∃ token, proof.holderToken = some token ∧ row.holderTokenDigest = sha256 token
  fencing : proof.fencingToken = decimalText row.fencingToken

/-- In some version of the lease row since the transaction began, a proof owned the lease
and the lease was not expired at the time of the transaction. -/
def OwnedDuring (sha256 : JsString → JsString) (s : LeaseDatabase) (transaction : Transaction)
    (proof : OsvRuntimeLeaseOwnershipProof) : Prop :=
  ∃ row, some row ∈ s.during transaction ∧ OwnedBy sha256 row proof ∧
    transaction.now < row.expiresAt

/-- The fencing token of a version; an absent row has none above zero. -/
def fencingOf (version : Option LeaseRow) : Nat := (version.map (·.fencingToken)).getD 0

/-- A transition into a state that requires the ownership had it at some moment of its
transaction. -/
def Fenced (sha256 : JsString → JsString) (s : LeaseDatabase)
    (entry : Transaction × OsvRuntimeRunTransitionCommand) : Prop :=
  requiresOwnership entry.2.nextState = true →
    ∃ proof, entry.2.proof = some proof ∧ proof.runId = entry.2.runId ∧
      OwnedDuring sha256 s entry.1 proof

/-! ## The contract -/

/-- What holds of the database between statements. -/
structure LeaseInvariant (sha256 : JsString → JsString) (s : LeaseDatabase) : Prop where
  opened : ∀ number ∈ s.opened, number < s.begun
  fencing : s.versions.Pairwise fun earlier later => fencingOf earlier ≤ fencingOf later
  transitions : ∀ entry ∈ s.transitions, Fenced sha256 s entry

/-- A run is in a state that requires the ownership only if it was, or a transition into
the state was committed. -/
def EnteredByTransition (s s' : LeaseDatabase) : Prop :=
  ∀ run ∈ s'.runs, requiresOwnership run.state = true →
    (∃ before ∈ s.runs, before.id = run.id ∧ before.state = run.state) ∨
      ∃ entry ∈ s'.transitions.drop s.transitions.length,
        entry.2.runId = run.id ∧ entry.2.nextState = run.state

/-- How the database may change. -/
structure LeaseProgress (s s' : LeaseDatabase) : Prop where
  versions : s.versions <+: s'.versions
  begun : s.begun ≤ s'.begun
  opened : ∀ number < s.begun, number ∈ s'.opened → number ∈ s.opened ∧
    (s.leaseLock = some number → s'.leaseLock = some number ∧ s'.lease = s.lease)
  transitions : s.transitions <+: s'.transitions
  entered : EnteredByTransition s s'

theorem LeaseProgress.refl (s : LeaseDatabase) : LeaseProgress s s where
  versions := List.prefix_rfl
  begun := le_refl _
  opened := fun _ _ hopen => ⟨hopen, fun hlock => ⟨hlock, rfl⟩⟩
  transitions := List.prefix_rfl
  entered := fun run hrun _ => .inl ⟨run, hrun, rfl, rfl⟩

theorem LeaseProgress.trans {s s' s'' : LeaseDatabase} (h : LeaseProgress s s')
    (h' : LeaseProgress s' s'') : LeaseProgress s s'' where
  versions := h.versions.trans h'.versions
  begun := le_trans h.begun h'.begun
  opened := by
    intro number hnumber hopen
    obtain ⟨hopen', hlock'⟩ := h'.opened number (lt_of_lt_of_le hnumber h.begun) hopen
    obtain ⟨hopen, hlock⟩ := h.opened number hnumber hopen'
    refine ⟨hopen, fun hlocked => ?_⟩
    obtain ⟨hlocked', hlease⟩ := hlock hlocked
    obtain ⟨hlocked'', hlease'⟩ := hlock' hlocked'
    exact ⟨hlocked'', hlease'.trans hlease⟩
  transitions := h.transitions.trans h'.transitions
  entered := by
    intro run hrun hrequires
    rcases h'.entered run hrun hrequires with ⟨before, hbefore, hid, hstate⟩ | ⟨entry, hentry, he⟩
    · rcases h.entered before hbefore (by rw [hstate]; exact hrequires) with
        ⟨first, hfirst, hid', hstate'⟩ | ⟨entry, hentry, hid', hstate'⟩
      · exact .inl ⟨first, hfirst, hid'.trans hid, hstate'.trans hstate⟩
      · refine .inr ⟨entry, ?_, hid'.trans hid, hstate'.trans hstate⟩
        exact (h'.transitions.drop _).subset hentry
    · refine .inr ⟨entry, ?_, he⟩
      have hlength := h.transitions.length_le
      exact List.drop_subset_drop_left _ hlength hentry

/-- The contract of the database. -/
def leaseContract (sha256 : JsString → JsString) : Contract LeaseDatabase where
  Inv := LeaseInvariant sha256
  Rely := LeaseProgress
  refl := LeaseProgress.refl
  trans := LeaseProgress.trans

section

variable {sha256 : JsString → JsString} {s s' : LeaseDatabase} {transaction : Transaction}
  {proof : OsvRuntimeLeaseOwnershipProof}

/-- An ownership that was seen is not forgotten. -/
theorem OwnedDuring.later (h : OwnedDuring sha256 s transaction proof)
    (hprogress : s.versions <+: s'.versions) : OwnedDuring sha256 s' transaction proof := by
  obtain ⟨row, hrow, howned, hexpires⟩ := h
  exact ⟨row, (hprogress.drop _).subset hrow, howned, hexpires⟩

theorem Fenced.later {entry : Transaction × OsvRuntimeRunTransitionCommand}
    (h : Fenced sha256 s entry) (hprogress : s.versions <+: s'.versions) :
    Fenced sha256 s' entry := by
  intro hrequires
  obtain ⟨proof, hproof, hrun, howned⟩ := h hrequires
  exact ⟨proof, hproof, hrun, howned.later hprogress⟩

/-- The current version is one of a transaction that has begun. -/
theorem lease_mem_during (hsince : transaction.since ≤ s.replaced.length) :
    s.lease ∈ s.during transaction := by
  unfold LeaseDatabase.during LeaseDatabase.versions
  rw [List.drop_append_of_le_length hsince]
  exact List.mem_append_right _ (List.mem_singleton_self _)

/-! ## Statements -/

/-- The lease row and its versions, the runs and the record are the same. -/
structure SameRows (s s' : LeaseDatabase) : Prop where
  lease : s'.lease = s.lease
  replaced : s'.replaced = s.replaced
  runs : s'.runs = s.runs
  transitions : s'.transitions = s.transitions

theorem SameRows.versions (h : SameRows s s') : s'.versions = s.versions := by
  unfold LeaseDatabase.versions
  rw [h.lease, h.replaced]

/-- A change of locks and of open transactions keeps the contract. -/
theorem keeps_of_sameRows (hsame : SameRows s s') (hinv : LeaseInvariant sha256 s)
    (hbegun : s.begun ≤ s'.begun) (hopened : ∀ number ∈ s'.opened, number < s'.begun)
    (hlocks : ∀ number < s.begun, number ∈ s'.opened → number ∈ s.opened ∧
      (s.leaseLock = some number → s'.leaseLock = some number)) :
    LeaseProgress s s' ∧ LeaseInvariant sha256 s' := by
  have hversions := hsame.versions
  refine ⟨⟨?_, hbegun, ?_, ?_, ?_⟩, ⟨hopened, ?_, ?_⟩⟩
  · rw [hversions]
  · intro number hnumber hopen
    obtain ⟨hopen, hlock⟩ := hlocks number hnumber hopen
    exact ⟨hopen, fun hlocked => ⟨hlock hlocked, hsame.lease⟩⟩
  · rw [hsame.transitions]
  · intro run hrun _
    rw [hsame.runs] at hrun
    exact .inl ⟨run, hrun, rfl, rfl⟩
  · rw [hversions]
    exact hinv.fencing
  · intro entry hentry
    rw [hsame.transitions] at hentry
    exact (hinv.transitions entry hentry).later (by rw [hversions])

/-- A transaction that ends without a commit keeps the contract. -/
theorem keeps_close (hinv : LeaseInvariant sha256 s) (number : Nat) :
    LeaseProgress s (s.close number) ∧ LeaseInvariant sha256 (s.close number) := by
  refine keeps_of_sameRows ⟨rfl, rfl, rfl, rfl⟩ hinv (le_refl _) ?_ ?_
  · intro other hother
    exact hinv.opened other (List.mem_filter.mp hother).1
  · intro other _ hother
    obtain ⟨hopen, hne⟩ := List.mem_filter.mp hother
    refine ⟨hopen, fun hlock => ?_⟩
    change s.leaseLock.filter _ = some other
    rw [hlock, Option.filter_some, if_pos hne]

/-- A lock that is taken keeps the contract. -/
theorem keeps_lockLease (hinv : LeaseInvariant sha256 s)
    (hfree : s.leaseLocked transaction = false) :
    LeaseProgress s (s.lockLease transaction) ∧
      LeaseInvariant sha256 (s.lockLease transaction) := by
  refine keeps_of_sameRows ⟨rfl, rfl, rfl, rfl⟩ hinv (le_refl _) hinv.opened ?_
  intro other _ hother
  refine ⟨hother, fun hlock => ?_⟩
  unfold LeaseDatabase.leaseLocked at hfree
  rw [hlock, Option.any_some, decide_eq_false_iff_not, not_not] at hfree
  change some transaction.number = some other
  rw [hfree]

/-- A statement that is no commit keeps the contract and every row. -/
theorem keeps_exec {statement : Statement} {now : Timestamptz} {answer : statement.Answer}
    (hcommit : ∀ transaction lease run, statement ≠ .commit transaction lease run)
    (hinv : LeaseInvariant sha256 s)
    (h : LeaseDatabase.exec statement now s = some (answer, s')) :
    SameRows s s' ∧ LeaseProgress s s' ∧ LeaseInvariant sha256 s' := by
  have hunchanged : SameRows s s ∧ LeaseProgress s s ∧ LeaseInvariant sha256 s :=
    ⟨⟨rfl, rfl, rfl, rfl⟩, LeaseProgress.refl s, hinv⟩
  have hlocked : ∀ transaction, s.leaseLocked transaction = false →
      SameRows s (s.lockLease transaction) ∧ LeaseProgress s (s.lockLease transaction) ∧
        LeaseInvariant sha256 (s.lockLease transaction) :=
    fun transaction hfree => ⟨⟨rfl, rfl, rfl, rfl⟩, keeps_lockLease hinv hfree⟩
  cases statement with
  | begin_ =>
      unfold LeaseDatabase.exec at h
      dsimp only at h
      split at h
      · cases h
      · cases h
        refine ⟨⟨rfl, rfl, rfl, rfl⟩,
          keeps_of_sameRows ⟨rfl, rfl, rfl, rfl⟩ hinv (Nat.le_succ _) ?_ ?_⟩
        · intro number hnumber
          rcases List.mem_cons.mp hnumber with rfl | hnumber
          · exact Nat.lt_succ_self _
          · exact Nat.lt_succ_of_lt (hinv.opened number hnumber)
        · intro number hlt hnumber
          rcases List.mem_cons.mp hnumber with rfl | hnumber
          · exact absurd hlt (Nat.lt_irrefl _)
          · exact ⟨hnumber, fun hlock => hlock⟩
  | selectRun transaction runId =>
      unfold LeaseDatabase.exec at h
      dsimp only at h
      split at h
      all_goals
        cases h
        exact hunchanged
  | selectLease transaction own site =>
      unfold LeaseDatabase.exec at h
      dsimp only at h
      split at h
      all_goals
        cases h
        exact hunchanged
  | insertLease transaction runId digest =>
      unfold LeaseDatabase.exec at h
      dsimp only at h
      split at h
      · cases h
        exact hunchanged
      · split at h
        · cases h
          exact hunchanged
        · split at h
          · cases h
          · rename_i hfree
            cases h
            exact hlocked transaction (by simpa using hfree)
  | updateLease transaction own update =>
      unfold LeaseDatabase.exec at h
      dsimp only at h
      split at h
      · cases h
        exact hunchanged
      · split at h
        · cases h
          exact hunchanged
        · split at h
          · cases h
            exact hunchanged
          · split at h
            · cases h
            · rename_i hfree
              cases h
              exact hlocked transaction (by simpa using hfree)
  | updateRun transaction command =>
      unfold LeaseDatabase.exec at h
      dsimp only at h
      split at h
      · cases h
        exact hunchanged
      · split at h
        · cases h
          exact hunchanged
        · split at h
          · cases h
          · split at h
            · cases h
              refine ⟨⟨rfl, rfl, rfl, rfl⟩, keeps_of_sameRows ⟨rfl, rfl, rfl, rfl⟩ hinv
                (le_refl _) hinv.opened fun number _ hnumber => ⟨hnumber, fun hlock => hlock⟩⟩
            · cases h
              exact hunchanged
  | commit transaction lease run => exact absurd rfl (hcommit transaction lease run)
  | rollback transaction =>
      cases h
      exact ⟨⟨rfl, rfl, rfl, rfl⟩, keeps_close hinv transaction.number⟩

/-! ## What a transaction may commit -/

/-- A row that an open transaction may commit: it holds the lock, and the fencing token is
not below the committed one. -/
def Replaces (s : LeaseDatabase) (transaction : Transaction) (row : LeaseRow) : Prop :=
  transaction.number < s.begun ∧ (transaction.number ∈ s.opened →
    s.leaseLock = some transaction.number ∧ fencingOf s.lease ≤ row.fencingToken)

/-- A transition that a transaction may commit. -/
def Transitions (sha256 : JsString → JsString) (s : LeaseDatabase) (transaction : Transaction)
    (run : RunRow × OsvRuntimeRunTransitionCommand) : Prop :=
  run.1.id = run.2.runId ∧ run.1.state = run.2.nextState ∧ Fenced sha256 s (transaction, run.2)

theorem Replaces.later {row : LeaseRow} (h : Replaces s transaction row)
    (hprogress : LeaseProgress s s') : Replaces s' transaction row := by
  refine ⟨lt_of_lt_of_le h.1 hprogress.begun, fun hopen => ?_⟩
  obtain ⟨hopen, hlock⟩ := hprogress.opened _ h.1 hopen
  obtain ⟨hlocked, hfencing⟩ := h.2 hopen
  obtain ⟨hlocked', hlease⟩ := hlock hlocked
  rw [hlease]
  exact ⟨hlocked', hfencing⟩

theorem Transitions.later {run : RunRow × OsvRuntimeRunTransitionCommand}
    (h : Transitions sha256 s transaction run) (hprogress : LeaseProgress s s') :
    Transitions sha256 s' transaction run :=
  ⟨h.1, h.2.1, h.2.2.later hprogress.versions⟩

/-- A committed version of the lease row keeps the contract. -/
theorem keeps_putLease (hinv : LeaseInvariant sha256 s) {lease : Option LeaseRow}
    (hlease : ∀ row ∈ lease, fencingOf s.lease ≤ row.fencingToken) :
    s.versions <+: (s.putLease lease).versions ∧
      (s.putLease lease).versions.Pairwise
        (fun earlier later => fencingOf earlier ≤ fencingOf later) := by
  cases lease with
  | none => exact ⟨List.prefix_rfl, hinv.fencing⟩
  | some row =>
      have hfencing := hlease row rfl
      refine ⟨List.prefix_append _ _, ?_⟩
      change (s.versions ++ [some row]).Pairwise _
      refine List.pairwise_append.mpr ⟨hinv.fencing, List.pairwise_singleton _ _, ?_⟩
      intro version hversion later hlater
      rw [List.mem_singleton.mp hlater]
      -- the committed version is the last one so far
      rcases List.mem_append.mp hversion with hearlier | hcurrent
      · have hle := (List.pairwise_append.mp hinv.fencing).2.2 version hearlier s.lease
          (List.mem_singleton_self _)
        exact le_trans hle hfencing
      · rw [List.mem_singleton.mp hcurrent]
        exact hfencing

/-- A commit of versions that the transaction may commit keeps the contract. -/
theorem keeps_commit {now : Timestamptz} {lease : Option LeaseRow}
    {run : Option (RunRow × OsvRuntimeRunTransitionCommand)} {answer : Except SqlError Unit}
    (hinv : LeaseInvariant sha256 s) (hlease : ∀ row ∈ lease, Replaces s transaction row)
    (hrun : ∀ written ∈ run, Transitions sha256 s transaction written)
    (h : LeaseDatabase.exec (.commit transaction lease run) now s = some (answer, s')) :
    LeaseProgress s s' ∧ LeaseInvariant sha256 s' ∧
      (answer = .ok () → ∀ row ∈ lease, s'.lease = some row) := by
  unfold LeaseDatabase.exec at h
  dsimp only at h
  split at h
  · cases h
    exact ⟨LeaseProgress.refl s, hinv, nofun⟩
  · rename_i hopen
    have hopen' : transaction.number ∈ s.opened := by
      unfold LeaseDatabase.isOpen at hopen
      simpa using hopen
    cases h
    obtain ⟨hversions, hfencing⟩ := keeps_putLease hinv
      fun row hrow => ((hlease row hrow).2 hopen').2
    -- the run of the commit, if any, is recorded
    have hentries : s.transitions <+: ((s.putLease lease).putRun transaction run).transitions ∧
        ∀ entry ∈ ((s.putLease lease).putRun transaction run).transitions,
          Fenced sha256 s entry := by
      have hsame : (s.putLease lease).transitions = s.transitions := by
        cases lease <;> rfl
      cases run with
      | none =>
          change s.transitions <+: (s.putLease lease).transitions ∧
            ∀ entry ∈ (s.putLease lease).transitions, _
          rw [hsame]
          exact ⟨List.prefix_rfl, hinv.transitions⟩
      | some written =>
          change s.transitions <+: (s.putLease lease).transitions ++ [(transaction, written.2)] ∧
            ∀ entry ∈ (s.putLease lease).transitions ++ [(transaction, written.2)], _
          rw [hsame]
          refine ⟨List.prefix_append _ _, fun entry hentry => ?_⟩
          rcases List.mem_append.mp hentry with hearlier | hnew
          · exact hinv.transitions entry hearlier
          · rw [List.mem_singleton.mp hnew]
            exact (hrun written rfl).2.2
    have hversions' : (((s.putLease lease).putRun transaction run).close
        transaction.number).versions = (s.putLease lease).versions := by
      cases run <;> rfl
    have hbegun : (((s.putLease lease).putRun transaction run).close
        transaction.number).begun = s.begun := by
      cases run <;> cases lease <;> rfl
    have hopened : (((s.putLease lease).putRun transaction run).close
        transaction.number).opened = s.opened.filter (· ≠ transaction.number) := by
      cases run <;> cases lease <;> rfl
    refine ⟨⟨?_, ?_, ?_, hentries.1, ?_⟩, ⟨?_, ?_, ?_⟩, ?_⟩
    · rw [hversions']
      exact hversions
    · rw [hbegun]
    · -- another transaction that holds the lock would have kept this one from writing
      intro number hnumber hother
      rw [hopened] at hother
      obtain ⟨hother, hne⟩ := List.mem_filter.mp hother
      refine ⟨hother, fun hlock => ?_⟩
      have hnone : lease = none := by
        cases lease with
        | none => rfl
        | some row =>
            have hown := ((hlease row rfl).2 hopen').1
            rw [hlock] at hown
            exact absurd (Option.some.inj hown) (by simpa using hne)
      subst hnone
      have hlock' : ((s.putLease none).putRun transaction run).leaseLock = some number := by
        cases run <;> exact hlock
      refine ⟨?_, by cases run <;> rfl⟩
      change ((s.putLease none).putRun transaction run).leaseLock.filter _ = some number
      rw [hlock', Option.filter_some, if_pos hne]
    · intro row hrow hrequires
      have hruns : (s.putLease lease).runs = s.runs := by
        cases lease <;> rfl
      cases run with
      | none =>
          change row ∈ (s.putLease lease).runs at hrow
          rw [hruns] at hrow
          exact .inl ⟨row, hrow, rfl, rfl⟩
      | some written =>
          change row ∈ (s.putLease lease).runs.map
            (fun other => if other.id = written.1.id then written.1 else other) at hrow
          rw [hruns] at hrow
          obtain ⟨other, hother, hrow⟩ := List.mem_map.mp hrow
          split at hrow
          · subst hrow
            obtain ⟨hid, hstate, -⟩ := hrun written rfl
            refine .inr ⟨(transaction, written.2), ?_, hid.symm, hstate.symm⟩
            have hsame : (s.putLease lease).transitions = s.transitions := by
              cases lease <;> rfl
            change _ ∈ ((s.putLease lease).transitions ++ [(transaction, written.2)]).drop _
            rw [hsame, List.drop_left]
            exact List.mem_singleton_self _
          · subst hrow
            exact .inl ⟨other, hother, rfl, rfl⟩
    · intro number hnumber
      rw [hopened] at hnumber
      rw [hbegun]
      exact hinv.opened number (List.mem_filter.mp hnumber).1
    · rw [hversions']
      exact hfencing
    · intro entry hentry
      have hentry' : entry ∈ ((s.putLease lease).putRun transaction run).transitions := hentry
      refine (hentries.2 entry hentry').later ?_
      rw [hversions']
      exact hversions
    · intro _ row hrow
      cases hrow
      cases run <;> rfl

end

end PatchPilot.Osv
