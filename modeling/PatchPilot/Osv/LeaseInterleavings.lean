import PatchPilot.Osv.LeaseContract

set_option autoImplicit false

/-!
# Osv: lease calls at the same time

Acquire looks at the row for the owner and again for the time, and at the winner of an
insertion for the owner alone.  Whoever changes the row between the two reads makes the
answer of the second say something of another row.  Every other answer of the adapter
rests on a guarded update or on one read.
-/

namespace PatchPilot.Osv

open PatchPilot.Foundation

/-! ## Parts of a transaction -/

/-- A transaction has begun. -/
def Began (s : LeaseDatabase) (transaction : Transaction) : Prop :=
  transaction.number < s.begun ∧ transaction.since ≤ s.replaced.length

theorem Began.later {s s' : LeaseDatabase} {transaction : Transaction}
    (h : Began s transaction) (hprogress : LeaseProgress s s') : Began s' transaction := by
  refine ⟨lt_of_lt_of_le h.1 hprogress.begun, ?_⟩
  have hlength := hprogress.versions.length_le
  unfold LeaseDatabase.versions at hlength
  rw [List.length_append, List.length_append, List.length_singleton, List.length_singleton]
    at hlength
  have hsince := h.2
  omega

section

variable {sha256 : JsString → JsString} {allowed : Statement → LeaseDatabase → Prop}
  {α β : Type} {s : LeaseDatabase} {transaction : Transaction}

/-- A part of a transaction keeps the contract, and what it gives is as `post` says.
Nothing is asked of an SQL error. -/
def SqlSafe (sha256 : JsString → JsString) (allowed : Statement → LeaseDatabase → Prop)
    (post : α → LeaseDatabase → Prop) (part : Sql α) (s : LeaseDatabase) : Prop :=
  @Safe _ leaseOperations _ (leaseContract sha256) allowed
    (fun result s => ∀ value, result = .ok value → post value s) part.run s

variable {post : α → LeaseDatabase → Prop}

theorem SqlSafe.result {value : α}
    (h : ∀ s', LeaseProgress s s' → LeaseInvariant sha256 s' → post value s') :
    SqlSafe sha256 allowed post (pure value) s := by
  intro s' hprogress hinv value' hvalue
  cases hvalue
  exact h s' hprogress hinv

theorem SqlSafe.andThen {post' : β → LeaseDatabase → Prop} {part : Sql β} {next : β → Sql α}
    (hpart : SqlSafe sha256 allowed post' part s)
    (hnext : ∀ value s', LeaseProgress s s' → LeaseInvariant sha256 s' → post' value s' →
      SqlSafe sha256 allowed post (next value) s') :
    SqlSafe sha256 allowed post (part >>= next) s := by
  refine Safe.andThenFrom hpart fun result s' hprogress hinv hresult => ?_
  cases result with
  | ok value => exact hnext value s' hprogress hinv (hresult value rfl)
  | error error =>
      intro s'' _ _ value hvalue
      cases hvalue

/-- What may throw. -/
theorem SqlSafe.orThrow {result : Except SqlError β} {next : β → Sql α}
    (h : ∀ value, result = .ok value → SqlSafe sha256 allowed post (next value) s) :
    SqlSafe sha256 allowed post (orThrow result >>= next) s := by
  cases result with
  | ok value => exact h value rfl
  | error error =>
      intro s' _ _ value hvalue
      cases hvalue

end

/-! ## Statements -/

section

variable {sha256 : JsString → JsString} {allowed : Statement → LeaseDatabase → Prop}
  {s : LeaseDatabase} {transaction : Transaction}

/-- A statement that is no commit. -/
theorem safe_statement {statement : Statement}
    (hcommit : ∀ transaction lease run, statement ≠ .commit transaction lease run)
    {post : statement.Answer → LeaseDatabase → Prop}
    (h : ∀ s', LeaseProgress s s' → allowed statement s' → ∀ now answer s'',
      LeaseDatabase.exec statement now s' = some (answer, s'') →
        ∀ later, LeaseProgress s'' later → post answer later) :
    @Safe _ leaseOperations _ (leaseContract sha256) allowed post (perform statement) s := by
  intro s' hprogress hinv hallowed now answer s'' hexec
  obtain ⟨-, hstep, hinv'⟩ := keeps_exec hcommit hinv hexec
  exact ⟨hstep, hinv', fun later hlater _ =>
    h s' hprogress hallowed now answer s'' hexec later hlater⟩

/-- What a read of the lease row gave. -/
def WasRead (allowed : Statement → LeaseDatabase → Prop) (transaction : Transaction)
    (own : Option LeaseRow) (site : ReadSite) (result : Option LeaseRow) (s : LeaseDatabase) :
    Prop :=
  ∃ before, allowed (.selectLease transaction own site) before ∧ result = own.or before.lease ∧
    before.lease ∈ s.during transaction

theorem safe_loadLease {own : Option LeaseRow} {site : ReadSite} (hbegan : Began s transaction) :
    SqlSafe sha256 allowed (WasRead allowed transaction own site)
      (loadLease transaction own site) s := by
  refine @safe_statement _ _ _ (.selectLease transaction own site) (by rintro _ _ _ ⟨⟩) _
    fun s' hprogress hallowed now answer s'' hexec later hlater => ?_
  unfold LeaseDatabase.exec at hexec
  dsimp only at hexec
  split at hexec
  · cases hexec
    rintro value ⟨⟩
  · cases hexec
    intro value hvalue
    cases hvalue
    have hmem := lease_mem_during (hbegan.later hprogress).2
    exact ⟨s', hallowed, rfl, (hlater.versions.drop _).subset hmem⟩

/-- What a read of the lease row and of the time gave. -/
def WasTimed (allowed : Statement → LeaseDatabase → Prop) (transaction : Transaction)
    (own : Option LeaseRow) (site : ReadSite) (timed : Option (LeaseRow × Bool))
    (s : LeaseDatabase) : Prop :=
  ∃ row, WasRead allowed transaction own site row s ∧
    timed = row.map fun row => (row, decide (transaction.now < row.expiresAt))

theorem safe_loadLeaseWithDatabaseTime {own : Option LeaseRow} {site : ReadSite}
    (hbegan : Began s transaction) :
    SqlSafe sha256 allowed (WasTimed allowed transaction own site)
      (loadLeaseWithDatabaseTime transaction own site) s := by
  refine SqlSafe.andThen (safe_loadLease hbegan) fun row s' _ _ hread => ?_
  refine SqlSafe.result fun s'' hlater _ => ?_
  obtain ⟨before, hallowed, hrow, hmem⟩ := hread
  exact ⟨row, ⟨before, hallowed, hrow, (hlater.versions.drop _).subset hmem⟩, rfl⟩

theorem safe_selectRun {runId : JsString} :
    SqlSafe sha256 allowed (fun _ _ => True) (selectRun transaction runId) s :=
  @safe_statement _ _ _ (.selectRun transaction runId) (by rintro _ _ _ ⟨⟩) _
    fun _ _ _ _ _ _ _ _ _ _ _ => trivial

/-- A row that was inserted. -/
def Inserted (transaction : Transaction) (runId digest : JsString) (result : Option LeaseRow)
    (s : LeaseDatabase) : Prop :=
  ∀ row ∈ result, row = heldLeaseRow transaction.now runId digest ∧ Replaces s transaction row

/-- A row that passes is the one that was written. -/
theorem written_eq_ok {new : LeaseRow} {result : Option LeaseRow}
    (h : s.written new = .ok result) : result = some new := by
  unfold LeaseDatabase.written at h
  split at h
  · cases h
  · split at h
    · cases h
    · exact (Except.ok.inj h).symm

theorem safe_insertHeldLease {runId digest : JsString} (hbegan : Began s transaction) :
    SqlSafe sha256 allowed (Inserted transaction runId digest)
      (insertHeldLease transaction runId digest) s := by
  refine @safe_statement _ _ _ (.insertLease transaction runId digest) (by rintro _ _ _ ⟨⟩) _
    fun s' hprogress _ now answer s'' hexec later hlater => ?_
  unfold LeaseDatabase.exec at hexec
  dsimp only at hexec
  split at hexec
  · cases hexec
    rintro value ⟨⟩
  · split at hexec
    · cases hexec
      intro value hvalue row hrow
      cases hvalue
      cases hrow
    · rename_i hnone
      split at hexec
      · cases hexec
      · cases hexec
        intro value hvalue row hrow
        cases written_eq_ok hvalue
        cases hrow
        have hreplaces : Replaces (s'.lockLease transaction) transaction
            (heldLeaseRow transaction.now runId digest) := by
          refine ⟨(hbegan.later hprogress).1, fun _ => ⟨rfl, ?_⟩⟩
          change fencingOf s'.lease ≤ 1
          rw [hnone]
          exact Nat.zero_le 1
        exact ⟨rfl, hreplaces.later hlater⟩

/-- A row that was updated. -/
def Updated (transaction : Transaction) (update : LeaseUpdate) (result : Option LeaseRow)
    (s : LeaseDatabase) : Prop :=
  ∀ row ∈ result, (∃ old, update.isFor transaction.now old = true ∧
    row = update.set transaction.now old) ∧ Replaces s transaction row

/-- An update that passes the trigger does not lower the fencing token. -/
theorem updated_eq_ok {old new : LeaseRow} {result : Option LeaseRow}
    (h : s.updated old new = .ok result) :
    result = some new ∧ old.fencingToken ≤ new.fencingToken := by
  unfold LeaseDatabase.updated at h
  split at h
  · cases h
  · split at h
    · cases h
    · rename_i htrigger
      refine ⟨written_eq_ok h, ?_⟩
      have hpermits : old.triggerPermits new = true := by simpa using htrigger
      unfold LeaseRow.triggerPermits at hpermits
      simp only [Bool.and_eq_true, decide_eq_true_eq] at hpermits
      exact hpermits.1.2

theorem safe_updateLease {own : Option LeaseRow} {update : LeaseUpdate}
    (hbegan : Began s transaction) (hown : ∀ row ∈ own, Replaces s transaction row) :
    SqlSafe sha256 allowed (Updated transaction update) (updateLease transaction own update) s := by
  refine @safe_statement _ _ _ (.updateLease transaction own update) (by rintro _ _ _ ⟨⟩) _
    fun s' hprogress _ now answer s'' hexec later hlater => ?_
  unfold LeaseDatabase.exec at hexec
  dsimp only at hexec
  split at hexec
  · cases hexec
    rintro value ⟨⟩
  · rename_i hopen
    have hopen' : transaction.number ∈ s'.opened := by
      unfold LeaseDatabase.isOpen at hopen
      simpa using hopen
    split at hexec
    · cases hexec
      intro value hvalue row hrow
      cases hvalue
      cases hrow
    · rename_i old hold
      -- what the transaction wrote itself is not below what is committed
      have hfencing : fencingOf s'.lease ≤ old.fencingToken := by
        cases own with
        | none =>
            have hlease : s'.lease = some old := hold
            rw [hlease]
            exact le_refl _
        | some row =>
            cases hold
            exact (((hown old rfl).later hprogress).2 hopen').2
      split at hexec
      · cases hexec
        intro value hvalue row hrow
        cases hvalue
        cases hrow
      · rename_i hfor
        split at hexec
        · cases hexec
        · cases hexec
          intro value hvalue row hrow
          obtain ⟨hresult, hle⟩ := updated_eq_ok hvalue
          subst hresult
          cases hrow
          have hreplaces : Replaces (s'.lockLease transaction) transaction
              (update.set transaction.now old) :=
            ⟨(hbegan.later hprogress).1, fun _ => ⟨rfl, le_trans hfencing hle⟩⟩
          exact ⟨⟨old, by simpa using hfor, rfl⟩, hreplaces.later hlater⟩

/-- A run that was moved. -/
def Moved (command : OsvRuntimeRunTransitionCommand) (result : Option RunRow) : Prop :=
  ∀ row ∈ result, row.id = command.runId ∧ row.state = command.nextState

theorem safe_transitionRunRow {command : OsvRuntimeRunTransitionCommand} :
    SqlSafe sha256 allowed (fun result _ => Moved command result)
      (transitionRunRow transaction command) s := by
  refine @safe_statement _ _ _ (.updateRun transaction command) (by rintro _ _ _ ⟨⟩) _
    fun s' _ _ now answer s'' hexec later _ => ?_
  unfold LeaseDatabase.exec at hexec
  dsimp only at hexec
  split at hexec
  · cases hexec
    rintro value ⟨⟩
  · split at hexec
    · cases hexec
      intro value hvalue row hrow
      cases hvalue
      cases hrow
    · rename_i found hfind
      split at hexec
      · cases hexec
      · split at hexec
        · cases hexec
          intro value hvalue row hrow
          cases hvalue
          cases hrow
          have hfound := List.find?_some hfind
          simp only [Bool.and_eq_true, decide_eq_true_eq] at hfound
          exact ⟨hfound.1, rfl⟩
        · cases hexec
          rintro value ⟨⟩

end

/-! ## Transactions -/

/-- What the callback of a transaction may return: it may commit the versions that it wrote,
and once they are committed the reply is as `post` says. -/
structure Committable {α : Type} (sha256 : JsString → JsString)
    (post : CallReturn α → LeaseDatabase → Prop) (transaction : Transaction)
    (outcome : TransactionOutcome α) (s : LeaseDatabase) : Prop where
  lease : ∀ row ∈ outcome.lease, Replaces s transaction row
  run : ∀ written ∈ outcome.run, Transitions sha256 s transaction written
  reply : ∀ s', LeaseProgress s s' →
    (∀ row ∈ outcome.lease, some row ∈ s'.during transaction) →
      post ⟨some transaction, outcome.result⟩ s'

section

variable {sha256 : JsString → JsString} {allowed : Statement → LeaseDatabase → Prop} {α : Type}
  {post : CallReturn α → LeaseDatabase → Prop} {s : LeaseDatabase} {transaction : Transaction}

/-- A callback that wrote nothing. -/
theorem committable_wroteNothing {result : Except RejectionCode α}
    (h : ∀ s', LeaseProgress s s' → post ⟨some transaction, result⟩ s') :
    Committable sha256 post transaction (wroteNothing result) s where
  lease := by rintro _ ⟨⟩
  run := by rintro _ ⟨⟩
  reply := fun s' hprogress _ => h s' hprogress

/-- A callback that wrote a version of the lease row. -/
theorem committable_wroteLease {result : Except RejectionCode α} {row : LeaseRow}
    (hrow : Replaces s transaction row)
    (h : ∀ s', LeaseProgress s s' → some row ∈ s'.during transaction →
      post ⟨some transaction, result⟩ s') :
    Committable sha256 post transaction ⟨result, some row, none⟩ s where
  lease := fun row' hrow' => by
    cases hrow'
    exact hrow
  run := by rintro _ ⟨⟩
  reply := fun s' hprogress hduring => h s' hprogress (hduring row rfl)

theorem safe_begin :
    @Safe _ leaseOperations _ (leaseContract sha256) allowed
      (fun transaction s => Began s transaction) (perform .begin_) s := by
  refine @safe_statement _ _ _ .begin_ (by rintro _ _ _ ⟨⟩) _
    fun s' _ _ now answer s'' hexec later hlater => ?_
  unfold LeaseDatabase.exec at hexec
  dsimp only at hexec
  split at hexec
  · cases hexec
  · cases hexec
    have hbegan : Began ⟨s'.lease, s'.runs, now, s'.begun + 1, s'.begun :: s'.opened,
        s'.leaseLock, s'.runLocks, s'.replaced, s'.transitions⟩
        ⟨s'.begun, now, s'.replaced.length⟩ := ⟨Nat.lt_succ_self _, le_refl _⟩
    exact hbegan.later hlater

/-- A commit of what the transaction may commit. -/
theorem safe_commit {lease : Option LeaseRow}
    {run : Option (RunRow × OsvRuntimeRunTransitionCommand)} (hbegan : Began s transaction)
    (hlease : ∀ row ∈ lease, Replaces s transaction row)
    (hrun : ∀ written ∈ run, Transitions sha256 s transaction written) :
    @Safe _ leaseOperations _ (leaseContract sha256) allowed
      (fun (answer : Except SqlError Unit) s => answer = .ok () →
        ∀ row ∈ lease, some row ∈ s.during transaction)
      (perform (.commit transaction lease run)) s := by
  intro s' hprogress hinv _ now answer s'' hexec
  have hexec' : LeaseDatabase.exec (.commit transaction lease run) now s' = some (answer, s'') :=
    hexec
  obtain ⟨hstep, hinv', hcommitted⟩ := keeps_commit hinv
    (fun row hrow => (hlease row hrow).later hprogress)
    (fun written hwritten => (hrun written hwritten).later hprogress) hexec'
  refine ⟨hstep, hinv', fun later hlater _ hanswer row hrow => ?_⟩
  -- the committed version is the current one right after the commit
  have hmem := lease_mem_during (hbegan.later (hprogress.trans hstep)).2
  rw [hcommitted hanswer row hrow] at hmem
  exact (hlater.versions.drop _).subset hmem

/-- A call of one transaction is safe when its callback is. -/
theorem safe_runInTransaction {callback : Transaction → Sql (TransactionOutcome α)}
    (hfailed : ∀ transaction code s, post ⟨some transaction, .error code⟩ s)
    (h : ∀ transaction s', LeaseProgress s s' → Began s' transaction →
      SqlSafe sha256 allowed (Committable sha256 post transaction) (callback transaction) s') :
    @Safe _ leaseOperations _ (leaseContract sha256) allowed post (runInTransaction callback)
      s := by
  refine Safe.andThenFrom safe_begin fun transaction begun hprogress hinv hbegan => ?_
  refine Safe.andThenFrom (h transaction begun hprogress hbegan)
    fun result s' hprogress' _ hresult => ?_
  cases result with
  | error error =>
      have hrollback : @Safe _ leaseOperations _ (leaseContract sha256) allowed (fun _ _ => True)
          (perform (.rollback transaction)) s' :=
        @safe_statement _ _ _ (.rollback transaction) (by rintro _ _ _ ⟨⟩) _
          fun _ _ _ _ _ _ _ _ _ => trivial
      exact Safe.andThenFrom hrollback fun _ _ _ _ _ => Safe.done fun _ _ _ => hfailed _ _ _
  | ok outcome =>
      have houtcome := hresult outcome rfl
      refine Safe.andThenFrom
        (safe_commit (hbegan.later hprogress') houtcome.lease houtcome.run)
        fun answer s'' hprogress'' _ hanswer => ?_
      cases answer with
      | error error => exact Safe.done fun _ _ _ => hfailed _ _ _
      | ok done =>
          refine Safe.done fun final hfinal _ => ?_
          refine houtcome.reply final (hprogress''.trans hfinal) fun row hrow => ?_
          exact (hfinal.versions.drop _).subset (hanswer rfl row hrow)

end

/-! ## Acquire -/

/-- The lease is held by a run and a holder. -/
def LeaseRow.HeldBy (row : LeaseRow) (runId digest : JsString) : Prop :=
  row.state = .held ∧ row.runId = runId ∧ row.holderTokenDigest = digest

instance (row : LeaseRow) (runId digest : JsString) : Decidable (row.HeldBy runId digest) :=
  inferInstanceAs (Decidable (_ ∧ _ ∧ _))

/-- What acquire takes for granted of its reads.  After the owner's own expired row, an
unexpired one is still that of the owner, with the fencing token that was read; and a winner
of an insertion that is the owner's own is not expired. -/
def Steady : Statement → LeaseDatabase → Prop
  | .selectLease transaction own (.afterCurrent current runId digest), s =>
      current.HeldBy runId digest → current.expiresAt ≤ transaction.now →
        ∀ row ∈ own.or s.lease, transaction.now < row.expiresAt →
          row.HeldBy runId digest ∧ row.fencingToken = current.fencingToken
  | .selectLease transaction own (.winnerOfInsert runId digest), s =>
      ∀ row ∈ own.or s.lease, row.HeldBy runId digest → transaction.now < row.expiresAt
  | _, _ => True

instance decidableSteady : ∀ statement s, Decidable (Steady statement s)
  | .selectLease _ _ (.afterCurrent _ _ _), _ => inferInstanceAs (Decidable (_ → _ → _))
  | .selectLease _ _ (.winnerOfInsert _ _), _ =>
      inferInstanceAs (Decidable (∀ row ∈ _, _ → _))
  | .selectLease _ _ .elsewhere, _ => inferInstanceAs (Decidable True)
  | .begin_, _ => inferInstanceAs (Decidable True)
  | .selectRun _ _, _ => inferInstanceAs (Decidable True)
  | .insertLease _ _ _, _ => inferInstanceAs (Decidable True)
  | .updateLease _ _ _, _ => inferInstanceAs (Decidable True)
  | .updateRun _ _, _ => inferInstanceAs (Decidable True)
  | .commit _ _ _, _ => inferInstanceAs (Decidable True)
  | .rollback _, _ => inferInstanceAs (Decidable True)

section

variable {sha256 : JsString → JsString}

theorem fencingToken_of_projection {row : LeaseRow} {projection : OsvRuntimeLeaseProjection}
    (h : mapLeaseProjection row = .ok projection) :
    projection.fencingToken = decimalText row.fencingToken := by
  have htext : ∀ {n : Nat} {text : JsString}, bigintToLeaseInteger n = .ok text →
      text = decimalText n := by
    intro n text h
    unfold bigintToLeaseInteger at h
    split at h
    · cases h
    · exact (Except.ok.inj h).symm
  obtain ⟨revision, -, h⟩ := bind_eq_ok.mp h
  obtain ⟨fencing, hfencing, h⟩ := bind_eq_ok.mp h
  have hmade := mapError_eq_ok.mp h
  obtain ⟨leaseRevision, -, hmade⟩ := bind_eq_ok.mp hmade
  obtain ⟨fencingToken, hread, hmade⟩ := bind_eq_ok.mp hmade
  obtain ⟨runId, -, hmade⟩ := bind_eq_ok.mp hmade
  obtain ⟨acquiredAt, -, hmade⟩ := bind_eq_ok.mp hmade
  obtain ⟨heartbeatAt, -, hmade⟩ := bind_eq_ok.mp hmade
  obtain ⟨expiresAt, -, hmade⟩ := bind_eq_ok.mp hmade
  obtain ⟨releasedAt, -, hmade⟩ := bind_eq_ok.mp hmade
  cases hmade
  rw [htext hfencing] at hread
  exact readLeaseInteger_decimalText hread

theorem runId_of_created {runId holderToken leaseRevision fencingToken acquiredAt heartbeatAt
    expiresAt : JsString} {proof : OsvRuntimeLeaseOwnershipProof}
    (h : createOsvRuntimeLeaseOwnershipProofForOwner runId holderToken leaseRevision fencingToken
      acquiredAt heartbeatAt expiresAt = .ok proof) : proof.runId = toLowerCase runId := by
  obtain ⟨made, hmade, h⟩ := bind_eq_ok.mp h
  obtain ⟨token, -, h⟩ := bind_eq_ok.mp h
  obtain ⟨leaseRevision, -, h⟩ := bind_eq_ok.mp h
  obtain ⟨fencingToken, -, h⟩ := bind_eq_ok.mp h
  obtain ⟨acquiredAt, -, h⟩ := bind_eq_ok.mp h
  obtain ⟨heartbeatAt, -, h⟩ := bind_eq_ok.mp h
  obtain ⟨expiresAt, -, h⟩ := bind_eq_ok.mp h
  cases h
  unfold readUuid at hmade
  split at hmade
  · exact (Except.ok.inj hmade).symm
  · cases hmade

/-- The digest of a token that is read. -/
theorem digest_eq_ok {holderToken digest : JsString}
    (h : digestOsvRuntimeHolderToken sha256 holderToken = .ok digest) :
    digest = sha256 holderToken := by
  obtain ⟨parsed, hparsed, hdigest⟩ := bind_eq_ok.mp h
  unfold readHolderTokenUuidV4 at hparsed
  split at hparsed
  · rename_i hvalid
    rw [toLowerCase_holderToken hvalid] at hparsed
    cases hparsed
    exact (Except.ok.inj hdigest).symm
  · cases hparsed

/-- A proof of a row that its holder is given is a proof of that row. -/
theorem ownedBy_of_attached {row seen : LeaseRow} {runId holderToken digest : JsString}
    {projection : OsvRuntimeLeaseProjection} {proof : OsvRuntimeLeaseOwnershipProof}
    (hcanonical : toLowerCase runId = runId)
    (hdigest : digestOsvRuntimeHolderToken sha256 holderToken = .ok digest)
    (hheld : row.HeldBy runId digest) (hfencing : row.fencingToken = seen.fencingToken)
    (hprojection : mapLeaseProjection seen = .ok projection)
    (hproof : attachProof runId holderToken projection = .ok proof) :
    OwnedBy sha256 row proof := by
  unfold attachProof at hproof
  split at hproof
  · rw [fencingToken_of_projection hprojection] at hproof
    refine ⟨hheld.1, ?_, ⟨holderToken, holderToken_of_created hproof, ?_⟩, ?_⟩
    · rw [runId_of_created hproof, hcanonical]
      exact hheld.2.1
    · rw [hheld.2.2, digest_eq_ok hdigest]
    · rw [fencingToken_of_created hproof, hfencing]
  · cases hproof

/-- What acquire returns shows a proof that owned the lease in its transaction, if that is
wanted. -/
def Grants (sha256 : JsString → JsString) (want : Prop)
    (reply : CallReturn OsvRuntimeLeaseAcquireResult) (s : LeaseDatabase) : Prop :=
  want → ∀ result, reply.result = .ok result → ∀ proof ∈ result.proof,
    ∃ transaction, reply.transaction = some transaction ∧
      OwnedDuring sha256 s transaction proof

variable {want : Prop} {allowed : Statement → LeaseDatabase → Prop} {s : LeaseDatabase}
  {transaction : Transaction} {command : OsvRuntimeLeaseAcquirePersistenceCommand}
  {holderToken digest : JsString}

/-- A reply without a proof. -/
theorem grants_noProof {outcome : OsvRuntimeLeaseAcquireOutcome}
    {projection : OsvRuntimeLeaseProjection} :
    Grants sha256 want ⟨some transaction, .ok ⟨outcome, projection, none⟩⟩ s := by
  intro _ result hresult proof hproof
  cases hresult
  cases hproof

theorem grants_error {code : RejectionCode} :
    Grants sha256 want ⟨some transaction, .error code⟩ s := by
  rintro _ result ⟨⟩

/-- The answer that another holds the lease grants nothing. -/
theorem safe_heldByOther {row : LeaseRow} {own : Option LeaseRow}
    (hown : ∀ row ∈ own, Replaces s transaction row) :
    SqlSafe sha256 allowed (Committable sha256 (Grants sha256 want) transaction)
      (orThrow (heldByOther row) >>= fun result => pure ⟨result, own, none⟩) s := by
  refine SqlSafe.orThrow fun result hresult => SqlSafe.result fun s' hprogress _ => ?_
  obtain ⟨projection, -, hresult⟩ := bind_eq_ok.mp hresult
  cases hresult
  exact ⟨fun row hrow => (hown row hrow).later hprogress, by rintro _ ⟨⟩,
    fun _ _ _ => grants_noProof⟩

/-- The answer for a lease that is held: its proof is for the row that was seen. -/
theorem safe_heldByOtherOrSameOwner {current : LeaseRow}
    (hcanonical : toLowerCase command.runId = command.runId)
    (hdigest : digestOsvRuntimeHolderToken sha256 holderToken = .ok digest)
    (howned : want → current.HeldBy command.runId digest →
      ∃ row, some row ∈ s.during transaction ∧ row.HeldBy command.runId digest ∧
        row.fencingToken = current.fencingToken ∧ transaction.now < row.expiresAt) :
    SqlSafe sha256 allowed (Committable sha256 (Grants sha256 want) transaction)
      (orThrow (heldByOtherOrSameOwner current command.runId holderToken digest) >>=
        fun result => pure (wroteNothing result)) s := by
  refine SqlSafe.orThrow fun result hresult => SqlSafe.result fun s' hprogress _ => ?_
  refine committable_wroteNothing fun s'' hlater => ?_
  obtain ⟨projection, hprojection, hresult⟩ := bind_eq_ok.mp hresult
  split at hresult
  · rename_i hheld
    cases hresult
    intro hwant result hresult proof hproof
    obtain ⟨made, hmade, rfl⟩ := map_eq_ok.mp hresult
    cases hproof
    obtain ⟨row, hduring, hrow, hfencing, hexpires⟩ := howned hwant hheld
    refine ⟨transaction, rfl, row, ?_, ?_, hexpires⟩
    · exact ((hprogress.trans hlater).versions.drop _).subset hduring
    · exact ownedBy_of_attached hcanonical hdigest hrow hfencing hprojection hmade
  · cases hresult
    exact grants_noProof

/-- The answer for a row that the transaction wrote. -/
theorem safe_acquiredOutcome {outcome : OsvRuntimeLeaseAcquireOutcome} {row : LeaseRow}
    (hcanonical : toLowerCase command.runId = command.runId)
    (hdigest : digestOsvRuntimeHolderToken sha256 holderToken = .ok digest)
    (hheld : row.HeldBy command.runId digest) (hexpires : transaction.now < row.expiresAt)
    (hreplaces : Replaces s transaction row) :
    SqlSafe sha256 allowed (Committable sha256 (Grants sha256 want) transaction)
      (orThrow (acquiredOutcome outcome row holderToken) >>=
        fun result => pure ⟨result, some row, none⟩) s := by
  refine SqlSafe.orThrow fun result hresult => SqlSafe.result fun s' hprogress _ => ?_
  refine committable_wroteLease (hreplaces.later hprogress) fun s'' _ hduring => ?_
  obtain ⟨projection, hprojection, hresult⟩ := bind_eq_ok.mp hresult
  cases hresult
  intro _ result hresult proof hproof
  obtain ⟨made, hmade, rfl⟩ := map_eq_ok.mp hresult
  cases hproof
  rw [hheld.2.1] at hmade
  exact ⟨transaction, rfl, row, hduring,
    ownedBy_of_attached hcanonical hdigest hheld rfl hprojection hmade, hexpires⟩

/-- The answer of an update that found no row. -/
theorem safe_lostToWinner {own : Option LeaseRow} (hbegan : Began s transaction)
    (hown : ∀ row ∈ own, Replaces s transaction row) :
    SqlSafe sha256 allowed (Committable sha256 (Grants sha256 want) transaction)
      (lostToWinner transaction own) s := by
  refine SqlSafe.andThen (safe_loadLease hbegan) fun winner s' hprogress _ _ => ?_
  have hown' : ∀ row ∈ own, Replaces s' transaction row :=
    fun row hrow => (hown row hrow).later hprogress
  cases winner with
  | none =>
      refine SqlSafe.result fun s'' hlater _ => ?_
      exact ⟨fun row hrow => (hown' row hrow).later hlater, by rintro _ ⟨⟩,
        fun _ _ _ => grants_error⟩
  | some winner => exact safe_heldByOther hown'

theorem leaseTtl_pos : 0 < leaseTtl := by decide

/-- The update that holds the lease. -/
theorem safe_takeLease {own : Option LeaseRow} {takeover : Bool}
    {expectedRevision expectedFencing : Nat}
    (hcanonical : toLowerCase command.runId = command.runId)
    (hdigest : digestOsvRuntimeHolderToken sha256 holderToken = .ok digest)
    (hbegan : Began s transaction) (hown : ∀ row ∈ own, Replaces s transaction row) :
    SqlSafe sha256 allowed (Committable sha256 (Grants sha256 want) transaction)
      (takeLease transaction own takeover command.runId holderToken digest expectedRevision
        expectedFencing) s := by
  refine SqlSafe.andThen (safe_updateLease hbegan hown) fun updated s' hprogress _ hupdated => ?_
  cases updated with
  | none =>
      exact safe_lostToWinner (hbegan.later hprogress)
        fun row hrow => (hown row hrow).later hprogress
  | some row =>
      obtain ⟨⟨old, -, hset⟩, hreplaces⟩ := hupdated row rfl
      refine safe_acquiredOutcome hcanonical hdigest ?_ ?_ hreplaces
      · rw [hset]
        exact ⟨rfl, rfl, rfl⟩
      · rw [hset]
        exact lt_add_of_pos_right _ leaseTtl_pos

/-- An existing lease.  Where the second read is steady, the row that it shows is held by
the owner of the row that was read first. -/
theorem safe_mutateExistingLease {current : LeaseRow}
    (hsteady : want → ∀ statement s, allowed statement s → Steady statement s)
    (hcanonical : toLowerCase command.runId = command.runId)
    (hdigest : digestOsvRuntimeHolderToken sha256 holderToken = .ok digest)
    (hbegan : Began s transaction) (hcurrent : some current ∈ s.during transaction) :
    SqlSafe sha256 allowed (Committable sha256 (Grants sha256 want) transaction)
      (mutateExistingLease transaction current command holderToken digest) s := by
  have hnone : ∀ {s' : LeaseDatabase}, ∀ row ∈ (none : Option LeaseRow),
      Replaces s' transaction row := by
    rintro s' row ⟨⟩
  refine SqlSafe.andThen (safe_loadLeaseWithDatabaseTime hbegan)
    fun timed s' hprogress _ htimed => ?_
  obtain ⟨row, ⟨before, hallowed, hrow, hmem⟩, htimed⟩ := htimed
  dsimp only
  split
  · -- the row is held, and the second read says that it is not expired
    rename_i hheld
    refine safe_heldByOtherOrSameOwner hcanonical hdigest fun hwant howner => ?_
    obtain ⟨hstate, hunexpired⟩ := hheld
    rw [hstate, htimed] at hunexpired
    cases row with
    | none => simp at hunexpired
    | some visible =>
        have hexpires : transaction.now < visible.expiresAt := by simpa using hunexpired
        have hlease : before.lease = some visible := hrow.symm
        by_cases hcase : transaction.now < current.expiresAt
        · exact ⟨current, (hprogress.versions.drop _).subset hcurrent, howner, rfl, hcase⟩
        · obtain ⟨hvisible, hfencing⟩ := hsteady hwant _ _ hallowed howner
            (le_of_not_gt hcase) visible hlease hexpires
          rw [hlease] at hmem
          exact ⟨visible, hmem, hvisible, hfencing, hexpires⟩
  · refine SqlSafe.orThrow fun rowRevision _ => SqlSafe.orThrow fun fencingToken _ => ?_
    have hbegan' := hbegan.later hprogress
    split
    · exact safe_heldByOther hnone
    · split
      · refine SqlSafe.andThen (safe_updateLease hbegan' hnone)
          fun bumped s'' hlater _ hbumped => ?_
        cases bumped with
        | none => exact safe_lostToWinner (hbegan'.later hlater) hnone
        | some released =>
            refine safe_takeLease hcanonical hdigest (hbegan'.later hlater) fun row hrow => ?_
            exact (hbumped row hrow).2
      · exact safe_takeLease hcanonical hdigest hbegan' hnone

/-- The callback of acquire. -/
theorem safe_acquireIn
    (hsteady : want → ∀ statement s, allowed statement s → Steady statement s)
    (hdigest : digestOsvRuntimeHolderToken sha256 holderToken = .ok digest)
    (hbegan : Began s transaction) :
    SqlSafe sha256 allowed (Committable sha256 (Grants sha256 want) transaction)
      (acquireIn command holderToken digest transaction) s := by
  have hfailed : ∀ {s' : LeaseDatabase} {code : RejectionCode},
      SqlSafe sha256 allowed (Committable sha256 (Grants sha256 want) transaction)
        (pure (wroteNothing (.error code))) s' :=
    SqlSafe.result fun _ _ _ => committable_wroteNothing fun _ _ => grants_error
  refine SqlSafe.andThen safe_selectRun fun run s₁ h₁ _ _ => ?_
  have hbegan₁ := hbegan.later h₁
  cases run with
  | none => exact hfailed
  | some run =>
      dsimp only
      split
      · exact hfailed
      · split
        · exact hfailed
        · refine SqlSafe.andThen (safe_loadLease hbegan₁) fun current s₂ h₂ _ hread => ?_
          have hbegan₂ := hbegan₁.later h₂
          cases current with
          | some current =>
              obtain ⟨before, -, hrow, hmem⟩ := hread
              have hlease : before.lease = some current := hrow.symm
              rw [hlease] at hmem
              exact safe_mutateExistingLease hsteady command.canonical hdigest hbegan₂ hmem
          | none =>
              refine SqlSafe.andThen (safe_insertHeldLease hbegan₂)
                fun inserted s₃ h₃ _ hinserted => ?_
              cases inserted with
              | some row =>
                  obtain ⟨hrow, hreplaces⟩ := hinserted row rfl
                  refine safe_acquiredOutcome command.canonical hdigest ?_ ?_ hreplaces
                  · rw [hrow]
                    exact ⟨rfl, rfl, rfl⟩
                  · rw [hrow]
                    exact lt_add_of_pos_right _ leaseTtl_pos
              | none =>
                  refine SqlSafe.andThen (safe_loadLease (hbegan₂.later h₃))
                    fun winner s₄ _ _ hwinner => ?_
                  cases winner with
                  | none => exact hfailed
                  | some winner =>
                      refine safe_heldByOtherOrSameOwner command.canonical hdigest
                        fun hwant howner => ?_
                      obtain ⟨before, hallowed, hrow, hmem⟩ := hwinner
                      have hlease : before.lease = some winner := hrow.symm
                      have hexpires := hsteady hwant _ _ hallowed winner hlease howner
                      rw [hlease] at hmem
                      exact ⟨winner, hmem, howner, rfl, hexpires⟩

/-- An acquire. -/
theorem safe_acquire
    (hsteady : want → ∀ statement s, allowed statement s → Steady statement s) :
    @Safe _ leaseOperations _ (leaseContract sha256) allowed (Grants sha256 want)
      (acquire sha256 command) s := by
  have hfailed : ∀ code, @Safe _ leaseOperations _ (leaseContract sha256) allowed
      (Grants sha256 want) (failed code) s :=
    fun code => Safe.done fun _ _ _ _ _ => by rintro ⟨⟩
  unfold acquire
  split
  · exact hfailed _
  · rename_i holderToken _
    split
    · exact hfailed _
    · rename_i digest hdigest
      refine safe_runInTransaction (fun _ _ _ => grants_error) fun transaction s' _ hbegan => ?_
      exact safe_acquireIn hsteady hdigest hbegan

end

/-! ## Heartbeat, release and ownership -/

/-- Whatever is returned. -/
def Anything {α : Type} (_ : α) (_ : LeaseDatabase) : Prop := True

section

variable {sha256 : JsString → JsString} {allowed : Statement → LeaseDatabase → Prop}
  {s : LeaseDatabase} {transaction : Transaction} {α : Type}

/-- A callback that ends without a write. -/
theorem safe_wroteNothing {result : Except RejectionCode α} :
    SqlSafe sha256 allowed (Committable sha256 Anything transaction)
      (pure (wroteNothing result)) s :=
  SqlSafe.result fun _ _ _ => committable_wroteNothing fun _ _ => trivial

/-- A callback that ends with a version of the lease row. -/
theorem safe_wroteLease {result : Except RejectionCode α} {row : LeaseRow}
    (hrow : Replaces s transaction row) :
    SqlSafe sha256 allowed (Committable sha256 Anything transaction)
      (pure ⟨result, some row, none⟩) s :=
  SqlSafe.result fun _ hprogress _ =>
    committable_wroteLease (hrow.later hprogress) fun _ _ _ => trivial

theorem hown_none {s : LeaseDatabase} :
    ∀ row ∈ (none : Option LeaseRow), Replaces s transaction row := by
  rintro row ⟨⟩

theorem safe_heartbeatIn {proof : OsvRuntimeLeaseOwnershipProof} {presented digest : JsString}
    (hbegan : Began s transaction) :
    SqlSafe sha256 allowed (Committable sha256 Anything transaction)
      (heartbeatIn proof presented digest transaction) s := by
  refine SqlSafe.andThen (safe_updateLease hbegan hown_none) fun updated s₁ h₁ _ hupdated => ?_
  cases updated with
  | some row => exact SqlSafe.orThrow fun _ _ => safe_wroteLease (hupdated row rfl).2
  | none =>
      have hbegan₁ := hbegan.later h₁
      refine SqlSafe.andThen (safe_loadLease hbegan₁) fun current s₂ h₂ _ _ => ?_
      cases current with
      | none => exact safe_wroteNothing
      | some current =>
          refine SqlSafe.orThrow fun projection _ => ?_
          split
          · exact safe_wroteNothing
          · refine SqlSafe.andThen (safe_loadLeaseWithDatabaseTime (hbegan₁.later h₂))
              fun timed s₃ _ _ _ => ?_
            dsimp only
            split
            all_goals exact safe_wroteNothing

theorem safe_releaseIn {proof : OsvRuntimeLeaseOwnershipProof}
    {reason : OsvRuntimeLeaseReleaseReason} {digest : JsString} (hbegan : Began s transaction) :
    SqlSafe sha256 allowed (Committable sha256 Anything transaction)
      (releaseIn proof reason digest transaction) s := by
  refine SqlSafe.andThen (safe_loadLease hbegan) fun current s₁ h₁ _ _ => ?_
  cases current with
  | none => exact safe_wroteNothing
  | some current =>
      refine SqlSafe.orThrow fun projection _ => ?_
      dsimp only
      split
      · split
        · exact safe_wroteNothing
        · split
          all_goals exact safe_wroteNothing
      · split
        · exact safe_wroteNothing
        · split
          · exact safe_wroteNothing
          · split
            · exact safe_wroteNothing
            · refine SqlSafe.andThen (safe_updateLease (hbegan.later h₁) hown_none)
                fun updated s₂ _ _ hupdated => ?_
              cases updated with
              | none => exact safe_wroteNothing
              | some row => exact SqlSafe.orThrow fun _ _ => safe_wroteLease (hupdated row rfl).2

/-- A proof that is current when it is inspected owned the lease in its transaction. -/
theorem safe_inspectOwnership {proof : OsvRuntimeLeaseOwnershipProof} {expectedRunId : JsString}
    (hbegan : Began s transaction) :
    SqlSafe sha256 allowed
      (fun result s => result = .ok .current →
        proof.runId = expectedRunId ∧ OwnedDuring sha256 s transaction proof)
      (inspectOwnership sha256 transaction proof expectedRunId) s := by
  have hother : ∀ {result : Except RejectionCode OsvRuntimeOwnershipInspection}
      {s' : LeaseDatabase}, result ≠ .ok .current →
      SqlSafe sha256 allowed
        (fun result s => result = .ok .current →
          proof.runId = expectedRunId ∧ OwnedDuring sha256 s transaction proof)
        (pure result) s' :=
    fun hne => SqlSafe.result fun _ _ _ h => absurd h hne
  refine SqlSafe.andThen (safe_loadLeaseWithDatabaseTime hbegan) fun timed s₁ h₁ _ htimed => ?_
  obtain ⟨row, ⟨before, -, hrow, hmem⟩, htimed⟩ := htimed
  cases row with
  | none =>
      cases htimed
      exact hother (by rintro ⟨⟩)
  | some row =>
      rw [Option.map_some] at htimed
      subst htimed
      dsimp only
      have hlease : before.lease = some row := hrow.symm
      rw [hlease] at hmem
      split
      · exact hother (by rintro ⟨⟩)
      · rename_i hreleased
        split
        · exact hother (by rintro ⟨⟩)
        · rename_i presented hpresented
          split
          · exact hother (by rintro ⟨⟩)
          · rename_i digest hdigest
            split
            · exact hother (by rintro ⟨⟩)
            · split
              · exact hother (by rintro ⟨⟩)
              · rename_i hruns
                split
                · exact hother (by rintro ⟨⟩)
                · rename_i hholder
                  refine SqlSafe.orThrow fun projection hprojection => ?_
                  split
                  · exact hother (by rintro ⟨⟩)
                  · rename_i hfencing
                    split
                    · exact hother (by rintro ⟨⟩)
                    · rename_i hexpires
                      refine SqlSafe.result fun s' hlater _ _ => ?_
                      push Not at hruns hholder hfencing
                      have hstate : row.state = .held := by
                        cases hcase : row.state with
                        | held => rfl
                        | released => exact absurd hcase hreleased
                      refine ⟨hruns.1, row, (hlater.versions.drop _).subset hmem, ?_,
                        by simpa using hexpires⟩
                      refine ⟨hstate, hruns.2.trans hruns.1.symm, ⟨presented, hpresented, ?_⟩, ?_⟩
                      · rw [← hholder, digest_eq_ok hdigest]
                      · rw [hfencing, fencingToken_of_projection hprojection]

/-! ## Transitions of a run -/

theorem safe_reloadTransition {command : OsvRuntimeRunTransitionCommand} :
    SqlSafe sha256 allowed (fun _ _ => True) (reloadTransition transaction command) s := by
  refine SqlSafe.andThen safe_selectRun fun existing s₁ _ _ _ => ?_
  cases existing with
  | none => exact SqlSafe.result fun _ _ _ => trivial
  | some run =>
      dsimp only
      split
      · exact SqlSafe.result fun _ _ _ => trivial
      · split
        all_goals exact SqlSafe.result fun _ _ _ => trivial

/-- The update of the run, with the ownership that was checked. -/
theorem safe_transitionOwned {command : OsvRuntimeRunTransitionCommand}
    (hfenced : Fenced sha256 s (transaction, command)) :
    SqlSafe sha256 allowed (Committable sha256 Anything transaction)
      (transitionOwned command transaction) s := by
  refine SqlSafe.andThen safe_transitionRunRow fun updated s₁ h₁ _ hmoved => ?_
  cases updated with
  | none => exact SqlSafe.andThen safe_reloadTransition fun _ _ _ _ _ => safe_wroteNothing
  | some run =>
      obtain ⟨hid, hstate⟩ := hmoved run rfl
      refine SqlSafe.result fun s' h' _ => ⟨by rintro _ ⟨⟩, ?_, fun _ _ _ => trivial⟩
      intro written hwritten
      cases hwritten
      exact ⟨hid, hstate, hfenced.later (h₁.versions.trans h'.versions)⟩

theorem safe_transitionIn {command : OsvRuntimeRunTransitionCommand}
    (hproof : requiresOwnership command.nextState = true → command.proof ≠ none)
    (hbegan : Began s transaction) :
    SqlSafe sha256 allowed (Committable sha256 Anything transaction)
      (transitionIn sha256 command transaction) s := by
  unfold transitionIn
  split
  · rename_i proof _ hpresented
    refine SqlSafe.andThen (safe_inspectOwnership hbegan) fun ownership s₁ _ _ howned => ?_
    split
    · exact safe_wroteNothing
    · obtain ⟨hrun, hduring⟩ := howned rfl
      exact safe_transitionOwned fun _ => ⟨proof, hpresented, hrun, hduring⟩
    · exact safe_wroteNothing
  · rename_i hnot
    refine safe_transitionOwned fun hrequires => ?_
    cases hpresented : command.proof with
    | none => exact absurd hpresented (hproof hrequires)
    | some proof => exact absurd hpresented (hnot proof hrequires)

end

/-! ## Runs -/

/-- What a call promises of its reply. -/
def Promised (sha256 : JsString → JsString) (want : Prop) : LeaseReply → LeaseDatabase → Prop
  | .acquire reply, s => Grants sha256 want reply s
  | _, _ => True

/-- A database at rest: no transaction is open, and the record begins. -/
structure LeaseDatabase.Quiet (s : LeaseDatabase) : Prop where
  opened : s.opened = []
  leaseLock : s.leaseLock = none
  runLocks : s.runLocks = []
  replaced : s.replaced = []
  transitions : s.transitions = []

section

variable {sha256 : JsString → JsString} {allowed : Statement → LeaseDatabase → Prop}
  {want : Prop} {s : LeaseDatabase}

/-- Every call keeps the contract. -/
theorem safe_leaseProgram
    (hsteady : want → ∀ statement s, allowed statement s → Steady statement s)
    (request : LeaseRequest) :
    @Safe _ leaseOperations _ (leaseContract sha256) allowed (Promised sha256 want)
      (leaseProgram sha256 request) s := by
  have hfailed : ∀ {α : Type} (code : RejectionCode),
      @Safe _ leaseOperations (CallReturn α) (leaseContract sha256) allowed Anything
        (failed code) s :=
    fun _ => Safe.done fun _ _ _ => trivial
  cases request with
  | acquire command =>
      refine Safe.map (?_ : ∀ reply s, Grants sha256 want reply s → _) (safe_acquire hsteady)
      exact fun _ _ h => h
  | heartbeat proof =>
      refine Safe.map (fun _ _ _ => trivial) (?_ : Safe _ _ Anything _ _)
      unfold heartbeat
      split
      · exact hfailed _
      · split
        · exact hfailed _
        · exact safe_runInTransaction (fun _ _ _ => trivial)
            fun _ _ _ hbegan => safe_heartbeatIn hbegan
  | release proof reason =>
      refine Safe.map (fun _ _ _ => trivial) (?_ : Safe _ _ Anything _ _)
      unfold release
      split
      · exact hfailed _
      · split
        · exact hfailed _
        · exact safe_runInTransaction (fun _ _ _ => trivial)
            fun _ _ _ hbegan => safe_releaseIn hbegan
  | validateOwnership proof expectedRunId =>
      refine Safe.map (fun _ _ _ => trivial) (?_ : Safe _ _ Anything _ _)
      refine safe_runInTransaction (fun _ _ _ => trivial) fun _ _ _ hbegan => ?_
      exact SqlSafe.andThen (safe_inspectOwnership hbegan) fun _ _ _ _ _ => safe_wroteNothing
  | transition command =>
      refine Safe.map (fun _ _ _ => trivial) (?_ : Safe _ _ Anything _ _)
      unfold transition
      split
      · exact hfailed _
      · split
        · exact hfailed _
        · rename_i hproof
          refine safe_runInTransaction (fun _ _ _ => trivial) fun _ _ _ hbegan => ?_
          exact safe_transitionIn (fun hrequires hnone => hproof ⟨hrequires, hnone⟩) hbegan

/-- What else happens keeps the contract. -/
theorem keeps_event {event : LeaseEvent} {s' : LeaseDatabase} (h : event.apply s = some s')
    (hinv : LeaseInvariant sha256 s) : LeaseProgress s s' ∧ LeaseInvariant sha256 s' := by
  cases event with
  | abort number =>
      cases h
      exact keeps_close hinv number
  | ensureRun run =>
      unfold LeaseEvent.apply at h
      dsimp only at h
      split at h
      · rename_i hplanned
        cases h
        refine ⟨⟨List.prefix_rfl, le_refl _, fun _ _ hopen => ⟨hopen, fun hlock => ⟨hlock, rfl⟩⟩,
          List.prefix_rfl, fun row hrow hrequires => ?_⟩, ⟨hinv.opened, hinv.fencing,
          hinv.transitions⟩⟩
        rcases List.mem_cons.mp hrow with rfl | hrow
        · rw [hplanned.1] at hrequires
          cases hrequires
        · exact .inl ⟨row, hrow, rfl, rfl⟩
      · cases h

/-- A database at rest satisfies the invariant. -/
theorem LeaseDatabase.Quiet.invariant (h : s.Quiet) : LeaseInvariant sha256 s where
  opened := by
    rw [h.opened]
    rintro number ⟨⟩
  fencing := by
    unfold LeaseDatabase.versions
    rw [h.replaced]
    exact List.pairwise_singleton _ _
  transitions := by
    rw [h.transitions]
    rintro entry ⟨⟩

/-- A run from a database at rest keeps the contract. -/
theorem sound_run (hquiet : s.Quiet)
    (hsteady : want → ∀ statement s, allowed statement s → Steady statement s)
    {happenings : List (Happening Timestamptz LeaseRequest LeaseEvent)}
    {final : (leaseSystem sha256).Pool}
    (hrun : ((leaseSystem sha256).idle s).run happenings = some final)
    (hpermits : ((leaseSystem sha256).idle s).PermitsAll allowed happenings) :
    LeaseProgress s final.state ∧
      final.Sound (leaseContract sha256) allowed fun _ => Promised sha256 want :=
  Interleaving.Pool.Sound.run (fun request _ _ => safe_leaseProgram hsteady request)
    (fun _ _ _ hevent hinv => keeps_event hevent hinv)
    (Interleaving.Pool.sound_idle hquiet.invariant) hpermits hrun

end

end PatchPilot.Osv
