import PatchPilot.Osv.LeaseInterleavings

set_option autoImplicit false

/-!
# Osv: who owned the lease

The proof of an acquire shows an ownership that the lease row had during the call, as long
as no one takes the lease between the two reads of the call.  A transition of a run shows an
ownership that the row had during its transaction, at the read of the ownership; a takeover
that is committed between this read and the update of the run does not stop it.
-/

namespace PatchPilot.Osv

open PatchPilot.Foundation

/-! ## Replies -/

/-- The proof that an acquire returns. -/
def LeaseReply.acquiredProof : LeaseReply → Option OsvRuntimeLeaseOwnershipProof
  | .acquire ⟨_, .ok result⟩ => result.proof
  | _ => none

/-- The transaction of a call. -/
def LeaseReply.transaction : LeaseReply → Option Transaction
  | .acquire reply => reply.transaction
  | .heartbeat reply => reply.transaction
  | .release reply => reply.transaction
  | .validateOwnership reply => reply.transaction
  | .transition reply => reply.transaction

instance (sha256 : JsString → JsString) (row : LeaseRow) (proof : OsvRuntimeLeaseOwnershipProof) :
    Decidable (OwnedBy sha256 row proof) :=
  decidable_of_iff
    (row.state = .held ∧ row.runId = proof.runId ∧
      (∃ token ∈ proof.holderToken, row.holderTokenDigest = sha256 token) ∧
        proof.fencingToken = decimalText row.fencingToken)
    ⟨fun ⟨state, runId, holder, fencing⟩ => ⟨state, runId, holder, fencing⟩,
      fun h => ⟨h.state, h.runId, h.holder, h.fencing⟩⟩

instance (sha256 : JsString → JsString) (s : LeaseDatabase) (transaction : Transaction)
    (proof : OsvRuntimeLeaseOwnershipProof) :
    Decidable (OwnedDuring sha256 s transaction proof) :=
  decidable_of_iff
    (∃ version ∈ s.during transaction, ∃ row ∈ version,
      OwnedBy sha256 row proof ∧ transaction.now < row.expiresAt)
    ⟨fun ⟨_, hversion, row, hrow, howned⟩ => by
      cases hrow
      exact ⟨row, hversion, howned⟩,
      fun ⟨row, hrow, howned⟩ => ⟨some row, hrow, row, rfl, howned⟩⟩

instance (sha256 : JsString → JsString) (pool : (leaseSystem sha256).Pool)
    (happenings : List (Happening Timestamptz LeaseRequest LeaseEvent)) :
    Decidable (pool.PermitsAll Steady happenings) :=
  @Interleaving.decidablePermitsAll _ _ _ _ (leaseSystem sha256) Steady decidableSteady happenings
    pool

/-! ## Acquire -/

section

variable (sha256 : JsString → JsString) {s : LeaseDatabase}
  {happenings : List (Happening Timestamptz LeaseRequest LeaseEvent)}
  {final : (leaseSystem sha256).Pool}

/-- In a run whose reads are steady, the proof of an acquire owned the lease during the
call. -/
theorem acquired_proof_owned (hquiet : s.Quiet)
    (hrun : ((leaseSystem sha256).idle s).run happenings = some final)
    (hsteady : ((leaseSystem sha256).idle s).PermitsAll Steady happenings) {process : Nat}
    {request : LeaseRequest} {reply : LeaseReply}
    (hreturned : final.Returned process request reply) {proof : OsvRuntimeLeaseOwnershipProof}
    (hproof : reply.acquiredProof = some proof) :
    ∃ transaction, reply.transaction = some transaction ∧
      OwnedDuring sha256 final.state transaction proof := by
  obtain ⟨-, hsound⟩ := @sound_run _ Steady True _ hquiet (fun _ _ _ h => h) _ _ hrun hsteady
  have hpromised := hsound.returned hreturned
  unfold LeaseReply.acquiredProof at hproof
  split at hproof
  · exact hpromised trivial _ rfl proof hproof
  · cases hproof

end

namespace Samples

/-- The holder token with one letter. -/
def token (letter : Char) : JsString :=
  List.replicate 8 (unit letter) ++ unit '-' :: List.replicate 4 (unit letter) ++
    js "-4" ++ List.replicate 3 (unit letter) ++ js "-8" ++ List.replicate 3 (unit letter) ++
    unit '-' :: List.replicate 12 (unit letter)

/-- A digest that keeps tokens of one letter apart. -/
def hash (s : JsString) : JsString := List.replicate 64 (s.headD (unit '0'))

def firstRun : JsString := js "11111111-1111-1111-8111-111111111111"

def secondRun : JsString := js "22222222-2222-2222-8222-222222222222"

def runRow (id : JsString) : RunRow :=
  { (default : RunRow) with
    id, leaseScope := osvRuntimeLeaseScopeIdentifier, state := .waitingForLease }

def command (runId : JsString) (letter : Char) (h : toLowerCase runId = runId) :
    OsvRuntimeLeaseAcquirePersistenceCommand where
  runId
  holderToken := some (token letter)
  expectedLeaseRevision := none
  expectedFencingToken := none
  canonical := h

def first : LeaseRequest := .acquire (command firstRun 'a' (by decide))

def second : LeaseRequest := .acquire (command secondRun 'b' (by decide))

/-- Two runs wait for the lease. -/
def database (lease : Option LeaseRow) : LeaseDatabase :=
  { (default : LeaseDatabase) with lease, runs := [runRow firstRun, runRow secondRun] }

theorem quiet_database (lease : Option LeaseRow) : (database lease).Quiet :=
  ⟨rfl, rfl, rfl, rfl, rfl⟩

def calls (process : Nat) (now : Timestamptz) (n : Nat) :
    List (Happening Timestamptz LeaseRequest LeaseEvent) :=
  List.replicate n (.call process now)

/-- The first acquires the lease, and the second finds it held. -/
def taken : List (Happening Timestamptz LeaseRequest LeaseEvent) :=
  .start 0 first :: calls 0 0 5 ++ .start 1 second :: calls 1 1 5

/-- The first holds the lease until it is expired, and acquires it again.  Between the two
reads the second takes it. -/
def lost : List (Happening Timestamptz LeaseRequest LeaseEvent) :=
  .start 0 first :: calls 0 0 5 ++ .start 1 first :: calls 1 leaseTtl 3 ++
    .start 2 second :: calls 2 leaseTtl 6 ++ calls 1 leaseTtl 2

end Samples

open Samples in
/-- A proof of an acquire that owned the lease during the call. -/
theorem acquired_proof_owned_sample :
    ∃ final ∈ ((leaseSystem hash).idle (database none)).run taken, ∃ reply ∈ final.result 0,
      ∃ proof ∈ reply.acquiredProof, ∃ transaction, reply.transaction = some transaction ∧
        OwnedDuring hash final.state transaction proof := by
  obtain ⟨final, hrun, reply, hreply, proof, hproof, -⟩ :
      ∃ final ∈ ((leaseSystem hash).idle (database none)).run taken, ∃ reply ∈ final.result 0,
        ∃ proof ∈ reply.acquiredProof, True := by
    decide +kernel
  obtain ⟨request, hreturned⟩ := Interleaving.Pool.returned_of_result hreply
  exact ⟨final, hrun, reply, hreply, proof, hproof,
    acquired_proof_owned hash (quiet_database none) hrun (by decide +kernel) hreturned hproof⟩

open Samples in
/-- The proof of an acquire that finds its own lease, although it has lost it. -/
theorem acquired_proof_not_owned :
    ∃ final ∈ ((leaseSystem hash).idle (database none)).run lost, ∃ reply ∈ final.result 1,
      ∃ proof ∈ reply.acquiredProof, ∃ transaction ∈ reply.transaction,
        ¬ OwnedDuring hash final.state transaction proof := by
  decide +kernel

/-! ## Transitions of a run -/

section

variable (sha256 : JsString → JsString) {s : LeaseDatabase}
  {happenings : List (Happening Timestamptz LeaseRequest LeaseEvent)}
  {final : (leaseSystem sha256).Pool}

/-- A version that was there when a transaction began is not fenced above one that was there
later. -/
theorem fencing_le_of_during (hinv : LeaseInvariant sha256 s) {transaction : Transaction}
    {row : LeaseRow} (hrow : some row ∈ s.during transaction) {version : Option LeaseRow}
    (hversion : version ∈ s.versions.take (transaction.since + 1)) :
    fencingOf version ≤ row.fencingToken := by
  obtain ⟨i, hi, hrowAt⟩ := List.getElem_of_mem hrow
  obtain ⟨j, hj, hversionAt⟩ := List.getElem_of_mem hversion
  unfold LeaseDatabase.during at hi hrowAt
  rw [List.getElem_drop] at hrowAt
  rw [List.getElem_take] at hversionAt
  rw [List.length_take] at hj
  rw [List.length_drop] at hi
  have hle : j ≤ transaction.since + i := by omega
  rcases Nat.lt_or_eq_of_le hle with hlt | heq
  · have hpair := List.pairwise_iff_getElem.mp hinv.fencing j (transaction.since + i) (by omega)
      (by omega) hlt
    rw [hversionAt, hrowAt] at hpair
    exact hpair
  · subst heq
    rw [hrowAt] at hversionAt
    rw [← hversionAt]
    exact le_refl _

/-- In every run a run enters a state that requires the ownership by a transition alone.
The proof of the transition owned the lease during its transaction, and no version that had
been committed when the transaction began is fenced above the proof. -/
theorem transitions_fenced (hquiet : s.Quiet)
    (hrun : ((leaseSystem sha256).idle s).run happenings = some final) :
    EnteredByTransition s final.state ∧
      ∀ entry ∈ final.state.transitions, requiresOwnership entry.2.nextState = true →
        ∃ proof, entry.2.proof = some proof ∧ proof.runId = entry.2.runId ∧
          OwnedDuring sha256 final.state entry.1 proof ∧
            ∀ version ∈ final.state.versions.take (entry.1.since + 1),
              fencingOf version ≤ digitsValue proof.fencingToken := by
  obtain ⟨hprogress, hsound⟩ := @sound_run _ (fun _ _ => True) False _ hquiet
    (fun h => h.elim) _ _ hrun (Interleaving.Pool.permitsAll_of_forall (fun _ _ => trivial) _)
  refine ⟨hprogress.entered, fun entry hentry hrequires => ?_⟩
  obtain ⟨proof, hproof, hid, row, hrow, howned, hexpires⟩ :=
    hsound.inv.transitions entry hentry hrequires
  refine ⟨proof, hproof, hid, ⟨row, hrow, howned, hexpires⟩, fun version hversion => ?_⟩
  rw [howned.fencing, digitsValue_decimalText]
  exact fencing_le_of_during sha256 hsound.inv hrow hversion

end

namespace Samples

/-- The proof of the first acquisition. -/
def firstProof : OsvRuntimeLeaseOwnershipProof where
  scope := osvRuntimeLeaseScopeIdentifier
  runId := firstRun
  holderToken := some (token 'a')
  leaseRevision := js "1"
  fencingToken := js "1"
  acquiredAt := toIsoUtc 0
  heartbeatAt := toIsoUtc 0
  expiresAt := toIsoUtc leaseTtl

/-- The first run begins to run. -/
def enter : OsvRuntimeRunTransitionCommand where
  runId := firstRun
  expectedState := .waitingForLease
  nextState := .running
  terminalCode := none
  retryDisposition := none
  lastAcceptedStage := none
  cancellationBoundary := none
  proof := some firstProof

/-- The first acquires the lease and begins to run. -/
def entered : List (Happening Timestamptz LeaseRequest LeaseEvent) :=
  .start 0 first :: calls 0 0 5 ++ .start 1 (.transition enter) :: calls 1 1 4

/-- The first begins to run when its lease is about to expire, and the second takes the
lease after the ownership was read. -/
def overtaken : List (Happening Timestamptz LeaseRequest LeaseEvent) :=
  .start 0 first :: calls 0 0 5 ++ .start 1 (.transition enter) :: calls 1 (leaseTtl - 1) 2 ++
    .start 2 second :: calls 2 leaseTtl 6

end Samples

open Samples in
/-- A transition with the ownership that it requires. -/
theorem transitions_fenced_sample :
    ∃ final ∈ ((leaseSystem hash).idle (database none)).run entered,
      ∃ entry ∈ final.state.transitions, ∃ proof, entry.2.proof = some proof ∧
        OwnedDuring hash final.state entry.1 proof := by
  obtain ⟨final, hrun, entry, hentry, hrequires⟩ :
      ∃ final ∈ ((leaseSystem hash).idle (database none)).run entered,
        ∃ entry ∈ final.state.transitions, requiresOwnership entry.2.nextState = true := by
    decide +kernel
  obtain ⟨proof, hproof, -, howned, -⟩ :=
    (transitions_fenced hash (quiet_database none) hrun).2 entry hentry hrequires
  exact ⟨final, hrun, entry, hentry, proof, hproof, howned⟩

open Samples in
/-- A takeover is committed, and then a transition with the proof of the old holder is. -/
theorem transition_after_takeover :
    ∃ before ∈ ((leaseSystem hash).idle (database none)).run overtaken,
      before.state.transitions = [] ∧
        (∃ row ∈ before.state.lease, row.HeldBy secondRun (hash (token 'b')) ∧
          row.fencingToken = 2 ∧ ¬ OwnedBy hash row firstProof) ∧
          ∃ final ∈ before.run (calls 1 leaseTtl 2),
            final.state.lease = before.state.lease ∧
              final.state.transitions.map (·.2) = [enter] ∧
                ∃ run ∈ final.state.runs, run.id = firstRun ∧ run.state = .running := by
  decide +kernel

end PatchPilot.Osv
