import PatchPilot.Foundation.Fallible
import PatchPilot.Foundation.Runs
import PatchPilot.Osv.Lease

set_option autoImplicit false

/-!
# Osv: runs of the lease

Holders acquire, extend and release the lease in any order, with any proofs and at any
times.  A proof that was issued names a fencing token that is not above the current one,
and it is of use only while the two are equal; a takeover and a release leave it behind
for good.
-/

namespace PatchPilot.Osv

open PatchPilot.Foundation

/-! ## Runs -/

/-- The current projection of the lease, and the token of its holder. -/
structure LeaseState where
  projection : OsvRuntimeLeaseProjection
  holderToken : Option JsString
  deriving DecidableEq

/-- No lease. -/
def noLease : LeaseState := ⟨absentOsvRuntimeLeaseProjection, none⟩

/-- A call of one of the evaluations on what is current.  Whether the token of a lease
that was released is kept is left open. -/
inductive LeaseCommand
  | acquire (input : AcquireInput)
  | heartbeat (proof : OsvRuntimeLeaseOwnershipProof) (databaseNow : JsString)
  | release (proof : OsvRuntimeLeaseOwnershipProof) (databaseNow : JsString) (keepsToken : Bool)
  deriving DecidableEq

/-- What a call answers. -/
inductive LeaseAnswer
  | acquire (outcome : OsvRuntimeLeaseAcquireOutcome) (proof : Option OsvRuntimeLeaseOwnershipProof)
  | heartbeat (outcome : OsvRuntimeLeaseHeartbeatOutcome)
      (proof : Option OsvRuntimeLeaseOwnershipProof)
  | release (outcome : OsvRuntimeLeaseReleaseOutcome)
  | refused
  deriving DecidableEq

/-- The proof that a call issues. -/
def LeaseAnswer.proof : LeaseAnswer → Option OsvRuntimeLeaseOwnershipProof
  | .acquire _ proof => proof
  | .heartbeat _ proof => proof
  | _ => none

namespace LeaseState

/-- A call, and what is current after it. -/
def perform (s : LeaseState) : LeaseCommand → LeaseState × LeaseAnswer
  | .acquire input =>
      match evaluateOsvRuntimeLeaseAcquire s.projection s.holderToken input with
      | .ok result =>
          (⟨result.projection, match result.proof with
            | some proof => proof.holderToken
            | none => s.holderToken⟩, .acquire result.outcome result.proof)
      | _ => (s, .refused)
  | .heartbeat proof databaseNow =>
      match evaluateOsvRuntimeLeaseHeartbeat s.projection s.holderToken proof databaseNow with
      | .ok result => (⟨result.projection, s.holderToken⟩, .heartbeat result.outcome result.proof)
      | _ => (s, .refused)
  | .release proof databaseNow keepsToken =>
      match evaluateOsvRuntimeLeaseRelease s.projection s.holderToken proof databaseNow with
      | .ok result =>
          (⟨result.projection,
            if result.outcome = .released ∧ keepsToken = false then none else s.holderToken⟩,
            .release result.outcome)
      | _ => (s, .refused)

/-- The state after a call. -/
def step (s : LeaseState) (command : LeaseCommand) : LeaseState := (s.perform command).1

/-- The answer of a call. -/
def answer (s : LeaseState) (command : LeaseCommand) : LeaseAnswer := (s.perform command).2

/-- The state after calls, one after the other. -/
def run (s : LeaseState) (commands : List LeaseCommand) : LeaseState := commands.foldl step s

/-- The proofs that calls issue, one after the other. -/
def issued : LeaseState → List LeaseCommand → List OsvRuntimeLeaseOwnershipProof
  | _, [] => []
  | s, command :: rest => (s.answer command).proof.toList ++ (s.step command).issued rest

/-- The proof is authorized for a run at a time. -/
def Authorizes (s : LeaseState) (proof : OsvRuntimeLeaseOwnershipProof)
    (databaseNow expectedRunId : JsString) : Prop :=
  validateOsvRuntimeLeaseOwnership s.projection (some proof) s.holderToken databaseNow
    expectedRunId = .currentOwner

/-- The lease was taken over or released. -/
def EndsOwnership (s : LeaseState) (command : LeaseCommand) : Prop :=
  (∃ proof, s.answer command = .acquire .staleTakeoverAcquired proof) ∨
    s.answer command = .release .released

/-- The lease has another run or holder, or it was acquired, taken over or released. -/
def ChangesOwnership (s : LeaseState) (command : LeaseCommand) : Prop :=
  (∃ proof, s.answer command = .acquire .acquired proof) ∨ s.EndsOwnership command ∨
    (s.step command).projection.runId ≠ s.projection.runId ∨
    (s.step command).holderToken ≠ s.holderToken

/-- The number of the revision. -/
def revision (s : LeaseState) : Nat := digitsValue s.projection.leaseRevision

/-- The number of the fencing token. -/
def fencing (s : LeaseState) : Nat := digitsValue s.projection.fencingToken

end LeaseState

/-! ## Counters -/

theorem parseLeaseInteger_eq_ok {value : JsString} {n : Nat}
    (h : parseLeaseInteger value = .ok n) :
    n = digitsValue value ∧ n ≤ osvRuntimePostgresBigintMax := by
  unfold parseLeaseInteger at h
  split at h
  · cases h
  · dsimp only at h
    split at h
    · cases h
    · rename_i hbounds
      cases h
      exact ⟨rfl, by omega⟩

/-- The next counter of a counter. -/
theorem incrementLeaseInteger_eq_ok {n : Nat} {next : JsString}
    (h : incrementLeaseInteger (decimalText n) = .ok next) : next = decimalText (n + 1) := by
  obtain ⟨parsed, hparsed, hnext⟩ := bind_eq_ok.mp h
  obtain ⟨hn, -⟩ := parseLeaseInteger_eq_ok hparsed
  rw [digitsValue_decimalText] at hn
  rw [hn] at hnext
  dsimp only at hnext
  split at hnext
  · cases hnext
  · exact (Except.ok.inj hnext).symm

theorem readLeaseInteger_decimalText {n : Nat} {text : JsString}
    (h : readLeaseInteger (decimalText n) = .ok text) : text = decimalText n := by
  obtain ⟨parsed, hparsed, htext⟩ := bind_eq_ok.mp h
  obtain ⟨hn, -⟩ := parseLeaseInteger_eq_ok hparsed
  rw [digitsValue_decimalText] at hn
  rw [hn] at htext
  exact (Except.ok.inj htext).symm

/-- What a constructed proof shows of a counter that was given to it. -/
theorem fencingToken_of_created {runId holderToken leaseRevision acquiredAt heartbeatAt
    expiresAt : JsString} {n : Nat} {proof : OsvRuntimeLeaseOwnershipProof}
    (h : createOsvRuntimeLeaseOwnershipProofForOwner runId holderToken leaseRevision
      (decimalText n) acquiredAt heartbeatAt expiresAt = .ok proof) :
    proof.fencingToken = decimalText n := by
  obtain ⟨runId, -, h⟩ := bind_eq_ok.mp h
  obtain ⟨holderToken, -, h⟩ := bind_eq_ok.mp h
  obtain ⟨leaseRevision, -, h⟩ := bind_eq_ok.mp h
  obtain ⟨fencingToken, hfencing, h⟩ := bind_eq_ok.mp h
  obtain ⟨acquiredAt, -, h⟩ := bind_eq_ok.mp h
  obtain ⟨heartbeatAt, -, h⟩ := bind_eq_ok.mp h
  obtain ⟨expiresAt, -, h⟩ := bind_eq_ok.mp h
  cases h
  exact readLeaseInteger_decimalText hfencing

theorem toLowerCase_holderToken {s : JsString} (h : isHolderToken s = true) :
    toLowerCase s = s := by
  have hlower : s.all (fun u => !isUpper u) = true := by
    refine all_of_hasShape ?_ h
    intro place hplace u hu
    simp only [identifierShape, List.replicate, List.cons_append, List.nil_append, List.mem_cons,
      List.not_mem_nil, or_false] at hplace
    have hcases : place = isLowerHex ∨ place = exactly '-' ∨ place = exactly '4' ∨
        place = fun u => u == unit '8' || u == unit '9' || u == unit 'a' || u == unit 'b' := by
      tauto
    rcases hcases with rfl | rfl | rfl | rfl
    · simp only [isLowerHex, isDigit, Bool.or_eq_true, Bool.and_eq_true, decide_eq_true_eq] at hu
      simp only [isUpper, Bool.not_eq_true', Bool.and_eq_false_iff, decide_eq_false_iff_not]
      by_contra hupper
      push Not at hupper
      obtain ⟨hlow, hhigh⟩ := hupper
      rcases hu with ⟨-, hu⟩ | ⟨hu, -⟩
      · exact absurd (UInt16.le_trans hlow hu) (by decide)
      · exact absurd (UInt16.le_trans hu hhigh) (by decide)
    · rw [eq_of_beq hu]
      decide
    · rw [eq_of_beq hu]
      decide
    · simp only [Bool.or_eq_true, beq_iff_eq] at hu
      rcases hu with ((rfl | rfl) | rfl) | rfl <;> decide
  unfold toLowerCase
  refine List.map_congr_left (g := id) (fun u hu => ?_) |>.trans (List.map_id _)
  have hu' := List.all_eq_true.mp hlower u hu
  rw [if_neg (by simpa using hu')]
  rfl

/-- The token of a constructed proof. -/
theorem holderToken_of_created {runId holderToken leaseRevision fencingToken acquiredAt heartbeatAt
    expiresAt : JsString} {proof : OsvRuntimeLeaseOwnershipProof}
    (h : createOsvRuntimeLeaseOwnershipProofForOwner runId holderToken leaseRevision fencingToken
      acquiredAt heartbeatAt expiresAt = .ok proof) : proof.holderToken = some holderToken := by
  obtain ⟨runId, -, h⟩ := bind_eq_ok.mp h
  obtain ⟨token, htoken, h⟩ := bind_eq_ok.mp h
  obtain ⟨leaseRevision, -, h⟩ := bind_eq_ok.mp h
  obtain ⟨fencingToken, -, h⟩ := bind_eq_ok.mp h
  obtain ⟨acquiredAt, -, h⟩ := bind_eq_ok.mp h
  obtain ⟨heartbeatAt, -, h⟩ := bind_eq_ok.mp h
  obtain ⟨expiresAt, -, h⟩ := bind_eq_ok.mp h
  cases h
  unfold readHolderTokenUuidV4 at htoken
  split at htoken
  · rename_i hvalid
    rw [toLowerCase_holderToken hvalid] at htoken
    exact congrArg some (Except.ok.inj htoken).symm
  · cases htoken

theorem withProof_eq_ok {α : Type} {proof : Except RejectionCode OsvRuntimeLeaseOwnershipProof}
    {result : OsvRuntimeLeaseOwnershipProof → α} {value : α}
    (h : withProof proof result = .ok value) : ∃ made, proof = .ok made ∧ result made = value := by
  unfold withProof at h
  split at h
  · rename_i made
    cases h
    exact ⟨made, rfl, rfl⟩
  · cases h

/-! ## What a call can do -/

/-- The counters of a state are the texts of numbers, and there is no holder before the
first acquisition. -/
structure Counted (s : LeaseState) (revision fencing : Nat) : Prop where
  revision : s.projection.leaseRevision = decimalText revision
  fencing : s.projection.fencingToken = decimalText fencing
  holder : s.projection.state = .absent → s.holderToken = none

/-- A proof that names a fencing token, if it is one. -/
def Fences (proof : Option OsvRuntimeLeaseOwnershipProof) (fencing : Nat) : Prop :=
  ∀ made ∈ proof, made.fencingToken = decimalText fencing

/-- What a call can do to a state whose counters are given. -/
inductive Change (revision fencing : Nat) (s : LeaseState) : LeaseState → LeaseAnswer → Prop
  /-- Nothing changes; the proof of an owner is issued again. -/
  | kept {answer : LeaseAnswer} (proof : Fences answer.proof fencing)
      (ends : answer ≠ .release .released)
      (acquires : ∀ outcome proof, answer = .acquire outcome proof →
        outcome ≠ .acquired ∧ outcome ≠ .staleTakeoverAcquired) :
      Change revision fencing s s answer
  /-- The first acquisition takes the counters as they are. -/
  | begun {s' : LeaseState} {made : OsvRuntimeLeaseOwnershipProof}
      (absent : s.projection.state = .absent) (state : s'.projection.state = .held)
      (counted : Counted s' revision fencing) (proof : made.fencingToken = decimalText fencing) :
      Change revision fencing s s' (.acquire .acquired (some made))
  /-- A later acquisition increases both counters. -/
  | taken {s' : LeaseState} {outcome : OsvRuntimeLeaseAcquireOutcome}
      {made : OsvRuntimeLeaseOwnershipProof} (present : s.projection.state ≠ .absent)
      (state : s'.projection.state = .held) (counted : Counted s' (revision + 1) (fencing + 1))
      (proof : made.fencingToken = decimalText (fencing + 1)) :
      Change revision fencing s s' (.acquire outcome (some made))
  /-- A heartbeat increases the revision alone. -/
  | extended {s' : LeaseState} {made : OsvRuntimeLeaseOwnershipProof}
      (present : s.projection.state ≠ .absent) (state : s'.projection.state = .held)
      (counted : Counted s' (revision + 1) fencing)
      (run : s'.projection.runId = s.projection.runId) (holder : s'.holderToken = s.holderToken)
      (proof : made.fencingToken = decimalText fencing) :
      Change revision fencing s s' (.heartbeat .accepted (some made))
  /-- A release increases both counters. -/
  | ended {s' : LeaseState} (present : s.projection.state ≠ .absent)
      (state : s'.projection.state = .released)
      (counted : Counted s' (revision + 1) (fencing + 1)) :
      Change revision fencing s s' (.release .released)

section

variable {s : LeaseState} {r f : Nat}

/-- A lease that is granted is held with the counters and shown by the proof. -/
theorem granted_eq_ok {outcome : OsvRuntimeLeaseAcquireOutcome} {input : AcquireInput}
    {leaseRevision fencingToken : Except RejectionCode JsString}
    {result : OsvRuntimeLeaseAcquireResult}
    (h : granted outcome input leaseRevision fencingToken = .ok result) :
    ∃ revision fencing expiresAt made, leaseRevision = .ok revision ∧ fencingToken = .ok fencing ∧
      addMilliseconds input.databaseNow osvRuntimeLeaseTtlMs = some expiresAt ∧
      createOsvRuntimeLeaseOwnershipProofForOwner input.runId input.holderToken revision fencing
        input.databaseNow input.databaseNow expiresAt = .ok made ∧
      result = ⟨outcome, heldProjection input.runId revision fencing input.databaseNow
        input.databaseNow expiresAt, some made⟩ := by
  unfold granted at h
  split at h
  · cases h
  · cases h
  · rename_i revision fencing
    split at h
    · cases h
    · rename_i expiresAt hexpires
      obtain ⟨made, hmade, rfl⟩ := withProof_eq_ok h
      exact ⟨revision, fencing, expiresAt, made, rfl, rfl, hexpires, hmade, rfl⟩

/-- A result of an acquire whose proof is of no use keeps the state. -/
theorem kept_acquire {outcome : OsvRuntimeLeaseAcquireOutcome}
    {proof : Option OsvRuntimeLeaseOwnershipProof} (hproof : Fences proof f)
    (houtcome : outcome ≠ .acquired ∧ outcome ≠ .staleTakeoverAcquired) :
    Change r f s s (.acquire outcome proof) := by
  refine .kept hproof nofun ?_
  rintro outcome' proof' heq
  cases heq
  exact houtcome

/-- A lease that is granted with increased counters. -/
theorem taken_of_granted {outcome : OsvRuntimeLeaseAcquireOutcome} {input : AcquireInput}
    {result : OsvRuntimeLeaseAcquireResult} (hcounted : Counted s r f)
    (hpresent : s.projection.state ≠ .absent)
    (h : granted outcome input (incrementLeaseInteger s.projection.leaseRevision)
      (incrementLeaseInteger s.projection.fencingToken) = .ok result) :
    ∃ made, result.proof = some made ∧
      Change r f s ⟨result.projection, made.holderToken⟩ (.acquire result.outcome (some made)) := by
  obtain ⟨revision, fencing, expiresAt, made, hrevision, hfencing, -, hmade, rfl⟩ := granted_eq_ok h
  rw [hcounted.revision] at hrevision
  rw [hcounted.fencing] at hfencing
  cases incrementLeaseInteger_eq_ok hrevision
  cases incrementLeaseInteger_eq_ok hfencing
  exact ⟨made, rfl, .taken hpresent rfl ⟨rfl, rfl, nofun⟩ (fencingToken_of_created hmade)⟩

/-- What an acquire can do. -/
theorem change_of_acquire {input : AcquireInput} {result : OsvRuntimeLeaseAcquireResult}
    (hcounted : Counted s r f)
    (h : evaluateOsvRuntimeLeaseAcquire s.projection s.holderToken input = .ok result) :
    Change r f s ⟨result.projection, match result.proof with
      | some proof => proof.holderToken
      | none => s.holderToken⟩ (.acquire result.outcome result.proof) := by
  unfold evaluateOsvRuntimeLeaseAcquire at h
  split at h
  · cases h
    exact kept_acquire nofun ⟨nofun, nofun⟩
  · split at h
    · cases h
    · split at h
      · cases h
      · split at h
        · rename_i expiresAt hstate hexpires
          split at h
          · split at h
            · rename_i howner
              obtain ⟨made, hmade, rfl⟩ := withProof_eq_ok h
              have hholder : made.holderToken = s.holderToken :=
                (holderToken_of_created hmade).trans howner.2.symm
              rw [hcounted.fencing] at hmade
              dsimp only
              rw [hholder]
              refine kept_acquire ?_ ⟨nofun, nofun⟩
              rintro proof hproof
              cases hproof
              exact fencingToken_of_created hmade
            · cases h
              exact kept_acquire nofun ⟨nofun, nofun⟩
          · split at h
            · cases h
              exact kept_acquire nofun ⟨nofun, nofun⟩
            · split at h
              · cases h
                exact kept_acquire nofun ⟨nofun, nofun⟩
              · obtain ⟨made, hproof, hchange⟩ :=
                  taken_of_granted hcounted (by rw [hstate]; nofun) h
                rw [hproof]
                exact hchange
        · rename_i hstate
          obtain ⟨revision, fencing, expiresAt, made, hrevision, hfencing, -, hmade, rfl⟩ :=
            granted_eq_ok h
          cases hrevision
          cases hfencing
          rw [hcounted.fencing] at hmade
          exact .begun hstate rfl ⟨hcounted.revision, hcounted.fencing, nofun⟩
            (fencingToken_of_created hmade)
        · rename_i hpresent _
          obtain ⟨made, hproof, hchange⟩ := taken_of_granted hcounted hpresent h
          rw [hproof]
          exact hchange

/-- A heartbeat that is not accepted keeps the state. -/
theorem kept_heartbeat {outcome : OsvRuntimeLeaseHeartbeatOutcome} :
    Change r f s s (.heartbeat outcome none) :=
  .kept nofun nofun nofun

/-- What a heartbeat can do. -/
theorem change_of_heartbeat {proof : OsvRuntimeLeaseOwnershipProof} {databaseNow : JsString}
    {result : OsvRuntimeLeaseHeartbeatResult} (hcounted : Counted s r f)
    (h : evaluateOsvRuntimeLeaseHeartbeat s.projection s.holderToken proof databaseNow =
      .ok result) :
    Change r f s ⟨result.projection, s.holderToken⟩ (.heartbeat result.outcome result.proof) := by
  unfold evaluateOsvRuntimeLeaseHeartbeat at h
  split at h
  · cases h
    exact kept_heartbeat
  · split at h
    · cases h
      exact kept_heartbeat
    · split at h
      · cases h
        exact kept_heartbeat
      · rename_i hmatches
        split at h
        · cases h
        · split at h
          · rename_i expiresAt hstate hexpires
            split at h
            · cases h
              exact kept_heartbeat
            · split at h
              · cases h
              · rename_i nextRevision hrevision
                split at h
                · cases h
                · obtain ⟨made, hmade, rfl⟩ := withProof_eq_ok h
                  rw [hcounted.revision] at hrevision
                  cases incrementLeaseInteger_eq_ok hrevision
                  rw [hcounted.fencing] at hmade
                  have hpresent : s.projection.state ≠ .absent := by
                    rw [hstate]
                    nofun
                  refine .extended hpresent rfl ⟨rfl, hcounted.fencing, nofun⟩ ?_ rfl
                    (fencingToken_of_created hmade)
                  exact (not_not.mp (not_or.mp hmatches).1).symm
          · cases h
            exact kept_heartbeat

/-- A release that does not release keeps the state. -/
theorem kept_release {outcome : OsvRuntimeLeaseReleaseOutcome} (h : outcome ≠ .released) :
    Change r f s s (.release outcome) :=
  .kept nofun (fun heq => h (LeaseAnswer.release.inj heq)) nofun

/-- What a release can do. -/
theorem change_of_release {proof : OsvRuntimeLeaseOwnershipProof} {databaseNow : JsString}
    {result : OsvRuntimeLeaseReleaseResult} {keepsToken : Bool} (hcounted : Counted s r f)
    (h : evaluateOsvRuntimeLeaseRelease s.projection s.holderToken proof databaseNow =
      .ok result) :
    Change r f s ⟨result.projection,
      if result.outcome = .released ∧ keepsToken = false then none else s.holderToken⟩
      (.release result.outcome) := by
  unfold evaluateOsvRuntimeLeaseRelease at h
  split at h
  · cases h
    exact kept_release nofun
  · rename_i howner
    have hpresent : s.projection.state ≠ .absent := by
      intro habsent
      rw [hcounted.holder habsent] at howner
      exact (not_or.mp howner).1 (not_not.mp (not_or.mp howner).2)
    split at h
    · cases h
      exact kept_release nofun
    · split at h
      · cases h
        exact kept_release nofun
      · split at h
        · cases h
        · split at h
          · cases h
            exact kept_release nofun
          · split at h
            · cases h
            · cases h
            · rename_i revision fencing hrevision hfencing
              rw [hcounted.revision] at hrevision
              rw [hcounted.fencing] at hfencing
              cases incrementLeaseInteger_eq_ok hrevision
              cases incrementLeaseInteger_eq_ok hfencing
              cases h
              exact .ended hpresent rfl ⟨rfl, rfl, nofun⟩

/-- What a call can do. -/
theorem change_of_perform (hcounted : Counted s r f) (command : LeaseCommand) :
    Change r f s (s.step command) (s.answer command) := by
  have hrefused : Change r f s s .refused := .kept nofun nofun nofun
  unfold LeaseState.step LeaseState.answer LeaseState.perform
  cases command with
  | acquire input =>
      dsimp only
      split
      · rename_i result hresult
        exact change_of_acquire hcounted hresult
      · exact hrefused
  | heartbeat proof databaseNow =>
      dsimp only
      split
      · rename_i result hresult
        exact change_of_heartbeat hcounted hresult
      · exact hrefused
  | release proof databaseNow keepsToken =>
      dsimp only
      split
      · rename_i result hresult
        exact change_of_release hcounted hresult
      · exact hrefused

/-! ## What every call keeps -/

/-- The counters after a call are counters again, and not smaller. -/
theorem Change.counted {s' : LeaseState} {answer : LeaseAnswer} (h : Change r f s s' answer)
    (hcounted : Counted s r f) :
    ∃ r' f', Counted s' r' f' ∧ r ≤ r' ∧ f ≤ f' ∧ Fences answer.proof f' := by
  have hfences : ∀ {made : OsvRuntimeLeaseOwnershipProof} {n : Nat},
      made.fencingToken = decimalText n → Fences (some made) n := by
    rintro made n hmade _ hproof
    cases hproof
    exact hmade
  cases h with
  | kept proof => exact ⟨r, f, hcounted, le_refl _, le_refl _, proof⟩
  | begun _ _ counted proof => exact ⟨r, f, counted, le_refl _, le_refl _, hfences proof⟩
  | taken _ _ counted proof =>
      exact ⟨r + 1, f + 1, counted, Nat.le_succ _, Nat.le_succ _, hfences proof⟩
  | extended _ _ counted _ _ proof =>
      exact ⟨r + 1, f, counted, Nat.le_succ _, le_refl _, hfences proof⟩
  | ended _ _ counted => exact ⟨r + 1, f + 1, counted, Nat.le_succ _, Nat.le_succ _, nofun⟩

end

/-! ## Counters of a run -/

/-- A proof names a fencing token that is not above a number. -/
def FencedBy (proof : OsvRuntimeLeaseOwnershipProof) (fencing : Nat) : Prop :=
  ∃ n ≤ fencing, proof.fencingToken = decimalText n

theorem counted_noLease : Counted noLease 1 1 where
  revision := by decide
  fencing := by decide
  holder := fun _ => rfl

/-- The counters of a run do not decrease, and its proofs stay below them. -/
theorem counted_run (commands : List LeaseCommand) :
    ∀ {s : LeaseState} {r f : Nat}, Counted s r f →
      ∃ r' f', Counted (s.run commands) r' f' ∧ f ≤ f' ∧
        ∀ proof ∈ s.issued commands, FencedBy proof f' := by
  induction commands with
  | nil =>
      intro s r f hcounted
      exact ⟨r, f, hcounted, le_refl _, nofun⟩
  | cons command rest ih =>
      intro s r f hcounted
      obtain ⟨r', f', hstep, -, hgrow, hproof⟩ :=
        (change_of_perform hcounted command).counted hcounted
      obtain ⟨r'', f'', hrun, hgrow', hissued⟩ := ih hstep
      refine ⟨r'', f'', hrun, le_trans hgrow hgrow', fun proof hmem => ?_⟩
      rw [LeaseState.issued, List.mem_append, Option.mem_toList] at hmem
      rcases hmem with hnow | hlater
      · exact ⟨f', hgrow', hproof proof hnow⟩
      · exact hissued proof hlater

/-- Every change of a lease increases its revision, and a change of ownership increases
the fencing token. -/
def Grows (s : LeaseState) (command : LeaseCommand) : Prop :=
  ((s.step command).projection ≠ s.projection → s.revision < (s.step command).revision) ∧
    s.fencing ≤ (s.step command).fencing ∧
    (s.ChangesOwnership command → s.fencing < (s.step command).fencing)

/-- The first acquisition holds the lease with the counters that stand for its absence. -/
def Begins (s : LeaseState) (command : LeaseCommand) : Prop :=
  (s.step command).projection ≠ s.projection →
    (s.step command).projection.state = .held ∧ (s.step command).revision = s.revision ∧
      (s.step command).fencing = s.fencing

theorem Counted.numbers {s : LeaseState} {r f : Nat} (h : Counted s r f) :
    s.revision = r ∧ s.fencing = f := by
  unfold LeaseState.revision LeaseState.fencing
  rw [h.revision, h.fencing, digitsValue_decimalText, digitsValue_decimalText]
  exact ⟨rfl, rfl⟩

/-- A call that changes nothing does not change who owns the lease. -/
theorem not_changesOwnership_of_kept {s : LeaseState} {command : LeaseCommand}
    (hsame : s.step command = s) (hends : s.answer command ≠ .release .released)
    (hacquires : ∀ outcome proof, s.answer command = .acquire outcome proof →
      outcome ≠ .acquired ∧ outcome ≠ .staleTakeoverAcquired) : ¬ s.ChangesOwnership command := by
  rintro (⟨proof, hanswer⟩ | (⟨proof, hanswer⟩ | hanswer) | hrun | hholder)
  · exact (hacquires _ _ hanswer).1 rfl
  · exact (hacquires _ _ hanswer).2 rfl
  · exact hends hanswer
  · exact hrun (by rw [hsame])
  · exact hholder (by rw [hsame])

theorem grows_of_counted {s : LeaseState} {r f : Nat} (hcounted : Counted s r f)
    (command : LeaseCommand) :
    (s.projection.state = .absent → Begins s command) ∧
      (s.projection.state ≠ .absent → Grows s command) := by
  obtain ⟨hr, hf⟩ := hcounted.numbers
  have hchange := change_of_perform hcounted command
  unfold Begins Grows
  rw [hr, hf]
  cases hstep : s.step command with
  | mk projection holderToken =>
  generalize hs' : (⟨projection, holderToken⟩ : LeaseState) = s' at hstep ⊢
  generalize hanswer : s.answer command = answer at hchange
  rw [hstep] at hchange
  cases hchange with
  | kept proof ends acquires =>
      have hsame : ¬ s.ChangesOwnership command :=
        not_changesOwnership_of_kept hstep (by rw [hanswer]; exact ends)
          (by rw [hanswer]; exact acquires)
      refine ⟨fun _ hne => absurd rfl hne, fun _ => ⟨fun hne => absurd rfl hne, ?_, ?_⟩⟩
      · exact hf.symm.le
      · exact fun h => absurd h hsame
  | begun absent state counted =>
      obtain ⟨hr', hf'⟩ := counted.numbers
      exact ⟨fun _ _ => ⟨state, hr', hf'⟩, fun hpresent => absurd absent hpresent⟩
  | taken present state counted =>
      obtain ⟨hr', hf'⟩ := counted.numbers
      rw [hr', hf']
      exact ⟨fun habsent => absurd habsent present,
        fun _ => ⟨fun _ => Nat.lt_succ_self _, Nat.le_succ _, fun _ => Nat.lt_succ_self _⟩⟩
  | extended present state counted run holder =>
      obtain ⟨hr', hf'⟩ := counted.numbers
      rw [hr', hf']
      refine ⟨fun habsent => absurd habsent present,
        fun _ => ⟨fun _ => Nat.lt_succ_self _, le_refl _, ?_⟩⟩
      rintro (⟨proof, h⟩ | (⟨proof, h⟩ | h) | h | h)
      · rw [hanswer] at h
        cases h
      · rw [hanswer] at h
        cases h
      · rw [hanswer] at h
        cases h
      · exact absurd (by rw [hstep]; exact run) h
      · exact absurd (by rw [hstep]; exact holder) h
  | ended present state counted =>
      obtain ⟨hr', hf'⟩ := counted.numbers
      rw [hr', hf']
      exact ⟨fun habsent => absurd habsent present,
        fun _ => ⟨fun _ => Nat.lt_succ_self _, Nat.le_succ _, fun _ => Nat.lt_succ_self _⟩⟩

/-! ## Proofs that are left behind -/

/-- A proof is of no use for a state. -/
structure LeftBehind (s : LeaseState) (proof : OsvRuntimeLeaseOwnershipProof) : Prop where
  authorizes : ∀ databaseNow expectedRunId, ¬ s.Authorizes proof databaseNow expectedRunId
  heartbeat : ∀ databaseNow next,
    s.answer (.heartbeat proof databaseNow) ≠ .heartbeat .accepted next
  release : ∀ databaseNow keepsToken,
    s.answer (.release proof databaseNow keepsToken) ≠ .release .released

/-- What an authorized proof shows. -/
theorem matches_of_authorizes {s : LeaseState} {proof : OsvRuntimeLeaseOwnershipProof}
    {databaseNow expectedRunId : JsString} (h : s.Authorizes proof databaseNow expectedRunId) :
    s.projection.runId = some proof.runId ∧ proof.holderToken = s.holderToken ∧
      proof.fencingToken = s.projection.fencingToken := by
  unfold LeaseState.Authorizes validateOsvRuntimeLeaseOwnership at h
  dsimp only at h
  split at h
  · cases h
  · split at h
    · cases h
    · rename_i hrun
      split at h
      · cases h
      · split at h
        · cases h
        · rename_i hholder
          split at h
          · cases h
          · rename_i hfencing
            obtain ⟨hrun, hcurrent⟩ := not_or.mp hrun
            refine ⟨?_, not_not.mp (not_or.mp hholder).2, not_not.mp hfencing⟩
            rw [not_not.mp hcurrent, not_not.mp hrun]

/-- A proof with another fencing token is of no use. -/
theorem leftBehind_of_fencing {s : LeaseState} {proof : OsvRuntimeLeaseOwnershipProof}
    (h : proof.fencingToken ≠ s.projection.fencingToken) : LeftBehind s proof := by
  refine ⟨fun databaseNow expectedRunId hauthorizes => ?_, ?_, ?_⟩
  · exact h (matches_of_authorizes hauthorizes).2.2
  · intro databaseNow next
    unfold LeaseState.answer LeaseState.perform evaluateOsvRuntimeLeaseHeartbeat
    dsimp only
    cases proof.holderToken with
    | none => nofun
    | some presented =>
        dsimp only
        by_cases hholder : s.holderToken ≠ some presented
        · rw [if_pos hholder]
          nofun
        · rw [if_neg hholder, if_pos (Or.inr (Or.inr h))]
          nofun
  · intro databaseNow keepsToken
    unfold LeaseState.answer LeaseState.perform evaluateOsvRuntimeLeaseRelease
    dsimp only
    by_cases hholder : proof.holderToken = none ∨ proof.holderToken ≠ s.holderToken
    · rw [if_pos hholder]
      nofun
    · by_cases hrevision : proof.leaseRevision ≠ s.projection.leaseRevision
      · rw [if_neg hholder, if_pos hrevision]
        nofun
      · rw [if_neg hholder, if_neg hrevision, if_pos h]
        nofun

/-- The fencing token of a state that ended an ownership is above that of every earlier
proof. -/
theorem fencing_lt_of_ends {s : LeaseState} {r f : Nat} (hcounted : Counted s r f)
    {command : LeaseCommand} (h : s.EndsOwnership command) :
    ∃ r' f', Counted (s.step command) r' f' ∧ f < f' := by
  have hchange := change_of_perform hcounted command
  generalize hs' : s.step command = s' at hchange ⊢
  generalize hanswer : s.answer command = answer at hchange
  rcases h with ⟨proof, h⟩ | h
  · rw [hanswer] at h
    subst h
    cases hchange with
    | kept proof ends acquires => exact absurd rfl (acquires _ _ rfl).2
    | taken present state counted => exact ⟨_, _, counted, Nat.lt_succ_self _⟩
  · rw [hanswer] at h
    subst h
    cases hchange with
    | kept proof ends acquires => exact absurd rfl ends
    | ended present state counted => exact ⟨_, _, counted, Nat.lt_succ_self _⟩

theorem run_append (s : LeaseState) (before after : List LeaseCommand) :
    s.run (before ++ after) = (s.run before).run after :=
  List.foldl_append

theorem everyStep_grows (commands : List LeaseCommand) :
    ∀ {s : LeaseState} {r f : Nat}, Counted s r f →
      EveryStep LeaseState.step (fun s command =>
        (s.projection.state = .absent → Begins s command) ∧
          (s.projection.state ≠ .absent → Grows s command)) s commands := by
  induction commands with
  | nil => exact fun _ => trivial
  | cons command rest ih =>
      intro s r f hcounted
      obtain ⟨r', f', hstep, -⟩ := (change_of_perform hcounted command).counted hcounted
      exact ⟨grows_of_counted hcounted command, ih hstep⟩

/-- The lease is safe: the proofs that a state authorizes are of one owner, the counters
grow with every change but the first acquisition, which takes the ones that stand for the
absence of a lease, and a proof that was issued before a takeover or a release is of no
use after it. -/
theorem lease_safety :
    (∀ commands proof proof' databaseNow databaseNow' runId runId',
      (noLease.run commands).Authorizes proof databaseNow runId →
        (noLease.run commands).Authorizes proof' databaseNow' runId' →
          proof.runId = proof'.runId ∧ proof.holderToken = proof'.holderToken ∧
            proof.fencingToken = proof'.fencingToken) ∧
    (∀ commands, EveryStep LeaseState.step (fun s command =>
      (s.projection.state = .absent → Begins s command) ∧
        (s.projection.state ≠ .absent → Grows s command)) noLease commands) ∧
    ∀ before command after proof, proof ∈ noLease.issued before →
      (noLease.run before).EndsOwnership command →
        LeftBehind (noLease.run (before ++ command :: after)) proof := by
  refine ⟨?_, fun commands => everyStep_grows commands counted_noLease, ?_⟩
  · intro commands proof proof' databaseNow databaseNow' runId runId' h h'
    obtain ⟨hrun, hholder, hfencing⟩ := matches_of_authorizes h
    obtain ⟨hrun', hholder', hfencing'⟩ := matches_of_authorizes h'
    exact ⟨Option.some.inj (hrun.symm.trans hrun'), hholder.trans hholder'.symm,
      hfencing.trans hfencing'.symm⟩
  · intro before command after proof hproof hends
    obtain ⟨r, f, hcounted, -, hissued⟩ := counted_run before counted_noLease
    obtain ⟨n, hn, htoken⟩ := hissued proof hproof
    obtain ⟨r', f', hstep, hlt⟩ := fencing_lt_of_ends hcounted hends
    obtain ⟨r'', f'', hfinal, hle, -⟩ := counted_run after hstep
    refine leftBehind_of_fencing fun heq => ?_
    rw [run_append] at heq
    change proof.fencingToken =
      (((noLease.run before).step command).run after).projection.fencingToken at heq
    rw [htoken, hfinal.fencing] at heq
    have hsame := decimalText_inj heq
    omega

/-! ## An instance -/

/-- A first acquisition. -/
def sampleAcquire : LeaseCommand :=
  .acquire {
    runId := js "11111111-1111-4111-8111-111111111111"
    holderToken := js "22222222-2222-4222-8222-222222222222"
    databaseNow := js "2026-09-07T12:00:00.000Z"
    architectureIdentifier := osvRuntimeEnablementArchitectureIdentifier
    retryPolicyIdentifier := osvRuntimeRetryPolicyIdentifier
    expectedLeaseRevision := none
    expectedFencingToken := none }

/-- The first acquisition changes the projection, and neither counter grows. -/
theorem first_acquire_keeps_counters :
    ¬ EveryStep LeaseState.step Grows noLease [sampleAcquire] := by
  rintro ⟨⟨hgrows, -⟩, -⟩
  have hchanged : (noLease.step sampleAcquire).projection ≠ noLease.projection := by
    decide +kernel
  have hsame : (noLease.step sampleAcquire).revision = noLease.revision := by decide +kernel
  have hlt := hgrows hchanged
  omega

end PatchPilot.Osv
