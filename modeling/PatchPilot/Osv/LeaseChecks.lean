import PatchPilot.Foundation.NumberText
import PatchPilot.Foundation.UtcInstant
import PatchPilot.Osv.LeaseRuns

set_option autoImplicit false

/-!
# Osv: what the evaluations of the lease check (`runtime-coordination/lease.ts`)

Beside the time of the database an evaluation checks the identifiers and tokens of its
input, the counters of the lease, and that the renewed lease can be written down.  Each
outcome that depends on the time is the conjunction of its checks and of the comparison
with the expiry.
-/

namespace PatchPilot.Osv

open PatchPilot.Foundation

/-! ## Counters -/

/-- A counter that can be read. -/
def Countable (value : JsString) : Prop :=
  isLeaseInteger value = true ∧ digitsValue value ≤ osvRuntimePostgresBigintMax

/-- A counter that can be increased. -/
def Increasable (value : JsString) : Prop :=
  isLeaseInteger value = true ∧ digitsValue value < osvRuntimePostgresBigintMax

theorem digitsValue_pos_of_isLeaseInteger {value : JsString} (h : isLeaseInteger value = true) :
    1 ≤ digitsValue value := by
  unfold isLeaseInteger at h
  simp only [Bool.and_eq_true, decide_eq_true_eq] at h
  obtain ⟨⟨⟨hdigits, hlength⟩, -⟩, hhead⟩ := h
  cases value with
  | nil => cases hlength
  | cons u rest =>
      rw [List.all_cons, Bool.and_eq_true] at hdigits
      have hu := digit_ge hdigits.1
      have hne : u.toNat ≠ 0x30 := fun h =>
        hhead (congrArg some (UInt16.toNat_inj.mp (h.trans (by decide))))
      have hpow : 0 < 10 ^ rest.length := Nat.pow_pos (by decide)
      rw [digitsValue_cons]
      exact Nat.le_add_right_of_le (Nat.mul_pos (by omega) hpow)

/-- A counter is read exactly when it is one of the accepted numbers. -/
theorem parseLeaseInteger_iff {value : JsString} {n : Nat} :
    parseLeaseInteger value = .ok n ↔ Countable value ∧ n = digitsValue value := by
  unfold parseLeaseInteger Countable
  dsimp only
  rw [guard_eq_ok, guard_eq_ok, Bool.not_eq_false]
  constructor
  · rintro ⟨hvalid, hbounds, hn⟩
    exact ⟨⟨hvalid, by omega⟩, (Except.ok.inj hn).symm⟩
  · rintro ⟨⟨hvalid, hmax⟩, rfl⟩
    have hpos := digitsValue_pos_of_isLeaseInteger hvalid
    exact ⟨hvalid, by omega, rfl⟩

theorem readLeaseInteger_iff {value text : JsString} :
    readLeaseInteger value = .ok text ↔
      Countable value ∧ text = decimalText (digitsValue value) := by
  unfold readLeaseInteger
  rw [bind_eq_ok]
  constructor
  · rintro ⟨n, hn, htext⟩
    obtain ⟨hvalid, rfl⟩ := parseLeaseInteger_iff.mp hn
    exact ⟨hvalid, (Except.ok.inj htext).symm⟩
  · rintro ⟨hvalid, rfl⟩
    exact ⟨_, parseLeaseInteger_iff.mpr ⟨hvalid, rfl⟩, rfl⟩

theorem incrementLeaseInteger_iff {value next : JsString} :
    incrementLeaseInteger value = .ok next ↔
      Increasable value ∧ next = decimalText (digitsValue value + 1) := by
  unfold incrementLeaseInteger
  rw [bind_eq_ok]
  dsimp only
  constructor
  · rintro ⟨n, hn, hnext⟩
    obtain ⟨hvalid, rfl⟩ := parseLeaseInteger_iff.mp hn
    obtain ⟨hbound, hnext⟩ := guard_eq_ok.mp hnext
    exact ⟨⟨hvalid.1, by omega⟩, (Except.ok.inj hnext).symm⟩
  · rintro ⟨⟨hvalid, hlt⟩, rfl⟩
    exact ⟨_, parseLeaseInteger_iff.mpr ⟨⟨hvalid, hlt.le⟩, rfl⟩,
      guard_eq_ok.mpr ⟨by omega, rfl⟩⟩

/-- The counters that are written can be read. -/
theorem countable_decimalText {n : Nat} (h : 1 ≤ n) (hmax : n ≤ osvRuntimePostgresBigintMax) :
    Countable (decimalText n) := by
  have hwidth : n < 10 ^ 19 := lt_of_le_of_lt hmax (by decide)
  unfold Countable isLeaseInteger
  rw [digitsValue_decimalText]
  simp only [Bool.and_eq_true, decide_eq_true_eq]
  exact ⟨⟨⟨⟨List.all_eq_true.mpr fun u hu => isDigit_of_mem_decimalText hu,
    List.length_pos_iff.mpr (decimalText_ne_nil n)⟩, length_decimalText_le (by decide) hwidth⟩,
    head?_decimalText h⟩, hmax⟩

/-! ## Proofs -/

/-- A time that may be absent is accepted if it is there. -/
def Accepted (time : Option JsString) : Prop := ∀ text ∈ time, isUtcTimestamp text = true

theorem Accepted.getD {time : Option JsString} {default : JsString} (h : Accepted time)
    (hdefault : isUtcTimestamp default = true) : isUtcTimestamp (time.getD default) = true := by
  cases time with
  | none => exact hdefault
  | some text => exact h text rfl

theorem accepted_of_getD {time : Option JsString} {default : JsString}
    (h : isUtcTimestamp (time.getD default) = true) : Accepted time := by
  intro text htext
  rw [Option.mem_def.mp htext] at h
  exact h

/-- The fields of a proof are accepted. -/
structure ProofFields (runId holderToken leaseRevision fencingToken acquiredAt heartbeatAt
    expiresAt : JsString) : Prop where
  run : isUuid runId = true
  holder : isHolderToken holderToken = true
  revision : Countable leaseRevision
  fencing : Countable fencingToken
  acquired : isUtcTimestamp acquiredAt = true
  heartbeat : isUtcTimestamp heartbeatAt = true
  expires : isUtcTimestamp expiresAt = true

section

variable {runId holderToken leaseRevision fencingToken acquiredAt heartbeatAt expiresAt : JsString}

theorem readUtcTimestamp_iff {value text : JsString} :
    readUtcTimestamp value = .ok text ↔ isUtcTimestamp value = true ∧ text = value := by
  unfold readUtcTimestamp
  split
  · rename_i hvalid
    exact ⟨fun h => ⟨hvalid, (Except.ok.inj h).symm⟩, fun h => by rw [h.2]⟩
  · rename_i hinvalid
    exact iff_of_false (fun h => by cases h) (fun h => hinvalid h.1)

theorem fields_of_created {made : OsvRuntimeLeaseOwnershipProof}
    (h : createOsvRuntimeLeaseOwnershipProofForOwner runId holderToken leaseRevision fencingToken
      acquiredAt heartbeatAt expiresAt = .ok made) :
    ProofFields runId holderToken leaseRevision fencingToken acquiredAt heartbeatAt expiresAt := by
  obtain ⟨_, hrun, h⟩ := bind_eq_ok.mp h
  obtain ⟨_, hholder, h⟩ := bind_eq_ok.mp h
  obtain ⟨_, hrevision, h⟩ := bind_eq_ok.mp h
  obtain ⟨_, hfencing, h⟩ := bind_eq_ok.mp h
  obtain ⟨_, hacquired, h⟩ := bind_eq_ok.mp h
  obtain ⟨_, hheartbeat, h⟩ := bind_eq_ok.mp h
  obtain ⟨_, hexpires, h⟩ := bind_eq_ok.mp h
  refine ⟨?_, ?_, (readLeaseInteger_iff.mp hrevision).1, (readLeaseInteger_iff.mp hfencing).1,
    (readUtcTimestamp_iff.mp hacquired).1, (readUtcTimestamp_iff.mp hheartbeat).1,
    (readUtcTimestamp_iff.mp hexpires).1⟩
  · by_contra hinvalid
    rw [readUuid, if_neg hinvalid] at hrun
    cases hrun
  · by_contra hinvalid
    rw [readHolderTokenUuidV4, if_neg hinvalid] at hholder
    cases hholder

theorem created_of_fields
    (h : ProofFields runId holderToken leaseRevision fencingToken acquiredAt heartbeatAt
      expiresAt) :
    ∃ made, createOsvRuntimeLeaseOwnershipProofForOwner runId holderToken leaseRevision
      fencingToken acquiredAt heartbeatAt expiresAt = .ok made := by
  have hrun : readUuid runId = .ok (toLowerCase runId) := if_pos h.run
  have hholder : readHolderTokenUuidV4 holderToken = .ok (toLowerCase holderToken) :=
    if_pos h.holder
  have hrevision := readLeaseInteger_iff.mpr ⟨h.revision, rfl⟩
  have hfencing := readLeaseInteger_iff.mpr ⟨h.fencing, rfl⟩
  have hacquired := readUtcTimestamp_iff.mpr ⟨h.acquired, rfl⟩
  have hheartbeat := readUtcTimestamp_iff.mpr ⟨h.heartbeat, rfl⟩
  have hexpires := readUtcTimestamp_iff.mpr ⟨h.expires, rfl⟩
  unfold createOsvRuntimeLeaseOwnershipProofForOwner
  rw [hrun, hholder, hrevision, hfencing, hacquired, hheartbeat, hexpires]
  exact ⟨_, rfl⟩

end

theorem withProof_of_created {α : Type}
    {proof : Except RejectionCode OsvRuntimeLeaseOwnershipProof} (h : ∃ made, proof = .ok made)
    (result : OsvRuntimeLeaseOwnershipProof → α) :
    ∃ made, withProof proof result = .ok (result made) := by
  obtain ⟨made, rfl⟩ := h
  exact ⟨made, rfl⟩

/-- The lease can be renewed at a time: its next expiry is an accepted time. -/
def Renewable (databaseNow : JsString) : Prop :=
  ∃ expiresAt, addMilliseconds databaseNow osvRuntimeLeaseTtlMs = some expiresAt ∧
    isUtcTimestamp expiresAt = true

/-! ## Acquire -/

/-- What an acquire of a held lease checks before it looks at the time. -/
structure AcquireChecks (input : AcquireInput) : Prop where
  architecture : input.architectureIdentifier = osvRuntimeEnablementArchitectureIdentifier
  retryPolicy : input.retryPolicyIdentifier = osvRuntimeRetryPolicyIdentifier
  run : isUuid input.runId = true
  holder : isHolderToken input.holderToken = true
  time : isUtcTimestamp input.databaseNow = true

/-- What a takeover checks beside the expiry. -/
structure TakeoverChecks (current : OsvRuntimeLeaseProjection) (input : AcquireInput) : Prop
    extends AcquireChecks input where
  expectedRevision : input.expectedLeaseRevision = none ∨
    input.expectedLeaseRevision = some current.leaseRevision
  expectedFencing : input.expectedFencingToken = none ∨
    input.expectedFencingToken = some current.fencingToken
  revision : Increasable current.leaseRevision
  fencing : Increasable current.fencingToken
  renewable : Renewable input.databaseNow

/-- What an acquire by the holder of the lease checks beside the expiry. -/
structure SameOwnerChecks (current : OsvRuntimeLeaseProjection)
    (currentHolderToken : Option JsString) (input : AcquireInput) : Prop
    extends AcquireChecks input where
  currentRun : current.runId = some input.runId
  currentHolder : currentHolderToken = some input.holderToken
  revision : Countable current.leaseRevision
  fencing : Countable current.fencingToken
  acquired : Accepted current.acquiredAt
  heartbeat : Accepted current.heartbeatAt
  expires : Accepted current.expiresAt

section

variable {current : OsvRuntimeLeaseProjection} {currentHolderToken : Option JsString}
variable {input : AcquireInput} {expiresAt : JsString}

/-- A lease is granted with increased counters when it can be written down. -/
theorem granted_of_increasable {outcome : OsvRuntimeLeaseAcquireOutcome}
    (hrun : isUuid input.runId = true) (hholder : isHolderToken input.holderToken = true)
    (htime : isUtcTimestamp input.databaseNow = true)
    (hrevision : Increasable current.leaseRevision)
    (hfencing : Increasable current.fencingToken) (hrenewable : Renewable input.databaseNow) :
    ∃ result, granted outcome input (incrementLeaseInteger current.leaseRevision)
      (incrementLeaseInteger current.fencingToken) = .ok result ∧ result.outcome = outcome := by
  obtain ⟨expiresAt, hexpires, hvalid⟩ := hrenewable
  have hcreated := created_of_fields ⟨hrun, hholder,
    countable_decimalText (Nat.le_add_left _ _) hrevision.2,
    countable_decimalText (Nat.le_add_left _ _) hfencing.2, htime, htime, hvalid⟩
  rw [incrementLeaseInteger_iff.mpr ⟨hrevision, rfl⟩, incrementLeaseInteger_iff.mpr ⟨hfencing, rfl⟩]
  unfold granted
  dsimp only
  rw [hexpires]
  dsimp only
  obtain ⟨made, hmade⟩ := withProof_of_created hcreated _
  exact ⟨_, hmade, rfl⟩

/-- A held lease is taken over exactly when the checks pass and the comparison permits it. -/
theorem staleTakeoverAcquired_iff (hheld : current.state = .held)
    (hexpires : current.expiresAt = some expiresAt) :
    (∃ result, evaluateOsvRuntimeLeaseAcquire current currentHolderToken input = .ok result ∧
        result.outcome = .staleTakeoverAcquired) ↔
      TakeoverChecks current input ∧
        databaseNowPermitsStaleTakeover input.databaseNow expiresAt = true := by
  unfold evaluateOsvRuntimeLeaseAcquire
  rw [hheld, hexpires]
  dsimp only
  constructor
  · rintro ⟨result, h, houtcome⟩
    split at h
    · cases h
      cases houtcome
    rename_i hpolicy
    split at h
    · cases h
    split at h
    · cases h
    split at h
    · split at h
      · obtain ⟨made, -, rfl⟩ := withProof_eq_ok h
        cases houtcome
      · cases h
        cases houtcome
    rename_i hafter
    split at h
    · cases h
      cases houtcome
    rename_i hexpectedRevision
    split at h
    · cases h
      cases houtcome
    rename_i hexpectedFencing
    obtain ⟨_, _, _, _, hrevision, hfencing, hrenewed, hmade, -⟩ := granted_eq_ok h
    obtain ⟨hrun, hholder, -, -, htime, -, hvalid⟩ := fields_of_created hmade
    obtain ⟨harchitecture, hretry⟩ := not_or.mp hpolicy
    exact ⟨⟨⟨not_not.mp harchitecture, not_not.mp hretry, hrun, hholder, htime⟩,
      by tauto, by tauto, (incrementLeaseInteger_iff.mp hrevision).1,
      (incrementLeaseInteger_iff.mp hfencing).1, _, hrenewed, hvalid⟩,
      eq_true_of_ne_false hafter⟩
  · rintro ⟨checks, hafter⟩
    have hpolicy := not_or.mpr ⟨not_not.mpr checks.architecture, not_not.mpr checks.retryPolicy⟩
    rw [if_neg hpolicy, if_neg (ne_false_of_eq_true checks.holder),
      if_neg (ne_false_of_eq_true checks.time), if_neg (ne_false_of_eq_true hafter),
      if_neg (fun h => checks.expectedRevision.elim h.1 h.2),
      if_neg (fun h => checks.expectedFencing.elim h.1 h.2)]
    exact granted_of_increasable checks.run checks.holder checks.time checks.revision
      checks.fencing checks.renewable

/-- The holder of a lease is told of it exactly when the checks pass and the comparison does
not permit a takeover. -/
theorem alreadyHeldBySameOwner_iff (hheld : current.state = .held)
    (hexpires : current.expiresAt = some expiresAt) :
    (∃ result, evaluateOsvRuntimeLeaseAcquire current currentHolderToken input = .ok result ∧
        result.outcome = .alreadyHeldBySameOwner) ↔
      SameOwnerChecks current currentHolderToken input ∧
        databaseNowPermitsStaleTakeover input.databaseNow expiresAt = false := by
  unfold evaluateOsvRuntimeLeaseAcquire
  rw [hheld, hexpires]
  dsimp only
  constructor
  · rintro ⟨result, h, houtcome⟩
    split at h
    · cases h
      cases houtcome
    rename_i hpolicy
    split at h
    · cases h
    split at h
    · cases h
    rename_i htime
    split at h
    · rename_i hbefore
      split at h
      · rename_i howner
        obtain ⟨made, hmade, rfl⟩ := withProof_eq_ok h
        have hfields := fields_of_created hmade
        obtain ⟨harchitecture, hretry⟩ := not_or.mp hpolicy
        refine ⟨⟨⟨not_not.mp harchitecture, not_not.mp hretry, hfields.run, hfields.holder,
          eq_true_of_ne_false htime⟩, howner.1, howner.2, hfields.revision, hfields.fencing,
          accepted_of_getD hfields.acquired, accepted_of_getD hfields.heartbeat, ?_⟩, hbefore⟩
        intro text htext
        rw [hexpires] at htext
        cases htext
        exact hfields.expires
      · cases h
        cases houtcome
    split at h
    · cases h
      cases houtcome
    split at h
    · cases h
      cases houtcome
    obtain ⟨_, _, _, _, -, -, -, -, rfl⟩ := granted_eq_ok h
    cases houtcome
  · rintro ⟨checks, hbefore⟩
    have hpolicy := not_or.mpr ⟨not_not.mpr checks.architecture, not_not.mpr checks.retryPolicy⟩
    rw [if_neg hpolicy, if_neg (ne_false_of_eq_true checks.holder),
      if_neg (ne_false_of_eq_true checks.time), if_pos hbefore,
      if_pos ⟨checks.currentRun, checks.currentHolder⟩]
    have hcreated := created_of_fields ⟨checks.run, checks.holder, checks.revision, checks.fencing,
      checks.acquired.getD checks.time, checks.heartbeat.getD checks.time,
      checks.expires expiresAt hexpires⟩
    obtain ⟨made, hmade⟩ := withProof_of_created hcreated _
    exact ⟨_, hmade, rfl⟩

end

/-! ## Heartbeat -/

/-- What a heartbeat checks before it looks at the expiry. -/
structure HeartbeatChecks (current : OsvRuntimeLeaseProjection)
    (currentHolderToken : Option JsString) (proof : OsvRuntimeLeaseOwnershipProof)
    (databaseNow : JsString) : Prop where
  presented : proof.holderToken ≠ none
  holder : currentHolderToken = proof.holderToken
  run : current.runId = some proof.runId
  revision : proof.leaseRevision = current.leaseRevision
  fencing : proof.fencingToken = current.fencingToken
  time : isUtcTimestamp databaseNow = true

/-- What a heartbeat checks to extend the lease. -/
structure ExtensionChecks (current : OsvRuntimeLeaseProjection)
    (proof : OsvRuntimeLeaseOwnershipProof) (databaseNow : JsString) : Prop where
  run : isUuid proof.runId = true
  holder : ∀ token ∈ proof.holderToken, isHolderToken token = true
  revision : Increasable current.leaseRevision
  fencing : Countable current.fencingToken
  acquired : Accepted current.acquiredAt
  renewable : Renewable databaseNow

section

variable {current : OsvRuntimeLeaseProjection} {currentHolderToken : Option JsString}
variable {proof : OsvRuntimeLeaseOwnershipProof} {databaseNow expiresAt : JsString}

/-- A heartbeat that is answered otherwise than with the loss of the lease passed the checks. -/
theorem heartbeatChecks_of_ok {result : OsvRuntimeLeaseHeartbeatResult}
    (h : evaluateOsvRuntimeLeaseHeartbeat current currentHolderToken proof databaseNow =
      .ok result) (houtcome : result.outcome ≠ .ownershipLost) :
    HeartbeatChecks current currentHolderToken proof databaseNow := by
  unfold evaluateOsvRuntimeLeaseHeartbeat at h
  split at h
  · cases h
    exact absurd rfl houtcome
  rename_i presented hpresented
  split at h
  · cases h
    exact absurd rfl houtcome
  rename_i hholder
  split at h
  · cases h
    exact absurd rfl houtcome
  rename_i hmatches
  split at h
  · cases h
  rename_i htime
  obtain ⟨hrun, hmatches⟩ := not_or.mp hmatches
  obtain ⟨hrevision, hfencing⟩ := not_or.mp hmatches
  exact ⟨by rw [hpresented]; exact Option.some_ne_none presented,
    (not_not.mp hholder).trans hpresented.symm, not_not.mp hrun, not_not.mp hrevision,
    not_not.mp hfencing, eq_true_of_ne_false htime⟩

/-- The checks are those that the evaluation makes of a token that was presented. -/
theorem HeartbeatChecks.passes
    (checks : HeartbeatChecks current currentHolderToken proof databaseNow) :
    ∃ presented, proof.holderToken = some presented ∧ ¬ currentHolderToken ≠ some presented ∧
      ¬ (current.runId ≠ some proof.runId ∨ proof.leaseRevision ≠ current.leaseRevision ∨
        proof.fencingToken ≠ current.fencingToken) := by
  obtain ⟨presented, hpresented⟩ := Option.ne_none_iff_exists'.mp checks.presented
  refine ⟨presented, hpresented, not_not.mpr (checks.holder.trans hpresented), ?_⟩
  rintro (hrun | hrevision | hfencing)
  · exact hrun checks.run
  · exact hrevision checks.revision
  · exact hfencing checks.fencing

/-- A heartbeat of a held lease is refused as expired exactly when the checks pass and the
comparison permits a takeover. -/
theorem heartbeat_expired_iff (hheld : current.state = .held)
    (hexpires : current.expiresAt = some expiresAt) :
    (∃ result, evaluateOsvRuntimeLeaseHeartbeat current currentHolderToken proof databaseNow =
        .ok result ∧ result.outcome = .expired) ↔
      HeartbeatChecks current currentHolderToken proof databaseNow ∧
        databaseNowPermitsStaleTakeover databaseNow expiresAt = true := by
  constructor
  · rintro ⟨result, h, houtcome⟩
    have checks := heartbeatChecks_of_ok h (by rw [houtcome]; decide)
    obtain ⟨presented, hpresented, hholder, hmatches⟩ := checks.passes
    refine ⟨checks, ?_⟩
    unfold evaluateOsvRuntimeLeaseHeartbeat at h
    rw [hpresented, hheld, hexpires] at h
    dsimp only at h
    rw [if_neg hholder, if_neg hmatches, if_neg (ne_false_of_eq_true checks.time)] at h
    split at h
    · assumption
    split at h
    · cases h
    split at h
    · cases h
    obtain ⟨made, -, rfl⟩ := withProof_eq_ok h
    cases houtcome
  · rintro ⟨checks, hafter⟩
    obtain ⟨presented, hpresented, hholder, hmatches⟩ := checks.passes
    unfold evaluateOsvRuntimeLeaseHeartbeat
    rw [hpresented, hheld, hexpires]
    dsimp only
    rw [if_neg hholder, if_neg hmatches, if_neg (ne_false_of_eq_true checks.time), if_pos hafter]
    exact ⟨_, rfl, rfl⟩

/-- A heartbeat of a held lease is accepted exactly when all checks pass and the comparison
does not permit a takeover. -/
theorem heartbeat_accepted_iff (hheld : current.state = .held)
    (hexpires : current.expiresAt = some expiresAt) :
    (∃ result, evaluateOsvRuntimeLeaseHeartbeat current currentHolderToken proof databaseNow =
        .ok result ∧ result.outcome = .accepted) ↔
      (HeartbeatChecks current currentHolderToken proof databaseNow ∧
          ExtensionChecks current proof databaseNow) ∧
        databaseNowPermitsStaleTakeover databaseNow expiresAt = false := by
  constructor
  · rintro ⟨result, h, houtcome⟩
    have checks := heartbeatChecks_of_ok h (by rw [houtcome]; decide)
    obtain ⟨presented, hpresented, hholder, hmatches⟩ := checks.passes
    unfold evaluateOsvRuntimeLeaseHeartbeat at h
    rw [hpresented, hheld, hexpires] at h
    dsimp only at h
    rw [if_neg hholder, if_neg hmatches, if_neg (ne_false_of_eq_true checks.time)] at h
    split at h
    · cases h
      cases houtcome
    rename_i hbefore
    split at h
    · cases h
    rename_i nextRevision hrevision
    split at h
    · cases h
    rename_i renewed hrenewed
    obtain ⟨made, hmade, -⟩ := withProof_eq_ok h
    have hfields := fields_of_created hmade
    refine ⟨⟨checks, hfields.run, ?_, (incrementLeaseInteger_iff.mp hrevision).1, hfields.fencing,
      accepted_of_getD hfields.acquired, renewed, hrenewed, hfields.expires⟩,
      eq_false_of_ne_true hbefore⟩
    intro token htoken
    rw [hpresented] at htoken
    cases htoken
    exact hfields.holder
  · rintro ⟨⟨checks, extension⟩, hbefore⟩
    obtain ⟨presented, hpresented, hholder, hmatches⟩ := checks.passes
    obtain ⟨renewed, hrenewed, hvalid⟩ := extension.renewable
    have hnext := countable_decimalText (Nat.le_add_left _ _) extension.revision.2
    have hcreated := created_of_fields ⟨extension.run, extension.holder presented hpresented, hnext,
      extension.fencing, extension.acquired.getD checks.time, checks.time, hvalid⟩
    unfold evaluateOsvRuntimeLeaseHeartbeat
    rw [hpresented, hheld, hexpires]
    dsimp only
    rw [if_neg hholder, if_neg hmatches, if_neg (ne_false_of_eq_true checks.time),
      if_neg (ne_true_of_eq_false hbefore), incrementLeaseInteger_iff.mpr ⟨extension.revision, rfl⟩]
    dsimp only
    rw [hrenewed]
    dsimp only
    obtain ⟨made, hmade⟩ := withProof_of_created hcreated _
    exact ⟨_, hmade, rfl⟩

end

/-! ## Ownership -/

/-- What a check of ownership asks beside the expiry. -/
structure OwnershipChecks (current : OsvRuntimeLeaseProjection)
    (proof : OsvRuntimeLeaseOwnershipProof) (currentHolderToken : Option JsString)
    (expectedRunId : JsString) : Prop where
  scope : proof.scope = current.scope
  run : proof.runId = expectedRunId
  currentRun : current.runId = some expectedRunId
  held : current.state = .held
  presented : proof.holderToken ≠ none
  holder : proof.holderToken = currentHolderToken
  fencing : proof.fencingToken = current.fencingToken

section

variable {current : OsvRuntimeLeaseProjection} {proof : OsvRuntimeLeaseOwnershipProof}
variable {currentHolderToken : Option JsString} {databaseNow expectedRunId expiresAt : JsString}

/-- The reasons that only the time decides are given exactly when the checks pass, and the
comparison chooses between them. -/
theorem ownership_iff (hexpires : current.expiresAt = some expiresAt) :
    (validateOsvRuntimeLeaseOwnership current (some proof) currentHolderToken databaseNow
        expectedRunId = .expired ↔
      OwnershipChecks current proof currentHolderToken expectedRunId ∧
        databaseNowPermitsStaleTakeover databaseNow expiresAt = true) ∧
    (validateOsvRuntimeLeaseOwnership current (some proof) currentHolderToken databaseNow
        expectedRunId = .currentOwner ↔
      OwnershipChecks current proof currentHolderToken expectedRunId ∧
        databaseNowPermitsStaleTakeover databaseNow expiresAt = false) := by
  -- a check that fails gives its own reason
  have hfails : ∀ {reason : OwnershipReason} {passed : Bool},
      ¬ OwnershipChecks current proof currentHolderToken expectedRunId →
        reason ≠ .expired → reason ≠ .currentOwner →
          (reason = .expired ↔ OwnershipChecks current proof currentHolderToken expectedRunId ∧
              passed = true) ∧
            (reason = .currentOwner ↔
              OwnershipChecks current proof currentHolderToken expectedRunId ∧ passed = false) := by
    intro reason passed hchecks hexpired howner
    exact ⟨iff_of_false hexpired fun h => hchecks h.1, iff_of_false howner fun h => hchecks h.1⟩
  unfold validateOsvRuntimeLeaseOwnership
  rw [hexpires]
  dsimp only
  split
  · rename_i hscope
    exact hfails (fun checks => hscope checks.scope) (by decide) (by decide)
  rename_i hscope
  split
  · rename_i hrun
    exact hfails (fun checks => hrun.elim (fun h => h checks.run) fun h => h checks.currentRun)
      (by decide) (by decide)
  rename_i hrun
  split
  · rename_i hheld
    exact hfails (fun checks => hheld checks.held) (by decide) (by decide)
  rename_i hheld
  split
  · rename_i hholder
    exact hfails (fun checks => hholder.elim checks.presented fun h => h checks.holder)
      (by decide) (by decide)
  rename_i hholder
  split
  · rename_i hfencing
    exact hfails (fun checks => hfencing checks.fencing) (by decide) (by decide)
  rename_i hfencing
  obtain ⟨hpresentedRun, hcurrentRun⟩ := not_or.mp hrun
  obtain ⟨hpresented, hsame⟩ := not_or.mp hholder
  have checks : OwnershipChecks current proof currentHolderToken expectedRunId :=
    ⟨not_not.mp hscope, not_not.mp hpresentedRun, not_not.mp hcurrentRun, not_not.mp hheld,
      hpresented, not_not.mp hsame, not_not.mp hfencing⟩
  cases databaseNowPermitsStaleTakeover databaseNow expiresAt with
  | true =>
      exact ⟨iff_of_true rfl ⟨checks, rfl⟩,
        iff_of_false (by decide) fun h => absurd h.2 (by decide)⟩
  | false =>
      exact ⟨iff_of_false (by decide) fun h => absurd h.2 (by decide),
        iff_of_true rfl ⟨checks, rfl⟩⟩

end

end PatchPilot.Osv
