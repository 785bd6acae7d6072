import PatchPilot.Foundation.UtcInstant
import PatchPilot.Osv.LeaseChecks

set_option autoImplicit false

/-!
# Osv: when a lease expires (`runtime-coordination/lease.ts`)

A takeover, a heartbeat and a check of ownership ask whether the time of the database is at
the expiry of the lease or after it, and all of them ask it of the texts.  `addMilliseconds`
leaves a zero fraction out, the database does not, and the accepted texts have up to six
digits.  The texts answer for the instants except within the second of the expiry, where a
fraction that continues the other one is judged to be earlier.
-/

namespace PatchPilot.Osv

open PatchPilot.Foundation

/-- The first time stamp denotes an instant at or after that of the second one. -/
def AtOrAfter (databaseNow expiresAt : JsString) : Prop :=
  ∃ now expiry, instantOf databaseNow = some now ∧ instantOf expiresAt = some expiry ∧
    expiry ≤ now

/-- What depends on the expiry of a lease changes at the instant of the expiry: with the other
checks of a function passed, its outcome says on which side of the expiry the time is. -/
structure FlipsAtExpiry (databaseNow expiresAt : JsString) : Prop where
  permits : databaseNowPermitsStaleTakeover databaseNow expiresAt = true ↔
    AtOrAfter databaseNow expiresAt
  takeover : ∀ (current : OsvRuntimeLeaseProjection) (currentHolderToken : Option JsString)
    (input : AcquireInput), current.state = .held → current.expiresAt = some expiresAt →
      input.databaseNow = databaseNow →
        ((∃ result, evaluateOsvRuntimeLeaseAcquire current currentHolderToken input =
            .ok result ∧ result.outcome = .staleTakeoverAcquired) ↔
          TakeoverChecks current input ∧ AtOrAfter databaseNow expiresAt) ∧
        ((∃ result, evaluateOsvRuntimeLeaseAcquire current currentHolderToken input =
            .ok result ∧ result.outcome = .alreadyHeldBySameOwner) ↔
          SameOwnerChecks current currentHolderToken input ∧ ¬ AtOrAfter databaseNow expiresAt)
  heartbeat : ∀ (current : OsvRuntimeLeaseProjection) (currentHolderToken : Option JsString)
    (proof : OsvRuntimeLeaseOwnershipProof), current.state = .held →
      current.expiresAt = some expiresAt →
        ((∃ result, evaluateOsvRuntimeLeaseHeartbeat current currentHolderToken proof
            databaseNow = .ok result ∧ result.outcome = .expired) ↔
          HeartbeatChecks current currentHolderToken proof databaseNow ∧
            AtOrAfter databaseNow expiresAt) ∧
        ((∃ result, evaluateOsvRuntimeLeaseHeartbeat current currentHolderToken proof
            databaseNow = .ok result ∧ result.outcome = .accepted) ↔
          (HeartbeatChecks current currentHolderToken proof databaseNow ∧
              ExtensionChecks current proof databaseNow) ∧
            ¬ AtOrAfter databaseNow expiresAt)
  ownership : ∀ (current : OsvRuntimeLeaseProjection) (proof : OsvRuntimeLeaseOwnershipProof)
    (currentHolderToken : Option JsString) (expectedRunId : JsString),
      current.expiresAt = some expiresAt →
        (validateOsvRuntimeLeaseOwnership current (some proof) currentHolderToken databaseNow
            expectedRunId = .expired ↔
          OwnershipChecks current proof currentHolderToken expectedRunId ∧
            AtOrAfter databaseNow expiresAt) ∧
        (validateOsvRuntimeLeaseOwnership current (some proof) currentHolderToken databaseNow
            expectedRunId = .currentOwner ↔
          OwnershipChecks current proof currentHolderToken expectedRunId ∧
            ¬ AtOrAfter databaseNow expiresAt)

/-- Two texts of one second whose fractions clash. -/
def ClashInSecond (databaseNow expiresAt : JsString) : Prop :=
  databaseNow.take 19 = expiresAt.take 19 ∧
    FractionsClash (fractionOf databaseNow) (fractionOf expiresAt)

/-- Texts that are not in the order of their instants: two of one second whose fractions
clash, or one that is no instant, where the time shows a later number or, within a second
whose fractions clash, an earlier one. -/
inductive Misjudged (databaseNow expiresAt : JsString) : Prop
  | fractions (now : (instantOf databaseNow).isSome = true)
    (expiry : (instantOf expiresAt).isSome = true) (clash : ClashInSecond databaseNow expiresAt)
  | noInstant (missing : instantOf databaseNow = none ∨ instantOf expiresAt = none)
    (shown : shownValue expiresAt ≤ shownValue databaseNow)
    (apart : ¬ ClashInSecond databaseNow expiresAt)
  | noInstantFractions (missing : instantOf databaseNow = none ∨ instantOf expiresAt = none)
    (shown : shownValue databaseNow < shownValue expiresAt)
    (clash : ClashInSecond databaseNow expiresAt)

section

variable {databaseNow expiresAt : JsString}

/-- The comparison answers for the numbers that are shown, unless the fractions clash. -/
theorem permits_iff_shown (hnow : isUtcTimestamp databaseNow = true)
    (hexpiry : isUtcTimestamp expiresAt = true) :
    (databaseNowPermitsStaleTakeover databaseNow expiresAt = true ↔
      shownValue expiresAt ≤ shownValue databaseNow) ↔ ¬ ClashInSecond databaseNow expiresAt :=
  isGE_compareCodeUnits_iff hnow hexpiry

/-- A text that denotes no instant is not before or after any. -/
theorem permits_iff_of_missing (hnow : isUtcTimestamp databaseNow = true)
    (hexpiry : isUtcTimestamp expiresAt = true)
    (h : instantOf databaseNow = none ∨ instantOf expiresAt = none) :
    (databaseNowPermitsStaleTakeover databaseNow expiresAt = true ↔
      AtOrAfter databaseNow expiresAt) ↔ ¬ Misjudged databaseNow expiresAt := by
  have hnever : ¬ AtOrAfter databaseNow expiresAt := by
    rintro ⟨now, expiry, hnow, hexpiry, -⟩
    rcases h with hnone | hnone
    · rw [hnone] at hnow
      cases hnow
    · rw [hnone] at hexpiry
      cases hexpiry
  have hmisjudged : Misjudged databaseNow expiresAt ↔
      (shownValue expiresAt ≤ shownValue databaseNow ↔ ¬ ClashInSecond databaseNow expiresAt) := by
    constructor
    · intro hmisjudged
      cases hmisjudged with
      | fractions now expiry clash =>
          rcases h with hnone | hnone
          · rw [hnone] at now
            cases now
          · rw [hnone] at expiry
            cases expiry
      | noInstant missing shown apart => exact iff_of_true shown apart
      | noInstantFractions missing shown clash =>
          exact iff_of_false (not_le.mpr shown) (not_not.mpr clash)
    · intro horder
      by_cases hshown : shownValue expiresAt ≤ shownValue databaseNow
      · exact .noInstant h hshown (horder.mp hshown)
      · exact .noInstantFractions h (not_le.mp hshown)
          (not_not.mp fun hapart => hshown (horder.mpr hapart))
  rw [hmisjudged, iff_false_right hnever, ← permits_iff_shown hnow hexpiry]
  tauto

theorem permits_iff_of_instants {now expiry : Int} (hnow : instantOf databaseNow = some now)
    (hexpiry : instantOf expiresAt = some expiry) :
    (databaseNowPermitsStaleTakeover databaseNow expiresAt = true ↔
      AtOrAfter databaseNow expiresAt) ↔ ¬ Misjudged databaseNow expiresAt := by
  have horder : AtOrAfter databaseNow expiresAt ↔
      shownValue expiresAt ≤ shownValue databaseNow := by
    rw [← instant_le_iff hnow hexpiry]
    refine ⟨?_, fun hle => ⟨now, expiry, hnow, hexpiry, hle⟩⟩
    rintro ⟨now', expiry', hnow', hexpiry', hle⟩
    rw [hnow] at hnow'
    rw [hexpiry] at hexpiry'
    cases hnow'
    cases hexpiry'
    exact hle
  have hmissing : ¬ (instantOf databaseNow = none ∨ instantOf expiresAt = none) := by
    rw [hnow, hexpiry]
    simp
  have hmisjudged : Misjudged databaseNow expiresAt ↔ ClashInSecond databaseNow expiresAt := by
    refine ⟨fun hmisjudged => ?_, .fractions (by rw [hnow]; rfl) (by rw [hexpiry]; rfl)⟩
    cases hmisjudged with
    | fractions now expiry clash => exact clash
    | noInstant missing shown apart => exact absurd missing hmissing
    | noInstantFractions missing shown clash => exact clash
  rw [horder, hmisjudged]
  exact permits_iff_shown (isUtcTimestamp_of_instantOf hnow) (isUtcTimestamp_of_instantOf hexpiry)

theorem permits_iff (hnow : isUtcTimestamp databaseNow = true)
    (hexpiry : isUtcTimestamp expiresAt = true) :
    (databaseNowPermitsStaleTakeover databaseNow expiresAt = true ↔
      AtOrAfter databaseNow expiresAt) ↔ ¬ Misjudged databaseNow expiresAt := by
  cases hnowInstant : instantOf databaseNow with
  | none => exact permits_iff_of_missing hnow hexpiry (.inl hnowInstant)
  | some now =>
      cases hexpiryInstant : instantOf expiresAt with
      | none => exact permits_iff_of_missing hnow hexpiry (.inr hexpiryInstant)
      | some expiry => exact permits_iff_of_instants hnowInstant hexpiryInstant

end

/-- A lease expires by its texts when it expires by its instants, but for the texts that are
misjudged. -/
theorem flipsAtExpiry_iff (databaseNow expiresAt : JsString)
    (hnow : isUtcTimestamp databaseNow = true) (hexpiry : isUtcTimestamp expiresAt = true) :
    FlipsAtExpiry databaseNow expiresAt ↔ ¬ Misjudged databaseNow expiresAt := by
  refine ⟨fun h => (permits_iff hnow hexpiry).mp h.permits, fun h => ?_⟩
  have hpermits := (permits_iff hnow hexpiry).mpr h
  have hbefore : databaseNowPermitsStaleTakeover databaseNow expiresAt = false ↔
      ¬ AtOrAfter databaseNow expiresAt := by
    rw [← hpermits, Bool.not_eq_true]
  constructor
  case permits => exact hpermits
  case takeover =>
    rintro current currentHolderToken input hheld hexpires rfl
    rw [← hbefore, ← hpermits]
    exact ⟨staleTakeoverAcquired_iff hheld hexpires, alreadyHeldBySameOwner_iff hheld hexpires⟩
  case heartbeat =>
    intro current currentHolderToken proof hheld hexpires
    rw [← hbefore, ← hpermits]
    exact ⟨heartbeat_expired_iff hheld hexpires, heartbeat_accepted_iff hheld hexpires⟩
  case ownership =>
    intro current proof currentHolderToken expectedRunId hexpires
    rw [← hbefore, ← hpermits]
    exact ownership_iff hexpires

/-- Between the eighth and the quarter of a second the texts flip at the instant, and a month
that no year has is taken for a later one. -/
theorem flipsAtExpiry_iff_sample :
    FlipsAtExpiry (js "2026-01-01T00:15:00.25Z") (js "2026-01-01T00:15:00.125Z") ∧
      ¬ FlipsAtExpiry (js "2026-13-01T00:00:00Z") (js "2026-01-01T00:15:00Z") := by
  refine ⟨(flipsAtExpiry_iff _ _ (by decide +kernel) (by decide +kernel)).mpr ?_,
    fun h => (flipsAtExpiry_iff _ _ (by decide +kernel) (by decide +kernel)).mp h ?_⟩
  · have hinstants : ¬ (instantOf (js "2026-01-01T00:15:00.25Z") = none ∨
        instantOf (js "2026-01-01T00:15:00.125Z") = none) := by decide +kernel
    have hapart : ¬ ClashInSecond (js "2026-01-01T00:15:00.25Z")
        (js "2026-01-01T00:15:00.125Z") := by
      unfold ClashInSecond FractionsClash
      decide +kernel
    intro hmisjudged
    cases hmisjudged with
    | fractions now expiry clash => exact hapart clash
    | noInstant missing shown apart => exact hinstants missing
    | noInstantFractions missing shown clash => exact hinstants missing
  · refine .noInstant (.inl (by decide +kernel)) (by decide +kernel) ?_
    unfold ClashInSecond FractionsClash
    decide +kernel

/-- Half a second after the expiry, whose zero fraction is not written, a takeover is not
permitted. -/
theorem not_flipsAtExpiry_behind_addMilliseconds :
    isUtcTimestamp (js "2026-01-01T00:00:00.000Z") = true ∧
      addMilliseconds (js "2026-01-01T00:00:00.000Z") osvRuntimeLeaseTtlMs =
        some (js "2026-01-01T00:15:00Z") ∧
      isUtcTimestamp (js "2026-01-01T00:15:00.500Z") = true ∧
      databaseNowPermitsStaleTakeover (js "2026-01-01T00:15:00.500Z")
        (js "2026-01-01T00:15:00Z") = false ∧
      ¬ FlipsAtExpiry (js "2026-01-01T00:15:00.500Z") (js "2026-01-01T00:15:00Z") := by
  refine ⟨by decide +kernel, by decide +kernel, by decide +kernel, by decide +kernel, ?_⟩
  intro h
  have hreached : AtOrAfter (js "2026-01-01T00:15:00.500Z") (js "2026-01-01T00:15:00Z") :=
    ⟨1767226500500000, 1767226500000000, by decide +kernel, by decide +kernel, by decide⟩
  have hpermitted := h.permits.mpr hreached
  exact absurd hpermitted (by decide +kernel)

end PatchPilot.Osv
