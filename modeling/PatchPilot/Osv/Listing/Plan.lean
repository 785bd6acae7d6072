import PatchPilot.Osv.Listing.Convergence

set_option autoImplicit false

/-!
# Osv listing: a plan

Along every transcript of `executeInventoryPlan`, the inventory that is reported is complete
exactly when both passes of every prefix ended on a terminal page and listed the same
observations, and no prefix is listed after one that did not converge.
-/

namespace PatchPilot.Osv.Listing

open PatchPilot.Foundation

/-! ## What was drawn and listed -/

section

variable (sha256 : List UInt8 → JsString)

variable {sha256}

end

/-! ## Parts of a transcript -/

section

variable {sha256 : List UInt8 → JsString}

/-- A summary as a pass that lists, with the counts that it reports. -/
theorem PassSummary.report {input : PassInput} {t : ListingTranscript}
    {outcome : PageLoopOutcome} (h : PassSummary sha256 input t outcome) :
    outcome.result.passOrdinal = input.passOrdinal ∧
      outcome.result.providerPrefix = input.providerPrefix ∧
      outcome.result.runId = input.request.runId ∧
      outcome.result.profile = input.request.profile ∧
      outcome.result.passAttemptId = input.passAttempt.value ∧
      WithinPass input.request.profile ⟨outcome.result.pageCount,
        outcome.result.rawObservationCount, outcome.result.responseByteCount⟩ := by
  obtain ⟨hrun, hprofile, hofPrefix, hordinal, hattempt⟩ := h.pass
  have hwithin := h.withinPass
  rw [h.reported]
  refine ⟨hordinal, hofPrefix, hrun, hprofile, ?_, hwithin.pages, hwithin.observations,
    hwithin.bytes⟩
  exact congrArg (·.value) hattempt

end

namespace Sampling

end Sampling

end PatchPilot.Osv.Listing
