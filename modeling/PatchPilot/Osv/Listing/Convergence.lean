import PatchPilot.Osv.Listing.Pass

set_option autoImplicit false

/-!
# Osv listing: convergence

Two passes converge when both are complete and listed the same observations, in whatever order
and on whatever pages.  An inventory is complete when every prefix of its plan converges.
-/

namespace PatchPilot.Osv.Listing

open PatchPilot.Foundation

/-! ## Canonical sets -/

/-- Observations that are told apart are listed once. -/
theorem PairwiseDistinct.nodup {observations : List OsvListingCanonicalObservation}
    (h : PairwiseDistinct observations) : observations.Nodup := by
  refine List.Pairwise.imp ?_ h
  intro left right hclassified heq
  exact version_ne_of_classified hclassified (by rw [heq])

/-- The completeness states that claim completeness. -/
def OsvListingInventoryCompletenessState.isComplete :
    OsvListingInventoryCompletenessState → Bool
  | .completeForSelectedCanaryScope | .completeForProductionInventoryScope => true
  | _ => false

/-- The counts of a convergence are small enough to be added up. -/
structure Countable (result : OsvListingConvergenceResult) : Prop where
  pages : result.counts.pageCount ≤ 2 ^ 40
  raw : result.counts.rawObservationCount ≤ 2 ^ 40
  bytes : result.counts.responseByteCount ≤ 2 ^ 40
  canonical : result.canonicalObservationCount.getD 0 ≤ 2 ^ 40

/-- The number of convergences that converged. -/
def convergedCount (results : List OsvListingConvergenceResult) : Nat :=
  (results.filter fun result => decide (result.outcome = .converged)).length

/-- The tally after the convergences of some prefixes. -/
structure TallyOf (tally : InventoryTally) (prefixes : List JsString)
    (results : List OsvListingConvergenceResult) : Prop where
  seen : ∀ providerPrefix, providerPrefix ∈ tally.seen ↔ providerPrefix ∈ prefixes
  converged : tally.converged = convergedCount results
  total : tally.converged + tally.incomplete + tally.failed + tally.cancelled = results.length
  pages : tally.pages ≤ results.length * 2 ^ 40
  raw : tally.raw ≤ results.length * 2 ^ 40
  bytes : tally.bytes ≤ results.length * 2 ^ 40
  canonical : tally.canonical ≤ results.length * 2 ^ 40

end PatchPilot.Osv.Listing
