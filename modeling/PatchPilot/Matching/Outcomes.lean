import PatchPilot.Foundation.Comparator

set_option autoImplicit false

/-!
# Matching: outcomes, explanation codes and the lifecycle (`outcomes.ts`, `graphs.ts`)

An evaluation publishes one of three outcomes together with explanation codes.
The codes form a closed catalog whose order is the order in which they are
published, and each code belongs to exactly one outcome.
-/

namespace PatchPilot.Matching

open PatchPilot.Foundation

/-- `FirstEcosystemExplanationCode`. -/
inductive ExplanationCode
  | affectedWithinIntroducedFixedRange
  | affectedAtIntroducedBoundary
  | affectedWithinLastAffectedRange
  | affectedExplicitVersionEqual
  | unaffectedBeforeIntroduced
  | unaffectedAtOrAfterFixedBoundary
  | unaffectedAfterLastAffected
  | unaffectedOutsideAllRanges
  | unknownUnsupportedEcosystem
  | unknownInvalidPackageIdentity
  | unknownInvalidObservedVersion
  | unknownUnsupportedVersionSyntax
  | unknownInvalidRange
  | unknownUnsupportedRangeType
  | unknownUnsupportedEvent
  | unknownContradictoryEvents
  | unknownIncompleteEvidence
  | unknownUntrustedAdvisoryEvidence
  | unknownKevNotAffectednessAuthority
  | unknownCapacityExceeded
  | unknownPolicyMismatch
  | unknownEvaluatorUnavailable
  | unknownComparatorNotImplemented
  | unknownRangeOrderNotVerified
  | unknownPrereleaseMembershipNotProven
  | unknownWithdrawnAdvisory
  | unknownInternalFailure
  deriving DecidableEq

/-- `FirstEcosystemOutcome`. -/
inductive Outcome
  | affected | unaffected | unknown
  deriving DecidableEq

/-- `FIRST_ECOSYSTEM_EXPLANATION_CODES`, the catalog. -/
def firstEcosystemExplanationCodes : List ExplanationCode :=
  [.affectedWithinIntroducedFixedRange, .affectedAtIntroducedBoundary,
   .affectedWithinLastAffectedRange, .affectedExplicitVersionEqual,
   .unaffectedBeforeIntroduced, .unaffectedAtOrAfterFixedBoundary,
   .unaffectedAfterLastAffected, .unaffectedOutsideAllRanges,
   .unknownUnsupportedEcosystem, .unknownInvalidPackageIdentity,
   .unknownInvalidObservedVersion, .unknownUnsupportedVersionSyntax,
   .unknownInvalidRange, .unknownUnsupportedRangeType, .unknownUnsupportedEvent,
   .unknownContradictoryEvents, .unknownIncompleteEvidence,
   .unknownUntrustedAdvisoryEvidence, .unknownKevNotAffectednessAuthority,
   .unknownCapacityExceeded, .unknownPolicyMismatch, .unknownEvaluatorUnavailable,
   .unknownComparatorNotImplemented, .unknownRangeOrderNotVerified,
   .unknownPrereleaseMembershipNotProven, .unknownWithdrawnAdvisory,
   .unknownInternalFailure]

/-- `EXPLANATION_RANK`: the position of a code in the catalog. -/
def explanationRank (code : ExplanationCode) : Nat :=
  firstEcosystemExplanationCodes.idxOf code

theorem explanationRank_injective : Function.Injective explanationRank := by
  intro a b h
  have hmem : ∀ c : ExplanationCode, c ∈ firstEcosystemExplanationCodes := by
    intro c
    cases c <;> decide
  exact (List.idxOf_inj (hmem a)).mp h

/-- The comparator both callers pass to `sort`: difference of ranks. -/
def compareExplanationCodes (left right : ExplanationCode) : Ordering :=
  comapCmp compare explanationRank left right

instance : Std.TransCmp compareExplanationCodes :=
  inferInstanceAs (Std.TransCmp (comapCmp compare explanationRank))

instance : Std.LawfulEqCmp compareExplanationCodes :=
  comapCmp_lawfulEq compare explanationRank_injective

/-- `FIRST_ECOSYSTEM_MAX_EXPLANATION_CODES`. -/
def firstEcosystemMaxExplanationCodes : Nat := 8

/-- `AFFECTED_EXPLANATIONS`. -/
def affectedExplanations : List ExplanationCode :=
  [.affectedWithinIntroducedFixedRange, .affectedAtIntroducedBoundary,
   .affectedWithinLastAffectedRange, .affectedExplicitVersionEqual]

/-- `UNAFFECTED_EXPLANATIONS`. -/
def unaffectedExplanations : List ExplanationCode :=
  [.unaffectedBeforeIntroduced, .unaffectedAtOrAfterFixedBoundary,
   .unaffectedAfterLastAffected, .unaffectedOutsideAllRanges]

/-- `explanationOutcome`. -/
def explanationOutcome (code : ExplanationCode) : Outcome :=
  if affectedExplanations.contains code then .affected
  else if unaffectedExplanations.contains code then .unaffected
  else .unknown

/-- `admitEvaluationOutcome`. -/
def admitEvaluationOutcome (outcome : Outcome) : Bool :=
  outcome == .affected || outcome == .unaffected || outcome == .unknown

theorem admitEvaluationOutcome_eq_true (outcome : Outcome) :
    admitEvaluationOutcome outcome = true := by
  cases outcome <;> rfl

/-- Codes in publication order: strictly increasing in the catalog. -/
def CatalogOrdered (codes : List ExplanationCode) : Prop :=
  codes.Pairwise (fun a b => explanationRank a < explanationRank b)

instance (codes : List ExplanationCode) : Decidable (CatalogOrdered codes) :=
  inferInstanceAs (Decidable (codes.Pairwise _))

theorem CatalogOrdered.nodup {codes : List ExplanationCode} (h : CatalogOrdered codes) :
    codes.Nodup := by
  refine List.Pairwise.imp ?_ h
  intro a b hlt hab
  rw [hab] at hlt
  exact Nat.lt_irrefl _ hlt

/-- Sorting by rank yields publication order exactly for duplicate-free lists. -/
theorem catalogOrdered_sortBy_iff (codes : List ExplanationCode) :
    CatalogOrdered (sortBy compareExplanationCodes codes) ↔ codes.Nodup := by
  constructor
  · intro h
    exact (sortBy_perm compareExplanationCodes codes).nodup_iff.mp h.nodup
  · intro h
    refine (sortBy_strict compareExplanationCodes h).imp ?_
    intro a b hab
    exact Nat.compare_eq_lt.mp hab

/-! ## The evaluation lifecycle -/

/-- The nodes of the evaluation lifecycle. -/
inductive LifecycleNode
  | received | identityValidated | versionValidated | advisoryEvidenceValidated
  | rangeValidated | evaluationReady | affected | unaffected | unknown
  | evidenceConstructed
  deriving DecidableEq

/-- The node of an outcome. -/
def Outcome.node : Outcome → LifecycleNode
  | .affected => .affected
  | .unaffected => .unaffected
  | .unknown => .unknown

/-- `EVALUATION_LIFECYCLE_EDGES`. -/
def evaluationLifecycleEdges : List (LifecycleNode × LifecycleNode) :=
  [(.received, .identityValidated), (.received, .unknown),
   (.identityValidated, .versionValidated), (.identityValidated, .unknown),
   (.versionValidated, .advisoryEvidenceValidated), (.versionValidated, .unknown),
   (.advisoryEvidenceValidated, .rangeValidated), (.advisoryEvidenceValidated, .unknown),
   (.rangeValidated, .evaluationReady), (.rangeValidated, .unknown),
   (.evaluationReady, .affected), (.evaluationReady, .unaffected),
   (.evaluationReady, .unknown), (.affected, .evidenceConstructed),
   (.unaffected, .evidenceConstructed), (.unknown, .evidenceConstructed)]

/-- `evaluationTransitionAllowed`. -/
def evaluationTransitionAllowed (source target : LifecycleNode) : Bool :=
  evaluationLifecycleEdges.contains (source, target)

/-- A walk of the lifecycle graph: every two consecutive nodes are an edge. -/
def IsLifecycleWalk (path : List LifecycleNode) : Prop :=
  path.IsChain (fun source target => evaluationTransitionAllowed source target = true)

instance (path : List LifecycleNode) : Decidable (IsLifecycleWalk path) :=
  inferInstanceAs (Decidable (List.IsChain _ path))

end PatchPilot.Matching
