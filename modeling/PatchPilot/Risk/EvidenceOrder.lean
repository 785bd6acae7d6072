import Mathlib.Data.List.Forall2
import PatchPilot.Foundation.FoldOrder
import PatchPilot.Risk.Freshness

set_option autoImplicit false

/-!
# Risk: the order of the evidence

The creation evidence of a finding is read from the database in some order, and the CVEs
that it names are looked up in the order in which they turn up.  Neither order shows in
the facts: the CVEs are collected as a set, and a fact is taken from rows that all say the
same or from none.
-/

namespace PatchPilot.Risk

open PatchPilot.Foundation
open PatchPilot.Policy

/-! ## The CVEs -/

/-- The CVE that a row contributes. -/
def FindingRiskCreationEvidence.contributedCve (row : FindingRiskCreationEvidence) :
    Except FindingRiskCanonicalCveFailureCode (Option JsString) :=
  match row.bindingClassification with
  | .providerNativeWithoutCve => .ok none
  | .oneCveAliasEvidence =>
      match row.canonicalCves with
      | [cve] => .ok (some cve)
      | _ => .error .canonicalCveCardinality

/-- A CVE is collected once. -/
def collectCve (canonicalCves : List JsString) : Option JsString → List JsString
  | none => canonicalCves
  | some cve => if cve ∈ canonicalCves then canonicalCves else canonicalCves ++ [cve]

theorem selectCanonicalCve_eq (canonicalCves : List JsString)
    (row : FindingRiskCreationEvidence) :
    selectCanonicalCve canonicalCves row = row.contributedCve.map (collectCve canonicalCves) := by
  unfold selectCanonicalCve FindingRiskCreationEvidence.contributedCve
  cases row.bindingClassification with
  | providerNativeWithoutCve => rfl
  | oneCveAliasEvidence =>
      rcases row.canonicalCves with _ | ⟨cve, _ | ⟨other, rest⟩⟩
      · rfl
      · rfl
      · rfl

theorem collectCve_perm {cves cves' : List JsString} (h : cves.Perm cves')
    (cve : Option JsString) : (collectCve cves cve).Perm (collectCve cves' cve) := by
  cases cve with
  | none => exact h
  | some c =>
      unfold collectCve
      dsimp only
      by_cases hc : c ∈ cves
      · rw [if_pos hc, if_pos (h.mem_iff.mp hc)]
        exact h
      · rw [if_neg hc, if_neg (mt h.mem_iff.mpr hc)]
        exact h.append_right [c]

/-- Two CVEs are collected in either order. -/
theorem collectCve_swap (cves : List JsString) (x y : Option JsString) :
    (collectCve (collectCve cves x) y).Perm (collectCve (collectCve cves y) x) := by
  cases x with
  | none => exact .refl _
  | some c =>
      cases y with
      | none => exact .refl _
      | some d =>
          by_cases hc : c ∈ cves
          · by_cases hd : d ∈ cves
            · simp [collectCve, hc, hd]
            · simp [collectCve, hc, hd]
          · by_cases hd : d ∈ cves
            · simp [collectCve, hc, hd]
            · by_cases hcd : c = d
              · rw [hcd]
              · simp only [collectCve, List.mem_append,
                  List.mem_singleton, hc, hd, hcd, Ne.symm hcd, or_self, if_false,
                  List.append_assoc]
                exact (List.Perm.swap d c []).append_left cves

theorem selectCanonicalCve_perm {cves cves' : List JsString} (row : FindingRiskCreationEvidence)
    (h : cves.Perm cves') :
    Alike List.Perm (selectCanonicalCve cves row) (selectCanonicalCve cves' row) := by
  rw [selectCanonicalCve_eq, selectCanonicalCve_eq]
  cases row.contributedCve with
  | error code => exact rfl
  | ok cve => exact collectCve_perm h cve

theorem selectCanonicalCve_swap (cves : List JsString) (a b : FindingRiskCreationEvidence) :
    Alike List.Perm (selectCanonicalCve cves a >>= (selectCanonicalCve · b))
      (selectCanonicalCve cves b >>= (selectCanonicalCve · a)) := by
  simp only [selectCanonicalCve_eq]
  cases a.contributedCve with
  | error code =>
      cases b.contributedCve with
      | error code' =>
          cases code
          cases code'
          exact rfl
      | ok d => exact rfl
  | ok c =>
      cases b.contributedCve with
      | error code => exact rfl
      | ok d => exact collectCve_swap cves c d

/-- The same CVEs are selected from permuted evidence. -/
theorem selectFindingRiskCanonicalCves_perm (snapshot : FindingRiskSourceSnapshot)
    {evidence : List FindingRiskCreationEvidence}
    (h : snapshot.creationEvidence.Perm evidence) :
    Alike List.Perm (selectFindingRiskCanonicalCves snapshot)
      (selectFindingRiskCanonicalCves { snapshot with creationEvidence := evidence }) :=
  foldlM_perm (fun _ => .refl _) (fun _ _ _ => .trans) selectCanonicalCve_perm
    selectCanonicalCve_swap h []

/-! ## The KEV fact -/

theorem listedFact_perm {listed listed' : List ActiveKevCatalog} (h : listed.Perm listed') :
    listedFact listed = listedFact listed' := by
  cases listed with
  | nil => rw [List.nil_perm.mp h]
  | cons first rest =>
      cases listed' with
      | nil => exact absurd h List.not_perm_cons_nil
      | cons first' rest' =>
          unfold listedFact
          dsimp only
          rw [← all_eq_head_perm h]
          by_cases hall : (first :: rest).all (·.freshness = first.freshness) = true
          · rw [if_pos hall, if_pos hall, head_eq_of_all_eq h hall]
          · rw [if_neg hall, if_neg hall]

/-- Two catalogs can change places. -/
theorem agreeUnknown_swap (unknown : Option KevUnknownToken) (a b : ActiveKevCatalog) :
    (agreeUnknown unknown a >>= (agreeUnknown · b)) =
      (agreeUnknown unknown b >>= (agreeUnknown · a)) := by
  unfold agreeUnknown
  generalize a.freshness = x
  generalize b.freshness = y
  cases x <;> cases y <;> rcases unknown with _ | (_ | _) <;> rfl

theorem absentFact_perm {absent absent' : List ActiveKevCatalog} (h : absent.Perm absent') :
    absentFact absent = absentFact absent' := by
  have hstep : ∀ {unknown unknown' : Option KevUnknownToken} (membership : ActiveKevCatalog),
      unknown = unknown' →
        Alike (· = ·) (agreeUnknown unknown membership) (agreeUnknown unknown' membership) := by
    intro unknown unknown' membership hsame
    rw [hsame]
    exact .refl (fun _ => rfl) _
  have hfold : Alike (· = ·) (absent.foldlM agreeUnknown none)
      (absent'.foldlM agreeUnknown none) :=
    foldlM_perm (fun _ => rfl) (fun _ _ _ => Eq.trans) hstep
      (fun unknown a b => alike_eq.mpr (agreeUnknown_swap unknown a b)) h none
  unfold absentFact
  rw [alike_eq.mp hfold]

/-- Permuted memberships give the same fact. -/
theorem mapActiveKevToListedFact_perm (canonicalCveCount : Nat)
    {memberships memberships' : List ActiveKevMembership} (h : memberships.Perm memberships') :
    mapActiveKevToListedFact canonicalCveCount memberships =
      mapActiveKevToListedFact canonicalCveCount memberships' := by
  unfold mapActiveKevToListedFact
  dsimp only
  rw [h.length_eq, h.countP_eq, (h.filterMap ActiveKevMembership.listed?).length_eq,
    (h.filterMap ActiveKevMembership.absent?).length_eq,
    listedFact_perm (h.filterMap ActiveKevMembership.listed?),
    absentFact_perm (h.filterMap ActiveKevMembership.absent?)]

/-! ## The facts -/

theorem advisoryWithdrawnFact_perm {evidence evidence' : List FindingRiskCreationEvidence}
    (h : evidence.Perm evidence') :
    advisoryWithdrawnFact evidence = advisoryWithdrawnFact evidence' := by
  cases evidence with
  | nil => rw [List.nil_perm.mp h]
  | cons first rest =>
      cases evidence' with
      | nil => exact absurd h List.not_perm_cons_nil
      | cons first' rest' =>
          unfold advisoryWithdrawnFact
          dsimp only
          rw [← all_eq_head_perm h]
          by_cases hall : (first :: rest).all
              (·.withdrawalClassification = first.withdrawalClassification) = true
          · rw [if_pos hall, if_pos hall, head_eq_of_all_eq h hall]
          · rw [if_neg hall, if_neg hall]

/-- The dependency is known when all rows say the same of it. -/
theorem directDependencyFact_cons (first : FindingRiskCreationEvidence)
    (rest : List FindingRiskCreationEvidence) :
    directDependencyFact (first :: rest) =
      if (first :: rest).all (·.isDirect = first.isDirect) then
        match first.isDirect with
        | none => .unavailable ()
        | some isDirect => .observed (if isDirect then .direct else .transitive)
      else .unavailable () := by
  unfold directDependencyFact
  rw [List.head?_cons, Option.bind_some]
  cases hfirst : first.isDirect with
  | none =>
      dsimp only
      rw [ite_self]
  | some isDirect => rfl

theorem directDependencyFact_perm {evidence evidence' : List FindingRiskCreationEvidence}
    (h : evidence.Perm evidence') :
    directDependencyFact evidence = directDependencyFact evidence' := by
  cases evidence with
  | nil => rw [List.nil_perm.mp h]
  | cons first rest =>
      cases evidence' with
      | nil => exact absurd h List.not_perm_cons_nil
      | cons first' rest' =>
          rw [directDependencyFact_cons, directDependencyFact_cons, ← all_eq_head_perm h]
          by_cases hall : (first :: rest).all (·.isDirect = first.isDirect) = true
          · rw [if_pos hall, if_pos hall, head_eq_of_all_eq h hall]
          · rw [if_neg hall, if_neg hall]

/-- The same facts are assembled from permuted evidence. -/
theorem assemblePriorityFacts_perm (snapshot : FindingRiskSourceSnapshot)
    {evidence : List FindingRiskCreationEvidence}
    (h : snapshot.creationEvidence.Perm evidence) (kevFact : KevListedFact) (asOf : JsDate) :
    assemblePriorityFacts snapshot kevFact asOf =
      assemblePriorityFacts { snapshot with creationEvidence := evidence } kevFact asOf := by
  unfold assemblePriorityFacts
  rw [advisoryWithdrawnFact_perm h, directDependencyFact_perm h]

/-! ## The decision -/

/-- The permuted CVEs are looked up with permuted results. -/
theorem memberships_perm {query : JsString →
      Except FindingRiskKevMembershipErrorCode ActiveKevMembership}
    {cves cves' : List JsString} (h : cves.Perm cves') {memberships : List ActiveKevMembership}
    (hmemberships : cves.mapM query = .ok memberships) :
    ∃ memberships', cves'.mapM query = .ok memberships' ∧ memberships.Perm memberships' := by
  obtain ⟨memberships', hall, hperm⟩ :=
    List.perm_comp_forall₂ h.symm (mapM_eq_ok.mp hmemberships)
  exact ⟨memberships', mapM_eq_ok.mpr hall, hperm.symm⟩

theorem agreedFreshness_perm (fact : KevListedFact) {catalogs catalogs' : List ActiveKevCatalog}
    (h : catalogs.Perm catalogs') :
    agreedFreshness fact catalogs = agreedFreshness fact catalogs' := by
  have hpresent : (catalogs.map (·.freshness)).Perm (catalogs'.map (·.freshness)) := h.map _
  have hempty : catalogs.map (·.freshness) ≠ [] ↔ catalogs'.map (·.freshness) ≠ [] :=
    not_congr ⟨fun heq => List.nil_perm.mp (heq ▸ hpresent),
      fun heq => List.perm_nil.mp (heq ▸ hpresent)⟩
  have hcontains : ∀ freshness, (catalogs.map (·.freshness)).contains freshness =
      (catalogs'.map (·.freshness)).contains freshness := by
    intro freshness
    rw [Bool.eq_iff_iff, List.contains_iff_mem, List.contains_iff_mem, hpresent.mem_iff]
  unfold agreedFreshness
  dsimp only
  cases fact with
  | observed value => simp only [hempty, hpresent.all_eq]
  | unknown value => simp only [hpresent.all_eq, hcontains]
  | unavailable reason => rfl

/-- Permuted memberships come from the same catalog. -/
theorem kevCatalogSource_perm (fact : KevListedFact)
    {memberships memberships' : List ActiveKevMembership} (h : memberships.Perm memberships')
    {source : RiskCalculationKevSource}
    (hsource : kevCatalogSource fact memberships = some source) :
    kevCatalogSource fact memberships' = some source := by
  unfold kevCatalogSource at hsource ⊢
  split at hsource
  · exact hsource
  · obtain ⟨catalogs, hcatalogs, hsource⟩ := Option.bind_eq_some_iff.mp hsource
    obtain ⟨first, hfirst, hsource⟩ := Option.bind_eq_some_iff.mp hsource
    obtain ⟨releasedAt, hreleased, hsource⟩ := Option.bind_eq_some_iff.mp hsource
    obtain ⟨catalogs', hcatalogs', hperm⟩ := exists_mapM_of_perm h catalogs hcatalogs
    split at hsource
    · rename_i hall
      have hsame : ∀ catalog ∈ catalogs, catalog.catalogVersion = first.catalogVersion ∧
          catalog.catalogReleasedAt = some releasedAt :=
        fun catalog hcatalog => of_decide_eq_true (List.all_eq_true.mp hall catalog hcatalog)
      -- whichever catalog comes first, it says the same
      obtain ⟨first', hfirst'⟩ : ∃ first', catalogs'.head? = some first' := by
        cases catalogs' with
        | nil =>
            rw [List.perm_nil.mp hperm] at hfirst
            cases hfirst
        | cons first' rest => exact ⟨first', rfl⟩
      obtain ⟨hversion, hreleased'⟩ :=
        hsame first' (hperm.mem_iff.mpr (List.mem_of_mem_head? hfirst'))
      have hall' : (catalogs'.all fun catalog =>
          catalog.catalogVersion = first'.catalogVersion ∧
            catalog.catalogReleasedAt = some releasedAt) = true := by
        rw [hversion, ← hperm.all_eq]
        exact hall
      obtain ⟨freshness, hfreshness, hsource⟩ := Option.bind_eq_some_iff.mp hsource
      refine Option.bind_eq_some_iff.mpr ⟨catalogs', hcatalogs', ?_⟩
      refine Option.bind_eq_some_iff.mpr ⟨first', hfirst', ?_⟩
      refine Option.bind_eq_some_iff.mpr ⟨releasedAt, hreleased', ?_⟩
      rw [if_pos hall', ← agreedFreshness_perm fact hperm, hversion]
      exact Option.bind_eq_some_iff.mpr ⟨freshness, hfreshness, hsource⟩
    · cases hsource

/-- A context whose finding has its evidence in another order. -/
def LockedPriorityCalculationContext.withEvidence (context : LockedPriorityCalculationContext)
    (snapshot : FindingRiskSourceSnapshot) (evidence : List FindingRiskCreationEvidence) :
    LockedPriorityCalculationContext :=
  { context with graph := .found { snapshot with creationEvidence := evidence } }

/-- The snapshot is read in either order. -/
theorem readLockedSnapshot_perm {authorized : AuthorizedFinding}
    {context : LockedPriorityCalculationContext} {asOf : JsDate}
    {snapshot : FindingRiskSourceSnapshot} {evidence : List FindingRiskCreationEvidence}
    (hperm : snapshot.creationEvidence.Perm evidence)
    (h : readLockedSnapshot authorized context = .ok (asOf, snapshot)) :
    readLockedSnapshot authorized (context.withEvidence snapshot evidence) =
      .ok (asOf, { snapshot with creationEvidence := evidence }) := by
  obtain ⟨-, hasOf, hid, horganization, heligible⟩ := readLockedSnapshot_eq_ok.mp h
  have hempty : snapshot.creationEvidence = [] ↔ evidence = [] :=
    ⟨fun heq => List.nil_perm.mp (heq ▸ hperm), fun heq => List.perm_nil.mp (heq ▸ hperm)⟩
  refine readLockedSnapshot_eq_ok.mpr ⟨rfl, hasOf, hid, horganization, ?_⟩
  rw [← heligible]
  unfold assessFindingRiskEligibility
  simp only [hempty]

/-- The same facts are assembled, from the same sources in another order. -/
theorem lockedFacts_perm {context : LockedPriorityCalculationContext}
    {snapshot : FindingRiskSourceSnapshot} (hgraph : context.graph = .found snapshot)
    {evidence : List FindingRiskCreationEvidence}
    (hperm : snapshot.creationEvidence.Perm evidence) {asOf : JsDate}
    (hasOf : context.asOf = some asOf) {facts : PriorityFactInput}
    {sources : RiskCalculationFactorSources}
    (h : lockedFacts context = some (facts, sources)) :
    lockedFacts (context.withEvidence snapshot evidence) = some (facts,
      assembleRiskCalculationFactorSources { snapshot with creationEvidence := evidence }
        sources.kev) := by
  obtain ⟨cves, memberships, kevFact, kevSource, hcves, hmemberships, hfact, hsource, hfacts,
    rfl⟩ := (lockedFacts_eq_some (by rw [hgraph]; rfl) hasOf).mp h
  obtain ⟨cves', hcves', hcvesPerm⟩ :=
    (selectFindingRiskCanonicalCves_perm snapshot hperm).ok hcves
  obtain ⟨memberships', hmemberships', hmembershipsPerm⟩ :=
    memberships_perm hcvesPerm hmemberships
  have hasOf' : (context.withEvidence snapshot evidence).asOf = some asOf := hasOf
  refine (lockedFacts_eq_some rfl hasOf').mpr ⟨cves', memberships', kevFact, kevSource, hcves',
    hmemberships', ?_, kevCatalogSource_perm kevFact hmembershipsPerm hsource, ?_, rfl⟩
  · rw [← hcvesPerm.length_eq, ← mapActiveKevToListedFact_perm _ hmembershipsPerm]
    exact hfact
  · rw [← assemblePriorityFacts_perm snapshot hperm]
    exact hfacts

/-- A decision on permuted evidence differs in the order of the sources only. -/
theorem decideLockedCalculation_perm {dependencies : CalculateFindingRiskDependencies}
    {authorized : AuthorizedFinding} {context : LockedPriorityCalculationContext}
    {snapshot : FindingRiskSourceSnapshot} (hgraph : context.graph = .found snapshot)
    {evidence : List FindingRiskCreationEvidence}
    (hperm : snapshot.creationEvidence.Perm evidence)
    {command : PersistFindingRiskCalculationCommand}
    (h : decideLockedCalculation dependencies authorized context = .ok command) :
    ∃ sources, decideLockedCalculation dependencies authorized
        (context.withEvidence snapshot evidence) =
      .ok { command with factors := { command.factors with sources } } := by
  obtain ⟨asOf, found, facts, sources, selected, parsedFacts, fingerprint, reason, evaluation,
    correlationId, hsnapshot, hlocked, hselected, hparsed, hfingerprint, hreason, hevaluation,
    haccepted, hcorrelation, rfl⟩ := decideLockedCalculation_eq_ok.mp h
  obtain ⟨hfound, hasOf, -⟩ := readLockedSnapshot_eq_ok.mp hsnapshot
  obtain rfl : snapshot = found := Lookup.found.inj (hgraph.symm.trans hfound)
  exact ⟨_, decideLockedCalculation_eq_ok.mpr ⟨asOf, _, facts, _, selected, parsedFacts,
    fingerprint, reason, evaluation, correlationId, readLockedSnapshot_perm hperm hsnapshot,
    lockedFacts_perm hgraph hperm hasOf hlocked, hselected, hparsed, hfingerprint, hreason,
    hevaluation, haccepted, hcorrelation, rfl⟩⟩

/-- Neither the order of the evidence nor that of the memberships shows in the CVEs, in the
facts, in a failure or in the fingerprint. -/
theorem evidenceOrder_irrelevant (snapshot : FindingRiskSourceSnapshot)
    (evidence : List FindingRiskCreationEvidence)
    (hevidence : snapshot.creationEvidence.Perm evidence)
    (memberships memberships' : List ActiveKevMembership)
    (hmemberships : memberships.Perm memberships') :
    Alike List.Perm (selectFindingRiskCanonicalCves snapshot)
        (selectFindingRiskCanonicalCves { snapshot with creationEvidence := evidence }) ∧
      (∀ canonicalCveCount, mapActiveKevToListedFact canonicalCveCount memberships =
        mapActiveKevToListedFact canonicalCveCount memberships') ∧
      (∀ kevFact asOf, assemblePriorityFacts snapshot kevFact asOf =
        assemblePriorityFacts { snapshot with creationEvidence := evidence } kevFact asOf) ∧
      ∀ (dependencies : CalculateFindingRiskDependencies) (authorized : AuthorizedFinding)
        (context : LockedPriorityCalculationContext)
        (command : PersistFindingRiskCalculationCommand), context.graph = .found snapshot →
          decideLockedCalculation dependencies authorized context = .ok command →
            ∃ again, decideLockedCalculation dependencies authorized
                (context.withEvidence snapshot evidence) = .ok again ∧
              again.inputFingerprint = command.inputFingerprint ∧
              again.factors.factors = command.factors.factors ∧
              again.result = command.result := by
  refine ⟨selectFindingRiskCanonicalCves_perm snapshot hevidence,
    fun count => mapActiveKevToListedFact_perm count hmemberships,
    assemblePriorityFacts_perm snapshot hevidence, ?_⟩
  intro dependencies authorized context command hgraph hdecided
  obtain ⟨sources, hagain⟩ := decideLockedCalculation_perm hgraph hevidence hdecided
  exact ⟨_, hagain, rfl, rfl, rfl⟩

/-- The evidence of the finding in the other order. -/
def sampleReordered : List FindingRiskCreationEvidence :=
  [sampleEvidence '8' '9', sampleEvidence 'a' 'b']

/-- The two rows of evidence, and what the catalog says of two CVEs, in the other order. -/
theorem evidenceOrder_irrelevant_sample :
    Alike List.Perm (selectFindingRiskCanonicalCves sampleSnapshot)
        (selectFindingRiskCanonicalCves
          { sampleSnapshot with creationEvidence := sampleReordered }) ∧
      mapActiveKevToListedFact 2 [.absent ⟨js "1", some 0, .current⟩,
          .absent ⟨js "1", some 0, .stale⟩] =
        mapActiveKevToListedFact 2 [.absent ⟨js "1", some 0, .stale⟩,
          .absent ⟨js "1", some 0, .current⟩] ∧
      assemblePriorityFacts sampleSnapshot (.unknown .absentCatalogStale) (some 86400000) =
        assemblePriorityFacts { sampleSnapshot with creationEvidence := sampleReordered }
          (.unknown .absentCatalogStale) (some 86400000) ∧
      ∃ again, decideLockedCalculation sampleWriter sampleAuthorized
          (sampleContext.withEvidence sampleSnapshot sampleReordered) = .ok again ∧
        again.inputFingerprint = sampleCommand.inputFingerprint ∧
        again.factors.factors = sampleCommand.factors.factors ∧
        again.result = sampleCommand.result := by
  have hsample := evidenceOrder_irrelevant sampleSnapshot sampleReordered (List.Perm.swap ..)
    [.absent ⟨js "1", some 0, .current⟩, .absent ⟨js "1", some 0, .stale⟩]
    [.absent ⟨js "1", some 0, .stale⟩, .absent ⟨js "1", some 0, .current⟩]
    (List.Perm.swap ..)
  exact ⟨hsample.1, hsample.2.1 2, hsample.2.2.1 _ _,
    hsample.2.2.2 sampleWriter sampleAuthorized sampleContext sampleCommand rfl
      sampleCommand_decided⟩

end PatchPilot.Risk
