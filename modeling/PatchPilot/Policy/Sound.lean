import PatchPilot.Policy.Facts
import Mathlib.Data.List.Chain
import Mathlib.Data.List.ReduceOption
import Mathlib.Data.Rat.Lemmas

set_option autoImplicit false

/-!
# Policy: what validation establishes

`SoundDefinition` is the contract the evaluator relies on: weights that add up to
100, percents of at most 100 that fall along the catalog, age buckets that rise,
and four bands whose thresholds fall to zero while their due dates rise.  Every
accepted definition satisfies it.
-/

namespace PatchPilot.Policy

open PatchPilot.Foundation
open PatchPilot.Foundation.Collect

/-! ## The contract -/

/-- Percents along a family of tokens: at most 100, and lower further down the
catalog, down to zero. -/
structure SoundPercents {α : Type} [CatalogToken α] [DecidableEq α] (percent : α → Nat) :
    Prop where
  bounded : ∀ a, percent a ≤ percentMax
  antitone : ∀ a b, rank a ≤ rank b → percent b ≤ percent a
  favorable : ((tokens : List α).map percent).getLast? = some 0

/-- Age buckets: they start at zero and rise. -/
structure SoundBuckets (buckets : List AgeBucket) : Prop where
  bounded : ∀ bucket ∈ buckets, bucket.percent ≤ percentMax
  start : buckets.head?.map (·.minDays) = some 0
  favorable : buckets.head?.map (·.percent) = some 0
  rising : buckets.Pairwise fun a b => a.minDays < b.minDays ∧ a.percent ≤ b.percent

/-- Bands: all four in order, with falling thresholds and rising due dates. -/
structure SoundBands (bands : List PolicyBand) : Prop where
  names : bands.map (·.band) = tokens
  bounded : ∀ band ∈ bands, band.minPriority ≤ priorityMax
  lowest : bands.getLast?.map (·.minPriority) = some 0
  falling : bands.Pairwise fun a b =>
    b.minPriority < a.minPriority ∧ a.dueDateRecommendationDays ≤ b.dueDateRecommendationDays

/-- How many age buckets there may be, and of what age. -/
structure BucketLimits (buckets : List AgeBucket) : Prop where
  count : buckets.length ≤ findingAgeBucketsMax
  days : ∀ bucket ∈ buckets, bucket.minDays ≤ findingAgeDaysMax

/-- The due dates that a band may recommend. -/
def BandLimits (bands : List PolicyBand) : Prop :=
  ∀ band ∈ bands, dueDateRecommendationDaysMin ≤ band.dueDateRecommendationDays ∧
    band.dueDateRecommendationDays ≤ dueDateRecommendationDaysMax

/-- The sections of the normalization. -/
structure SoundNormalization (normalization : PolicyNormalization) : Prop where
  sourceSeverity : SoundPercents normalization.sourceSeverity
  kevListed : SoundPercents normalization.kevListed
  environmentSensitivity : SoundPercents normalization.environmentSensitivity
  internetExposure : SoundPercents normalization.internetExposure
  businessCriticality : SoundPercents normalization.businessCriticality
  assetDataClassification : SoundPercents normalization.assetDataClassification
  directDependency : SoundPercents normalization.directDependency
  fixAvailable : SoundPercents normalization.fixAvailable
  findingAgeDays : SoundBuckets normalization.findingAgeDays

/-- What the evaluator relies on. -/
structure SoundDefinition (definition : PriorityPolicyDefinition) : Prop where
  withdrawn : definition.weights informationalFactorId = 0
  weights : (factorIds.map definition.weights).sum = weightSum
  normalization : SoundNormalization definition.normalization
  bands : SoundBands definition.bands

/-- A policy key of the right length and shape. -/
def SoundPolicyKey (policyKey : JsString) : Prop :=
  policyKey.length ≤ policyKeyMaxLength ∧ matchesPolicyKey policyKey = true

/-- A description that is not blank, not too long and without control characters. -/
def SoundDescription (description : JsString) : Prop :=
  (trim description).length ≠ 0 ∧ description.length ≤ factorDescriptionMaxLength ∧
    hasControlCharacter description = false

/-- A catalog: every factor in order, with its description. -/
structure SoundCatalog (catalog : List FactorCatalogEntry) : Prop where
  factors : catalog.map (·.factorId) = factorIds
  descriptions : ∀ entry ∈ catalog, SoundDescription entry.description

/-- Everything that validation establishes: what the evaluator relies on, and the limits of
the fields that it does not look at. -/
structure AcceptedDefinition (definition : PriorityPolicyDefinition) : Prop
    extends SoundDefinition definition where
  policyKey : SoundPolicyKey definition.policyKey
  factorCatalog : SoundCatalog definition.factorCatalog
  ageBuckets : BucketLimits definition.normalization.findingAgeDays
  dueDates : BandLimits definition.bands

theorem tokens_nodup {α : Type} [CatalogToken α] : (tokens : List α).Nodup :=
  List.Nodup.of_map _ (CatalogToken.distinct (α := α))

/-! ## Clean readers -/

theorem clean_when {p : Prop} [Decidable p] {path : JsString}
    {code : PolicyDefinitionIssueCode} {u : Unit} : (addWhen p path code).Clean u ↔ ¬ p :=
  clean_addWhen

theorem not_clean_reject {α : Type} {path : JsString} {code : PolicyDefinitionIssueCode}
    {result : Option α} : ¬ (reject path code).Clean result := by
  unfold reject
  rw [clean_bind]
  rintro ⟨_, hadd, -⟩
  exact not_clean_add hadd

theorem readRecordWithKeys_clean {value : JsValue} {keys : List JsString} {path : JsString}
    {code : PolicyDefinitionIssueCode} {result : Option PlainRecord}
    (h : (readRecordWithKeys value keys path code).Clean result) :
    ∃ record, readPlainRecord value = some record ∧ result = some record ∧
      (∀ key ∈ record.keys, key ∈ keys) ∧ ∀ key ∈ keys, record.has key = true := by
  unfold readRecordWithKeys at h
  split at h
  · exact absurd h not_clean_reject
  · rename_i record hrecord
    simp only [clean_bind, clean_forM, clean_when, clean_pure] at h
    obtain ⟨_, hunexpected, _, hmissing, rfl⟩ := h
    have hkeys : ∀ key ∈ keys, record.has key = true := by
      intro key hkey
      simpa using hmissing key hkey
    refine ⟨record, hrecord, ?_, fun key hkey => not_not.mp (hunexpected key hkey), hkeys⟩
    rw [if_pos (List.all_eq_true.mpr hkeys)]

theorem readInteger_clean {value : JsValue} {min max : Nat} {path : JsString}
    {result : Option Nat} (h : (readInteger value min max path).Clean result) :
    ∃ n : Nat, value = .number (.finite n) ∧ min ≤ n ∧ n ≤ max ∧ result = some n := by
  unfold readInteger at h
  split at h
  · rename_i q
    split at h
    · exact absurd h not_clean_reject
    · rename_i hden
      split at h
      · exact absurd h not_clean_reject
      · rename_i hrange
        have hnum : (q.num.toNat : Int) = q.num := Int.toNat_of_nonneg (by omega)
        have hq : ((q.num.toNat : Nat) : Rat) = q := by
          have hcast : ((q.num : Int) : Rat) = q := (Rat.den_eq_one_iff q).mp (not_not.mp hden)
          rw [← hnum] at hcast
          exact_mod_cast hcast
        refine ⟨q.num.toNat, ?_, by omega, by omega, (clean_pure.mp h).symm⟩
        rw [hq]
  · exact absurd h not_clean_reject
  · exact absurd h not_clean_reject

/-! ## The key and the catalog -/

theorem validatePolicyKey_clean {value : JsValue} {result : Option JsString}
    (h : (validatePolicyKey value).Clean result) :
    ∃ policyKey, result = some policyKey ∧ SoundPolicyKey policyKey := by
  unfold validatePolicyKey at h
  split at h
  · exact absurd h not_clean_reject
  · rename_i policyKey _
    split at h
    · exact absurd h not_clean_reject
    · rename_i hkey
      rw [not_or, Bool.not_eq_false] at hkey
      exact ⟨policyKey, (clean_pure.mp h).symm, not_lt.mp hkey.1, hkey.2⟩

theorem validateDescription_clean {value : JsValue} {path : JsString} {result : Option JsString}
    (h : (validateDescription value path).Clean result) :
    ∃ description, result = some description ∧ SoundDescription description := by
  unfold validateDescription at h
  split at h
  · exact absurd h not_clean_reject
  · rename_i description _
    split at h
    · exact absurd h not_clean_reject
    · rename_i hdescription
      rw [not_or, not_or, Bool.not_eq_true] at hdescription
      obtain ⟨hblank, hlength, hcontrol⟩ := hdescription
      exact ⟨description, (clean_pure.mp h).symm, hblank, not_lt.mp hlength, hcontrol⟩

/-- An entry of the catalog is one more factor with its description. -/
theorem scanCatalogEntry_clean {scan next : CatalogScan} {entry : JsValue × Nat}
    (h : (scanCatalogEntry scan entry).Clean next) :
    ∃ e : FactorCatalogEntry, SoundDescription e.description ∧
      next = ⟨scan.catalog ++ [e], e.factorId :: scan.seen⟩ := by
  unfold scanCatalogEntry at h
  obtain ⟨record?, hrecord, h⟩ := clean_bind.mp h
  obtain ⟨record, -, rfl, -⟩ := readRecordWithKeys_clean hrecord
  dsimp only at h
  obtain ⟨description?, hdescription, h⟩ := clean_bind.mp h
  obtain ⟨description, rfl, hsound⟩ := validateDescription_clean hdescription
  split at h
  · obtain ⟨_, hadd, -⟩ := clean_bind.mp h
    exact absurd hadd not_clean_add
  · rename_i factorId _
    split at h
    · obtain ⟨_, hadd, -⟩ := clean_bind.mp h
      exact absurd hadd not_clean_add
    · exact ⟨⟨factorId, description⟩, hsound, (clean_pure.mp h).symm⟩

/-- The scan of the catalog: what it found is what it has seen. -/
theorem scanCatalog_clean {entries : List (JsValue × Nat)} :
    ∀ {scan final : CatalogScan}, (entries.foldlM scanCatalogEntry scan).Clean final →
      ∃ added, (∀ entry ∈ added, SoundDescription entry.description) ∧
        final.catalog = scan.catalog ++ added ∧
        ∀ factorId, factorId ∈ final.seen ↔
          factorId ∈ scan.seen ∨ factorId ∈ added.map (·.factorId) := by
  induction entries with
  | nil =>
      intro scan final h
      obtain rfl := clean_pure.mp h
      refine ⟨[], fun _ h => absurd h List.not_mem_nil, (List.append_nil _).symm, fun _ => ?_⟩
      rw [List.map_nil, or_iff_left List.not_mem_nil]
  | cons entry entries ih =>
      intro scan final h
      obtain ⟨next, hnext, h⟩ := clean_foldlM_cons.mp h
      obtain ⟨e, hsound, rfl⟩ := scanCatalogEntry_clean hnext
      obtain ⟨added, hadded, hcatalog, hseen⟩ := ih h
      refine ⟨e :: added, List.forall_mem_cons.mpr ⟨hsound, hadded⟩, ?_, fun factorId => ?_⟩
      · rw [hcatalog, List.append_assoc, List.singleton_append]
      · rw [hseen, List.map_cons, List.mem_cons, List.mem_cons, or_assoc, or_left_comm]

/-- Names that agree with the catalog as far as they go, and are all there, are the catalog. -/
theorem factors_eq {factors : List FactorId}
    (hagree : ∀ (i : Nat) (factorId : FactorId),
      factors[i]? = some factorId → factorIds[i]? = some factorId)
    (hall : ∀ factorId ∈ factorIds, factorId ∈ factors) : factors = factorIds := by
  have hlength : factorIds.length ≤ factors.length :=
    ((List.subperm_of_subset tokens_nodup hall)).length_le
  refine List.ext_getElem? fun i => ?_
  cases hi : factors[i]? with
  | some factorId => exact (hagree i factorId hi).symm
  | none =>
      have hle := List.getElem?_eq_none_iff.mp hi
      exact (List.getElem?_eq_none (hlength.trans hle)).symm

theorem validateFactorCatalog_clean {value : JsValue}
    {result : Option (List FactorCatalogEntry)} (h : (validateFactorCatalog value).Clean result) :
    ∃ catalog, result = some catalog ∧ SoundCatalog catalog := by
  unfold validateFactorCatalog at h
  split at h
  · exact absurd h not_clean_reject
  · exact absurd h not_clean_reject
  · obtain ⟨scan?, hguarded, h⟩ := clean_bind.mp h
    obtain ⟨scan, hscan, rfl⟩ := clean_guarded.mp hguarded
    obtain ⟨final, hfold, hscan⟩ := clean_bind.mp hscan
    obtain ⟨_, hmissing, hscan⟩ := clean_bind.mp hscan
    obtain rfl := clean_pure.mp hscan
    obtain ⟨added, hadded, hcatalog, hseen⟩ := scanCatalog_clean hfold
    rw [List.nil_append] at hcatalog
    dsimp only at h
    split at h
    · exact absurd h not_clean_reject
    · rename_i horder
      refine ⟨_, (clean_pure.mp h).symm, ?_, hcatalog ▸ hadded⟩
      refine factors_eq (fun i factorId hi => ?_) fun factorId hfactorId => ?_
      · rw [List.getElem?_map, Option.map_eq_some_iff] at hi
        obtain ⟨entry, hentry, rfl⟩ := hi
        rw [Bool.not_eq_true, List.any_eq_false] at horder
        have hsame : some entry.factorId = factorIds[i]? := by
          simpa using horder (entry, i) (List.mem_zipIdx_iff_getElem?.mpr hentry)
        exact hsame.symm
      · have hin : factorId ∈ final.seen :=
          not_not.mp (clean_when.mp (clean_forM.mp hmissing factorId hfactorId))
        rw [hcatalog]
        exact ((hseen factorId).mp hin).resolve_left List.not_mem_nil

/-! ## Weights -/

theorem validateWeights_clean {value : JsValue} {result : Option PolicyWeights}
    (h : (validateWeights value).Clean result) :
    ∃ weights, result = some weights ∧ weights informationalFactorId = 0 ∧
      (factorIds.map weights).sum = weightSum := by
  unfold validateWeights at h
  obtain ⟨record?, hrecord, h⟩ := clean_bind.mp h
  obtain ⟨record, -, rfl, -⟩ := readRecordWithKeys_clean hrecord
  obtain ⟨read?, hread, h⟩ := clean_bind.mp h
  obtain ⟨read, -, rfl⟩ := clean_guarded.mp hread
  obtain ⟨weights, hweights, rfl⟩ := clean_guarded.mp h
  simp only [clean_bind, clean_when, clean_pure, not_not] at hweights
  obtain ⟨_, hwithdrawn, _, hsum, rfl⟩ := hweights
  exact ⟨_, rfl, hwithdrawn, hsum⟩

/-! ## Percents -/

theorem tokens_getElem_rank {α : Type} [CatalogToken α] [DecidableEq α] (a : α)
    (h : rank a < (tokens : List α).length) : (tokens : List α)[rank a] = a :=
  List.getElem_idxOf h

theorem rank_lt {α : Type} [CatalogToken α] [DecidableEq α] (a : α) :
    rank a < (tokens : List α).length :=
  List.idxOf_lt_length_of_mem (CatalogToken.complete a)

/-- A list with one entry for each token, as a function of the token. -/
theorem forall₂_tokens {α β : Type} [CatalogToken α] [DecidableEq α] {R : α → β → Prop}
    {l : List β} (h : List.Forall₂ R tokens l) (a : α) :
    ∃ b, l[rank a]? = some b ∧ R a b := by
  have hlt : rank a < l.length := h.length_eq ▸ rank_lt a
  have hR := h.get (rank_lt a) hlt
  refine ⟨l[rank a], List.getElem?_eq_getElem hlt, ?_⟩
  simpa [tokens_getElem_rank] using hR

/-- A full list with one entry for each token loses nothing. -/
theorem reduceOption_tokens {α : Type} [CatalogToken α] [DecidableEq α]
    {read : List (Option Nat)} (hlength : (tokens : List α).length = read.length)
    (hsome : ∀ token : α, ∃ n, read[rank token]? = some (some n)) :
    read.reduceOption =
      (tokens : List α).map fun token => (read[rank token]?.join).getD 0 := by
  have hread : read =
      (tokens : List α).map fun token => some ((read[rank token]?.join).getD 0) := by
    refine List.ext_getElem (by simp [hlength]) fun index hindex htokens => ?_
    have hlt : index < (tokens : List α).length := hlength ▸ hindex
    have hrank : rank (tokens : List α)[index] = index := tokens_nodup.idxOf_getElem index hlt
    obtain ⟨n, hn⟩ := hsome (tokens : List α)[index]
    rw [hrank, List.getElem?_eq_getElem hindex, Option.some.injEq] at hn
    simp [hrank, hn, List.getElem?_eq_getElem hindex]
  have hmap : (tokens : List α).map (fun token => some ((read[rank token]?.join).getD 0)) =
      ((tokens : List α).map fun token => (read[rank token]?.join).getD 0).map some := by
    simp
  conv_lhs => rw [hread, hmap, List.reduceOption, List.filterMap_map]
  exact List.filterMap_some

/-- What holds of neighbours along the catalog holds along the catalog. -/
theorem antitone_of_isChain {α : Type} [CatalogToken α] [DecidableEq α] {percent : α → Nat}
    (h : ((tokens : List α).map percent).IsChain fun previous value => value ≤ previous)
    (a b : α) (hab : rank a ≤ rank b) : percent b ≤ percent a := by
  have htrans : IsTrans Nat fun previous value => value ≤ previous :=
    ⟨fun _ _ _ hxy hyz => le_trans hyz hxy⟩
  have hpairs := List.isChain_iff_pairwise.mp h
  rcases Nat.lt_or_eq_of_le hab with hlt | heq
  · have hget := List.pairwise_iff_getElem.mp hpairs (rank a) (rank b)
      (by simpa using rank_lt a) (by simpa using rank_lt b) hlt
    simpa [tokens_getElem_rank] using hget
  · rw [rank_injective heq]

theorem validateTokenPercents_clean {α : Type} [CatalogToken α] [DecidableEq α]
    {factorId : FactorId} {value : JsValue} {result : Option (α → Nat)}
    (h : (validateTokenPercents α factorId value).Clean result) :
    ∃ percent, result = some percent ∧ SoundPercents percent := by
  unfold validateTokenPercents at h
  dsimp only at h
  split at h
  · exact absurd h not_clean_reject
  · obtain ⟨read?, hguarded, h⟩ := clean_bind.mp h
    obtain ⟨read, hsection, rfl⟩ := clean_guarded.mp hguarded
    obtain ⟨_, -, hread⟩ := clean_bind.mp hsection
    have hintegers : List.Forall₂ (fun (_ : α) (percent? : Option Nat) =>
        ∃ n, percent? = some n ∧ n ≤ percentMax) tokens read := by
      refine (clean_mapM.mp hread).imp fun token percent? htoken => ?_
      split at htoken
      · obtain ⟨n, -, -, hmax, rfl⟩ := readInteger_clean htoken
        exact ⟨n, rfl, hmax⟩
      · exact absurd htoken not_clean_reject
    obtain ⟨percent, hpercent, rfl⟩ := clean_guarded.mp h
    simp only [clean_bind, clean_when, clean_pure, Bool.not_eq_false, not_not] at hpercent
    obtain ⟨_, horder, _, hfavorable, rfl⟩ := hpercent
    have hsome : ∀ token : α, ∃ n, read[rank token]? = some (some n) ∧ n ≤ percentMax := by
      intro token
      obtain ⟨percent?, hget, n, rfl, hmax⟩ := forall₂_tokens hintegers token
      exact ⟨n, hget, hmax⟩
    have hordered : read.reduceOption =
        (tokens : List α).map fun token => (read[rank token]?.join).getD 0 := by
      refine reduceOption_tokens hintegers.length_eq fun token => ?_
      obtain ⟨n, hget, -⟩ := hsome token
      exact ⟨n, hget⟩
    rw [hordered] at horder hfavorable
    refine ⟨_, rfl, ?_, antitone_of_isChain (of_decide_eq_true horder), hfavorable⟩
    intro token
    obtain ⟨n, hget, hmax⟩ := hsome token
    rw [hget]
    exact hmax

/-! ## Age buckets -/

theorem readAgeBucket_clean {path : JsString} {entry : JsValue × Nat}
    {result : Option AgeBucket} (h : (readAgeBucket path entry).Clean result) :
    ∃ bucket, result = some bucket ∧ bucket.minDays ≤ findingAgeDaysMax ∧
      bucket.percent ≤ percentMax := by
  unfold readAgeBucket at h
  obtain ⟨record?, hrecord, h⟩ := clean_bind.mp h
  obtain ⟨record, -, rfl, -⟩ := readRecordWithKeys_clean hrecord
  obtain ⟨minDays?, hminDays, h⟩ := clean_bind.mp h
  obtain ⟨minDays, -, -, hdays, rfl⟩ := readInteger_clean hminDays
  obtain ⟨percent?, hpercent, h⟩ := clean_bind.mp h
  obtain ⟨percent, -, -, hmax, rfl⟩ := readInteger_clean hpercent
  exact ⟨⟨minDays, percent⟩, (clean_pure.mp h).symm, hdays, hmax⟩

/-- Entries that all give a value lose nothing. -/
theorem forall₂_reduceOption {α β : Type} {P : β → Prop} :
    ∀ {l : List α} {read : List (Option β)},
      List.Forall₂ (fun _ b? => ∃ b, b? = some b ∧ P b) l read →
      read = read.reduceOption.map some ∧ ∀ b ∈ read.reduceOption, P b := by
  intro l
  induction l with
  | nil =>
      intro read h
      cases h
      simp
  | cons a rest ih =>
      intro read h
      obtain ⟨b?, tail, ⟨b, rfl, hb⟩, htail, rfl⟩ := List.forall₂_cons_left_iff.mp h
      obtain ⟨htail, hall⟩ := ih htail
      rw [List.reduceOption_cons_of_some]
      refine ⟨?_, List.forall_mem_cons.mpr ⟨hb, hall⟩⟩
      rw [List.map_cons, ← htail]

theorem validateAgeBuckets_clean {value : JsValue} {result : Option (List AgeBucket)}
    (h : (validateAgeBuckets value).Clean result) :
    ∃ buckets, result = some buckets ∧ SoundBuckets buckets ∧ BucketLimits buckets := by
  unfold validateAgeBuckets at h
  dsimp only at h
  split at h
  · exact absurd h not_clean_reject
  · exact absurd h not_clean_reject
  · rename_i entries hentries
    split at h
    · exact absurd h not_clean_reject
    · obtain ⟨read?, hguarded, h⟩ := clean_bind.mp h
      obtain ⟨read, hread, rfl⟩ := clean_guarded.mp hguarded
      have hforall := clean_mapM.mp hread
      obtain ⟨hmap, hlimits⟩ :=
        forall₂_reduceOption (hforall.imp fun _ _ hentry => readAgeBucket_clean hentry)
      obtain ⟨buckets, hbuckets, rfl⟩ := clean_guarded.mp h
      simp only [clean_bind, clean_when, clean_pure, Bool.not_eq_false, not_not] at hbuckets
      obtain ⟨_, hstart, _, hfavorable, _, hdays, _, hpercents, rfl⟩ := hbuckets
      have hcount : read.reduceOption.length ≤ findingAgeBucketsMax := by
        have hlength := hforall.length_eq
        rw [List.length_zipIdx, hmap, List.length_map] at hlength
        exact hlength ▸ readPlainArray_length hentries
      refine ⟨_, rfl, ⟨fun bucket hbucket => (hlimits bucket hbucket).2, hstart, hfavorable, ?_⟩,
        hcount, fun bucket hbucket => (hlimits bucket hbucket).1⟩
      have hdays := List.isChain_iff_pairwise.mp (of_decide_eq_true hdays)
      have hpercents := List.isChain_iff_pairwise.mp (of_decide_eq_true hpercents)
      exact (List.pairwise_map.mp hdays).and (List.pairwise_map.mp hpercents)

/-! ## Bands -/

theorem readBand_clean {entry : JsValue × Nat} {name : PriorityBand}
    (hname : tokens[entry.2]? = some name) {result : Option PolicyBand}
    (h : (readBand entry).Clean result) :
    ∃ band, result = some band ∧ band.band = name ∧ band.minPriority ≤ priorityMax ∧
      dueDateRecommendationDaysMin ≤ band.dueDateRecommendationDays ∧
      band.dueDateRecommendationDays ≤ dueDateRecommendationDaysMax := by
  unfold readBand at h
  dsimp only at h
  obtain ⟨record?, hrecord, h⟩ := clean_bind.mp h
  obtain ⟨record, -, rfl, -⟩ := readRecordWithKeys_clean hrecord
  obtain ⟨_, hband, h⟩ := clean_bind.mp h
  obtain ⟨min?, hmin, h⟩ := clean_bind.mp h
  obtain ⟨minPriority, -, -, hmax, rfl⟩ := readInteger_clean hmin
  obtain ⟨due?, hdue, h⟩ := clean_bind.mp h
  obtain ⟨dueDays, -, hduemin, hduemax, rfl⟩ := readInteger_clean hdue
  have hread : oneOf PriorityBand (record.get (js "band")) = some name :=
    (not_not.mp (clean_when.mp hband)).trans hname
  rw [hread] at h
  exact ⟨⟨name, minPriority, dueDays⟩, (clean_pure.mp h).symm, rfl, hmax, hduemin, hduemax⟩

/-- The four entries of the band list, read in order. -/
theorem readBands_clean {entries : List JsValue} {read : List (Option PolicyBand)}
    (hlength : entries.length = (tokens : List PriorityBand).length)
    (h : (entries.zipIdx.mapM readBand).Clean read) :
    read.reduceOption.map (·.band) = tokens ∧
      (∀ band ∈ read.reduceOption, band.minPriority ≤ priorityMax) ∧
        BandLimits read.reduceOption := by
  match entries, hlength with
  | [e₁, e₂, e₃, e₄], _ =>
      have hentries := clean_mapM.mp h
      simp only [List.zipIdx_cons, List.zipIdx_nil, List.forall₂_cons_left_iff,
        List.forall₂_nil_left_iff] at hentries
      obtain ⟨b₁?, _, h₁, ⟨b₂?, _, h₂, ⟨b₃?, _, h₃, ⟨b₄?, _, h₄, rfl, rfl⟩, rfl⟩, rfl⟩, rfl⟩ :=
        hentries
      obtain ⟨b₁, rfl, hname₁, hmax₁, hdue₁⟩ := @readBand_clean (e₁, 0) .p1 rfl _ h₁
      obtain ⟨b₂, rfl, hname₂, hmax₂, hdue₂⟩ := @readBand_clean (e₂, 1) .p2 rfl _ h₂
      obtain ⟨b₃, rfl, hname₃, hmax₃, hdue₃⟩ := @readBand_clean (e₃, 2) .p3 rfl _ h₃
      obtain ⟨b₄, rfl, hname₄, hmax₄, hdue₄⟩ := @readBand_clean (e₄, 3) .p4 rfl _ h₄
      have hall : [some b₁, some b₂, some b₃, some b₄].reduceOption = [b₁, b₂, b₃, b₄] := rfl
      rw [hall]
      refine ⟨?_, ?_, ?_⟩
      · simp only [List.map_cons, List.map_nil, hname₁, hname₂, hname₃, hname₄]
        rfl
      · simp [hmax₁, hmax₂, hmax₃, hmax₄]
      · simp [BandLimits, hdue₁, hdue₂, hdue₃, hdue₄]

theorem validateBands_clean {value : JsValue} {result : Option (List PolicyBand)}
    (h : (validateBands value).Clean result) :
    ∃ bands, result = some bands ∧ SoundBands bands ∧ BandLimits bands := by
  unfold validateBands at h
  split at h
  · exact absurd h not_clean_reject
  · exact absurd h not_clean_reject
  · split at h
    · exact absurd h not_clean_reject
    · rename_i hlength
      obtain ⟨read?, hguarded, h⟩ := clean_bind.mp h
      obtain ⟨read, hread, rfl⟩ := clean_guarded.mp hguarded
      obtain ⟨hnames, hbounded, hlimits⟩ := readBands_clean (not_not.mp hlength) hread
      obtain ⟨bands, hbands, rfl⟩ := clean_guarded.mp h
      simp only [clean_bind, clean_when, clean_pure, Bool.not_eq_false, not_not] at hbands
      obtain ⟨_, hthresholds, _, hlowest, _, hdue, rfl⟩ := hbands
      have htrans : IsTrans Nat fun previous value => value < previous :=
        ⟨fun _ _ _ hxy hyz => lt_trans hyz hxy⟩
      have hthresholds := List.isChain_iff_pairwise.mp (of_decide_eq_true hthresholds)
      have hdue := List.isChain_iff_pairwise.mp (of_decide_eq_true hdue)
      exact ⟨_, rfl, ⟨hnames, hbounded, hlowest,
        (List.pairwise_map.mp hthresholds).and (List.pairwise_map.mp hdue)⟩, hlimits⟩

/-! ## The whole definition -/

theorem validateNormalization_clean {value : JsValue} {result : Option PolicyNormalization}
    (h : (validateNormalization value).Clean result) :
    ∃ normalization, result = some normalization ∧ SoundNormalization normalization ∧
      BucketLimits normalization.findingAgeDays := by
  unfold validateNormalization at h
  obtain ⟨record?, hrecord, h⟩ := clean_bind.mp h
  obtain ⟨record, -, rfl, -⟩ := readRecordWithKeys_clean hrecord
  dsimp only at h
  obtain ⟨joined, hguarded, h⟩ := clean_bind.mp h
  obtain ⟨normalization?, hsections, rfl⟩ := clean_guarded.mp hguarded
  obtain ⟨_, hsection, hsections⟩ := clean_bind.mp hsections
  obtain ⟨severity, rfl, hseverity⟩ := validateTokenPercents_clean hsection
  obtain ⟨_, hsection, hsections⟩ := clean_bind.mp hsections
  obtain ⟨kev, rfl, hkev⟩ := validateTokenPercents_clean hsection
  obtain ⟨_, hsection, hsections⟩ := clean_bind.mp hsections
  obtain ⟨environment, rfl, henvironment⟩ := validateTokenPercents_clean hsection
  obtain ⟨_, hsection, hsections⟩ := clean_bind.mp hsections
  obtain ⟨exposure, rfl, hexposure⟩ := validateTokenPercents_clean hsection
  obtain ⟨_, hsection, hsections⟩ := clean_bind.mp hsections
  obtain ⟨criticality, rfl, hcriticality⟩ := validateTokenPercents_clean hsection
  obtain ⟨_, hsection, hsections⟩ := clean_bind.mp hsections
  obtain ⟨classification, rfl, hclassification⟩ := validateTokenPercents_clean hsection
  obtain ⟨_, hsection, hsections⟩ := clean_bind.mp hsections
  obtain ⟨dependency, rfl, hdependency⟩ := validateTokenPercents_clean hsection
  obtain ⟨_, hsection, hsections⟩ := clean_bind.mp hsections
  obtain ⟨fix, rfl, hfix⟩ := validateTokenPercents_clean hsection
  obtain ⟨_, hsection, hsections⟩ := clean_bind.mp hsections
  obtain ⟨buckets, rfl, hbuckets, hlimits⟩ := validateAgeBuckets_clean hsection
  obtain rfl := clean_pure.mp hsections
  exact ⟨_, (clean_pure.mp h).symm, ⟨hseverity, hkev, henvironment, hexposure, hcriticality,
    hclassification, hdependency, hfix, hbuckets⟩, hlimits⟩

/-- A section of a definition that was accepted is there. -/
theorem validateWhenPresent_clean {α : Type} {record : PlainRecord} {key : JsString}
    {validate : JsValue → Check (Option α)} {result : Option α}
    (hkey : record.has key = true)
    (h : (validateWhenPresent record key validate).Clean result) :
    (validate (record.get key)).Clean result := by
  unfold validateWhenPresent at h
  rwa [if_pos hkey] at h

/-- Acceptance, as a clean run. -/
theorem validatePolicyDefinition_ok {input : JsValue} {definition : PriorityPolicyDefinition}
    (h : validatePolicyDefinition input = .ok definition) :
    ∃ record, readPlainRecord input = some record ∧
      (checkPolicyDefinition record).Clean (some definition) := by
  unfold validatePolicyDefinition at h
  split at h
  · cases h
  · rename_i record hrecord
    split at h
    · cases h
    · split at h
      · rename_i accepted hrun
        cases h
        exact ⟨record, hrecord, hrun⟩
      · cases h

/-- Every definition that validation produces is accepted. -/
theorem validatePolicyDefinition_accepted {input : JsValue}
    {definition : PriorityPolicyDefinition}
    (h : validatePolicyDefinition input = .ok definition) : AcceptedDefinition definition := by
  obtain ⟨record, -, hclean⟩ := validatePolicyDefinition_ok h
  unfold checkPolicyDefinition at hclean
  obtain ⟨_, -, hclean⟩ := clean_bind.mp hclean
  obtain ⟨_, hmissing, hclean⟩ := clean_bind.mp hclean
  have hkeys : ∀ key ∈ topLevelKeys, record.has key = true := by
    intro key hkey
    simpa using clean_when.mp (clean_forM.mp hmissing key hkey)
  obtain ⟨_, -, hclean⟩ := clean_bind.mp hclean
  obtain ⟨_, hsection, hclean⟩ := clean_bind.mp hclean
  obtain ⟨policyKey, rfl, hpolicyKey⟩ :=
    validatePolicyKey_clean (validateWhenPresent_clean (hkeys _ (by decide)) hsection)
  obtain ⟨_, hsection, hclean⟩ := clean_bind.mp hclean
  obtain ⟨factorCatalog, rfl, hfactorCatalog⟩ :=
    validateFactorCatalog_clean (validateWhenPresent_clean (hkeys _ (by decide)) hsection)
  obtain ⟨_, hsection, hclean⟩ := clean_bind.mp hclean
  obtain ⟨weights, rfl, hwithdrawn, hweights⟩ :=
    validateWeights_clean (validateWhenPresent_clean (hkeys _ (by decide)) hsection)
  obtain ⟨_, hsection, hclean⟩ := clean_bind.mp hclean
  obtain ⟨normalization, rfl, hnormalization, hbuckets⟩ :=
    validateNormalization_clean (validateWhenPresent_clean (hkeys _ (by decide)) hsection)
  obtain ⟨_, hsection, hclean⟩ := clean_bind.mp hclean
  obtain ⟨bands, rfl, hbands, hdueDates⟩ :=
    validateBands_clean (validateWhenPresent_clean (hkeys _ (by decide)) hsection)
  obtain ⟨rules, -, hclean⟩ := clean_bind.mp hclean
  have hdefinition := clean_pure.mp hclean
  cases rules with
  | none => cases hdefinition
  | some kevMinimumBand =>
      cases hdefinition
      exact ⟨⟨hwithdrawn, hweights, hnormalization, hbands⟩, hpolicyKey, hfactorCatalog,
        hbuckets, hdueDates⟩

/-- Every definition that validation produces satisfies the contract of the evaluator. -/
theorem validatePolicyDefinition_sound {input : JsValue}
    {definition : PriorityPolicyDefinition}
    (h : validatePolicyDefinition input = .ok definition) : SoundDefinition definition :=
  (validatePolicyDefinition_accepted h).toSoundDefinition

/-- The contract of a validated definition. -/
theorem ValidatedPriorityPolicyDefinition.sound
    (definition : ValidatedPriorityPolicyDefinition) : SoundDefinition definition.val := by
  obtain ⟨input, h⟩ := definition.property
  exact validatePolicyDefinition_sound h

end PatchPilot.Policy
