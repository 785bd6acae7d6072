import PatchPilot.Policy.Definition
import PatchPilot.Policy.FactDocument
import PatchPilot.Policy.Sound
import Mathlib.Algebra.Order.BigOperators.Group.List
import Mathlib.Algebra.Order.Group.Nat

set_option autoImplicit false

/-!
# Policy: definitions as documents (`definition.ts`)

Validation builds a new object from what it read, with its keys in the order of the
catalog.  Every accepted definition is read back from that object, so the definitions that
validation can produce are exactly the accepted ones, and validating one of them again
gives it back.
-/

namespace PatchPilot.Policy

open PatchPilot.Foundation
open PatchPilot.Foundation.Collect

/-! ## The object that validation builds -/

/-- The percents of a family of tokens, as the object they are. -/
def percentsDocument {α : Type} [CatalogToken α] (percent : α → Nat) : JsValue :=
  .record ((tokens : List α).map fun token => (text token, wholeNumber (percent token)))

/-- An entry of the catalog. -/
def catalogEntryDocument (entry : FactorCatalogEntry) : JsValue :=
  .record [(js "factorId", .string (text entry.factorId)),
    (js "description", .string entry.description)]

/-- The section `factorCatalog`. -/
def catalogDocument (catalog : List FactorCatalogEntry) : JsValue :=
  .list (catalog.map catalogEntryDocument)

/-- An age bucket. -/
def bucketDocument (bucket : AgeBucket) : JsValue := bucketEntry bucket.minDays bucket.percent

/-- The section `normalization`. -/
def normalizationDocument (normalization : PolicyNormalization) : JsValue :=
  .record [
    (text FactorId.sourceSeverity, percentsDocument normalization.sourceSeverity),
    (text FactorId.kevListed, percentsDocument normalization.kevListed),
    (text FactorId.environmentSensitivity, percentsDocument normalization.environmentSensitivity),
    (text FactorId.internetExposure, percentsDocument normalization.internetExposure),
    (text FactorId.businessCriticality, percentsDocument normalization.businessCriticality),
    (text FactorId.assetDataClassification,
      percentsDocument normalization.assetDataClassification),
    (text FactorId.directDependency, percentsDocument normalization.directDependency),
    (text FactorId.fixAvailable, percentsDocument normalization.fixAvailable),
    (text FactorId.findingAgeDays, .list (normalization.findingAgeDays.map bucketDocument))]

/-- A band. -/
def bandDocument (band : PolicyBand) : JsValue :=
  .record [(js "band", .string (text band.band)),
    (js "minPriority", wholeNumber band.minPriority),
    (js "dueDateRecommendationDays", wholeNumber band.dueDateRecommendationDays)]

/-- The section `bands`. -/
def bandsDocument (bands : List PolicyBand) : JsValue := .list (bands.map bandDocument)

/-- The section `rules`. -/
def rulesDocument (kevMinimumBand : PriorityBand) : JsValue :=
  .record [(js "kevMinimumBand", .string (text kevMinimumBand)),
    (js "kevEscalation", .string kevEscalationRule)]

/-- The properties of the object that validation builds. -/
def definitionEntries (definition : PriorityPolicyDefinition) : PlainRecord :=
  [(js "schemaVersion", wholeNumber priorityPolicySchemaVersion),
    (js "policyKey", .string definition.policyKey),
    (js "engineContract", .string priorityEngineContract),
    (js "factorCatalog", catalogDocument definition.factorCatalog),
    (js "weights", percentsDocument definition.weights),
    (js "normalization", normalizationDocument definition.normalization),
    (js "bands", bandsDocument definition.bands),
    (js "rules", rulesDocument definition.kevMinimumBand)]

/-- A validated definition, as the object it is. -/
def definitionDocument (definition : PriorityPolicyDefinition) : JsValue :=
  .record (definitionEntries definition)

/-! ## Readers on what validation built -/

theorem readRecordWithKeys_record {entries : PlainRecord} {keys : List JsString} {path : JsString}
    {code : PolicyDefinitionIssueCode} (h : entries.keys = keys) :
    (readRecordWithKeys (.record entries) keys path code).Clean (some entries) := by
  have hhas : ∀ key ∈ keys, entries.has key = true := by
    intro key hkey
    rw [PlainRecord.has, h, List.contains_iff_mem]
    exact hkey
  unfold readRecordWithKeys
  rw [readPlainRecord_record]
  simp only [clean_bind, clean_forM, clean_when, clean_pure]
  refine ⟨⟨⟩, fun key hkey => not_not.mpr (h ▸ hkey), ⟨⟩, fun key hkey => ?_, ?_⟩
  · rw [hhas key hkey]
    exact Bool.noConfusion
  · rw [if_pos (List.all_eq_true.mpr hhas)]

theorem readInteger_wholeNumber {n min max : Nat} {path : JsString} (hmin : min ≤ n)
    (hmax : n ≤ max) : (readInteger (wholeNumber n) min max path).Clean (some n) := by
  have hden : ((n : Nat) : Rat).den = 1 := rfl
  have hnum : ((n : Nat) : Rat).num = n := rfl
  unfold readInteger wholeNumber
  dsimp only
  rw [hden, hnum, if_neg (by decide), if_neg (by omega), Int.toNat_natCast]
  exact clean_pure.mpr rfl

/-- Tokens, each read on its own. -/
theorem clean_mapM_tokens {α β : Type} {f : α → Check β} {read : α → β} {l : List α}
    (h : ∀ a, (f a).Clean (read a)) : (l.mapM f).Clean (l.map read) := by
  refine clean_mapM.mpr (List.forall₂_map_right_iff.mpr (List.forall₂_same.mpr fun a _ => ?_))
  exact h a

/-- A full list of readings, at a token. -/
theorem getD_rank {α : Type} [CatalogToken α] [DecidableEq α] (percent : α → Nat) (token : α) :
    ((((tokens : List α).map fun token => some (percent token))[rank token]?).join).getD 0 =
      percent token := by
  rw [List.getElem?_map, List.getElem?_eq_getElem (rank_lt token), tokens_getElem_rank token]
  rfl

theorem reduceOption_map_some {α β : Type} (f : α → β) (l : List α) :
    (l.map fun a => some (f a)).reduceOption = l.map f := by
  rw [List.reduceOption, List.filterMap_map]
  exact congrFun (List.filterMap_eq_map' (f := f)) l

/-! ## The key and the catalog -/

theorem validatePolicyKey_string {policyKey : JsString} (h : SoundPolicyKey policyKey) :
    (validatePolicyKey (.string policyKey)).Clean (some policyKey) := by
  unfold validatePolicyKey
  dsimp only [JsValue.string?]
  rw [if_neg]
  · exact clean_pure.mpr rfl
  · rw [not_or, not_lt, Bool.not_eq_false]
    exact h

theorem validateDescription_string {description path : JsString}
    (h : SoundDescription description) :
    (validateDescription (.string description) path).Clean (some description) := by
  obtain ⟨hblank, hlength, hcontrol⟩ := h
  unfold validateDescription
  dsimp only [JsValue.string?]
  rw [if_neg]
  · exact clean_pure.mpr rfl
  · rw [not_or, not_or, Bool.not_eq_true]
    exact ⟨hblank, not_lt.mpr hlength, hcontrol⟩

theorem scanCatalogEntry_document {scan : CatalogScan} {entry : FactorCatalogEntry} {index : Nat}
    (h : SoundDescription entry.description) (hnew : entry.factorId ∉ scan.seen) :
    (scanCatalogEntry scan (catalogEntryDocument entry, index)).Clean
      ⟨scan.catalog ++ [entry], entry.factorId :: scan.seen⟩ := by
  unfold scanCatalogEntry
  refine clean_bind.mpr ⟨_, readRecordWithKeys_record rfl, ?_⟩
  dsimp only
  refine clean_bind.mpr ⟨some entry.description, validateDescription_string h, ?_⟩
  have hfactor : oneOf FactorId (PlainRecord.get [(js "factorId", .string (text entry.factorId)),
      (js "description", .string entry.description)] (js "factorId")) = some entry.factorId :=
    oneOf_eq_some.mpr rfl
  rw [hfactor]
  dsimp only
  rw [if_neg hnew]
  exact clean_pure.mpr rfl

theorem scanCatalog_document {added : List FactorCatalogEntry} :
    ∀ {scan : CatalogScan} {k : Nat}, (∀ entry ∈ added, SoundDescription entry.description) →
      (added.map (·.factorId)).Nodup → (∀ entry ∈ added, entry.factorId ∉ scan.seen) →
        (((added.map catalogEntryDocument).zipIdx k).foldlM scanCatalogEntry scan).Clean
          ⟨scan.catalog ++ added, (added.map (·.factorId)).reverse ++ scan.seen⟩ := by
  induction added with
  | nil =>
      intro scan k _ _ _
      rw [List.append_nil]
      exact clean_pure.mpr rfl
  | cons entry added ih =>
      intro scan k hsound hnodup hnew
      obtain ⟨hentry, hrest⟩ := List.forall_mem_cons.mp hsound
      obtain ⟨hfirst, hnodup⟩ := List.nodup_cons.mp hnodup
      obtain ⟨hnewentry, hnewrest⟩ := List.forall_mem_cons.mp hnew
      rw [List.map_cons, List.zipIdx_cons]
      refine clean_foldlM_cons.mpr ⟨_, scanCatalogEntry_document hentry hnewentry, ?_⟩
      rw [List.map_cons, List.reverse_cons, List.append_assoc, List.singleton_append,
        show scan.catalog ++ entry :: added = (scan.catalog ++ [entry]) ++ added by simp]
      refine ih hrest hnodup fun other hother hseen => ?_
      rcases List.mem_cons.mp hseen with heq | hseen
      · exact hfirst (List.mem_map.mpr ⟨other, hother, heq⟩)
      · exact hnewrest other hother hseen

theorem validateFactorCatalog_document {catalog : List FactorCatalogEntry}
    (h : SoundCatalog catalog) :
    (validateFactorCatalog (catalogDocument catalog)).Clean (some catalog) := by
  have hlength : catalog.length = factorIds.length := by
    rw [← h.factors, List.length_map]
  have hread : readPlainArray (catalogDocument catalog) (factorIds.length * 4) =
      .elements (catalog.map catalogEntryDocument) :=
    readPlainArray_list (by rw [List.length_map, hlength]; decide)
  have hscan := @scanCatalog_document catalog ⟨[], []⟩ 0 h.descriptions
    (h.factors ▸ tokens_nodup) fun _ _ => List.not_mem_nil
  rw [h.factors, List.nil_append, List.append_nil] at hscan
  unfold validateFactorCatalog
  rw [hread]
  dsimp only
  refine clean_bind.mpr ⟨some ⟨catalog, factorIds.reverse⟩, clean_guarded.mpr ⟨_, ?_, rfl⟩, ?_⟩
  · refine clean_bind.mpr ⟨_, hscan, clean_bind.mpr ⟨⟨⟩, clean_forM.mpr ?_, clean_pure.mpr rfl⟩⟩
    intro factorId hfactorId
    exact clean_when.mpr (not_not.mpr (List.mem_reverse.mpr hfactorId))
  · have horder : (catalog.zipIdx.any fun entry =>
        some entry.1.factorId != factorIds[entry.2]?) = false := by
      rw [List.any_eq_false]
      rintro ⟨entry, i⟩ hentry
      have hi := List.mem_zipIdx_iff_getElem?.mp hentry
      have hfactor : factorIds[i]? = some entry.factorId := by
        rw [← h.factors, List.getElem?_map, hi]
        rfl
      rw [hfactor]
      exact ne_true_of_eq_false (bne_self_eq_false _)
    dsimp only
    rw [horder]
    exact clean_pure.mpr rfl

/-! ## Weights and percents -/

theorem weights_le {weights : PolicyWeights} (h : (factorIds.map weights).sum = weightSum)
    (factorId : FactorId) : weights factorId ≤ weightSum :=
  h ▸ List.single_le_sum (fun _ _ => Nat.zero_le _) _
    (List.mem_map_of_mem (CatalogToken.complete factorId))

theorem validateWeights_document {weights : PolicyWeights}
    (hwithdrawn : weights informationalFactorId = 0)
    (hsum : (factorIds.map weights).sum = weightSum) :
    (validateWeights (percentsDocument weights)).Clean (some weights) := by
  unfold validateWeights
  refine clean_bind.mpr ⟨_, readRecordWithKeys_record (keys_text _), ?_⟩
  dsimp only
  refine clean_bind.mpr ⟨some (factorIds.map fun factorId => some (weights factorId)),
    clean_guarded.mpr ⟨_, clean_mapM_tokens fun factorId => ?_, rfl⟩, ?_⟩
  · rw [get_text]
    exact readInteger_wholeNumber (Nat.zero_le _) (weights_le hsum factorId)
  · have hweights : (fun factorId : FactorId => ((factorIds.map fun factorId =>
        some (weights factorId))[rank factorId]?.join).getD 0) = weights :=
      funext (getD_rank weights)
    refine clean_guarded.mpr ⟨weights, ?_, rfl⟩
    refine clean_bind.mpr ⟨⟨⟩, clean_when.mpr (not_not.mpr ?_),
      clean_bind.mpr ⟨⟨⟩, clean_when.mpr (not_not.mpr ?_), clean_pure.mpr hweights⟩⟩
    · exact (getD_rank weights _).trans hwithdrawn
    · rw [hweights]
      exact hsum

/-- What is lower further down the catalog is lower from one neighbour to the next. -/
theorem isChain_of_antitone {α : Type} [CatalogToken α] [DecidableEq α] {percent : α → Nat}
    (h : ∀ a b, rank a ≤ rank b → percent b ≤ percent a) :
    ((tokens : List α).map percent).IsChain fun previous value => value ≤ previous := by
  refine List.Pairwise.isChain (List.pairwise_map.mpr (List.pairwise_iff_getElem.mpr ?_))
  intro i j hi hj hij
  refine h _ _ ?_
  have hranki : rank (tokens : List α)[i] = i := tokens_nodup.idxOf_getElem i hi
  have hrankj : rank (tokens : List α)[j] = j := tokens_nodup.idxOf_getElem j hj
  omega

theorem validateTokenPercents_document {α : Type} [CatalogToken α] [DecidableEq α]
    {factorId : FactorId} {percent : α → Nat} (h : SoundPercents percent) :
    (validateTokenPercents α factorId (percentsDocument percent)).Clean (some percent) := by
  unfold validateTokenPercents percentsDocument
  rw [readPlainRecord_record]
  dsimp only
  refine clean_bind.mpr ⟨some ((tokens : List α).map fun token => some (percent token)),
    clean_guarded.mpr ⟨_, clean_bind.mpr ⟨⟨⟩, clean_forM.mpr fun key hkey => ?_,
      clean_mapM_tokens fun token => ?_⟩, rfl⟩, ?_⟩
  · rw [keys_text] at hkey
    exact clean_when.mpr (not_not.mpr hkey)
  · rw [if_pos (has_text _ token), get_text]
    exact readInteger_wholeNumber (Nat.zero_le _) (h.bounded token)
  · have hpercents : (fun token : α => (((tokens : List α).map fun token =>
        some (percent token))[rank token]?.join).getD 0) = percent :=
      funext (getD_rank percent)
    dsimp only
    rw [hpercents, reduceOption_map_some]
    refine clean_guarded.mpr ⟨percent, ?_, rfl⟩
    have horder : isNonIncreasing ((tokens : List α).map percent) = true :=
      decide_eq_true (isChain_of_antitone h.antitone)
    refine clean_bind.mpr ⟨⟨⟩, clean_when.mpr ?_, clean_bind.mpr ⟨⟨⟩, clean_when.mpr ?_,
      clean_pure.mpr rfl⟩⟩
    · rw [horder]
      exact Bool.noConfusion
    · exact not_not.mpr h.favorable

/-! ## Age buckets -/

theorem readAgeBucket_document {path : JsString} {bucket : AgeBucket} {index : Nat}
    (hdays : bucket.minDays ≤ findingAgeDaysMax) (hpercent : bucket.percent ≤ percentMax) :
    (readAgeBucket path (bucketDocument bucket, index)).Clean (some bucket) := by
  unfold readAgeBucket
  refine clean_bind.mpr ⟨_, readRecordWithKeys_record rfl, ?_⟩
  dsimp only
  exact clean_bind.mpr ⟨some bucket.minDays, readInteger_wholeNumber (Nat.zero_le _) hdays,
    clean_bind.mpr ⟨some bucket.percent, readInteger_wholeNumber (Nat.zero_le _) hpercent,
      clean_pure.mpr rfl⟩⟩

theorem validateAgeBuckets_document {buckets : List AgeBucket} (h : SoundBuckets buckets)
    (hlimits : BucketLimits buckets) :
    (validateAgeBuckets (.list (buckets.map bucketDocument))).Clean (some buckets) := by
  have hread : readPlainArray (.list (buckets.map bucketDocument)) findingAgeBucketsMax =
      .elements (buckets.map bucketDocument) :=
    readPlainArray_list (by rw [List.length_map]; exact hlimits.count)
  have hnonempty : ¬ (buckets.map bucketDocument).length = 0 := by
    intro hnil
    rw [List.length_map, List.length_eq_zero_iff] at hnil
    have hstart := h.start
    rw [hnil] at hstart
    cases hstart
  unfold validateAgeBuckets
  dsimp only
  rw [hread]
  dsimp only
  rw [if_neg hnonempty]
  refine clean_bind.mpr ⟨some (buckets.map some), clean_guarded.mpr ⟨_, ?_, rfl⟩, ?_⟩
  · refine clean_mapM_zipIdx fun i bucket hbucket => ?_
    have hmem := List.mem_of_getElem? hbucket
    exact readAgeBucket_document (hlimits.days bucket hmem) (h.bounded bucket hmem)
  · dsimp only
    rw [show (buckets.map some).reduceOption = buckets by
      simpa using reduceOption_map_some id buckets]
    refine clean_guarded.mpr ⟨buckets, ?_, rfl⟩
    have hdays : isStrictlyIncreasing (buckets.map (·.minDays)) = true :=
      decide_eq_true (List.pairwise_map.mpr (h.rising.imp fun hab => hab.1)).isChain
    have hpercents : isNonDecreasing (buckets.map (·.percent)) = true :=
      decide_eq_true (List.pairwise_map.mpr (h.rising.imp fun hab => hab.2)).isChain
    simp only [clean_bind, clean_when, clean_pure, Bool.not_eq_false, not_not]
    exact ⟨⟨⟩, h.start, ⟨⟩, h.favorable, ⟨⟩, hdays, ⟨⟩, hpercents, trivial⟩

/-! ## Bands and rules -/

theorem readBand_document {band : PolicyBand} {index : Nat}
    (hname : tokens[index]? = some band.band)
    (hminPriority : band.minPriority ≤ priorityMax)
    (hdue : dueDateRecommendationDaysMin ≤ band.dueDateRecommendationDays ∧
      band.dueDateRecommendationDays ≤ dueDateRecommendationDaysMax) :
    (readBand (bandDocument band, index)).Clean (some band) := by
  have hband : oneOf PriorityBand (.string (text band.band)) = some band.band :=
    oneOf_eq_some.mpr rfl
  unfold readBand
  refine clean_bind.mpr ⟨_, readRecordWithKeys_record rfl, ?_⟩
  dsimp only
  have hget : PlainRecord.get [(js "band", .string (text band.band)),
      (js "minPriority", wholeNumber band.minPriority),
      (js "dueDateRecommendationDays", wholeNumber band.dueDateRecommendationDays)]
        (js "band") = .string (text band.band) := rfl
  rw [hget, hband]
  refine clean_bind.mpr ⟨⟨⟩, clean_when.mpr (not_not.mpr hname.symm), ?_⟩
  exact clean_bind.mpr ⟨some band.minPriority,
    readInteger_wholeNumber (Nat.zero_le _) hminPriority,
    clean_bind.mpr ⟨some band.dueDateRecommendationDays,
      readInteger_wholeNumber hdue.1 hdue.2, clean_pure.mpr rfl⟩⟩

theorem validateBands_document {bands : List PolicyBand} (h : SoundBands bands)
    (hlimits : BandLimits bands) :
    (validateBands (bandsDocument bands)).Clean (some bands) := by
  have hlength : bands.length = (tokens : List PriorityBand).length := by
    rw [← h.names, List.length_map]
  have hread : readPlainArray (bandsDocument bands) (tokens : List PriorityBand).length =
      .elements (bands.map bandDocument) :=
    readPlainArray_list (by rw [List.length_map, hlength])
  unfold validateBands
  rw [hread]
  dsimp only
  rw [if_neg (by rw [List.length_map, hlength]; exact not_not.mpr rfl)]
  refine clean_bind.mpr ⟨some (bands.map some), clean_guarded.mpr ⟨_, ?_, rfl⟩, ?_⟩
  · refine clean_mapM_zipIdx fun i band hband => ?_
    have hmem := List.mem_of_getElem? hband
    refine readBand_document ?_ (h.bounded band hmem) (hlimits band hmem)
    rw [Nat.zero_add, ← h.names, List.getElem?_map, hband]
    rfl
  · dsimp only
    rw [show (bands.map some).reduceOption = bands by
      simpa using reduceOption_map_some id bands]
    refine clean_guarded.mpr ⟨bands, ?_, rfl⟩
    have hthresholds : isStrictlyDecreasing (bands.map (·.minPriority)) = true :=
      decide_eq_true (List.pairwise_map.mpr (h.falling.imp fun hab => hab.1)).isChain
    have hdue : isNonDecreasing (bands.map (·.dueDateRecommendationDays)) = true :=
      decide_eq_true (List.pairwise_map.mpr (h.falling.imp fun hab => hab.2)).isChain
    simp only [clean_bind, clean_when, clean_pure, Bool.not_eq_false, not_not]
    exact ⟨⟨⟩, hthresholds, ⟨⟩, h.lowest, ⟨⟩, hdue, trivial⟩

theorem validateRules_document (kevMinimumBand : PriorityBand) :
    (validateRules (rulesDocument kevMinimumBand)).Clean (some kevMinimumBand) := by
  have hband : oneOf PriorityBand (.string (text kevMinimumBand)) = some kevMinimumBand :=
    oneOf_eq_some.mpr rfl
  unfold validateRules
  refine clean_bind.mpr ⟨_, readRecordWithKeys_record rfl, ?_⟩
  dsimp only
  have hget : PlainRecord.get [(js "kevMinimumBand", .string (text kevMinimumBand)),
      (js "kevEscalation", .string kevEscalationRule)] (js "kevMinimumBand") =
        .string (text kevMinimumBand) := rfl
  have hescalates : (PlainRecord.get [(js "kevMinimumBand", .string (text kevMinimumBand)),
      (js "kevEscalation", .string kevEscalationRule)] (js "kevEscalation")).string? =
        some kevEscalationRule := rfl
  rw [hget, hband]
  refine clean_bind.mpr ⟨⟨⟩, clean_when.mpr (Option.some_ne_none _),
    clean_bind.mpr ⟨⟨⟩, clean_when.mpr (not_not.mpr hescalates), clean_pure.mpr ?_⟩⟩
  exact if_pos hescalates

/-! ## The whole definition -/

theorem validateNormalization_document {normalization : PolicyNormalization}
    (h : SoundNormalization normalization) (hlimits : BucketLimits normalization.findingAgeDays) :
    (validateNormalization (normalizationDocument normalization)).Clean (some normalization) := by
  unfold validateNormalization
  refine clean_bind.mpr ⟨_, readRecordWithKeys_record rfl, ?_⟩
  dsimp only
  refine clean_bind.mpr ⟨some (some normalization), clean_guarded.mpr ⟨_, ?_, rfl⟩,
    clean_pure.mpr rfl⟩
  refine clean_bind.mpr ⟨_, validateTokenPercents_document h.sourceSeverity, ?_⟩
  refine clean_bind.mpr ⟨_, validateTokenPercents_document h.kevListed, ?_⟩
  refine clean_bind.mpr ⟨_, validateTokenPercents_document h.environmentSensitivity, ?_⟩
  refine clean_bind.mpr ⟨_, validateTokenPercents_document h.internetExposure, ?_⟩
  refine clean_bind.mpr ⟨_, validateTokenPercents_document h.businessCriticality, ?_⟩
  refine clean_bind.mpr ⟨_, validateTokenPercents_document h.assetDataClassification, ?_⟩
  refine clean_bind.mpr ⟨_, validateTokenPercents_document h.directDependency, ?_⟩
  refine clean_bind.mpr ⟨_, validateTokenPercents_document h.fixAvailable, ?_⟩
  exact clean_bind.mpr ⟨_, validateAgeBuckets_document h.findingAgeDays hlimits,
    clean_pure.mpr rfl⟩

/-- A section that is there is read. -/
theorem clean_validateWhenPresent {α : Type} {record : PlainRecord} {key : JsString}
    {validate : JsValue → Check (Option α)} {result : Option α} (hkey : record.has key = true)
    (h : (validate (record.get key)).Clean result) :
    (validateWhenPresent record key validate).Clean result := by
  unfold validateWhenPresent
  rwa [if_pos hkey]

theorem checkPolicyDefinition_entries {definition : PriorityPolicyDefinition}
    (h : AcceptedDefinition definition) :
    (checkPolicyDefinition (definitionEntries definition)).Clean (some definition) := by
  have hkeys : (definitionEntries definition).keys = topLevelKeys := rfl
  have hhas : ∀ key ∈ topLevelKeys, (definitionEntries definition).has key = true := by
    intro key hkey
    rw [PlainRecord.has, hkeys, List.contains_iff_mem]
    exact hkey
  have hcontract : ((definitionEntries definition).get (js "engineContract")).string? =
      some priorityEngineContract := rfl
  unfold checkPolicyDefinition
  refine clean_bind.mpr ⟨⟨⟩, clean_forM.mpr fun key hkey => ?_, ?_⟩
  · exact clean_when.mpr (not_not.mpr (hkeys ▸ hkey))
  refine clean_bind.mpr ⟨⟨⟩, clean_forM.mpr fun key hkey => ?_, ?_⟩
  · rw [hhas key hkey]
    exact clean_when.mpr Bool.noConfusion
  refine clean_bind.mpr ⟨⟨⟩, clean_when.mpr fun hdiffers => hdiffers.2 hcontract, ?_⟩
  refine clean_bind.mpr ⟨_, clean_validateWhenPresent (hhas _ (by decide))
    (validatePolicyKey_string h.policyKey), ?_⟩
  refine clean_bind.mpr ⟨_, clean_validateWhenPresent (hhas _ (by decide))
    (validateFactorCatalog_document h.factorCatalog), ?_⟩
  refine clean_bind.mpr ⟨_, clean_validateWhenPresent (hhas _ (by decide))
    (validateWeights_document h.withdrawn h.weights), ?_⟩
  refine clean_bind.mpr ⟨_, clean_validateWhenPresent (hhas _ (by decide))
    (validateNormalization_document h.normalization h.ageBuckets), ?_⟩
  refine clean_bind.mpr ⟨_, clean_validateWhenPresent (hhas _ (by decide))
    (validateBands_document h.bands h.dueDates), ?_⟩
  exact clean_bind.mpr ⟨_, clean_validateWhenPresent (hhas _ (by decide))
    (validateRules_document definition.kevMinimumBand), clean_pure.mpr rfl⟩

/-- An accepted definition is read back from the object it is. -/
theorem validatePolicyDefinition_document {definition : PriorityPolicyDefinition}
    (h : AcceptedDefinition definition) :
    validatePolicyDefinition (definitionDocument definition) = .ok definition := by
  have hversion : ¬ isNumber ((definitionEntries definition).get (js "schemaVersion"))
      priorityPolicySchemaVersion = false := by
    change ¬ isNumber (wholeNumber priorityPolicySchemaVersion) priorityPolicySchemaVersion = false
    decide
  have hrun : (checkPolicyDefinition (definitionEntries definition)).run [] =
      (some definition, []) := checkPolicyDefinition_entries h
  unfold validatePolicyDefinition definitionDocument
  rw [readPlainRecord_record]
  dsimp only
  rw [if_neg hversion, hrun]

/-- Validation produces exactly the accepted definitions. -/
theorem validated_iff_accepted (definition : PriorityPolicyDefinition) :
    (∃ input, validatePolicyDefinition input = .ok definition) ↔
      AcceptedDefinition definition := by
  constructor
  · rintro ⟨input, h⟩
    exact validatePolicyDefinition_accepted h
  · intro h
    exact ⟨_, validatePolicyDefinition_document h⟩

end PatchPilot.Policy
