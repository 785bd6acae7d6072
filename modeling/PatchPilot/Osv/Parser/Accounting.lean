import PatchPilot.Foundation.JsonWriting
import PatchPilot.Intelligence.Structure

set_option autoImplicit false

/-!
# Osv: the size of a parsed advisory (`advisory-parser-accounting.ts`)

Two passes: one over the collections and the extension objects that an advisory names, and
one over all that was parsed, with a stack of frames and the objects that were seen.  What
is let through is within every limit, and is counted as a recursion over the document
counts it.
-/

namespace PatchPilot.Osv.Parser

open PatchPilot.Foundation PatchPilot.Intelligence

/-! ## Limits, counts and failures -/

/-- `OsvAdvisoryParserAccountingFailureKind`, as far as a parsed document gives rise to it. -/
inductive OsvAdvisoryParserAccountingFailureKind
  | structuralDepthExceeded | totalPropertyLimitExceeded | totalArrayElementLimitExceeded
  | stringLimitExceeded | aliasLimitExceeded | relatedIdentifierLimitExceeded
  | affectedLimitExceeded | rangeLimitExceeded | eventLimitExceeded
  | explicitVersionLimitExceeded | referenceLimitExceeded | creditLimitExceeded
  | severityLimitExceeded | databaseSpecificLimitExceeded | ecosystemSpecificLimitExceeded
  | cyclicStructureRejected | extensionSerializationFailed
  deriving DecidableEq

/-- The limits of `OsvAdvisoryParserResourcePolicy` that are applied to a parsed document. -/
structure OsvAdvisoryParserResourcePolicy where
  maxStructuralDepth : Nat
  maxTotalObjectProperties : Nat
  maxTotalArrayElements : Nat
  maxUtf8BytesPerString : Nat
  maxAliases : Nat
  maxRelatedIdentifiers : Nat
  maxAffectedEntries : Nat
  maxRangesPerAffectedEntry : Nat
  maxEventsPerRange : Nat
  maxExplicitVersionsPerAffectedEntry : Nat
  maxReferences : Nat
  maxCredits : Nat
  maxSeverityEntries : Nat
  maxDatabaseSpecificSerializedBytes : Nat
  maxEcosystemSpecificSerializedBytes : Nat
  maxPackageNameBytes : Nat
  maxEcosystemNameBytes : Nat
  maxPurlBytes : Nat
  maxUrlBytes : Nat
  maxOsvIdBytes : Nat

/-- `OsvAdvisoryParserAccountingCounts`. -/
structure OsvAdvisoryParserAccountingCounts where
  structuralDepth : Nat
  totalObjectProperties : Nat
  totalArrayElements : Nat
  aliasCount : Nat
  relatedCount : Nat
  affectedCount : Nat
  rangeCount : Nat
  eventCount : Nat
  explicitVersionCount : Nat
  referenceCount : Nat
  creditCount : Nat
  severityCount : Nat
  deriving DecidableEq

/-- `empty`. -/
def OsvAdvisoryParserAccountingCounts.empty : OsvAdvisoryParserAccountingCounts :=
  ⟨1, 0, 0, 0, 0, 0, 0, 0, 0, 0, 0, 0⟩

/-- The outcome of a pass. -/
abbrev Accounting := Except OsvAdvisoryParserAccountingFailureKind

/-! ## The named collections -/

/-- `if (…) return fail(kind)`. -/
def failWhen (c : Prop) [Decidable c] (kind : OsvAdvisoryParserAccountingFailureKind) :
    Accounting Unit :=
  if c then .error kind else .ok ()

/-- `if (failure !== null) return fail(failure)`. -/
def failWith : Option OsvAdvisoryParserAccountingFailureKind → Accounting Unit
  | some kind => .error kind
  | none => .ok ()

/-- The items of an array; what is no array has none. -/
def itemsOf (value : Option JsonValue) : List JsonValue := (value.bind JsonValue.array?).getD []

/-- `if (!isPlainRecord(item)) continue`. -/
def onRecords {σ : Type} (account : σ → JsonRecord → Accounting σ) (state : σ)
    (item : JsonValue) : Accounting σ :=
  match item.record? with
  | some record => account state record
  | none => .ok state

/-- `countSeverityEntries`. -/
def countSeverityEntries (value : Option JsonValue) : Nat := (itemsOf value).length

/-- `typeof value === 'string' && utf8ByteLength(value) > limit`. -/
def isLongText (value : Option JsonValue) (limit : Nat) : Bool :=
  match value with
  | some (.string text) => limit < utf8ByteLength text
  | _ => false

section

variable (texts : JsonTexts) (policy : OsvAdvisoryParserResourcePolicy)

/-- `compactJsonUtf8Bytes`. -/
def compactJsonUtf8Bytes (value : JsonValue) : Nat := utf8ByteLength (writeJson texts value)

/-- `accountExtensionObject`. -/
def accountExtensionObject (value : Option JsonValue) (limit : Nat)
    (kind : OsvAdvisoryParserAccountingFailureKind) :
    Option OsvAdvisoryParserAccountingFailureKind :=
  match value with
  | none | some .null => none
  | some (.object entries) =>
      if limit < compactJsonUtf8Bytes texts (.object entries) then some kind else none
  | some _ => some .extensionSerializationFailed

/-- One range of an affected entry, and the number of events before it. -/
def accountRange (eventCount : Nat) (range : JsonRecord) : Accounting Nat := do
  let events := itemsOf (range.get (js "events"))
  failWhen (policy.maxEventsPerRange < events.length) .eventLimitExceeded
  failWhen (isLongText (range.get (js "repo")) policy.maxUrlBytes) .stringLimitExceeded
  failWith (accountExtensionObject texts (range.get (js "database_specific"))
    policy.maxDatabaseSpecificSerializedBytes .databaseSpecificLimitExceeded)
  return eventCount + events.length

/-- The package of an affected entry. -/
def accountPackage (value : Option JsonValue) : Accounting Unit :=
  match value.bind JsonValue.record? with
  | some pkg => do
      failWhen (isLongText (pkg.get (js "name")) policy.maxPackageNameBytes) .stringLimitExceeded
      failWhen (isLongText (pkg.get (js "ecosystem")) policy.maxEcosystemNameBytes)
        .stringLimitExceeded
      failWhen (isLongText (pkg.get (js "purl")) policy.maxPurlBytes) .stringLimitExceeded
  | none => .ok ()

/-- One affected entry, and the counts before it. -/
def accountAffectedEntry (counts : OsvAdvisoryParserAccountingCounts) (entry : JsonRecord) :
    Accounting OsvAdvisoryParserAccountingCounts := do
  let ranges := itemsOf (entry.get (js "ranges"))
  failWhen (policy.maxRangesPerAffectedEntry < ranges.length) .rangeLimitExceeded
  let eventCount ← ranges.foldlM (onRecords (accountRange texts policy)) counts.eventCount
  let versions := itemsOf (entry.get (js "versions"))
  failWhen (policy.maxExplicitVersionsPerAffectedEntry < versions.length)
    .explicitVersionLimitExceeded
  let severityCount := counts.severityCount + countSeverityEntries (entry.get (js "severity"))
  failWhen (policy.maxSeverityEntries < severityCount) .severityLimitExceeded
  accountPackage policy (entry.get (js "package"))
  failWith (accountExtensionObject texts (entry.get (js "ecosystem_specific"))
    policy.maxEcosystemSpecificSerializedBytes .ecosystemSpecificLimitExceeded)
  failWith (accountExtensionObject texts (entry.get (js "database_specific"))
    policy.maxDatabaseSpecificSerializedBytes .databaseSpecificLimitExceeded)
  return { counts with
    rangeCount := counts.rangeCount + ranges.length
    eventCount
    explicitVersionCount := counts.explicitVersionCount + versions.length
    severityCount }

/-- One reference. -/
def accountReference (_ : Unit) (reference : JsonRecord) : Accounting Unit :=
  failWhen (isLongText (reference.get (js "url")) policy.maxUrlBytes) .stringLimitExceeded

/-- The collections of an advisory. -/
def accountAdvisory (root : JsonRecord) : Accounting OsvAdvisoryParserAccountingCounts := do
  let aliasCount := (itemsOf (root.get (js "aliases"))).length
  failWhen (policy.maxAliases < aliasCount) .aliasLimitExceeded
  let relatedCount := (itemsOf (root.get (js "related"))).length
  failWhen (policy.maxRelatedIdentifiers < relatedCount) .relatedIdentifierLimitExceeded
  let affectedCount := (itemsOf (root.get (js "affected"))).length
  failWhen (policy.maxAffectedEntries < affectedCount) .affectedLimitExceeded
  let referenceCount := (itemsOf (root.get (js "references"))).length
  failWhen (policy.maxReferences < referenceCount) .referenceLimitExceeded
  let creditCount := (itemsOf (root.get (js "credits"))).length
  failWhen (policy.maxCredits < creditCount) .creditLimitExceeded
  let severityCount := countSeverityEntries (root.get (js "severity"))
  failWhen (policy.maxSeverityEntries < severityCount) .severityLimitExceeded
  failWhen (isLongText (root.get (js "id")) policy.maxOsvIdBytes) .stringLimitExceeded
  failWith (accountExtensionObject texts (root.get (js "database_specific"))
    policy.maxDatabaseSpecificSerializedBytes .databaseSpecificLimitExceeded)
  let counts ← (itemsOf (root.get (js "affected"))).foldlM
    (onRecords (accountAffectedEntry texts policy))
    { OsvAdvisoryParserAccountingCounts.empty with
      aliasCount, relatedCount, affectedCount, referenceCount, creditCount, severityCount }
  (itemsOf (root.get (js "references"))).foldlM (onRecords (accountReference policy)) ()
  return counts

/-- `accountSpecificCollections`. -/
def accountSpecificCollections (root : JsonValue) : Accounting OsvAdvisoryParserAccountingCounts :=
  match root.record? with
  | some root => accountAdvisory texts policy root
  | none => .ok .empty

end

/-! ## The walk -/

/-- What the walk keeps between frames. -/
structure WalkState where
  maxDepth : Nat
  totalObjectProperties : Nat
  totalArrayElements : Nat
  seen : List (List Nat)

section

variable (policy : OsvAdvisoryParserResourcePolicy)

/-- `let maxDepth = 1` and what follows. -/
def WalkState.start : WalkState := ⟨1, 0, 0, []⟩

/-- The loop over the keys of an object. -/
def accountKeys : List JsString → Accounting Unit
  | [] => .ok ()
  | key :: rest =>
      if policy.maxUtf8BytesPerString < utf8ByteLength key then .error .stringLimitExceeded
      else accountKeys rest

/-- What is done with a frame. -/
def accountFrame (state : WalkState) (frame : StructureFrame) : Accounting WalkState :=
  if policy.maxStructuralDepth < frame.depth then .error .structuralDepthExceeded
  else
    let state := { state with maxDepth := max state.maxDepth frame.depth }
    match frame.value with
    | .string text =>
        if policy.maxUtf8BytesPerString < utf8ByteLength text then .error .stringLimitExceeded
        else .ok state
    | .number _ | .boolean _ | .null => .ok state
    | .array items =>
        if frame.place ∈ state.seen then .error .cyclicStructureRejected
        else
          let totalArrayElements := state.totalArrayElements + items.length
          if policy.maxTotalArrayElements < totalArrayElements then
            .error .totalArrayElementLimitExceeded
          else .ok { state with totalArrayElements, seen := frame.place :: state.seen }
    | .object entries =>
        if frame.place ∈ state.seen then .error .cyclicStructureRejected
        else
          let totalObjectProperties := state.totalObjectProperties + entries.length
          if policy.maxTotalObjectProperties < totalObjectProperties then
            .error .totalPropertyLimitExceeded
          else
            (accountKeys policy (entries.map Prod.fst)).map fun _ =>
              { state with totalObjectProperties, seen := frame.place :: state.seen }

/-- `accountOsvAdvisoryParsedStructure`. -/
def accountOsvAdvisoryParsedStructure (texts : JsonTexts) (value : JsonValue) :
    Accounting OsvAdvisoryParserAccountingCounts := do
  let specific ← accountSpecificCollections texts policy value
  let state ← structureFrames.walk (accountFrame policy) [rootFrame value] .start
  return { specific with
    structuralDepth := state.maxDepth
    totalObjectProperties := state.totalObjectProperties
    totalArrayElements := state.totalArrayElements }

end

/-! ## What is let through -/

/-- The records of an array. -/
def recordsOf (value : Option JsonValue) : List JsonRecord :=
  (itemsOf value).filterMap JsonValue.record?

/-- A text is no longer than a limit. -/
def TextWithin (value : Option JsonValue) (limit : Nat) : Prop :=
  ∀ text, value = some (.string text) → utf8ByteLength text ≤ limit

section

variable (texts : JsonTexts) (policy : OsvAdvisoryParserResourcePolicy)

/-- An extension is absent or an object whose text is no longer than a limit. -/
def ExtensionWithin (value : Option JsonValue) (limit : Nat) : Prop :=
  ∀ extension, value = some extension → extension = .null ∨
    (∃ entries, extension = .object entries) ∧ compactJsonUtf8Bytes texts extension ≤ limit

/-- A range within the limits. -/
structure RangeWithin (range : JsonRecord) : Prop where
  events : (itemsOf (range.get (js "events"))).length ≤ policy.maxEventsPerRange
  repo : TextWithin (range.get (js "repo")) policy.maxUrlBytes
  databaseSpecific : ExtensionWithin texts (range.get (js "database_specific"))
    policy.maxDatabaseSpecificSerializedBytes

/-- A package within the limits. -/
structure PackageWithin (pkg : JsonRecord) : Prop where
  name : TextWithin (pkg.get (js "name")) policy.maxPackageNameBytes
  ecosystem : TextWithin (pkg.get (js "ecosystem")) policy.maxEcosystemNameBytes
  purl : TextWithin (pkg.get (js "purl")) policy.maxPurlBytes

/-- An affected entry within the limits. -/
structure AffectedWithin (entry : JsonRecord) : Prop where
  ranges : (itemsOf (entry.get (js "ranges"))).length ≤ policy.maxRangesPerAffectedEntry
  eachRange : ∀ range ∈ recordsOf (entry.get (js "ranges")), RangeWithin texts policy range
  versions :
    (itemsOf (entry.get (js "versions"))).length ≤ policy.maxExplicitVersionsPerAffectedEntry
  package : ∀ pkg, (entry.get (js "package")).bind JsonValue.record? = some pkg →
    PackageWithin policy pkg
  ecosystemSpecific : ExtensionWithin texts (entry.get (js "ecosystem_specific"))
    policy.maxEcosystemSpecificSerializedBytes
  databaseSpecific : ExtensionWithin texts (entry.get (js "database_specific"))
    policy.maxDatabaseSpecificSerializedBytes

/-- The counts of the named collections. -/
def advisoryCounts (root : JsonRecord) : OsvAdvisoryParserAccountingCounts :=
  let affected := recordsOf (root.get (js "affected"))
  { OsvAdvisoryParserAccountingCounts.empty with
    aliasCount := (itemsOf (root.get (js "aliases"))).length
    relatedCount := (itemsOf (root.get (js "related"))).length
    affectedCount := (itemsOf (root.get (js "affected"))).length
    rangeCount := (affected.map fun entry => (itemsOf (entry.get (js "ranges"))).length).sum
    eventCount := (affected.map fun entry =>
      ((recordsOf (entry.get (js "ranges"))).map fun range =>
        (itemsOf (range.get (js "events"))).length).sum).sum
    explicitVersionCount :=
      (affected.map fun entry => (itemsOf (entry.get (js "versions"))).length).sum
    referenceCount := (itemsOf (root.get (js "references"))).length
    creditCount := (itemsOf (root.get (js "credits"))).length
    severityCount := (itemsOf (root.get (js "severity"))).length +
      (affected.map fun entry => (itemsOf (entry.get (js "severity"))).length).sum }

/-- The named collections and extensions of an advisory within the limits. -/
structure AdvisoryWithin (root : JsonRecord) : Prop where
  aliases : (advisoryCounts root).aliasCount ≤ policy.maxAliases
  related : (advisoryCounts root).relatedCount ≤ policy.maxRelatedIdentifiers
  affected : (advisoryCounts root).affectedCount ≤ policy.maxAffectedEntries
  references : (advisoryCounts root).referenceCount ≤ policy.maxReferences
  credits : (advisoryCounts root).creditCount ≤ policy.maxCredits
  severities : (advisoryCounts root).severityCount ≤ policy.maxSeverityEntries
  id : TextWithin (root.get (js "id")) policy.maxOsvIdBytes
  databaseSpecific : ExtensionWithin texts (root.get (js "database_specific"))
    policy.maxDatabaseSpecificSerializedBytes
  eachAffected : ∀ entry ∈ recordsOf (root.get (js "affected")), AffectedWithin texts policy entry
  eachReference : ∀ reference ∈ recordsOf (root.get (js "references")),
    TextWithin (reference.get (js "url")) policy.maxUrlBytes

/-- The named collections and extensions of a document within the limits. -/
def CollectionsWithin (value : JsonValue) : Prop :=
  ∀ root, value.record? = some root → AdvisoryWithin texts policy root

/-- The counts of the named collections of a document. -/
def collectionCounts (value : JsonValue) : OsvAdvisoryParserAccountingCounts :=
  (value.record?.map advisoryCounts).getD .empty

/-- The properties that a value has itself. -/
def ownProperties : JsonValue → Nat
  | .object entries => entries.length
  | _ => 0

/-- The elements that a value has itself. -/
def ownElements : JsonValue → Nat
  | .array items => items.length
  | _ => 0

/-- The string or the keys that a value has itself are within the limit. -/
def OwnTextsWithin : JsonValue → Prop
  | .string text => utf8ByteLength text ≤ policy.maxUtf8BytesPerString
  | .object entries =>
      ∀ key ∈ entries.map Prod.fst, utf8ByteLength key ≤ policy.maxUtf8BytesPerString
  | _ => True

/-- All of a document within the limits. -/
structure StructureWithin (value : JsonValue) : Prop where
  depth : value.depth ≤ policy.maxStructuralDepth
  properties : value.total ownProperties ≤ policy.maxTotalObjectProperties
  elements : value.total ownElements ≤ policy.maxTotalArrayElements
  texts : value.Everywhere (OwnTextsWithin policy)

end

/-! ## The named collections are let through -/

@[simp] theorem failWhen_eq_ok {c : Prop} [Decidable c]
    {kind : OsvAdvisoryParserAccountingFailureKind} {u : Unit} :
    failWhen c kind = .ok u ↔ ¬ c := by
  rw [failWhen, guard_eq_ok]
  exact and_iff_left rfl

/-- A step that gives nothing. -/
theorem bind_unit_eq_ok {α : Type} {x : Accounting Unit} {y : Unit → Accounting α} {a : α} :
    x >>= y = .ok a ↔ x = .ok () ∧ y () = .ok a :=
  bind_eq_ok.trans ⟨fun ⟨_, h⟩ => h, fun h => ⟨(), h⟩⟩

theorem isLongText_iff {value : Option JsonValue} {limit : Nat} :
    ¬ isLongText value limit = true ↔ TextWithin value limit := by
  rw [isLongText.eq_def]
  split
  · next text =>
      rw [decide_eq_true_iff, Nat.not_lt]
      exact ⟨fun h _ heq => (JsonValue.string.inj (Option.some.inj heq)) ▸ h, fun h => h text rfl⟩
  · next hother => exact iff_of_true Bool.false_ne_true fun text h => (hother text h).elim

theorem foldlM_onRecords {σ : Type} (account : σ → JsonRecord → Accounting σ)
    (items : List JsonValue) (state : σ) :
    items.foldlM (onRecords account) state =
      (items.filterMap JsonValue.record?).foldlM account state := by
  rw [List.foldlM_filterMap]
  refine congrArg (fun step => items.foldlM step state) (funext fun _ => funext fun item => ?_)
  rw [onRecords]
  cases item.record? with
  | none => rfl
  | some record => rfl

section

variable (texts : JsonTexts) (policy : OsvAdvisoryParserResourcePolicy)

theorem accountExtensionObject_eq_ok {value : Option JsonValue} {limit : Nat}
    {kind : OsvAdvisoryParserAccountingFailureKind} :
    failWith (accountExtensionObject texts value limit kind) = .ok () ↔
      ExtensionWithin texts value limit := by
  match value with
  | none => exact iff_of_true rfl nofun
  | some .null => exact iff_of_true rfl fun _ h => .inl (Option.some.inj h).symm
  | some (.object entries) =>
      rw [accountExtensionObject]
      constructor
      · rintro h _ ⟨⟩
        refine .inr ⟨⟨entries, rfl⟩, Nat.not_lt.mp fun hlong => ?_⟩
        rw [if_pos hlong] at h
        cases h
      · intro h
        rcases h _ rfl with hnull | ⟨-, hwithin⟩
        · cases hnull
        · rw [if_neg (Nat.not_lt.mpr hwithin)]
          rfl
  | some (.boolean _) | some (.number _) | some (.string _) | some (.array _) =>
      refine iff_of_false nofun fun h => ?_
      rcases h _ rfl with hnull | ⟨⟨_, hobject⟩, -⟩
      · cases hnull
      · cases hobject

/-- The number of events after a range. -/
def addEvents (eventCount : Nat) (range : JsonRecord) : Nat :=
  eventCount + (itemsOf (range.get (js "events"))).length

theorem accountRange_eq_ok (eventCount eventCount' : Nat) (range : JsonRecord) :
    accountRange texts policy eventCount range = .ok eventCount' ↔
      RangeWithin texts policy range ∧ eventCount' = addEvents eventCount range := by
  rw [accountRange, bind_unit_eq_ok, bind_unit_eq_ok, bind_unit_eq_ok, failWhen_eq_ok,
    failWhen_eq_ok, accountExtensionObject_eq_ok, isLongText_iff, Nat.not_lt]
  constructor
  · rintro ⟨hevents, hrepo, hdatabase, ⟨⟩⟩
    exact ⟨⟨hevents, hrepo, hdatabase⟩, rfl⟩
  · rintro ⟨h, rfl⟩
    exact ⟨h.events, h.repo, h.databaseSpecific, rfl⟩

/-- The loop over the ranges. -/
theorem accountRanges_eq_ok (value : Option JsonValue) (eventCount eventCount' : Nat) :
    (itemsOf value).foldlM (onRecords (accountRange texts policy)) eventCount = .ok eventCount' ↔
      (∀ range ∈ recordsOf value, RangeWithin texts policy range) ∧
        eventCount' = eventCount +
          ((recordsOf value).map fun range => (itemsOf (range.get (js "events"))).length).sum := by
  have hloop := foldlM_eq_ok_iff _ addEvents (fun _ => True) (fun _ _ => True)
    (fun _ _ _ _ => trivial)
    (fun count range _ count' _ _ => (accountRange_eq_ok texts policy count count' range).trans
      (and_congr_right fun _ => (and_iff_right trivial).symm)) (fun _ _ _ => trivial)
    (recordsOf value) eventCount eventCount' trivial trivial
  have hsum := foldl_sum addEvents id _ (fun _ _ => rfl) (recordsOf value) eventCount
  rw [foldlM_onRecords]
  refine hloop.trans (and_congr_right fun _ => (and_iff_right trivial).trans ?_)
  exact ⟨fun h => h.trans hsum, fun h => h.trans hsum.symm⟩

theorem accountPackage_eq_ok (value : Option JsonValue) :
    accountPackage policy value = .ok () ↔
      ∀ pkg, value.bind JsonValue.record? = some pkg → PackageWithin policy pkg := by
  rw [accountPackage]
  cases value.bind JsonValue.record? with
  | none => exact iff_of_true rfl nofun
  | some pkg =>
      dsimp only
      rw [bind_unit_eq_ok, bind_unit_eq_ok, failWhen_eq_ok, failWhen_eq_ok, failWhen_eq_ok,
        isLongText_iff, isLongText_iff, isLongText_iff]
      constructor
      · rintro ⟨hname, hecosystem, hpurl⟩ _ ⟨⟩
        exact ⟨hname, hecosystem, hpurl⟩
      · intro h
        exact ⟨(h pkg rfl).name, (h pkg rfl).ecosystem, (h pkg rfl).purl⟩

/-- The counts after an affected entry. -/
def addAffected (counts : OsvAdvisoryParserAccountingCounts) (entry : JsonRecord) :
    OsvAdvisoryParserAccountingCounts :=
  { counts with
    rangeCount := counts.rangeCount + (itemsOf (entry.get (js "ranges"))).length
    eventCount := counts.eventCount + ((recordsOf (entry.get (js "ranges"))).map fun range =>
      (itemsOf (range.get (js "events"))).length).sum
    explicitVersionCount :=
      counts.explicitVersionCount + (itemsOf (entry.get (js "versions"))).length
    severityCount := counts.severityCount + (itemsOf (entry.get (js "severity"))).length }

theorem accountAffectedEntry_eq_ok (counts counts' : OsvAdvisoryParserAccountingCounts)
    (entry : JsonRecord) :
    accountAffectedEntry texts policy counts entry = .ok counts' ↔
      AffectedWithin texts policy entry ∧
        (addAffected counts entry).severityCount ≤ policy.maxSeverityEntries ∧
        counts' = addAffected counts entry := by
  rw [accountAffectedEntry, bind_unit_eq_ok, bind_eq_ok, failWhen_eq_ok, Nat.not_lt]
  constructor
  · rintro ⟨hranges, eventCount, hevents, h⟩
    obtain ⟨heach, rfl⟩ := (accountRanges_eq_ok texts policy _ _ _).mp hevents
    rw [bind_unit_eq_ok, bind_unit_eq_ok, bind_unit_eq_ok, bind_unit_eq_ok, bind_unit_eq_ok,
      failWhen_eq_ok, failWhen_eq_ok, accountPackage_eq_ok, accountExtensionObject_eq_ok,
      accountExtensionObject_eq_ok, Nat.not_lt, Nat.not_lt] at h
    obtain ⟨hversions, hseverity, hpackage, hecosystem, hdatabase, ⟨⟩⟩ := h
    exact ⟨⟨hranges, heach, hversions, hpackage, hecosystem, hdatabase⟩, hseverity, rfl⟩
  · rintro ⟨h, hseverity, rfl⟩
    refine ⟨h.ranges, _, (accountRanges_eq_ok texts policy _ _ _).mpr ⟨h.eachRange, rfl⟩, ?_⟩
    rw [bind_unit_eq_ok, bind_unit_eq_ok, bind_unit_eq_ok, bind_unit_eq_ok, bind_unit_eq_ok,
      failWhen_eq_ok, failWhen_eq_ok, accountPackage_eq_ok, accountExtensionObject_eq_ok,
      accountExtensionObject_eq_ok, Nat.not_lt, Nat.not_lt]
    exact ⟨h.versions, hseverity, h.package, h.ecosystemSpecific, h.databaseSpecific, rfl⟩

/-- The loop over the affected entries. -/
theorem accountAffected_eq_ok (value : Option JsonValue)
    (counts counts' : OsvAdvisoryParserAccountingCounts)
    (hcounts : counts.severityCount ≤ policy.maxSeverityEntries) :
    (itemsOf value).foldlM (onRecords (accountAffectedEntry texts policy)) counts = .ok counts' ↔
      (∀ entry ∈ recordsOf value, AffectedWithin texts policy entry) ∧
        ((recordsOf value).foldl addAffected counts).severityCount ≤ policy.maxSeverityEntries ∧
        counts' = (recordsOf value).foldl addAffected counts := by
  rw [foldlM_onRecords]
  exact foldlM_eq_ok_iff _ addAffected
    (fun counts => counts.severityCount ≤ policy.maxSeverityEntries) (fun _ _ => True)
    (fun _ _ _ _ => trivial)
    (fun counts entry _ counts' _ _ => accountAffectedEntry_eq_ok texts policy counts counts' entry)
    (fun _ _ h => Nat.le_trans (Nat.le_add_right _ _) h) (recordsOf value) counts counts' trivial
    hcounts

/-- The loop over the references. -/
theorem accountReferences_eq_ok (value : Option JsonValue) :
    (itemsOf value).foldlM (onRecords (accountReference policy)) () = .ok () ↔
      ∀ reference ∈ recordsOf value,
        TextWithin (reference.get (js "url")) policy.maxUrlBytes := by
  rw [foldlM_onRecords]
  have hloop := foldlM_eq_ok_iff (accountReference policy) (fun _ _ => ()) (fun _ => True)
    (fun _ _ => True) (fun _ _ _ _ => trivial)
    (fun _ reference _ _ _ _ => (failWhen_eq_ok.trans isLongText_iff).trans
      (and_iff_left ⟨trivial, rfl⟩).symm) (fun _ _ _ => trivial) (recordsOf value) () () trivial
    trivial
  exact hloop.trans (and_iff_left ⟨trivial, rfl⟩)

/-- What the affected entries add. -/
theorem foldl_addAffected (entries : List JsonRecord)
    (counts : OsvAdvisoryParserAccountingCounts) :
    entries.foldl addAffected counts =
      { counts with
        rangeCount := counts.rangeCount +
          (entries.map fun entry => (itemsOf (entry.get (js "ranges"))).length).sum
        eventCount := counts.eventCount + (entries.map fun entry =>
          ((recordsOf (entry.get (js "ranges"))).map fun range =>
            (itemsOf (range.get (js "events"))).length).sum).sum
        explicitVersionCount := counts.explicitVersionCount +
          (entries.map fun entry => (itemsOf (entry.get (js "versions"))).length).sum
        severityCount := counts.severityCount +
          (entries.map fun entry => (itemsOf (entry.get (js "severity"))).length).sum } := by
  induction entries generalizing counts with
  | nil => rfl
  | cons entry entries ih =>
      rw [List.foldl_cons, ih]
      simp only [addAffected, List.map_cons, List.sum_cons, Nat.add_assoc]

/-- The counts before the affected entries. -/
def openingCounts (root : JsonRecord) : OsvAdvisoryParserAccountingCounts :=
  { OsvAdvisoryParserAccountingCounts.empty with
    aliasCount := (itemsOf (root.get (js "aliases"))).length
    relatedCount := (itemsOf (root.get (js "related"))).length
    affectedCount := (itemsOf (root.get (js "affected"))).length
    referenceCount := (itemsOf (root.get (js "references"))).length
    creditCount := (itemsOf (root.get (js "credits"))).length
    severityCount := countSeverityEntries (root.get (js "severity")) }

theorem foldl_openingCounts (root : JsonRecord) :
    (recordsOf (root.get (js "affected"))).foldl addAffected (openingCounts root) =
      advisoryCounts root := by
  rw [foldl_addAffected]
  simp only [openingCounts, advisoryCounts, countSeverityEntries,
    OsvAdvisoryParserAccountingCounts.empty, Nat.zero_add]

theorem accountAdvisory_eq_ok (root : JsonRecord) (counts : OsvAdvisoryParserAccountingCounts) :
    accountAdvisory texts policy root = .ok counts ↔
      AdvisoryWithin texts policy root ∧ counts = advisoryCounts root := by
  have hloop := accountAffected_eq_ok texts policy (root.get (js "affected")) (openingCounts root)
  rw [foldl_openingCounts] at hloop
  have hseverity : countSeverityEntries (root.get (js "severity")) ≤
      (advisoryCounts root).severityCount := Nat.le_add_right _ _
  rw [accountAdvisory]
  simp only [bind_unit_eq_ok, failWhen_eq_ok, isLongText_iff, accountExtensionObject_eq_ok,
    Nat.not_lt]
  constructor
  · rintro ⟨haliases, hrelated, haffected, hreferences, hcredits, hown, hid, hdatabase, h⟩
    obtain ⟨_, hentries, h⟩ := bind_eq_ok.mp h
    obtain ⟨hurls, h⟩ := bind_unit_eq_ok.mp h
    cases h
    obtain ⟨heach, hseverities, rfl⟩ := (hloop _ hown).mp hentries
    exact ⟨⟨haliases, hrelated, haffected, hreferences, hcredits, hseverities, hid, hdatabase,
      heach, (accountReferences_eq_ok policy _).mp hurls⟩, rfl⟩
  · rintro ⟨h, rfl⟩
    have hown := Nat.le_trans hseverity h.severities
    exact ⟨h.aliases, h.related, h.affected, h.references, h.credits, hown, h.id,
      h.databaseSpecific, bind_eq_ok.mpr ⟨_, (hloop _ hown).mpr ⟨h.eachAffected, h.severities, rfl⟩,
        bind_unit_eq_ok.mpr ⟨(accountReferences_eq_ok policy _).mpr h.eachReference, rfl⟩⟩⟩

/-- The named collections are let through when they are within the limits, and counted. -/
theorem accountSpecificCollections_eq_ok (value : JsonValue)
    (counts : OsvAdvisoryParserAccountingCounts) :
    accountSpecificCollections texts policy value = .ok counts ↔
      CollectionsWithin texts policy value ∧ counts = collectionCounts value := by
  rw [accountSpecificCollections, CollectionsWithin, collectionCounts]
  cases value.record? with
  | none =>
      constructor
      · rintro ⟨⟩
        exact ⟨nofun, rfl⟩
      · rintro ⟨-, rfl⟩
        rfl
  | some root =>
      refine (accountAdvisory_eq_ok texts policy root counts).trans (and_congr_left fun _ => ?_)
      exact ⟨fun h _ heq => Option.some.inj heq ▸ h, fun h => h root rfl⟩

/-! ## All that was parsed is let through -/

theorem accountKeys_eq_ok {keys : List JsString} :
    accountKeys policy keys = .ok () ↔
      ∀ key ∈ keys, utf8ByteLength key ≤ policy.maxUtf8BytesPerString := by
  induction keys with
  | nil => exact iff_of_true rfl fun _ h => absurd h List.not_mem_nil
  | cons key rest ih => rw [accountKeys, guard_eq_ok, ih, List.forall_mem_cons, Nat.not_lt]

/-- A value that has an identity. -/
def isObject : JsonValue → Bool
  | .array _ | .object _ => true
  | _ => false

/-- What the walk keeps after a frame. -/
def addFrame (state : WalkState) (frame : StructureFrame) : WalkState where
  maxDepth := max state.maxDepth frame.depth
  totalObjectProperties := state.totalObjectProperties + ownProperties frame.value
  totalArrayElements := state.totalArrayElements + ownElements frame.value
  seen := if isObject frame.value then frame.place :: state.seen else state.seen

/-- The totals are within the limits. -/
def TotalsWithin (state : WalkState) : Prop :=
  state.totalObjectProperties ≤ policy.maxTotalObjectProperties ∧
    state.totalArrayElements ≤ policy.maxTotalArrayElements

/-- The frames that are still to come are not those of objects that were seen. -/
def Unseen (state : WalkState) (frames : List StructureFrame) : Prop :=
  (frames.map StructureFrame.place).Nodup ∧ ∀ frame ∈ frames, frame.place ∉ state.seen

theorem unseen_addFrame {state : WalkState} {frame : StructureFrame}
    {rest : List StructureFrame} (h : Unseen state (frame :: rest)) :
    Unseen (addFrame state frame) rest := by
  obtain ⟨hnodup, hunseen⟩ := h
  rw [List.map_cons, List.nodup_cons] at hnodup
  refine ⟨hnodup.2, fun other hother hseen => ?_⟩
  have hbefore := hunseen other (List.mem_cons_of_mem _ hother)
  rw [addFrame] at hseen
  split at hseen
  · rcases List.mem_cons.mp hseen with heq | hseen
    · exact hnodup.1 (List.mem_map.mpr ⟨other, hother, heq⟩)
    · exact hbefore hseen
  · exact hbefore hseen

/-- A frame is let through when its value is not too deep, its texts are within the limit and
the totals stay within theirs. -/
theorem accountFrame_eq_ok (state state' : WalkState) (frame : StructureFrame)
    (hwithin : TotalsWithin policy state) (hunseen : frame.place ∉ state.seen) :
    accountFrame policy state frame = .ok state' ↔
      (frame.depth ≤ policy.maxStructuralDepth ∧ OwnTextsWithin policy frame.value) ∧
        TotalsWithin policy (addFrame state frame) ∧ state' = addFrame state frame := by
  obtain ⟨value, depth, place⟩ := frame
  rw [accountFrame, guard_eq_ok, Nat.not_lt, and_assoc]
  refine and_congr_right fun _ => ?_
  cases value with
  | string text =>
      dsimp only
      rw [guard_eq_ok, Nat.not_lt]
      refine and_congr_right fun _ => ?_
      exact ⟨fun h => ⟨hwithin, (Except.ok.inj h).symm⟩, fun h => congrArg Except.ok h.2.symm⟩
  | array items =>
      dsimp only
      rw [if_neg hunseen, guard_eq_ok, Nat.not_lt]
      constructor
      · rintro ⟨htotal, ⟨⟩⟩
        exact ⟨trivial, ⟨hwithin.1, htotal⟩, rfl⟩
      · rintro ⟨-, htotals, rfl⟩
        exact ⟨htotals.2, rfl⟩
  | object entries =>
      dsimp only
      rw [if_neg hunseen, guard_eq_ok, map_eq_ok, Nat.not_lt]
      constructor
      · rintro ⟨htotal, ⟨⟩, hkeys, rfl⟩
        exact ⟨(accountKeys_eq_ok policy).mp hkeys, ⟨htotal, hwithin.2⟩, rfl⟩
      · rintro ⟨hkeys, htotals, rfl⟩
        exact ⟨htotals.1, (), (accountKeys_eq_ok policy).mpr hkeys, rfl⟩
  | _ =>
      exact ⟨fun h => ⟨trivial, hwithin, (Except.ok.inj h).symm⟩,
        fun h => congrArg Except.ok h.2.2.symm⟩

/-- What the walk keeps in the end. -/
theorem foldl_addFrame (value : JsonValue) :
    ((framesOf value).foldl addFrame .start).maxDepth = value.depth ∧
      ((framesOf value).foldl addFrame .start).totalObjectProperties =
        value.total ownProperties ∧
      ((framesOf value).foldl addFrame .start).totalArrayElements = value.total ownElements := by
  refine ⟨?_, ?_, ?_⟩
  · have hmax := foldl_max_le_iff addFrame WalkState.maxDepth StructureFrame.depth
      (fun _ _ => rfl)
    refine eq_of_forall_ge_iff fun bound => (hmax bound (framesOf value) .start).trans ?_
    rw [depth_framesOf]
    exact and_iff_right_of_imp fun h => Nat.le_trans value.depth_pos h
  · rw [foldl_sum addFrame WalkState.totalObjectProperties
      (fun frame => ownProperties frame.value) fun _ _ => rfl, sum_framesOf]
    exact Nat.zero_add _
  · rw [foldl_sum addFrame WalkState.totalArrayElements
      (fun frame => ownElements frame.value) fun _ _ => rfl, sum_framesOf]
    exact Nat.zero_add _

/-- The walk ends when all of the document is within the limits. -/
theorem walk_eq_ok (value : JsonValue) (state : WalkState) :
    structureFrames.walk (accountFrame policy) [rootFrame value] .start = .ok state ↔
      StructureWithin policy value ∧ state = (framesOf value).foldl addFrame .start := by
  obtain ⟨-, hproperties, helements⟩ := foldl_addFrame value
  have hunseen : Unseen .start (framesOf value) :=
    ⟨structureFrames_placed.nodup _, fun _ _ => List.not_mem_nil⟩
  have hloop := foldlM_eq_ok_iff _ addFrame (TotalsWithin policy) Unseen
    (fun _ _ _ h => unseen_addFrame h)
    (fun state frame _ state' hwithin h => accountFrame_eq_ok policy state state' frame hwithin
      (h.2 frame List.mem_cons_self))
    (fun state frame h => ⟨Nat.le_trans (Nat.le_add_right _ _) h.1,
      Nat.le_trans (Nat.le_add_right _ _) h.2⟩)
    (framesOf value) .start state hunseen ⟨Nat.zero_le _, Nat.zero_le _⟩
  rw [Branching.walk_eq, List.flatMap_singleton]
  refine hloop.trans ?_
  rw [TotalsWithin, hproperties, helements]
  constructor
  · rintro ⟨hframes, ⟨hproperties, helements⟩, rfl⟩
    refine ⟨⟨?_, hproperties, helements, ?_⟩, rfl⟩
    · exact (depth_framesOf value _).mp fun frame hframe => (hframes frame hframe).1
    · exact (forall_framesOf value).mp fun frame hframe => (hframes frame hframe).2
  · rintro ⟨h, rfl⟩
    exact ⟨fun frame hframe => ⟨(depth_framesOf value _).mpr h.depth frame hframe,
      (forall_framesOf value).mpr h.texts frame hframe⟩, ⟨h.properties, h.elements⟩, rfl⟩

/-- The counts of a document. -/
def structureCounts (value : JsonValue) : OsvAdvisoryParserAccountingCounts :=
  { collectionCounts value with
    structuralDepth := value.depth
    totalObjectProperties := value.total ownProperties
    totalArrayElements := value.total ownElements }

/-- A parsed advisory is let through when its collections, its extensions and all of its
structure are within the limits, and it is counted as the recursion counts it. -/
theorem accountOsvAdvisoryParsedStructure_eq_ok (value : JsonValue)
    (counts : OsvAdvisoryParserAccountingCounts) :
    accountOsvAdvisoryParsedStructure policy texts value = .ok counts ↔
      CollectionsWithin texts policy value ∧ StructureWithin policy value ∧
        counts = structureCounts value := by
  obtain ⟨hdepth, hproperties, helements⟩ := foldl_addFrame value
  rw [accountOsvAdvisoryParsedStructure, bind_eq_ok]
  constructor
  · rintro ⟨specific, hspecific, h⟩
    obtain ⟨state, hstate, h⟩ := bind_eq_ok.mp h
    cases h
    obtain ⟨hcollections, rfl⟩ := (accountSpecificCollections_eq_ok texts policy _ _).mp hspecific
    obtain ⟨hstructure, rfl⟩ := (walk_eq_ok policy _ _).mp hstate
    refine ⟨hcollections, hstructure, ?_⟩
    rw [hdepth, hproperties, helements, structureCounts]
  · rintro ⟨hcollections, hstructure, rfl⟩
    refine ⟨_, (accountSpecificCollections_eq_ok texts policy _ _).mpr ⟨hcollections, rfl⟩,
      bind_eq_ok.mpr ⟨_, (walk_eq_ok policy _ _).mpr ⟨hstructure, rfl⟩, ?_⟩⟩
    rw [hdepth, hproperties, helements, structureCounts]
    rfl

end

/-! ## Both walks -/

/-- Both stack walks are recursions over the document: a document is inspected when its depth,
its number of values and its texts are within the limits and its numbers are finite, and it is
accounted for, with the counts of the recursion, when its collections and its structure are
within the policy. -/
theorem structure_walks (value : JsonValue) :
    (∀ limits : KevParserLimits, inspectJsonStructure limits value = .ok () ↔
      WithinLimits limits value ∧ value.Everywhere FiniteNumber) ∧
    ∀ (texts : JsonTexts) (policy : OsvAdvisoryParserResourcePolicy)
      (counts : OsvAdvisoryParserAccountingCounts),
      accountOsvAdvisoryParsedStructure policy texts value = .ok counts ↔
        CollectionsWithin texts policy value ∧ StructureWithin policy value ∧
          counts = structureCounts value :=
  ⟨fun limits => inspectJsonStructure_eq_ok limits value,
    fun texts policy => accountOsvAdvisoryParsedStructure_eq_ok texts policy value⟩

/-- A number beyond the doubles is read as infinite.  It is a document within the limits that
is not let through. -/
theorem infinite_number_not_inspected :
    parseJson (js "1e400") = some (.number (.infinity false)) ∧
    WithinLimits ⟨8, 100000, 8192⟩ (.number (.infinity false)) ∧
    inspectJsonStructure ⟨8, 100000, 8192⟩ (.number (.infinity false)) =
      .error .jsonSyntax := by
  have hnumber : parseNumber (js "1e400") = some (.infinity false, []) := by decide +kernel
  have hvalue : parseValue 11 (js "1e400") = some (.number (.infinity false), []) :=
    parseValue_number (by decide) hnumber
  refine ⟨?_, ⟨?_, ?_, ?_⟩, ?_⟩
  · rw [parseJson, show 2 * (js "1e400").length + 1 = 11 from rfl, hvalue]
    rfl
  · decide
  · decide
  · exact JsonValue.everywhere_iff.mpr ⟨trivial, fun _ h => absurd h List.not_mem_nil⟩
  · rw [inspectJsonStructure, Branching.walk]
    rfl

end PatchPilot.Osv.Parser
