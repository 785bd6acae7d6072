import PatchPilot.Risk.RemediationRead

set_option autoImplicit false

/-!
# Risk: the order of the ranked section (`remediation-queue-order.ts`, `ordering.ts`)

The order is written three times: by the engine over evaluations, by the domain over
stored rows, and by the statement over projected columns.  The engine stops at its own
keys; the other two go on to the first observation and to the id of the finding.

The stored comparison reads numerals as doubles and the statement reads them exactly.
A numeral that the projection accepts has at most fifteen digits, so the two agree.
-/

namespace PatchPilot.Risk

open PatchPilot.Foundation
open PatchPilot.Policy

/-! ## Comparators -/

/-- `-1 | 0 | 1 | 'incomparable'`. -/
inductive RemediationQueueComparison
  | first | equal | second | incomparable
  deriving DecidableEq

/-- `keys.find((comparison) => comparison !== 0) ?? 0`. -/
def firstDifference (keys : List RemediationQueueComparison) : RemediationQueueComparison :=
  (keys.find? fun comparison => comparison ≠ .equal).getD .equal

/-- `descending`, of numbers. -/
def numberDescending (left right : JsNumber) : RemediationQueueComparison :=
  if left.strictEquals right then .equal
  else if left.greaterThan right then .first
  else .second

/-- `trueFirst`. -/
def trueFirst (left right : Bool) : RemediationQueueComparison :=
  if left = right then .equal else if left then .first else .second

/-- `ascending`, of strings. -/
def textAscending (left right : JsString) : RemediationQueueComparison :=
  if left = right then .equal
  else if compareCodeUnits left right = .lt then .first
  else .second

/-! ## Stored rows -/

/-- `StoredRemediationRankKey`. -/
structure StoredRemediationRankKey where
  policyKey : JsString
  priority : JsNumber
  escalationRecommended : Bool
  kevListed : Bool
  severityPercent : JsNumber
  firstObservedAt : JsString
  findingId : JsString
  deriving DecidableEq

/-- `compareStoredRemediationRank`. -/
def compareStoredRemediationRank (left right : StoredRemediationRankKey) :
    RemediationQueueComparison :=
  if left.policyKey ≠ right.policyKey then .incomparable
  else
    firstDifference [
      numberDescending left.priority right.priority,
      trueFirst left.escalationRecommended right.escalationRecommended,
      trueFirst left.kevListed right.kevListed,
      numberDescending left.severityPercent right.severityPercent,
      textAscending left.firstObservedAt right.firstObservedAt,
      textAscending left.findingId right.findingId]

/-- The key of a row of the port, when it is calculated. -/
def RemediationQueueRawRow.rankKey (row : RemediationQueueRawRow) :
    Option StoredRemediationRankKey :=
  row.calculation.map fun calculation =>
    { policyKey := calculation.policyKey
      priority := calculation.priority
      escalationRecommended := calculation.escalationRecommended
      kevListed := calculation.kevListed
      severityPercent := calculation.severityPercent
      firstObservedAt := row.firstObservedAt
      findingId := row.findingId }

/-- The key of a stored row, when the row is well formed and calculated. -/
def storedRank (scope : QueueClassificationScope) (asOf : JsString) (finding : JoinedFinding) :
    Option StoredRemediationRankKey :=
  let row := classifiedFinding scope finding
  (mapQueueRow row row.section_ asOf).bind RemediationQueueRawRow.rankKey

/-- The comparison of two stored rows. -/
def compareStoredRows (scope : QueueClassificationScope) (asOf : JsString)
    (left right : JoinedFinding) : Option RemediationQueueComparison := do
  let left ← storedRank scope asOf left
  let right ← storedRank scope asOf right
  some (compareStoredRemediationRank left right)

/-! ## Evaluations -/

/-- `factorRow`. -/
def factorRowOf (evaluation : PriorityEvaluation) (factorId : FactorId) :
    Option PriorityFactorRow :=
  evaluation.factors.find? fun row => row.factorId = factorId

/-- `isKevListed`. -/
def isKevListed (evaluation : PriorityEvaluation) : Bool :=
  match factorRowOf evaluation .kevListed with
  | none => false
  | some row =>
      decide (row.inputState = .observed) &&
        match row.observedValue with
        | some (.text value) => decide (value ∈ (tokens.filter isKevListedToken).map text)
        | _ => false

/-- `severityPercent`. -/
def severityPercent (evaluation : PriorityEvaluation) : Nat :=
  ((factorRowOf evaluation .sourceSeverity).map (·.normalizedPercent)).getD 0

/-- A number of an evaluation. -/
def evaluationNumber (n : Nat) : JsNumber := .finite n

/-- `compareForRemediationQueue`. -/
def compareForRemediationQueue (a b : PriorityEvaluation) : RemediationQueueComparison :=
  if a.policyKey ≠ b.policyKey then .incomparable
  else
    firstDifference [
      numberDescending (evaluationNumber a.priority) (evaluationNumber b.priority),
      trueFirst a.escalation.recommended b.escalation.recommended,
      trueFirst (isKevListed a) (isKevListed b),
      numberDescending (evaluationNumber (severityPercent a))
        (evaluationNumber (severityPercent b))]

/-- The comparison of evaluations, with ties broken by the first observation and then by
the id of the finding. -/
def compareRefined (a b : PriorityEvaluation) (left right : JoinedFinding) :
    RemediationQueueComparison :=
  match compareForRemediationQueue a b with
  | .equal =>
      firstDifference [
        textAscending left.firstObservedText right.firstObservedText,
        textAscending left.findingId.text right.findingId.text]
  | comparison => comparison

/-- An observed value in a document. -/
def observedValueJson : Option ObservedValue → Jsonb
  | none => .null
  | some (.text value) => .string value
  | some (.days days) => .number (decimalText days)

/-- A stored element holds a factor row. -/
structure StoresFactor (element : Jsonb) (row : PriorityFactorRow) : Prop where
  factorId : element.field (js "factorId") = some (.string (text row.factorId))
  inputState : element.field (js "inputState") = some (.string (text row.inputState))
  observedValue : element.field (js "observedValue") = some (observedValueJson row.observedValue)
  normalizedPercent :
    element.field (js "normalizedPercent") = some (.number (decimalText row.normalizedPercent))

/-- The documents of a calculation hold an evaluation. -/
structure HoldsEvaluation (calculation : LatestCalculation) (evaluation : PriorityEvaluation) :
    Prop where
  policyKey : calculation.policyKey = evaluation.policyKey
  factors : ∃ elements, calculation.factors.field (js "factors") = some (.array elements) ∧
    List.Forall₂ StoresFactor elements evaluation.factors
  priority :
    calculation.result.field (js "priority") = some (.number (decimalText evaluation.priority))
  escalation : calculation.result.field (js "escalationRecommendation") =
    some (.boolean evaluation.escalation.recommended)

/-- The latest calculation of a finding holds an evaluation. -/
def StoredEvaluation (finding : JoinedFinding) (evaluation : PriorityEvaluation) : Prop :=
  ∃ calculation, finding.calculation = some calculation ∧ HoldsEvaluation calculation evaluation

/-! ## Comparators as orders -/

/-- The comparison that an order is. -/
def comparisonOf : Ordering → RemediationQueueComparison
  | .lt => .first
  | .eq => .equal
  | .gt => .second

theorem comparisonOf_inj {a b : Ordering} (h : comparisonOf a = comparisonOf b) : a = b := by
  cases a <;> cases b <;> first | rfl | cases h

/-- Comparing key by key is the lexicographic order. -/
theorem firstDifference_cons {o rest : Ordering} {keys : List RemediationQueueComparison}
    (h : firstDifference keys = comparisonOf rest) :
    firstDifference (comparisonOf o :: keys) = comparisonOf (o.then rest) := by
  cases o with
  | lt => rfl
  | eq => exact h
  | gt => rfl

theorem firstDifference_nil : firstDifference [] = comparisonOf .eq := rfl

theorem trueFirst_eq (left right : Bool) :
    trueFirst left right = comparisonOf (compare (rankOf left) (rankOf right)) := by
  cases left <;> cases right <;> decide

theorem textAscending_eq (left right : JsString) :
    textAscending left right = comparisonOf (compareCodeUnits left right) := by
  unfold textAscending
  by_cases h : left = right
  · rw [if_pos h, h, @Std.ReflCmp.compare_self JsString compareCodeUnits _ right]
    rfl
  · rw [if_neg h]
    cases hcmp : compareCodeUnits left right with
    | lt => rfl
    | eq => exact absurd (Std.LawfulEqCmp.eq_of_compare hcmp) h
    | gt => rfl

/-- Finite numbers are compared as rationals. -/
theorem numberDescending_finite (a b : Rat) :
    numberDescending (.finite a) (.finite b) = comparisonOf (compare b a) := by
  unfold numberDescending JsNumber.strictEquals JsNumber.greaterThan
  rcases lt_trichotomy b a with h | h | h
  · rw [compare_lt_iff_lt.mpr h, if_neg (by simp [h.ne']), if_pos (by simp [h])]
    rfl
  · rw [compare_eq_iff_eq.mpr h, if_pos (by simp [h])]
    rfl
  · rw [compare_gt_iff_gt.mpr h, if_neg (by simp [h.ne]), if_neg (by simp [h.le])]
    rfl

/-! ## Decimal texts -/

/-- A decimal text is a number of millionths with at most fifteen digits. -/
theorem decimalValue_eq {s : JsString} (h : isDecimalText s = true) :
    ∃ n : Nat, n < 10 ^ 15 ∧ decimalValue s = n / 10 ^ 6 := by
  have hwhole : (s.takeWhile isDigit).length ≤ 9 := by
    unfold isDecimalText at h
    rw [Bool.and_eq_true, Bool.or_eq_true] at h
    rcases h.1 with hzero | hlong
    · rw [of_decide_eq_true hzero]
      decide
    · simp only [Bool.and_eq_true, decide_eq_true_eq] at hlong
      exact hlong.1.2
  have hfraction : ((s.dropWhile isDigit).drop 1).length ≤ 6 ∧
      ((s.dropWhile isDigit).drop 1).all isDigit = true := by
    unfold isDecimalText at h
    rw [Bool.and_eq_true] at h
    have htail := h.2
    split at htail
    · rename_i hnil
      rw [hnil]
      exact ⟨Nat.zero_le 6, rfl⟩
    · rename_i point fraction hcons
      rw [hcons]
      simp only [Bool.and_eq_true, decide_eq_true_eq] at htail
      exact ⟨htail.1.2, htail.2⟩
  have hdigits : ((s.takeWhile isDigit) ++ (s.dropWhile isDigit).drop 1).all isDigit = true := by
    rw [List.all_append, hfraction.2, Bool.and_true]
    exact List.all_takeWhile
  have hlt := digitsValue_lt hdigits
  rw [List.length_append] at hlt
  obtain ⟨hk, -⟩ := hfraction
  unfold decimalValue
  simp only
  generalize (s.dropWhile isDigit).drop 1 = fraction at hk hlt ⊢
  generalize digitsValue (s.takeWhile isDigit ++ fraction) = value at hlt ⊢
  refine ⟨value * 10 ^ (6 - fraction.length), ?_, ?_⟩
  · have hscale : (10 : Nat) ^ (9 + fraction.length) * 10 ^ (6 - fraction.length) = 10 ^ 15 := by
      rw [← pow_add]
      congr 1
      omega
    rw [← hscale]
    refine Nat.mul_lt_mul_of_pos_right (hlt.trans_le ?_) (by positivity)
    exact Nat.pow_le_pow_right (by norm_num) (by omega)
  · have hscale : (10 : Rat) ^ 6 = 10 ^ fraction.length * 10 ^ (6 - fraction.length) := by
      rw [← pow_add]
      congr 1
      omega
    rw [hscale]
    push_cast
    rw [mul_div_mul_right _ _ (by positivity)]

/-- Decimal texts are compared as doubles in the order of their exact values. -/
theorem numberDescending_numberOfText {s t : JsString} (hs : isDecimalText s = true)
    (ht : isDecimalText t = true) :
    numberDescending (numberOfText s) (numberOfText t) =
      comparisonOf (descending compare (decimalValue s) (decimalValue t)) := by
  obtain ⟨a, ha, hs⟩ := decimalValue_eq hs
  obtain ⟨b, hb, ht⟩ := decimalValue_eq ht
  have hfinite : ∀ n : Nat, n < 10 ^ 15 →
      binary64 (n / 10 ^ 6) = .finite (nearestDouble (n / 10 ^ 6)) := by
    intro n hn
    have hcast : (n : Rat) < 10 ^ 15 := by exact_mod_cast hn
    refine binary64_eq_finite (k := 30) (by norm_num) ?_ (by norm_num)
    rw [abs_of_nonneg (by positivity), div_lt_iff₀ (by norm_num)]
    exact hcast.trans (by norm_num)
  have hmono : ∀ {m n : Nat}, n < 10 ^ 15 → m < n →
      ((m : Rat) / 10 ^ 6 < n / 10 ^ 6 ∧
        nearestDouble (m / 10 ^ 6) < nearestDouble (n / 10 ^ 6)) := by
    intro m n hn hmn
    refine ⟨?_, nearestDouble_millionths_lt hmn hn⟩
    exact div_lt_div_of_pos_right (by exact_mod_cast hmn) (by norm_num)
  rw [numberOfText, numberOfText, hs, ht, hfinite a ha, hfinite b hb, numberDescending_finite,
    descending]
  congr 1
  rcases lt_trichotomy a b with h | h | h
  · obtain ⟨hexact, hdouble⟩ := hmono hb h
    rw [compare_gt_iff_gt.mpr hexact, compare_gt_iff_gt.mpr hdouble]
  · rw [h, compare_eq_iff_eq.mpr rfl, compare_eq_iff_eq.mpr rfl]
  · obtain ⟨hexact, hdouble⟩ := hmono ha h
    rw [compare_lt_iff_lt.mpr hexact, compare_lt_iff_lt.mpr hdouble]

/-- The numeral of a number is its value. -/
theorem decimalValue_decimalText (n : Nat) : decimalValue (decimalText n) = n := by
  have hall : ∀ u ∈ decimalText n, isDigit u = true := fun u => isDigit_of_mem_decimalText
  have htake : (decimalText n).takeWhile isDigit = decimalText n :=
    List.takeWhile_eq_self_iff.mpr hall
  have hdrop : (decimalText n).dropWhile isDigit = [] := List.dropWhile_eq_nil_iff.mpr hall
  unfold decimalValue
  simp only [htake, hdrop, List.drop_nil, List.append_nil, digitsValue_decimalText,
    List.length_nil, pow_zero, div_one]

/-! ## The columns of a key -/

/-- The key of a row is in its columns. -/
structure RankColumns (row : QueueSqlRow) (key : StoredRemediationRankKey) : Prop where
  policyKey : row.policyKey = some key.policyKey
  priority : ∃ text, row.priorityText = some text ∧ key.priority = numberOfText text
  escalation : row.escalationRecommended = some key.escalationRecommended
  kev : row.kevListed = some key.kevListed
  severity : ∃ text, row.severityText = some text ∧ key.severityPercent = numberOfText text
  firstObserved : row.firstObservedText = key.firstObservedAt
  observedShape : isIsoText key.firstObservedAt = true
  findingId : row.findingId = key.findingId

theorem mapIdentity_eq_some {row : QueueSqlRow} {identity : RemediationQueueIdentity}
    (h : mapIdentity row = some identity) :
    identity.findingId = row.findingId ∧ identity.firstObservedAt = row.firstObservedText ∧
      isIsoText row.firstObservedText = true := by
  unfold mapIdentity at h
  obtain ⟨assetName, -, h⟩ := Option.bind_eq_some_iff.mp h
  obtain ⟨componentName, -, h⟩ := Option.bind_eq_some_iff.mp h
  obtain ⟨componentVersion, -, h⟩ := Option.bind_eq_some_iff.mp h
  obtain ⟨vulnerabilityPublicId, -, h⟩ := Option.bind_eq_some_iff.mp h
  split at h
  · cases h
  · rename_i hiso
    cases h
    exact ⟨rfl, rfl, by simpa using hiso⟩

/-- The text of a column that `isText` accepts is the column's. -/
theorem nonEmptyText_eq_some {value : Option JsString} {text : JsString}
    (h : nonEmptyText value = some text) : value = some text :=
  (Option.filter_eq_some_iff.mp h).1

theorem observedAtText_eq_some {value : Option JsString} {text : JsString}
    (h : observedAtText value = some text) : value = some text ∧ isIsoText text = true :=
  Option.filter_eq_some_iff.mp h

/-- What `mapCalculation` accepts is read from the columns. -/
structure CalculationColumns (row : QueueSqlRow) (fields : RemediationQueueCalculationFields) :
    Prop where
  policyKey : row.policyKey = some fields.policyKey
  priorityText : row.priorityText = some fields.priorityText
  priority : fields.priority = numberOfText fields.priorityText
  escalation : row.escalationRecommended = some fields.escalationRecommended
  kev : row.kevListed = some fields.kevListed
  severityText : row.severityText = some fields.severityText
  severity : fields.severityPercent = numberOfText fields.severityText
  calculatedAt : row.calculatedAtText = some fields.calculatedAt
  calculatedShape : isIsoText fields.calculatedAt = true

theorem mapCalculation_eq_some {row : QueueSqlRow} {fields : RemediationQueueCalculationFields}
    (h : mapCalculation row = some fields) : CalculationColumns row fields := by
  unfold mapCalculation at h
  obtain ⟨riskPolicyId, -, h⟩ := Option.bind_eq_some_iff.mp h
  obtain ⟨policyKey, hpolicyKey, h⟩ := Option.bind_eq_some_iff.mp h
  obtain ⟨sha256, -, h⟩ := Option.bind_eq_some_iff.mp h
  obtain ⟨engineVersion, -, h⟩ := Option.bind_eq_some_iff.mp h
  obtain ⟨calculatedAt, hcalculatedAt, h⟩ := Option.bind_eq_some_iff.mp h
  obtain ⟨priorityText, hpriorityText, h⟩ := Option.bind_eq_some_iff.mp h
  obtain ⟨severityText, hseverityText, h⟩ := Option.bind_eq_some_iff.mp h
  obtain ⟨lastObservedAt, -, h⟩ := Option.bind_eq_some_iff.mp h
  obtain ⟨assetUpdatedAt, -, h⟩ := Option.bind_eq_some_iff.mp h
  obtain ⟨priorityBand, -, h⟩ := Option.bind_eq_some_iff.mp h
  obtain ⟨escalation, hescalation, h⟩ := Option.bind_eq_some_iff.mp h
  obtain ⟨kev, hkev, h⟩ := Option.bind_eq_some_iff.mp h
  obtain ⟨policyVersion, -, h⟩ := Option.bind_eq_some_iff.mp h
  simp only at h
  split at h
  · cases h
  · cases h
    exact {
      policyKey := nonEmptyText_eq_some hpolicyKey
      priorityText := nonEmptyText_eq_some hpriorityText
      priority := rfl
      escalation := hescalation
      kev := hkev
      severityText := nonEmptyText_eq_some hseverityText
      severity := rfl
      calculatedAt := (observedAtText_eq_some hcalculatedAt).1
      calculatedShape := (observedAtText_eq_some hcalculatedAt).2 }

/-- What `mapQueueRow` accepts is read from the columns, and is calculated except in the
last section. -/
structure MappedColumns (row : QueueSqlRow) (queueSection : RemediationQueueSection)
    (raw : RemediationQueueRawRow) : Prop where
  rowSection : row.section_ = queueSection
  findingId : raw.findingId = row.findingId
  firstObserved : raw.firstObservedAt = row.firstObservedText
  observedShape : isIsoText row.firstObservedText = true
  rawSection : raw.section_ = queueSection
  calculation : ∀ fields, raw.calculation = some fields → CalculationColumns row fields
  calculated : queueSection ≠ .notCalculated → raw.calculation.isSome = true

theorem mapQueueRow_eq_some {row : QueueSqlRow} {queueSection : RemediationQueueSection}
    {asOf : JsString} {raw : RemediationQueueRawRow}
    (h : mapQueueRow row queueSection asOf = some raw) : MappedColumns row queueSection raw := by
  unfold mapQueueRow at h
  split at h
  · cases h
  · rename_i hsection
    obtain ⟨identity, hidentity, h⟩ := Option.bind_eq_some_iff.mp h
    obtain ⟨humanReview, -, h⟩ := Option.bind_eq_some_iff.mp h
    obtain ⟨hfindingId, hobserved, hshape⟩ := mapIdentity_eq_some hidentity
    split at h
    · rename_i hlast
      split at h
      · cases h
      · cases h
        exact {
          rowSection := not_not.mp hsection
          findingId := hfindingId
          firstObserved := hobserved
          observedShape := hshape
          rawSection := rfl
          calculation := fun _ h => absurd h (Option.some_ne_none _).symm
          calculated := fun hne => absurd hlast hne }
    · obtain ⟨fields, hfields, h⟩ := Option.bind_eq_some_iff.mp h
      cases h
      refine {
        rowSection := not_not.mp hsection
        findingId := hfindingId
        firstObserved := hobserved
        observedShape := hshape
        rawSection := rfl
        calculation := ?_
        calculated := fun _ => rfl }
      intro fields' hfields'
      cases hfields'
      exact mapCalculation_eq_some hfields

theorem rankColumns_of_storedRank {scope : QueueClassificationScope} {asOf : JsString}
    {finding : JoinedFinding} {key : StoredRemediationRankKey}
    (h : storedRank scope asOf finding = some key) :
    RankColumns (classifiedFinding scope finding) key := by
  obtain ⟨raw, hraw, hkey⟩ := Option.bind_eq_some_iff.mp h
  obtain ⟨fields, hfields, hkey⟩ := Option.map_eq_some_iff.mp hkey
  have hmapped := mapQueueRow_eq_some hraw
  have hcolumns := hmapped.calculation fields hfields
  subst hkey
  exact {
    policyKey := hcolumns.policyKey
    priority := ⟨_, hcolumns.priorityText, hcolumns.priority⟩
    escalation := hcolumns.escalation
    kev := hcolumns.kev
    severity := ⟨_, hcolumns.severityText, hcolumns.severity⟩
    firstObserved := hmapped.firstObserved.symm
    observedShape := by
      change isIsoText raw.firstObservedAt = true
      rw [hmapped.firstObserved]
      exact hmapped.observedShape
    findingId := hmapped.findingId.symm }

/-! ## The stored order is the order of the statement -/

theorem isDecimalText_of_priorityText {result : Jsonb} {text : JsString}
    (h : priorityText result = some text) : isDecimalText text = true := by
  unfold priorityText at h
  split at h
  · exact (Option.filter_eq_some_iff.mp h).2
  · cases h

theorem isDecimalText_of_severityText {factors : Jsonb} {text : JsString}
    (h : severityText factors = some text) : isDecimalText text = true := by
  unfold severityText at h
  split at h
  · cases h
    decide
  · exact (Option.filter_eq_some_iff.mp h).2

theorem uuidColumnShape_printable :
    ∀ place ∈ uuidColumnShape, ∀ u, place u = true → isPrintable u = true := by
  intro place hplace u hu
  simp only [uuidColumnShape, List.replicate, List.cons_append, List.nil_append, List.mem_cons,
    List.not_mem_nil, or_false] at hplace
  have hcases : place = isLowerHex ∨ place = exactly '-' := by tauto
  rcases hcases with rfl | rfl
  · exact isPrintable_of_isLowerHex hu
  · exact isPrintable_of_exactly (by decide) hu

/-- The text of a `uuid` column is ASCII. -/
theorem isAscii_uuidColumn (column : UuidColumn) : isAscii column.text = true :=
  isAscii_of_isPrintable (all_of_hasShape uuidColumnShape_printable column.shape)

theorem isAscii_of_isIsoText {s : JsString} (h : isIsoText s = true) : isAscii s = true :=
  isAscii_of_isPrintable (isPrintable_of_isIsoText h)

section

variable {scope : QueueClassificationScope} {asOf : JsString} {f g : JoinedFinding}
  {left right : StoredRemediationRankKey}

/-- A projected priority is a decimal text. -/
theorem priorityText_isDecimal {text : JsString}
    (h : (classifiedFinding scope f).priorityText = some text) : isDecimalText text = true := by
  obtain ⟨calculation, -, htext⟩ := Option.bind_eq_some_iff.mp h
  exact isDecimalText_of_priorityText htext

/-- A projected severity is a decimal text. -/
theorem severityText_isDecimal {text : JsString}
    (h : (classifiedFinding scope f).severityText = some text) : isDecimalText text = true := by
  obtain ⟨calculation, -, htext⟩ := Option.bind_eq_some_iff.mp h
  exact isDecimalText_of_severityText htext

/-- Decimal columns are compared as the numbers they denote. -/
theorem numberDescending_columns {c d : Option JsString} {s t : JsString} (hc : c = some s)
    (hd : d = some t) (hs : isDecimalText s = true) (ht : isDecimalText t = true) :
    numberDescending (numberOfText s) (numberOfText t) =
      comparisonOf (nullsLast (descending compare) (c.map decimalValue) (d.map decimalValue)) := by
  rw [hc, hd, numberDescending_numberOfText hs ht]
  rfl

/-- The stored comparison is the order of the statement. -/
theorem compareStored_eq_rankedOrder (hf : storedRank scope asOf f = some left)
    (hg : storedRank scope asOf g = some right) (hpolicy : left.policyKey = right.policyKey) :
    compareStoredRemediationRank left right =
      comparisonOf (rankedOrder (classifiedFinding scope f) (classifiedFinding scope g)) := by
  have hl := rankColumns_of_storedRank hf
  have hr := rankColumns_of_storedRank hg
  obtain ⟨p, hp, hpkey⟩ := hl.priority
  obtain ⟨q, hq, hqkey⟩ := hr.priority
  obtain ⟨s, hs, hskey⟩ := hl.severity
  obtain ⟨t, ht, htkey⟩ := hr.severity
  have hpriority : numberDescending left.priority right.priority =
      comparisonOf (nullsLast (descending compare) (classifiedFinding scope f).priorityNumeric
        (classifiedFinding scope g).priorityNumeric) := by
    rw [hpkey, hqkey]
    exact numberDescending_columns hp hq (priorityText_isDecimal hp) (priorityText_isDecimal hq)
  have hseverity : numberDescending left.severityPercent right.severityPercent =
      comparisonOf (nullsLast (descending compare) (classifiedFinding scope f).severityNumeric
        (classifiedFinding scope g).severityNumeric) := by
    rw [hskey, htkey]
    exact numberDescending_columns hs ht (severityText_isDecimal hs) (severityText_isDecimal ht)
  have hescalation : trueFirst left.escalationRecommended right.escalationRecommended =
      comparisonOf (nullsLast compare (classifiedFinding scope f).escalationRank
        (classifiedFinding scope g).escalationRank) := by
    unfold QueueSqlRow.escalationRank
    rw [hl.escalation, hr.escalation, trueFirst_eq]
    rfl
  have hkev : trueFirst left.kevListed right.kevListed =
      comparisonOf (nullsLast compare (classifiedFinding scope f).kevRank
        (classifiedFinding scope g).kevRank) := by
    unfold QueueSqlRow.kevRank
    rw [hl.kev, hr.kev, trueFirst_eq]
    rfl
  have hobserved : textAscending left.firstObservedAt right.firstObservedAt =
      comparisonOf (firstObservedOrder (classifiedFinding scope f)
        (classifiedFinding scope g)) := by
    rw [textAscending_eq, firstObservedOrder, comapCmp, hl.firstObserved, hr.firstObserved,
      compareBytes_ascii (isAscii_of_isIsoText hl.observedShape)
        (isAscii_of_isIsoText hr.observedShape)]
  have hid : textAscending left.findingId right.findingId =
      comparisonOf (findingIdOrder (classifiedFinding scope f)
        (classifiedFinding scope g)) := by
    rw [textAscending_eq, findingIdOrder, comapCmp, ← hl.findingId, ← hr.findingId]
    exact congrArg comparisonOf
      (compareBytes_ascii (isAscii_uuidColumn f.findingId) (isAscii_uuidColumn g.findingId)).symm
  rw [compareStoredRemediationRank, if_neg (not_not.mpr hpolicy), hpriority, hescalation, hkev,
    hseverity, hobserved, hid]
  refine firstDifference_cons (firstDifference_cons (firstDifference_cons
    (firstDifference_cons (firstDifference_cons ?_))))
  rw [firstDifference_cons firstDifference_nil, Ordering.then_eq]

end

/-! ## The stored order refines the order of the engine -/

theorem find?_of_forall₂ {α β : Type} {R : α → β → Prop} {p : α → Bool} {q : β → Bool}
    {l : List α} {l' : List β} (h : List.Forall₂ R l l') (hpq : ∀ a b, R a b → p a = q b) :
    (l.find? p = none ∧ l'.find? q = none) ∨
      ∃ a b, l.find? p = some a ∧ l'.find? q = some b ∧ R a b := by
  induction h with
  | nil => exact .inl ⟨rfl, rfl⟩
  | @cons a b l l' hab _ ih =>
      rw [List.find?_cons, List.find?_cons, ← hpq a b hab]
      cases hp : p a with
      | false => exact ih
      | true => exact .inr ⟨a, b, rfl, rfl, hab⟩

/-- The stored element of a factor is found where the evaluation has its row. -/
theorem factorElement_stored {calculation : LatestCalculation} {evaluation : PriorityEvaluation}
    (h : HoldsEvaluation calculation evaluation) (factorId : FactorId) :
    (factorElement calculation.factors (text factorId) = none ∧
        factorRowOf evaluation factorId = none) ∨
      ∃ element row, factorElement calculation.factors (text factorId) = some element ∧
        factorRowOf evaluation factorId = some row ∧ StoresFactor element row := by
  obtain ⟨elements, hfield, hrows⟩ := h.factors
  have helements : calculation.factors.elements (js "factors") = elements := by
    rw [Jsonb.elements, hfield]
  unfold factorElement factorRowOf
  rw [helements]
  refine find?_of_forall₂ hrows fun element row hstored => ?_
  rw [Jsonb.fieldText, hstored.factorId]
  change decide (some (text row.factorId) = some (text factorId)) = decide (row.factorId = factorId)
  rw [decide_eq_decide, Option.some_inj]
  exact text_injective.eq_iff

theorem priorityText_stored {calculation : LatestCalculation} {evaluation : PriorityEvaluation}
    (h : HoldsEvaluation calculation evaluation) :
    priorityText calculation.result =
      (some (decimalText evaluation.priority)).filter isDecimalText := by
  unfold priorityText Jsonb.fieldText
  rw [h.priority]
  rfl

theorem escalationRecommended_stored {calculation : LatestCalculation}
    {evaluation : PriorityEvaluation} (h : HoldsEvaluation calculation evaluation) :
    escalationRecommended calculation.result = some evaluation.escalation.recommended := by
  unfold escalationRecommended Jsonb.fieldText
  rw [h.escalation]
  cases evaluation.escalation.recommended <;> rfl

theorem severityText_stored {calculation : LatestCalculation} {evaluation : PriorityEvaluation}
    (h : HoldsEvaluation calculation evaluation) :
    severityText calculation.factors =
      (some (decimalText (severityPercent evaluation))).filter isDecimalText := by
  have hname : js "source_severity" = text FactorId.sourceSeverity := rfl
  unfold severityText severityPercent
  rw [hname]
  rcases factorElement_stored h .sourceSeverity with
    ⟨hnone, hrow⟩ | ⟨element, row, hsome, hrow, hstored⟩
  · rw [hnone, hrow]
    decide
  · rw [hsome, hrow]
    simp only [Jsonb.fieldText, hstored.normalizedPercent, Option.bind_some, Option.map_some,
      Option.getD_some]
    rfl

theorem kevListed_stored {calculation : LatestCalculation} {evaluation : PriorityEvaluation}
    (h : HoldsEvaluation calculation evaluation) :
    kevListed calculation.factors = isKevListed evaluation := by
  have hname : js "kev_listed" = text FactorId.kevListed := rfl
  have htokens : (tokens.filter isKevListedToken).map text = listedTokens := by decide
  unfold kevListed isKevListed
  rw [hname]
  rcases factorElement_stored h .kevListed with ⟨hnone, hrow⟩ | ⟨element, row, hsome, hrow, hstored⟩
  · rw [hnone, hrow]
  · have hstate : decide (element.fieldText (js "inputState") = some (js "observed")) =
        decide (row.inputState = .observed) := by
      rw [Jsonb.fieldText, hstored.inputState]
      change decide (some (text row.inputState) = some (text FactorInputState.observed)) = _
      rw [decide_eq_decide, Option.some_inj]
      exact text_injective.eq_iff
    rw [hsome, hrow]
    simp only
    rw [hstate, htokens, Jsonb.fieldText, hstored.observedValue]
    congr 1
    cases row.observedValue with
    | none => rfl
    | some value =>
        cases value with
        | text value => rfl
        | days days =>
            have hlisted : decimalText days ∉ listedTokens := by
              intro hmem
              have hdigit : ∀ s ∈ listedTokens, s.all isDigit = false := by decide
              have hall : (decimalText days).all isDigit = true :=
                List.all_eq_true.mpr fun u => isDigit_of_mem_decimalText
              rw [hdigit _ hmem] at hall
              cases hall
            exact decide_eq_false hlisted

/-- An evaluation's numbers are compared as the numerals that store them. -/
theorem numberDescending_evaluationNumber {m n : Nat} {s t : JsString}
    (hs : (some (decimalText m)).filter isDecimalText = some s)
    (ht : (some (decimalText n)).filter isDecimalText = some t) :
    numberDescending (evaluationNumber m) (evaluationNumber n) =
      numberDescending (numberOfText s) (numberOfText t) := by
  obtain ⟨hms, hs⟩ := Option.filter_eq_some_iff.mp hs
  obtain ⟨hnt, ht⟩ := Option.filter_eq_some_iff.mp ht
  cases hms
  cases hnt
  rw [numberDescending_numberOfText hs ht, decimalValue_decimalText, decimalValue_decimalText]
  exact numberDescending_finite m n

theorem firstDifference_refined (keys more : List RemediationQueueComparison) :
    (match firstDifference keys with
      | .equal => firstDifference more
      | comparison => comparison) = firstDifference (keys ++ more) := by
  unfold firstDifference
  rw [List.find?_append]
  cases hfind : keys.find? fun comparison => comparison ≠ .equal with
  | none => rfl
  | some comparison =>
      have hne : comparison ≠ .equal := by simpa using List.find?_some hfind
      cases comparison with
      | equal => exact absurd rfl hne
      | first => rfl
      | second => rfl
      | incomparable => rfl

section

variable {scope : QueueClassificationScope} {asOf : JsString} {f g : JoinedFinding}
  {left right : StoredRemediationRankKey} {a b : PriorityEvaluation}

/-- The columns of a row that stores an evaluation. -/
structure EvaluationColumns (row : QueueSqlRow) (evaluation : PriorityEvaluation) : Prop where
  policyKey : row.policyKey = some evaluation.policyKey
  priority : row.priorityText = (some (decimalText evaluation.priority)).filter isDecimalText
  escalation : row.escalationRecommended = some evaluation.escalation.recommended
  kev : row.kevListed = some (isKevListed evaluation)
  severity :
    row.severityText = (some (decimalText (severityPercent evaluation))).filter isDecimalText

theorem evaluationColumns_of_stored (h : StoredEvaluation f a) :
    EvaluationColumns (classifiedFinding scope f) a := by
  obtain ⟨calculation, hcalculation, hstored⟩ := h
  unfold classifiedFinding
  rw [hcalculation]
  exact {
    policyKey := congrArg some hstored.policyKey
    priority := priorityText_stored hstored
    escalation := escalationRecommended_stored hstored
    kev := congrArg some (kevListed_stored hstored)
    severity := severityText_stored hstored }

/-- The stored comparison is that of the evaluations, refined. -/
theorem compareStored_eq_compareRefined (hf : storedRank scope asOf f = some left)
    (hg : storedRank scope asOf g = some right) (ha : StoredEvaluation f a)
    (hb : StoredEvaluation g b) (hpolicy : left.policyKey = right.policyKey) :
    compareStoredRemediationRank left right = compareRefined a b f g := by
  have hl := rankColumns_of_storedRank hf
  have hr := rankColumns_of_storedRank hg
  have hla : EvaluationColumns (classifiedFinding scope f) a := evaluationColumns_of_stored ha
  have hrb : EvaluationColumns (classifiedFinding scope g) b := evaluationColumns_of_stored hb
  obtain ⟨p, hp, hpkey⟩ := hl.priority
  obtain ⟨q, hq, hqkey⟩ := hr.priority
  obtain ⟨s, hs, hskey⟩ := hl.severity
  obtain ⟨t, ht, htkey⟩ := hr.severity
  have hkeys : a.policyKey = b.policyKey := by
    have hleft := Option.some.inj (hla.policyKey.symm.trans hl.policyKey)
    have hright := Option.some.inj (hrb.policyKey.symm.trans hr.policyKey)
    rw [hleft, hright, hpolicy]
  have hescalation := Option.some.inj (hl.escalation.symm.trans hla.escalation)
  have hescalation' := Option.some.inj (hr.escalation.symm.trans hrb.escalation)
  have hkev := Option.some.inj (hl.kev.symm.trans hla.kev)
  have hkev' := Option.some.inj (hr.kev.symm.trans hrb.kev)
  have hobserved : f.firstObservedText = left.firstObservedAt := hl.firstObserved
  have hobserved' : g.firstObservedText = right.firstObservedAt := hr.firstObserved
  have hid : f.findingId.text = left.findingId := hl.findingId
  have hid' : g.findingId.text = right.findingId := hr.findingId
  unfold compareRefined
  rw [compareForRemediationQueue, if_neg (not_not.mpr hkeys), firstDifference_refined,
    numberDescending_evaluationNumber (hla.priority.symm.trans hp) (hrb.priority.symm.trans hq),
    numberDescending_evaluationNumber (hla.severity.symm.trans hs) (hrb.severity.symm.trans ht),
    ← hpkey, ← hqkey, ← hskey, ← htkey, ← hescalation, ← hescalation', ← hkev, ← hkev',
    hobserved, hobserved', hid, hid', compareStoredRemediationRank, if_neg (not_not.mpr hpolicy)]
  rfl

end

/-! ## The three orders agree -/

section

variable {scope : QueueClassificationScope} {asOf policyKey : JsString}
  {findings : List JoinedFinding} {f g : JoinedFinding}

/-- Rows of one policy are compared as the statement orders them. -/
theorem compareStoredRows_eq
    (hf : (storedRank scope asOf f).map (·.policyKey) = some policyKey)
    (hg : (storedRank scope asOf g).map (·.policyKey) = some policyKey) :
    compareStoredRows scope asOf f g =
      some (comparisonOf
        (rankedOrder (classifiedFinding scope f) (classifiedFinding scope g))) := by
  obtain ⟨left, hleft, hl⟩ := Option.map_eq_some_iff.mp hf
  obtain ⟨right, hright, hr⟩ := Option.map_eq_some_iff.mp hg
  unfold compareStoredRows
  rw [hleft, hright]
  exact congrArg some (compareStored_eq_rankedOrder hleft hright (hl.trans hr.symm))

/-- Rows that the statement does not order are of one finding. -/
theorem findingId_eq_of_rankedOrder
    (h : rankedOrder (classifiedFinding scope f) (classifiedFinding scope g) = .eq) :
    f.findingId = g.findingId := by
  unfold rankedOrder at h
  have hid := (compareLex_eq_eq.mp (compareLex_eq_eq.mp (compareLex_eq_eq.mp (compareLex_eq_eq.mp
    (compareLex_eq_eq.mp h).2).2).2).2).2
  change compareBytes f.findingId.text g.findingId.text = .eq at hid
  rw [compareBytes_ascii (isAscii_uuidColumn _) (isAscii_uuidColumn _)] at hid
  have htext := Std.LawfulEqCmp.eq_of_compare hid
  cases hf : f.findingId
  cases hg : g.findingId
  rw [hf, hg] at htext
  subst htext
  rfl

/-- **The order of the ranked section.**  On stored rows of one policy with distinct
findings the stored comparison is a strict total order.  It is the engine's comparison of
the evaluations that the rows store, with ties broken by the first observation and then by
the finding, and it is the order of the statement. -/
theorem storedRank_orders_agree (scope : QueueClassificationScope) (asOf policyKey : JsString)
    (findings : List JoinedFinding) (hids : (findings.map (·.findingId)).Nodup)
    (hstored : ∀ f ∈ findings, (storedRank scope asOf f).map (·.policyKey) = some policyKey) :
    (∀ f ∈ findings, compareStoredRows scope asOf f f ≠ some .first) ∧
    (∀ f ∈ findings, ∀ g ∈ findings, ∀ h ∈ findings,
      compareStoredRows scope asOf f g = some .first →
      compareStoredRows scope asOf g h = some .first →
      compareStoredRows scope asOf f h = some .first) ∧
    (∀ f ∈ findings, ∀ g ∈ findings, f ≠ g →
      (compareStoredRows scope asOf f g = some .first ∧
        compareStoredRows scope asOf g f = some .second) ∨
      (compareStoredRows scope asOf f g = some .second ∧
        compareStoredRows scope asOf g f = some .first)) ∧
    (∀ f ∈ findings, ∀ g ∈ findings, ∀ a b, StoredEvaluation f a → StoredEvaluation g b →
      compareStoredRows scope asOf f g = some (compareRefined a b f g)) ∧
    (∀ f ∈ findings, ∀ g ∈ findings, compareStoredRows scope asOf f g =
      some (comparisonOf
        (rankedOrder (classifiedFinding scope f) (classifiedFinding scope g)))) := by
  have hsql : ∀ f ∈ findings, ∀ g ∈ findings, compareStoredRows scope asOf f g =
      some (comparisonOf
        (rankedOrder (classifiedFinding scope f) (classifiedFinding scope g))) :=
    fun f hf g hg => compareStoredRows_eq (hstored f hf) (hstored g hg)
  have hfirst : ∀ f ∈ findings, ∀ g ∈ findings,
      (compareStoredRows scope asOf f g = some .first ↔
        rankedOrder (classifiedFinding scope f) (classifiedFinding scope g) = .lt) := by
    intro f hf g hg
    rw [hsql f hf g hg, Option.some_inj]
    exact ⟨fun h => comparisonOf_inj h, fun h => by rw [h]; rfl⟩
  refine ⟨?_, ?_, ?_, ?_, hsql⟩
  · intro f hf h
    have hlt := (hfirst f hf f hf).mp h
    rw [@Std.ReflCmp.compare_self _ rankedOrder _ (classifiedFinding scope f)] at hlt
    cases hlt
  · intro f hf g hg h hh hfg hgh
    exact (hfirst f hf h hh).mpr
      (Std.TransCmp.lt_trans ((hfirst f hf g hg).mp hfg) ((hfirst g hg h hh).mp hgh))
  · intro f hf g hg hne
    rw [hsql f hf g hg, hsql g hg f hf,
      @Std.OrientedCmp.eq_swap _ rankedOrder _ (classifiedFinding scope g) _]
    cases horder : rankedOrder (classifiedFinding scope f) (classifiedFinding scope g) with
    | lt => exact .inl ⟨rfl, rfl⟩
    | eq =>
        exact absurd (List.inj_on_of_nodup_map hids hf hg (findingId_eq_of_rankedOrder horder)) hne
    | gt => exact .inr ⟨rfl, rfl⟩
  · intro f hf g hg a b ha hb
    obtain ⟨left, hleft, hl⟩ := Option.map_eq_some_iff.mp (hstored f hf)
    obtain ⟨right, hright, hr⟩ := Option.map_eq_some_iff.mp (hstored g hg)
    unfold compareStoredRows
    rw [hleft, hright]
    exact congrArg some
      (compareStored_eq_compareRefined hleft hright ha hb (hl.trans hr.symm))

end

/-! ## An instance -/

/-- A factor as a document holds it. -/
def sampleFactor (factorId inputState : JsString) (observedValue : Jsonb) (percent : JsString) :
    Jsonb :=
  .object [(js "factorId", .string factorId), (js "inputState", .string inputState),
    (js "observedValue", observedValue), (js "normalizedPercent", .number percent)]

/-- A calculation with a listed vulnerability, of a priority and a severity. -/
def sampleCalculation (priority severity : JsString) : LatestCalculation where
  id := ⟨js "cccccccc-cccc-4ccc-8ccc-cccccccccccc", by decide⟩
  riskPolicyId := ⟨js "dddddddd-dddd-4ddd-8ddd-dddddddddddd", by decide⟩
  policyKey := builtinPriorityPolicyKey
  policyVersion := 2
  policyDefinitionSha256 := admittedBuiltinSha256
  calculationEngineVersion := priorityCalculationEngineVersion
  calculatedAtText := js "2026-11-05T09:00:00.000Z"
  factors := .object [
    (js "factors", .array [
      sampleFactor (js "source_severity") (js "observed") (.string (js "high")) severity,
      sampleFactor (js "kev_listed") (js "observed") (.string (js "listed_catalog_current"))
        (js "100")]),
    (js "sources", .object [(js "kev", .object [(js "state", .string (js "unavailable"))])])]
  result := .object [(js "priority", .number priority), (js "priorityBand", .string (js "P1")),
    (js "escalationRecommendation", .boolean true)]

/-- A finding with a calculation. -/
def sampleFinding (findingId : UuidColumn) (calculation : Option LatestCalculation) :
    JoinedFinding where
  findingId
  assetId := ⟨js "aaaaaaaa-aaaa-4aaa-8aaa-aaaaaaaaaaaa", by decide⟩
  firstObservedText := js "2026-11-04T18:00:00.000Z"
  lastObservedText := some (js "2026-11-04T18:00:00.000Z")
  assetName := some (js "queue asset")
  assetUpdatedText := some (js "2026-11-04T18:00:00.000Z")
  componentName := some (js "reviewed-npm-widget")
  occurrenceVersions := [⟨some (js "1.1.0"), true⟩]
  osvId := some (js "GHSA-xxxx-xxxx-xxxx")
  calculation
  otherCalculationReviewed := false
  review := none

/-- The classification of the deployed engine and policy. -/
def sampleScope : QueueClassificationScope :=
  ⟨admittedBuiltinSha256, priorityCalculationEngineVersion⟩

/-- A finding whose severity is 70.5. -/
def sampleLower : JoinedFinding :=
  sampleFinding ⟨js "11111111-1111-4111-8111-111111111111", by decide⟩
    (some (sampleCalculation (js "87") (js "70.5")))

/-- A finding whose severity is a millionth higher. -/
def sampleHigher : JoinedFinding :=
  sampleFinding ⟨js "22222222-2222-4222-8222-222222222222", by decide⟩
    (some (sampleCalculation (js "87") (js "70.500001")))

/-- Two findings that differ in the severity alone. -/
def sampleFindings : List JoinedFinding := [sampleLower, sampleHigher]

/-- An evaluation of a listed vulnerability, of a severity. -/
def sampleEvaluation (severity : Nat) : PriorityEvaluation where
  policyKey := builtinPriorityPolicyKey
  weightedScoreCenti := 8700
  upliftCenti := 0
  priority := 87
  priorityBand := .p1
  dueDateRecommendationDays := 7
  escalation := ⟨true, [.kevProduction]⟩
  factors := [
    ⟨.sourceSeverity, factorOrdinal .sourceSeverity, .observed, some (.text (js "high")), severity,
      40, 40 * severity, .contributing, .severityHigh⟩,
    ⟨.kevListed, factorOrdinal .kevListed, .observed,
      some (tokenValue KevObservedToken.listedCatalogCurrent), 100, 20, 2000, .decisive,
      .kevListedCatalogCurrent⟩]
  rules := []
  evidenceSummary := ⟨2, 0, 0⟩

/-- A finding that stores the evaluation of a severity. -/
def sampleEvaluated (findingId : UuidColumn) (severity : Nat) : JoinedFinding :=
  sampleFinding findingId (some (sampleCalculation (js "87") (decimalText severity)))

theorem storedEvaluation_sampleEvaluated (findingId : UuidColumn) (severity : Nat) :
    StoredEvaluation (sampleEvaluated findingId severity) (sampleEvaluation severity) := by
  have hpriority : js "87" = decimalText 87 := by decide +kernel
  have hlisted : js "100" = decimalText 100 := by decide +kernel
  exact ⟨_, rfl, rfl, ⟨_, rfl, .cons ⟨rfl, rfl, rfl, rfl⟩ (.cons ⟨rfl, rfl, rfl,
    congrArg (fun digits => some (Jsonb.number digits)) hlisted⟩ .nil)⟩,
    congrArg (fun digits => some (Jsonb.number digits)) hpriority, rfl⟩

/-- Two findings with the evaluations of the severities 70 and 90. -/
def sampleHigh : JoinedFinding :=
  sampleEvaluated ⟨js "33333333-3333-4333-8333-333333333333", by decide⟩ 70

def sampleCritical : JoinedFinding :=
  sampleEvaluated ⟨js "44444444-4444-4444-8444-444444444444", by decide⟩ 90

/-- The stored comparison of two findings is that of the evaluations that they store, and the
one of the statement. -/
theorem storedRank_orders_agree_sample :
    compareStoredRows sampleScope (js "2026-11-06T00:00:00.000Z") sampleHigh sampleCritical =
        some (compareRefined (sampleEvaluation 70) (sampleEvaluation 90) sampleHigh
          sampleCritical) ∧
      compareRefined (sampleEvaluation 70) (sampleEvaluation 90) sampleHigh sampleCritical =
        .second ∧
      compareStoredRows sampleScope (js "2026-11-06T00:00:00.000Z") sampleHigh sampleCritical =
        some (comparisonOf (rankedOrder (classifiedFinding sampleScope sampleHigh)
          (classifiedFinding sampleScope sampleCritical))) := by
  obtain ⟨-, -, -, hengine, hstatement⟩ := storedRank_orders_agree sampleScope
    (js "2026-11-06T00:00:00.000Z") builtinPriorityPolicyKey [sampleHigh, sampleCritical]
    (by decide) (by decide +kernel)
  have hsecond : sampleCritical ∈ [sampleHigh, sampleCritical] :=
    List.mem_cons_of_mem _ List.mem_cons_self
  exact ⟨hengine _ List.mem_cons_self _ hsecond _ _ (storedEvaluation_sampleEvaluated _ 70)
      (storedEvaluation_sampleEvaluated _ 90),
    by decide +kernel, hstatement _ List.mem_cons_self _ hsecond⟩

end PatchPilot.Risk
