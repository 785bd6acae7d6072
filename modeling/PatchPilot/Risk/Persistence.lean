import PatchPilot.Foundation.Comparator
import PatchPilot.Foundation.Runs
import PatchPilot.Risk.Calculation

set_option autoImplicit false

/-!
# Risk: persisting a calculation (`risk-calculation-persistence.ts`)

Calculations are appended to one table.  A transaction holds the lock of its finding;
it replays the row that already carries the fingerprint of the command, or inserts a
new one.  Which row is current is decided when it is read: the latest by calculation
time, then by id.

The tables that a transaction reads besides are part of its input, so they may change
in any way from one transaction to the next.
-/

namespace PatchPilot.Risk

open PatchPilot.Foundation
open PatchPilot.Policy

/-! ## The tables -/

/-- A row of `risk_calculation`. -/
structure CalculationRow where
  id : JsString
  organizationId : JsString
  findingId : JsString
  riskPolicyId : JsString
  policyVersion : Nat
  policyDefinitionSha256 : JsString
  calculatedAt : Int
  factors : RiskCalculationFactors
  result : RiskCalculationResult
  calculationEngineVersion : JsString
  calculationReason : RiskCalculationReason
  inputFingerprint : JsString
  deriving DecidableEq

/-- The columns of `risk_calculation_replay_key`. -/
def CalculationRow.replayKey (row : CalculationRow) : JsString × JsString × JsString :=
  (row.organizationId, row.findingId, row.inputFingerprint)

/-- The table `risk_calculation` with its primary key and its replay key. -/
structure CalculationTable where
  rows : List CalculationRow
  primaryKey : (rows.map (·.id)).Nodup
  replayKey : (rows.map CalculationRow.replayKey).Nodup

/-- The table without rows. -/
def CalculationTable.empty : CalculationTable := ⟨[], List.nodup_nil, List.nodup_nil⟩

/-- `INSERT`; `none` is a unique violation. -/
def CalculationTable.insert (table : CalculationTable) (row : CalculationRow) :
    Option CalculationTable :=
  if h : row.id ∉ table.rows.map (·.id) ∧
      row.replayKey ∉ table.rows.map CalculationRow.replayKey then
    some ⟨table.rows ++ [row], by
        rw [List.map_append, List.nodup_append]
        refine ⟨table.primaryKey, List.nodup_singleton _, ?_⟩
        intro id hid other hother heq
        exact h.1 (by rwa [heq, List.mem_singleton.mp hother] at hid), by
        rw [List.map_append, List.nodup_append]
        refine ⟨table.replayKey, List.nodup_singleton _, ?_⟩
        intro key hkey other hother heq
        exact h.2 (by rwa [heq, List.mem_singleton.mp hother] at hkey)⟩
  else none

/-- The rows of a finding. -/
def CalculationTable.ofFinding (table : CalculationTable) (organizationId findingId : JsString) :
    List CalculationRow :=
  table.rows.filter fun row =>
    row.organizationId = organizationId ∧ row.findingId = findingId

/-- The audit event of a calculation. -/
structure PriorityCalculatedAudit where
  organizationId : JsString
  actorUserId : JsString
  membershipId : JsString
  correlationId : JsString
  findingId : JsString
  riskCalculationId : JsString
  riskPolicyId : JsString
  priorityBand : PriorityBand
  deriving DecidableEq

/-- What the transactions write. -/
structure RiskLedger where
  calculations : CalculationTable
  audits : List PriorityCalculatedAudit

/-- A row of `membership`. -/
structure MembershipRow where
  organizationId : JsString
  id : JsString
  userId : JsString
  active : Bool
  deriving DecidableEq

/-- A row of `finding`. -/
structure FindingRow where
  organizationId : JsString
  id : JsString
  state : FindingState
  version : Nat
  dueAt : Option Int
  currentRiskCalculationId : Option JsString
  deriving DecidableEq

/-- `RiskPolicyStatus`. -/
inductive RiskPolicyStatus
  | draft | published | retired
  deriving DecidableEq

/-- A row of `risk_policy`.  A builtin policy has no organization. -/
structure RiskPolicyRow where
  id : JsString
  organizationId : Option JsString
  policyKey : JsString
  version : Nat
  status : RiskPolicyStatus
  policySchemaVersion : Nat
  deriving DecidableEq

/-- What a transaction reads: the other tables, the database clock and the id that the
database generates.  `creationInsertEligible` is what the creation records of a
finding say, or `none` when they are malformed. -/
structure TransactionReads where
  memberships : List MembershipRow
  findings : List FindingRow
  policies : List RiskPolicyRow
  creationInsertEligible : JsString → JsString → Option Bool
  databaseNow : Int
  generatedId : JsString

/-! ## The transaction -/

/-- `NormalizedPersist`. -/
structure NormalizedPersist where
  organizationId : JsString
  actorUserId : JsString
  membershipId : JsString
  findingId : JsString
  riskPolicyId : JsString
  policyDefinitionSha256 : JsString
  inputFingerprint : JsString
  calculationReason : RiskCalculationReason
  factors : RiskCalculationFactors
  result : RiskCalculationResult
  correlationId : JsString
  calculatedAt : Option Int
  deriving DecidableEq

/-- `normalizePersistInput`, on a command of the use case.  Its ids, hashes and documents
are in the form that the checks leave as it is; a date can be invalid. -/
def normalizePersistInput (input : PersistFindingRiskCalculationCommand) :
    Option NormalizedPersist := do
  let calculatedAt ← input.calculatedAt
  some {
    organizationId := input.organizationId
    actorUserId := input.actorUserId
    membershipId := input.membershipId
    findingId := input.findingId
    riskPolicyId := input.riskPolicyId
    policyDefinitionSha256 := input.policyDefinitionSha256
    inputFingerprint := input.inputFingerprint
    calculationReason := input.calculationReason
    factors := input.factors
    result := input.result
    correlationId := input.correlationId
    calculatedAt := some calculatedAt }

/-- `PersistRiskCalculationResult`. -/
inductive PersistRiskCalculationResult
  | persisted (calculation : StoredRiskCalculation)
  | replay (calculation : StoredRiskCalculation)
  | immutableConflict
  | notFound
  | ineligible
  | policyNotFound
  | policyNotEligible
  | authorityRejected
  | calculationReasonRejected
  | transactionAborted
  | internalFailure
  deriving DecidableEq

/-- Why a transaction is rolled back. -/
inductive PersistenceAbort
  | internalFailure
  | uniqueViolation
  deriving DecidableEq

/-- `loadActor`. -/
def loadActor (memberships : List MembershipRow)
    (organizationId membershipId actorUserId : JsString) : Option JsString :=
  match memberships.filter fun row => row.organizationId = organizationId ∧
      row.id = membershipId ∧ row.userId = actorUserId ∧ row.active with
  | [row] => some row.userId
  | _ => none

/-- The result of `loadFindingForUpdate`. -/
inductive FindingForUpdate
  | open | notFound | ineligible
  deriving DecidableEq

/-- `loadFindingForUpdate`. -/
def loadFindingForUpdate (findings : List FindingRow) (organizationId findingId : JsString) :
    Except PersistenceAbort FindingForUpdate :=
  match findings.filter fun row => row.organizationId = organizationId ∧ row.id = findingId with
  | [] => .ok .notFound
  | [row] =>
      if row.state ≠ .open ∨ row.version ≠ 1 ∨ row.currentRiskCalculationId ≠ none ∨
          row.dueAt ≠ none then .ok .ineligible
      else .ok .open
  | _ => .error .internalFailure

/-- The result of `loadVisiblePolicy`. -/
inductive VisiblePolicy
  | visible (id : JsString) (version : Nat)
  | policyNotFound
  | policyNotEligible
  deriving DecidableEq

/-- `loadVisiblePolicy`. -/
def loadVisiblePolicy (policies : List RiskPolicyRow) (organizationId riskPolicyId : JsString) :
    VisiblePolicy :=
  match policies.filter fun row => row.id = riskPolicyId with
  | [row] =>
      if row.organizationId ≠ none ∧ row.organizationId ≠ some organizationId then
        .policyNotFound
      else if row.policyKey ≠ builtinPriorityPolicyKey ∨ row.status ≠ .published ∨
          row.policySchemaVersion ≠ priorityPolicySchemaVersion then .policyNotEligible
      else .visible row.id row.version
  | _ => .policyNotFound

/-- `findByFingerprint`. -/
def findByFingerprint (table : CalculationTable) (command : NormalizedPersist) :
    Except PersistenceAbort (Option CalculationRow) :=
  match (table.ofFinding command.organizationId command.findingId).filter fun row =>
      row.inputFingerprint = command.inputFingerprint with
  | [] => .ok none
  | [row] => .ok (some row)
  | _ => .error .internalFailure

/-- `mapCalculationRow`. -/
def mapCalculationRow (row : CalculationRow) : Option StoredRiskCalculation :=
  if row.policyVersion < 1 ∨ row.calculationEngineVersion ≠ priorityCalculationEngineVersion
  then none
  else some {
    id := row.id
    organizationId := row.organizationId
    findingId := row.findingId
    riskPolicyId := row.riskPolicyId
    policyVersion := row.policyVersion
    policyDefinitionSha256 := row.policyDefinitionSha256
    calculatedAt := some row.calculatedAt
    factors := row.factors
    result := row.result
    calculationReason := row.calculationReason
    inputFingerprint := row.inputFingerprint }

/-- `replayFromRow`, with the comparisons that the query makes. -/
def replayFromRow (command : NormalizedPersist) (row : CalculationRow) :
    PersistRiskCalculationResult :=
  if row.policyDefinitionSha256 ≠ command.policyDefinitionSha256 ∨
      row.factors ≠ command.factors ∨ row.result ≠ command.result ∨
      row.calculationEngineVersion ≠ priorityCalculationEngineVersion then .immutableConflict
  else
    match mapCalculationRow row with
    | none => .immutableConflict
    | some calculation => .replay calculation

/-- The row that a command inserts. -/
def insertedRow (reads : TransactionReads) (command : NormalizedPersist) (policyId : JsString)
    (policyVersion : Nat) : CalculationRow where
  id := reads.generatedId
  organizationId := command.organizationId
  findingId := command.findingId
  riskPolicyId := policyId
  policyVersion := policyVersion
  policyDefinitionSha256 := command.policyDefinitionSha256
  calculatedAt := command.calculatedAt.getD reads.databaseNow
  factors := command.factors
  result := command.result
  calculationEngineVersion := priorityCalculationEngineVersion
  calculationReason := command.calculationReason
  inputFingerprint := command.inputFingerprint

/-- The audit event of an inserted row. -/
def insertedAudit (command : NormalizedPersist) (calculation : StoredRiskCalculation) :
    PriorityCalculatedAudit where
  organizationId := command.organizationId
  actorUserId := command.actorUserId
  membershipId := command.membershipId
  correlationId := command.correlationId
  findingId := calculation.findingId
  riskCalculationId := calculation.id
  riskPolicyId := calculation.riskPolicyId
  priorityBand := calculation.result.priorityBand

/-- The insertion at the end of `persistInTransaction`. -/
def insertCalculation (reads : TransactionReads) (ledger : RiskLedger)
    (command : NormalizedPersist) (policyId : JsString) (policyVersion : Nat) :
    Except PersistenceAbort (PersistRiskCalculationResult × RiskLedger) :=
  let row := insertedRow reads command policyId policyVersion
  match ledger.calculations.insert row, mapCalculationRow row with
  | none, _ => .error .uniqueViolation
  | some _, none => .error .internalFailure
  | some table, some calculation =>
      .ok (.persisted calculation,
        ⟨table, ledger.audits ++ [insertedAudit command calculation]⟩)

/-- `persistInTransaction`. -/
def persistInTransaction (reads : TransactionReads) (ledger : RiskLedger)
    (command : NormalizedPersist) :
    Except PersistenceAbort (PersistRiskCalculationResult × RiskLedger) :=
  match loadActor reads.memberships command.organizationId command.membershipId
      command.actorUserId with
  | none => .ok (.authorityRejected, ledger)
  | some _ => do
    match ← loadFindingForUpdate reads.findings command.organizationId command.findingId with
    | .notFound => pure (.notFound, ledger)
    | .ineligible => pure (.ineligible, ledger)
    | .open =>
      match loadVisiblePolicy reads.policies command.organizationId command.riskPolicyId with
      | .policyNotFound => pure (.policyNotFound, ledger)
      | .policyNotEligible => pure (.policyNotEligible, ledger)
      | .visible policyId policyVersion =>
        match ← findByFingerprint ledger.calculations command with
        | some existing => pure (replayFromRow command existing, ledger)
        | none =>
          match reads.creationInsertEligible command.organizationId command.findingId with
          | none => .error .internalFailure
          | some false => pure (.ineligible, ledger)
          | some true =>
            let present := decide (ledger.calculations.ofFinding command.organizationId
              command.findingId ≠ [])
            let initialAllowed := !present && decide (command.calculationReason = .initial)
            let laterAllowed := present && decide (command.calculationReason ≠ .initial)
            if !initialAllowed && !laterAllowed then pure (.calculationReasonRejected, ledger)
            else insertCalculation reads ledger command policyId policyVersion

/-- `reloadReplay`. -/
def reloadReplay (ledger : RiskLedger) (command : NormalizedPersist) :
    PersistRiskCalculationResult :=
  match findByFingerprint ledger.calculations command with
  | .error _ => .internalFailure
  | .ok none => .transactionAborted
  | .ok (some existing) => replayFromRow command existing

/-- `persistRiskCalculation`: a transaction that is rolled back leaves the ledger as it
was. -/
def persistRiskCalculation (reads : TransactionReads) (ledger : RiskLedger)
    (command : NormalizedPersist) : PersistRiskCalculationResult × RiskLedger :=
  match persistInTransaction reads ledger command with
  | .ok committed => committed
  | .error .uniqueViolation => (reloadReplay ledger command, ledger)
  | .error .internalFailure => (.internalFailure, ledger)

/-- `ORDER BY "calculated_at" DESC, "id" DESC`. -/
def newestFirst : CalculationRow → CalculationRow → Ordering :=
  compareLex (comapCmp (descending compare) CalculationRow.calculatedAt)
    (comapCmp (descending compareCodeUnits) CalculationRow.id)

/-- The row that `queryCurrentRiskCalculation` and the remediation queue select. -/
def queryCurrentRiskCalculation (table : CalculationTable)
    (organizationId findingId : JsString) : Option CalculationRow :=
  (sortBy newestFirst (table.ofFinding organizationId findingId)).head?

end PatchPilot.Risk
