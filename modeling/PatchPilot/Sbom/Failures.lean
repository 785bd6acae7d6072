import Mathlib.Logic.Basic

set_option autoImplicit false

/-!
# Sbom: safe failures (`failures.ts`)

Every failure of an ingestion has a code, and the code decides what becomes of the
ingestion.
-/

namespace PatchPilot.Sbom

/-- `SafeFailureCode`. -/
inductive SafeFailureCode
  | payloadTooLarge | contentType | utf8 | jsonSyntax | jsonDepth | jsonNodes
  | jsonStringLength | notCyclonedx | unsupportedSpecVersion | schemaInvalid
  | componentLimit | edgeLimit | identifierLength | toolLimit | referenceLimit
  | propertyLimit | duplicateBomRef | unresolvedDependencyRef | invalidPurl
  | componentVersionConflict | componentHashConflict | unsupportedNormalizationVersion
  | prototypePollution | hashMismatch | objectMissing | storageTimeout | parserTimeout
  | parserCrash | normalizedOutputTooLarge | processingFailed | queueUnavailable
  deriving DecidableEq

/-- `SafeFailureOutcome`. -/
inductive SafeFailureOutcome
  | rejected | quarantined | retryableInfrastructure | terminalInternal
  deriving DecidableEq

/-- The outcomes of `safeFailureCatalog`. -/
def SafeFailureCode.outcome : SafeFailureCode → SafeFailureOutcome
  | .prototypePollution | .hashMismatch | .parserTimeout | .parserCrash => .quarantined
  | .objectMissing | .storageTimeout | .queueUnavailable => .retryableInfrastructure
  | .processingFailed => .terminalInternal
  | _ => .rejected

/-- The dispositions of a parser thread. -/
inductive ParserThreadDisposition
  | rejected | quarantined
  deriving DecidableEq

/-- `parserThreadDisposition`. -/
def parserThreadDisposition (code : SafeFailureCode) : Option ParserThreadDisposition :=
  match code.outcome with
  | .rejected => some .rejected
  | .quarantined => some .quarantined
  | _ => none

/-- `ParserWorkerFailure`. -/
structure ParserWorkerFailure where
  disposition : ParserThreadDisposition
  code : SafeFailureCode
  deriving DecidableEq

/-- `parserFailure`. -/
def parserFailure (code : SafeFailureCode) : ParserWorkerFailure :=
  match parserThreadDisposition code with
  | none => ⟨.quarantined, .parserCrash⟩
  | some disposition => ⟨disposition, code⟩

/-- A failure of the parser thread has the disposition of its code. -/
theorem parserFailure_disposition (code : SafeFailureCode) :
    parserThreadDisposition (parserFailure code).code = some (parserFailure code).disposition := by
  cases code <;> rfl

/-- An early return with a failure. -/
def reject (failing : Prop) [Decidable failing] (code : SafeFailureCode) :
    Except ParserWorkerFailure Unit :=
  if failing then .error (parserFailure code) else .ok ()

theorem reject_eq_ok {failing : Prop} [Decidable failing] {code : SafeFailureCode} :
    reject failing code = .ok () ↔ ¬failing := by
  unfold reject
  split
  · rename_i hfailing
    exact iff_of_false (by rintro ⟨⟩) (fun h => h hfailing)
  · rename_i hfailing
    exact iff_of_true rfl hfailing

/-- The value of a step, or an early return with a failure. -/
def orReject {α : Type} (value : Option α) (code : SafeFailureCode) :
    Except ParserWorkerFailure α :=
  match value with
  | none => .error (parserFailure code)
  | some value => .ok value

theorem orReject_eq_ok {α : Type} {value : Option α} {code : SafeFailureCode} {a : α} :
    orReject value code = .ok a ↔ value = some a := by
  cases value with
  | none => exact iff_of_false nofun nofun
  | some b =>
      constructor
      · intro h
        cases h
        rfl
      · intro h
        cases h
        rfl

end PatchPilot.Sbom
