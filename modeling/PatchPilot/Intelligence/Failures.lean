import Mathlib.Logic.Basic

set_option autoImplicit false

/-!
# Intelligence: safe failures (`failures.ts`, `sync-failures.ts`)

Every failure of a synchronization has a code.  The catalog decides whether a code may be
retried and whether it fails a run or quarantines it.
-/

namespace PatchPilot.Intelligence

/-- `IntelligenceSafeFailureCategory`. -/
inductive IntelligenceSafeFailureCategory
  | configuration | network | timeout | rateLimit | provider | content | integrity | schema
  | structuralLimit | storage | database | parser | catalogRegression | internal
  deriving DecidableEq

/-- `IntelligenceSafeFailureCode`. -/
inductive IntelligenceSafeFailureCode
  | providerDisabled | invalidProviderSource | dnsRejected | redirectRejected
  | connectionTimeout | responseTimeout | requestCancelled | rateLimited
  | providerClientError | providerServerError | contentTypeInvalid | responseTooLarge
  | responseEmpty | utf8Invalid | hashMismatch | snapshotMissing | snapshotStorageFailed
  | jsonSyntax | prototypePollution | jsonDepth | jsonNodes | jsonStringLength
  | normalizedOutputTooLarge | schemaInvalid | countMismatch | duplicateCve | malformedCve
  | vulnerabilityCountLimit | textFieldLimit | cweCountLimit | catalogVersionMissing
  | catalogReleaseDateInvalid | catalogRegression | parserTimeout | parserCrash
  | generationIncomplete | activationConflict | persistenceFailed | processingFailed
  deriving DecidableEq

/-- `IntelligenceFailureDisposition`. -/
inductive IntelligenceFailureDisposition
  | failed | quarantined
  deriving DecidableEq

/-- `IntelligenceSafeFailureClassification`, as far as it is read. -/
structure IntelligenceSafeFailureClassification where
  category : IntelligenceSafeFailureCategory
  retryable : Bool
  disposition : IntelligenceFailureDisposition
  deriving DecidableEq

/-- `classifyIntelligenceSafeFailure`: the entry of `intelligenceSafeFailureCatalog`. -/
def classifyIntelligenceSafeFailure :
    IntelligenceSafeFailureCode → IntelligenceSafeFailureClassification
  | .providerDisabled | .invalidProviderSource => ⟨.configuration, false, .failed⟩
  | .dnsRejected | .redirectRejected => ⟨.network, false, .failed⟩
  | .connectionTimeout | .responseTimeout | .requestCancelled => ⟨.timeout, true, .failed⟩
  | .rateLimited => ⟨.rateLimit, true, .failed⟩
  | .providerClientError => ⟨.provider, false, .failed⟩
  | .providerServerError => ⟨.provider, true, .failed⟩
  | .contentTypeInvalid | .responseTooLarge | .responseEmpty | .utf8Invalid =>
      ⟨.content, false, .quarantined⟩
  | .hashMismatch => ⟨.integrity, false, .quarantined⟩
  | .snapshotMissing | .snapshotStorageFailed => ⟨.storage, true, .failed⟩
  | .jsonSyntax | .schemaInvalid | .countMismatch | .duplicateCve | .malformedCve
  | .catalogVersionMissing | .catalogReleaseDateInvalid => ⟨.schema, false, .quarantined⟩
  | .prototypePollution => ⟨.parser, false, .quarantined⟩
  | .jsonDepth | .jsonNodes | .jsonStringLength | .normalizedOutputTooLarge
  | .vulnerabilityCountLimit | .textFieldLimit | .cweCountLimit =>
      ⟨.structuralLimit, false, .quarantined⟩
  | .catalogRegression => ⟨.catalogRegression, false, .quarantined⟩
  | .parserTimeout | .parserCrash => ⟨.parser, true, .failed⟩
  | .generationIncomplete => ⟨.internal, false, .failed⟩
  | .activationConflict | .persistenceFailed => ⟨.database, true, .failed⟩
  | .processingFailed => ⟨.internal, false, .failed⟩

/-- `isIntelligenceQuarantineCategory`. -/
def isIntelligenceQuarantineCategory : IntelligenceSafeFailureCategory → Bool
  | .content | .integrity | .schema | .structuralLimit | .parser | .catalogRegression => true
  | _ => false

/-- The category of a code that quarantines is one that may. -/
theorem quarantineCategory_of_disposition {code : IntelligenceSafeFailureCode}
    (h : (classifyIntelligenceSafeFailure code).disposition = .quarantined) :
    isIntelligenceQuarantineCategory (classifyIntelligenceSafeFailure code).category = true := by
  cases code <;> first | rfl | cases h

/-- A code that quarantines is not retried. -/
theorem not_retryable_of_disposition {code : IntelligenceSafeFailureCode}
    (h : (classifyIntelligenceSafeFailure code).disposition = .quarantined) :
    (classifyIntelligenceSafeFailure code).retryable = false := by
  cases code <;> first | rfl | cases h

end PatchPilot.Intelligence
