import PatchPilot.Auth.SessionLife
import PatchPilot.Auth.SessionRows
import PatchPilot.Auth.Sessions
import PatchPilot.Foundation.Base64Url
import PatchPilot.Foundation.Binary64
import PatchPilot.Foundation.Collector
import PatchPilot.Foundation.Comparator
import PatchPilot.Foundation.EventSweep
import PatchPilot.Foundation.Fallible
import PatchPilot.Foundation.FoldOrder
import PatchPilot.Foundation.Grouping
import PatchPilot.Foundation.Interleaving
import PatchPilot.Foundation.IsoDate
import PatchPilot.Foundation.IsoOrder
import PatchPilot.Foundation.JsString
import PatchPilot.Foundation.JsValue
import PatchPilot.Foundation.JsonText
import PatchPilot.Foundation.Jsonb
import PatchPilot.Foundation.Keyset
import PatchPilot.Foundation.LengthPrefix
import PatchPilot.Foundation.Memo
import PatchPilot.Foundation.Ownership
import PatchPilot.Foundation.ReadCommitted
import PatchPilot.Foundation.Runs
import PatchPilot.Foundation.SelfDelimiting
import PatchPilot.Foundation.Semver
import PatchPilot.Foundation.SemverPrecedence
import PatchPilot.Foundation.Steps
import PatchPilot.Foundation.TextShape
import PatchPilot.Foundation.Transcript
import PatchPilot.Foundation.Utf8
import PatchPilot.Foundation.Work
import PatchPilot.Intelligence.Failures
import PatchPilot.Intelligence.TransitionRuns
import PatchPilot.Intelligence.Transitions
import PatchPilot.Jobs.Execution
import PatchPilot.Matching.Admission
import PatchPilot.Matching.Admitted
import PatchPilot.Matching.Affectedness
import PatchPilot.Matching.Assess
import PatchPilot.Matching.Boundaries
import PatchPilot.Matching.Compilation
import PatchPilot.Matching.Document
import PatchPilot.Matching.Effect
import PatchPilot.Matching.Identity
import PatchPilot.Matching.Outcomes
import PatchPilot.Matching.Permutation
import PatchPilot.Matching.Precedence
import PatchPilot.Matching.Published
import PatchPilot.Matching.Range
import PatchPilot.Matching.Reasons
import PatchPilot.Matching.Request
import PatchPilot.Matching.Reviewed
import PatchPilot.Matching.Timeline
import PatchPilot.Matching.Version
import PatchPilot.Matching.VersionGrammar
import PatchPilot.Osv.Attempts.Adapter
import PatchPilot.Osv.Attempts.Dense
import PatchPilot.Osv.Attempts.Rows
import PatchPilot.Osv.Attempts.Runs
import PatchPilot.Osv.Lease
import PatchPilot.Osv.LeaseAdapter
import PatchPilot.Osv.LeaseContract
import PatchPilot.Osv.LeaseInterleavings
import PatchPilot.Osv.LeaseOwnership
import PatchPilot.Osv.LeaseRuns
import PatchPilot.Osv.LeaseStatements
import PatchPilot.Osv.Listing.Convergence
import PatchPilot.Osv.Listing.Cursor
import PatchPilot.Osv.Listing.InFlight
import PatchPilot.Osv.Listing.Observations
import PatchPilot.Osv.Listing.Pass
import PatchPilot.Osv.Listing.Plan
import PatchPilot.Osv.Listing.Service
import PatchPilot.Outbox.Batches
import PatchPilot.Outbox.Delivery
import PatchPilot.Outbox.Relay
import PatchPilot.Policy.Accounting
import PatchPilot.Policy.CanonicalJson
import PatchPilot.Policy.Catalog
import PatchPilot.Policy.Definition
import PatchPilot.Policy.Evaluate
import PatchPilot.Policy.FactDocument
import PatchPilot.Policy.Facts
import PatchPilot.Policy.MinimumBand
import PatchPilot.Policy.Monotone
import PatchPilot.Policy.Sound
import PatchPilot.Risk.Calculation
import PatchPilot.Risk.Currency
import PatchPilot.Risk.Decision
import PatchPilot.Risk.EvidenceOrder
import PatchPilot.Risk.FactAssembly
import PatchPilot.Risk.Freshness
import PatchPilot.Risk.Persistence
import PatchPilot.Risk.PriorityRead
import PatchPilot.Risk.Reason
import PatchPilot.Risk.Replaying
import PatchPilot.Risk.RemediationCursor
import PatchPilot.Risk.RemediationOrder
import PatchPilot.Risk.RemediationPages
import PatchPilot.Risk.RemediationQueue
import PatchPilot.Risk.RemediationRead
import PatchPilot.Risk.RemediationRows
import PatchPilot.Sbom.AssetPointer
import PatchPilot.Sbom.Closing
import PatchPilot.Sbom.Collapse
import PatchPilot.Sbom.Component
import PatchPilot.Sbom.Conflation
import PatchPilot.Sbom.Database
import PatchPilot.Sbom.Dependencies
import PatchPilot.Sbom.DocumentOrder
import PatchPilot.Sbom.Failures
import PatchPilot.Sbom.GraphAtomicity
import PatchPilot.Sbom.GraphContract
import PatchPilot.Sbom.GraphPersistence
import PatchPilot.Sbom.Ingest
import PatchPilot.Sbom.IngestRuns
import PatchPilot.Sbom.Lifecycle
import PatchPilot.Sbom.Normalize
import PatchPilot.Sbom.PackageIdentity
import PatchPilot.Sbom.PersistenceRuns
import PatchPilot.Sbom.Purl
import PatchPilot.Sbom.Transitions
import PatchPilot.Sbom.Upload
import PatchPilot.Sbom.UploadRuns
import PatchPilot.Sbom.Validation
import PatchPilot.Policy.Decisive
import PatchPilot.Foundation.UtcInstant
import PatchPilot.Osv.LeaseChecks
import PatchPilot.Osv.LeaseExpiry
import PatchPilot.Foundation.WellFormedText
import PatchPilot.Osv.Listing.Encoding
import PatchPilot.Foundation.JsonTree
import PatchPilot.Foundation.JsonWriting
import PatchPilot.Foundation.NumberText
import PatchPilot.Policy.CanonicalText
import PatchPilot.Policy.CanonicalObjects
import PatchPilot.Policy.Override
import PatchPilot.Policy.KeyOrder
import PatchPilot.Foundation.Undisturbed
import PatchPilot.Osv.Attempts.Failing
import PatchPilot.Osv.Attempts.Replaying
import PatchPilot.Matching.Provenance
import PatchPilot.Foundation.SizeField
import PatchPilot.Kev.SerializedResult
import PatchPilot.Intelligence.StreamBuffer
import PatchPilot.Foundation.ColouredSearch
import PatchPilot.Matching.Lineage
import PatchPilot.Matching.OfflineTimestamp
import PatchPilot.Osv.Planning
import PatchPilot.Foundation.Csv
import PatchPilot.Risk.RemediationExport
import PatchPilot.Auth.Turnstile
import PatchPilot.Auth.ReadSession
import PatchPilot.Intelligence.RetryWait
import PatchPilot.Intelligence.Structure
import PatchPilot.Osv.Parser.Accounting
import PatchPilot.Policy.Unfolding
import PatchPilot.Jobs.Table
import PatchPilot.Osv.LeaseTransactions
