import ForensicData.Application.Attempts
import ForensicData.Application.Cleanup
import ForensicData.Application.Confirmation
import ForensicData.Application.Failure
import ForensicData.Application.Interruption
import ForensicData.Application.InterruptionTheorems
import ForensicData.Application.Reasons
import ForensicData.Application.Replay
import ForensicData.Application.ReplayRuns
import ForensicData.Application.ReplayTheorems
import ForensicData.Application.StoredReasons
import ForensicData.Canonical.Codec
import ForensicData.Canonical.DecimalExactness
import ForensicData.Canonical.DecimalTheorems
import ForensicData.Canonical.EnvelopeTheorems
import ForensicData.Canonical.FieldTheorems
import ForensicData.Canonical.Fingerprints
import ForensicData.Canonical.Hashing
import ForensicData.Canonical.Input
import ForensicData.Canonical.InstantLaw
import ForensicData.Canonical.InstantTheorems
import ForensicData.Canonical.Model
import ForensicData.Canonical.PayloadTheorems
import ForensicData.Canonical.RowTheorems
import ForensicData.Canonical.Schema
import ForensicData.Canonical.SchemaReader
import ForensicData.Canonical.Values
import ForensicData.ClickHouse.BoundedBody
import ForensicData.ClickHouse.DdlText
import ForensicData.ClickHouse.DdlTextTheorems
import ForensicData.ClickHouse.ExceptionFrame
import ForensicData.ClickHouse.HttpRequest
import ForensicData.ClickHouse.HttpRequestTheorems
import ForensicData.ClickHouse.HttpResponse
import ForensicData.ClickHouse.HttpResponseTheorems
import ForensicData.ClickHouse.Lowering
import ForensicData.ClickHouse.LoweringTheorems
import ForensicData.ClickHouse.Opening
import ForensicData.ClickHouse.OpeningTheorems
import ForensicData.ClickHouse.PayloadLoweringTheorems
import ForensicData.ClickHouse.Transport
import ForensicData.ClickHouse.TransportSteps
import ForensicData.ClickHouse.TransportTheorems
import ForensicData.Comparison.Accounts
import ForensicData.Comparison.Artifact
import ForensicData.Comparison.Connectors
import ForensicData.Comparison.DrillDown
import ForensicData.Comparison.Engine
import ForensicData.Comparison.EngineRules
import ForensicData.Comparison.EngineTheorems
import ForensicData.Comparison.Evidence
import ForensicData.Comparison.EvidenceHiding
import ForensicData.Comparison.ExactLeaves
import ForensicData.Comparison.Exactness
import ForensicData.Comparison.Frontier
import ForensicData.Comparison.FrontierCodec
import ForensicData.Comparison.FrontierCodecTheorems
import ForensicData.Comparison.Leaves
import ForensicData.Comparison.Levels
import ForensicData.Comparison.Partial
import ForensicData.Comparison.PartialRuns
import ForensicData.Comparison.PartialTheorems
import ForensicData.Comparison.Planning
import ForensicData.Comparison.Recording
import ForensicData.Comparison.Retention
import ForensicData.Comparison.RetentionRuns
import ForensicData.Comparison.RowDecoding
import ForensicData.Comparison.RowDecodingTheorems
import ForensicData.Comparison.Runs
import ForensicData.Comparison.Segment
import ForensicData.Comparison.Snapshots
import ForensicData.Comparison.Totals
import ForensicData.Contracts.CompiledChecks
import ForensicData.Contracts.Compiler
import ForensicData.Contracts.ContractIdentity
import ForensicData.Contracts.Entities
import ForensicData.Contracts.Evidence
import ForensicData.Contracts.EvidenceTheorems
import ForensicData.Contracts.Identity
import ForensicData.Contracts.IdentityTheorems
import ForensicData.Contracts.Model
import ForensicData.Contracts.References
import ForensicData.Contracts.Resolution
import ForensicData.Contracts.Semantics
import ForensicData.Contracts.Source
import ForensicData.Errors
import ForensicData.Greenplum.LimbSumTheorems
import ForensicData.Greenplum.PlanText
import ForensicData.Greenplum.PlanTextTheorems
import ForensicData.Lib.AffordablePrefix
import ForensicData.Lib.Agreement
import ForensicData.Lib.Calendar
import ForensicData.Lib.ConflictInsert
import ForensicData.Lib.DepthFirst
import ForensicData.Lib.Digits
import ForensicData.Lib.Forall3
import ForensicData.Lib.Generator
import ForensicData.Lib.Handlers
import ForensicData.Lib.IntegerText
import ForensicData.Lib.Json
import ForensicData.Lib.JsonDenotation
import ForensicData.Lib.JsonGrammar
import ForensicData.Lib.JsonReader
import ForensicData.Lib.JsonReaderTheorems
import ForensicData.Lib.JsonRoundTrip
import ForensicData.Lib.JsonSorted
import ForensicData.Lib.JsonTokens
import ForensicData.Lib.KeyedCommits
import ForensicData.Lib.KeyedList
import ForensicData.Lib.Paging
import ForensicData.Lib.ParentSum
import ForensicData.Lib.ProlepticYear
import ForensicData.Lib.PyValue
import ForensicData.Lib.PythonInt
import ForensicData.Lib.QuotedText
import ForensicData.Lib.Relational
import ForensicData.Lib.ThreeValued
import ForensicData.Lib.Tiling
import ForensicData.Lib.TimeText
import ForensicData.Lib.UrlEncoding
import ForensicData.Lib.Utf16
import ForensicData.Persistence.Anomalies
import ForensicData.Persistence.ClaimRun
import ForensicData.Persistence.DiffPaging
import ForensicData.Persistence.DiffReading
import ForensicData.Persistence.DiffTheorems
import ForensicData.Persistence.EvidenceAgreement
import ForensicData.Persistence.EvidenceBoundary
import ForensicData.Persistence.EvidenceBoundaryTheorems
import ForensicData.Persistence.LifecycleChanges
import ForensicData.Persistence.LifecycleInvariant
import ForensicData.Persistence.LifecycleRows
import ForensicData.Persistence.LifecycleTransactions
import ForensicData.Persistence.ManifestTheorems
import ForensicData.Persistence.MigrationRuns
import ForensicData.Persistence.MigrationTheorems
import ForensicData.Persistence.Migrations
import ForensicData.Persistence.Publication
import ForensicData.Persistence.PublicationTheorems
import ForensicData.Persistence.Reconciliation
import ForensicData.Persistence.ReconciliationTheorems
import ForensicData.Persistence.Records
import ForensicData.Persistence.Registration
import ForensicData.Persistence.RegistrationRecords
import ForensicData.Persistence.RegistrationRuns
import ForensicData.Persistence.RegistrationTheorems
import ForensicData.Persistence.Registry
import ForensicData.Persistence.StoredTextTheorems
import ForensicData.Persistence.Topology
import ForensicData.Persistence.TopologyTheorems
import ForensicData.Planning.ScopeTheorems
import ForensicData.Planning.ScopeValues
import ForensicData.Planning.StaticPlan
import ForensicData.Planning.StaticPlanTheorems
import ForensicData.Postgres.Composition
import ForensicData.Postgres.CompositionTheorems
import ForensicData.Postgres.ScopePredicate
import ForensicData.Postgres.ScopePredicateTheorems
import ForensicData.Reporting.Evidence
import ForensicData.Result.ExitCodes
import ForensicData.Result.Model
import ForensicData.Result.RunResult
import ForensicData.SourceBudget
import ForensicData.SourceLedger
import ForensicData.SourceLedgerTheorems
import ForensicData.SqlServer.CanonicalUtf8
import ForensicData.SqlServer.IntegerRanges
import ForensicData.SqlServer.PayloadLowering
import ForensicData.SqlServer.StagingTheorems
import ForensicData.SqlServer.Values
import ForensicData.Text
