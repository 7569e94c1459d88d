/-
ForensicData.Persistence.LifecycleRows — the rows a run's lifecycle is kept in.

`LifecycleStore` is the tables that the lifecycle transactions write, with the
time of the database. What a caller asks of a transaction is its expectation,
with the records the caller holds; a record may be older than the rows it was
read from. Texts of JSON columns are canonical.
-/
import ForensicData.Application.Reasons
import ForensicData.Contracts.Model
import ForensicData.Persistence.ClaimRun
import ForensicData.Reporting.Evidence

namespace ForensicData.Persistence

open ForensicData.Application (uuidText PlanDirection)
open ForensicData.Contracts (Adapter)
open ForensicData.Lib
open ForensicData.Reporting (canonicalJson)
open ForensicData.Result

/-! ## Requests -/

/-- `ExecutionBudgets`, with its concurrency fields; its version is 1. -/
structure ExecutionPolicy extends ExecutionBudgets where
  maxChecksConcurrency : ℕ
  maxSourceConcurrency : ℕ

/-- `_execution_policy_semantics`, which is `_execution_budgets_semantic_value` too. -/
def executionPolicySemantics (policy : ExecutionPolicy) : Json :=
  .object
    [("max_application_result_bytes", .int policy.maxApplicationResultBytes),
     ("max_attempts", .int policy.maxAttempts),
     ("max_checks_concurrency", .int policy.maxChecksConcurrency),
     ("max_coordinator_memory_bytes", .int policy.maxCoordinatorMemoryBytes),
     ("max_depth", .int policy.maxDepth),
     ("max_evidence_bytes", .int policy.maxEvidenceBytes),
     ("max_evidence_rows", .int policy.maxEvidenceRows),
     ("max_fetched_records", .int policy.maxFetchedRecords),
     ("max_fingerprint_nodes", .int policy.maxFingerprintNodes),
     ("max_full_scans_per_side", .int policy.maxFullScansPerSide),
     ("max_queries", .int policy.maxQueries),
     ("max_source_concurrency", .int policy.maxSourceConcurrency),
     ("run_timeout_milliseconds", .int policy.runTimeoutMilliseconds),
     ("statement_timeout_milliseconds", .int policy.statementTimeoutMilliseconds),
     ("version", .int 1)]

/-- `RunRequestDefinition`; its scope, its batches and its evidence policy are given by
their semantic values. -/
structure RunRequestDefinition where
  requestId : Uuid
  contractVersionId : Uuid
  origin : NonblankText
  scopeDigest : Sha256Hex
  scope : Json
  expectedBatches : Json
  executionPolicy : ExecutionPolicy
  evidencePolicy : Json
  requestIdentityDigest : Sha256Hex

/-- `run_request_semantic_value`. -/
def runRequestSemanticValue (request : RunRequestDefinition) : Json :=
  .object
    [("contract_version_id", .string (uuidText request.contractVersionId)),
     ("evidence_policy", request.evidencePolicy),
     ("execution_policy", executionPolicySemantics request.executionPolicy),
     ("expected_batches", request.expectedBatches),
     ("origin", .string request.origin.1),
     ("request_version", .int 1),
     ("scope", request.scope)]

/-- The columns of a request. -/
def RunRequestDefinition.columns (request : RunRequestDefinition) : RunRequest where
  requestId := request.requestId
  contractVersionId := request.contractVersionId
  origin := request.origin.1
  scopeDigest := request.scopeDigest
  requestIdentityDigest := request.requestIdentityDigest
  payloadJson := canonicalJson (runRequestSemanticValue request)

/-- The payload of a request tells its budget of attempts. -/
theorem maxAttempts_of_payloadJson {request other : RunRequestDefinition}
    (h : request.columns.payloadJson = other.columns.payloadJson) :
    request.executionPolicy.maxAttempts = other.executionPolicy.maxAttempts := by
  have hrender := String.ofList_injective h
  have hvalue := Json.render_injective hrender
  simp only [runRequestSemanticValue, executionPolicySemantics, Json.object.injEq,
    List.cons.injEq, Prod.mk.injEq, Json.int.injEq, Nat.cast_inj, true_and] at hvalue
  exact hvalue.2.2.1.2.1

/-! ## Rows -/

/-- A row of `dfe_metadata.runs`. -/
structure LifecycleRun extends RunRow where
  boundInputCutPayload : Option String
  cutBoundAt : Option Instant
  terminalAt : Option Instant

/-- A row of `dfe_metadata.run_attempts`; a terminal reason stands for its canonical
text. -/
structure AttemptRow where
  attemptId : Uuid
  runId : Uuid
  ordinal : ℕ
  startOperationId : Uuid
  status : AttemptStatus
  executionBudgets : String
  ownerToken : Uuid
  leaseRevision : ℕ
  leaseOperationId : Option Uuid
  initialLeaseExpiresAt : Instant
  leaseExpiresAt : Instant
  inputCutDigest : Option Sha256Hex
  cutOperationId : Option Uuid
  cutObservedAt : Option Instant
  endOperationId : Option Uuid
  terminalReason : Option ResultReason
  startedAt : Instant
  endedAt : Option Instant

/-- A row of `dfe_metadata.attempt_lease_renewals`. -/
structure LeaseRenewal where
  leaseOperationId : Uuid
  runId : Uuid
  attemptId : Uuid
  ownerToken : Uuid
  expectedLeaseRevision : ℕ
  requestedLeaseExpiresAt : Instant
  resultingLeaseRevision : ℕ
  deriving DecidableEq

inductive ReadContextStatus where
  | active
  | closed
  | lost
  deriving DecidableEq, Repr

/-- The columns of `dfe_metadata.attempt_read_contexts` that an acquisition inserts. -/
structure ReadContextAcquisition where
  readContextId : Uuid
  runId : Uuid
  attemptId : Uuid
  datasetVersionId : Uuid
  direction : PlanDirection
  acquisitionOperationId : Uuid
  scopeDigest : Sha256Hex
  engine : Adapter
  driverVersion : String
  serverVersion : String
  serverVersionNumber : ℕ
  strategy : String
  snapshotLocator : Option String
  backendProcessId : Option ℕ
  allowedConcurrency : ℕ
  limitations : String
  acquisitionEvidence : String
  startedAt : Instant
  deriving DecidableEq

/-- A row with the columns that its end sets. -/
structure ReadContextRow extends ReadContextAcquisition where
  state : ReadContextStatus
  endOperationId : Option Uuid
  endedAt : Option Instant
  closureEvidence : Option String

/-- A row of `dfe_metadata.dataset_observations`. -/
structure ObservationRow where
  observationId : Uuid
  observationOperationId : Uuid
  runId : Uuid
  attemptId : Uuid
  readContextId : Uuid
  datasetVersionId : Uuid
  direction : PlanDirection
  scopeDigest : Sha256Hex
  inputCutDigest : Sha256Hex
  readinessEvidence : String
  physicalSchemaDigest : Sha256Hex
  physicalBindingDigest : Sha256Hex
  physicalBinding : String
  projectionCodeArtifactId : Option Uuid
  readinessProviderKind : String
  readinessCodeArtifactId : Option Uuid
  observedAt : Instant
  deriving DecidableEq

/-- A row of `dfe_metadata.check_results` or `dfe_metadata.partial_check_results`, by its
identities. -/
structure ResultReceipt where
  runId : Uuid
  attemptId : Uuid
  operationId : Uuid

structure LifecycleStore where
  runs : List LifecycleRun
  attempts : List AttemptRow
  renewals : List LeaseRenewal
  contexts : List ReadContextRow
  observations : List ObservationRow
  checkResults : List ResultReceipt
  partialCheckResults : List ResultReceipt
  now : Instant

/-- The store of a migrated database that no run has been claimed in. -/
def LifecycleStore.empty (now : Instant) : LifecycleStore where
  runs := []
  attempts := []
  renewals := []
  contexts := []
  observations := []
  checkResults := []
  partialCheckResults := []
  now := now

/-! ## Records of the callers -/

/-- `ClaimedRun`, with its request. -/
structure RequestedRun extends ClaimedRun where
  request : RunRequestDefinition

/-- `_expectation_for_claimed_run`. -/
def RequestedRun.expectation (run : RequestedRun) : RunExpectation where
  candidateRunId := run.runId
  creationOperationId := run.creationOperationId
  request := run.request.columns

/-- `RunAttemptRecord`, with the request of its run. -/
structure HeldAttempt extends RunAttemptRecord where
  request : RunRequestDefinition

def HeldAttempt.requestedRun (attempt : HeldAttempt) : RequestedRun :=
  { attempt.run with request := attempt.request }

/-- `_AttemptExpectation`: its budgets are the execution policy of its request. -/
structure AttemptExpectation where
  candidateAttemptId : Uuid
  startOperationId : Uuid
  run : RequestedRun
  ownerToken : Uuid
  leaseExpiresAt : Instant

/-- `_LeaseRenewalExpectation`. -/
structure LeaseRenewalExpectation where
  attempt : HeldAttempt
  operationId : Uuid
  leaseExpiresAt : Instant

/-- `_ContextExpectation`: the acquisition holds the columns of its definition. -/
structure ContextExpectation where
  attempt : HeldAttempt
  readContextId : Uuid
  datasetVersionId : Uuid
  direction : PlanDirection
  acquisitionOperationId : Uuid
  engine : Adapter
  driverVersion : String
  serverVersion : String
  serverVersionNumber : ℕ
  strategy : String
  snapshotLocator : Option String
  backendProcessId : Option ℕ
  allowedConcurrency : ℕ
  limitations : String
  acquisitionEvidence : String
  startedAt : Instant

def ContextExpectation.acquisition (expected : ContextExpectation) : ReadContextAcquisition where
  readContextId := expected.readContextId
  runId := expected.attempt.run.runId
  attemptId := expected.attempt.attemptId
  datasetVersionId := expected.datasetVersionId
  direction := expected.direction
  acquisitionOperationId := expected.acquisitionOperationId
  scopeDigest := expected.attempt.request.scopeDigest
  engine := expected.engine
  driverVersion := expected.driverVersion
  serverVersion := expected.serverVersion
  serverVersionNumber := expected.serverVersionNumber
  strategy := expected.strategy
  snapshotLocator := expected.snapshotLocator
  backendProcessId := expected.backendProcessId
  allowedConcurrency := expected.allowedConcurrency
  limitations := expected.limitations
  acquisitionEvidence := expected.acquisitionEvidence
  startedAt := expected.startedAt

/-- `_ObservationExpectation`, with the columns of its definition. -/
structure ObservationExpectation where
  observationId : Uuid
  observationOperationId : Uuid
  readContextId : Uuid
  datasetVersionId : Uuid
  direction : PlanDirection
  readinessJson : String
  physicalSchemaDigest : Sha256Hex
  physicalBindingDigest : Sha256Hex
  physicalBindingJson : String
  projectionCodeArtifactId : Option Uuid
  observedAt : Instant

/-- `_CutExpectation`. -/
structure CutExpectation where
  attempt : HeldAttempt
  cutBindingOperationId : Uuid
  attemptCutOperationId : Uuid
  inputCutJson : String
  inputCutDigest : Sha256Hex
  observations : ObservationExpectation × ObservationExpectation
  recordedAt : Instant

def CutExpectation.observationRow (cut : CutExpectation) (expected : ObservationExpectation) :
    ObservationRow where
  observationId := expected.observationId
  observationOperationId := expected.observationOperationId
  runId := cut.attempt.run.runId
  attemptId := cut.attempt.attemptId
  readContextId := expected.readContextId
  datasetVersionId := expected.datasetVersionId
  direction := expected.direction
  scopeDigest := cut.attempt.request.scopeDigest
  inputCutDigest := cut.inputCutDigest
  readinessEvidence := expected.readinessJson
  physicalSchemaDigest := expected.physicalSchemaDigest
  physicalBindingDigest := expected.physicalBindingDigest
  physicalBinding := expected.physicalBindingJson
  projectionCodeArtifactId := expected.projectionCodeArtifactId
  readinessProviderKind := "relation_manifest"
  readinessCodeArtifactId := none
  observedAt := expected.observedAt

/-- The arguments of `_finish_context_once`, whose target is an ended state, and of
`_ClickHouseContextClosureExpectation`. -/
structure ContextEnd where
  attempt : HeldAttempt
  readContextId : Uuid
  endOperationId : Uuid
  endedAt : Instant

/-- `_ClickHouseContextClosureExpectation`. -/
structure ClickHouseContextClosure extends ContextEnd where
  direction : PlanDirection
  acquisitionEvidenceJson : String
  closureEvidenceJson : String

/-- The statuses that an outcome without a completed comparison gives an attempt. -/
def AttemptStatus.IsOutcome (status : AttemptStatus) : Prop :=
  status = .incomplete ∨ status = .error ∨ status = .abandoned

/-- `_OutcomeExpectation`. -/
structure OutcomeExpectation where
  attempt : HeldAttempt
  operationId : Uuid
  status : AttemptStatus
  reason : ResultReason
  endedAt : Instant
  status_outcome : status.IsOutcome

/-- What `_CompletedComparisonExpectation` and `_PartialComparisonExpectation` share of the
lifecycle tables. -/
structure ComparisonExpectation where
  attempt : HeldAttempt
  operationId : Uuid
  readContextIds : List Uuid
  endedAt : Instant

/-- `_PartialComparisonExpectation`. -/
structure PartialExpectation extends ComparisonExpectation where
  status : AttemptStatus
  reason : ResultReason
  inputCutDigest : Sha256Hex
  status_outcome : status.IsOutcome

end ForensicData.Persistence
