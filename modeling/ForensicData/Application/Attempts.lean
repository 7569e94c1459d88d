/-
ForensicData.Application.Attempts — the failure an attempt ends with.

An attempt that does not complete is stopped by an early outcome, by keys that
do not map or by an exception of a source; closing its contexts may fail after
that. Its primary reason carries the consistency and the metrics of the attempt
in its parameters.
-/
import ForensicData.Application.Cleanup
import ForensicData.Application.StoredReasons
import ForensicData.Comparison.Partial

namespace ForensicData.Application

open ForensicData.Comparison
open ForensicData.Result

variable {Body Cut : Type} {recordBytes : DifferenceRecord Body → ℕ}

/-! ## Coverage and metrics -/

theorem nothing_covered : (0 : ℕ) ≤ 0 := Nat.le_refl 0

theorem partition_uncovered : (0 : ℕ) ≤ 1 := Nat.zero_le 1

theorem nothing_unresolved : ([] : List ReasonCode) = [] ↔ (0 : ℕ) = 0 := by simp

/-- `_empty_comparison_coverage`. -/
def emptyComparisonCoverage : ComparisonCoverage where
  totalPartitions := 0
  coveredPartitions := 0
  resolvedSegments := 0
  prunedSegments := 0
  exactSegments := 0
  unresolvedSegments := 0
  unresolvedReasons := []
  covered_le_total := nothing_covered
  resolved_eq := rfl
  covered_le_resolved := nothing_covered
  unresolved_uncovered := fun h => absurd h (Nat.lt_irrefl 0)
  reasons_iff := nothing_unresolved

/-- `_mapping_failure_coverage`. -/
def mappingFailureCoverage : ComparisonCoverage where
  totalPartitions := 1
  coveredPartitions := 0
  resolvedSegments := 0
  prunedSegments := 0
  exactSegments := 0
  unresolvedSegments := 1
  unresolvedReasons := [.lossyTransport]
  covered_le_total := partition_uncovered
  resolved_eq := rfl
  covered_le_resolved := nothing_covered
  unresolved_uncovered := fun _ => Nat.zero_ne_one
  reasons_iff := by simp

/-- `_empty_evidence_coverage`. -/
def emptyEvidenceCoverage : EvidenceCoverage := noEvidence

/-- The metrics of a snapshot of the source budget, with the counters that only
the engine keeps. -/
def usageMetrics (usage : SourceUsageSnapshot) (fingerprintNodes coordinatorPeakBytes : ℕ) :
    ResultMetrics where
  queries := usage.queries
  fetchedRecords := usage.fetchedRecords
  resultBytes := usage.resultBytes
  fingerprintNodes := fingerprintNodes
  coordinatorPeakBytes := coordinatorPeakBytes
  elapsedMilliseconds := usage.elapsedMilliseconds

/-- `_result_metrics_from_source_budget`. -/
def resultMetricsFromSourceBudget (usage : SourceUsageSnapshot) : ResultMetrics :=
  usageMetrics usage 0 0

/-! ## Parameters appended to a reason -/

/-- The parameters after those of the reason, unless one of their names is taken. -/
def appendParameters (reason : ResultReason) (parameters : List SafeParameter)
    (message : String) : Except Refusal ResultReason :=
  if ∃ item ∈ parameters, item.name ∈ reason.safeParameters.map (·.name) then
    .error (applicationStateError message)
  else .ok { reason with safeParameters := reason.safeParameters ++ parameters }

/-- The reason without the parameters of the names. -/
def dropParameters (reason : ResultReason) (names : List String) : ResultReason :=
  { reason with
    safeParameters := reason.safeParameters.filter fun item => decide (item.name ∉ names) }

/-- `_reason_with_failure_consistency`. -/
def reasonWithFailureConsistency (reason : ResultReason) (state : ConsistencyState)
    (metrics : ResultMetrics) : Except Refusal ResultReason :=
  appendParameters reason (failureConsistencyParameters state ++ failureMetricsParameters metrics)
    "attempt reason conflicts with failure consistency parameters"

/-- `_reason_with_failure_metrics`. -/
def reasonWithFailureMetrics (reason : ResultReason) (metrics : ResultMetrics) :
    Except Refusal ResultReason :=
  appendParameters reason (failureMetricsParameters metrics)
    "attempt reason conflicts with failure metric parameters"

/-- `_reason_with_cleanup_state`. -/
def reasonWithCleanupState (reason : ResultReason) (state : ConsistencyState) :
    Except Refusal ResultReason :=
  appendParameters reason (cleanupStateParameters state)
    "attempt reason conflicts with cleanup state parameters"

/-- `_reason_without_failure_consistency`. -/
def reasonWithoutFailureConsistency (reason : ResultReason) : Except Refusal ResultReason := do
  match ← failureConsistencyFromReason reason with
  | none => return reason
  | some state =>
    return dropParameters reason ((failureConsistencyParameters state).map (·.name))

/-- `_reason_with_replaced_failure_metrics`. -/
def reasonWithReplacedFailureMetrics (reason : ResultReason) (metrics : ResultMetrics) :
    ResultReason :=
  let retained := dropParameters reason ((failureMetricsParameters metrics).map (·.name))
  { retained with safeParameters := retained.safeParameters ++ failureMetricsParameters metrics }

/-! ## Failures before a comparison ends -/

/-- What the body of an attempt holds when it stops: its resources, at most one a
side, and the input cut, which is persisted after both contexts. -/
structure AttemptState (Cut : Type) where
  resources : List AttemptResource
  persistedCut : Option Cut
  resources_le : resources.length ≤ 2
  ids_lt : ∀ id ∈ contextIds resources, id < 2 ^ 128
  cut_contexts : persistedCut.isSome = true → (contextIds resources).length = 2

/-- A failure without evidence: its reason with the state and the metrics, and
nothing compared. -/
def failureWithoutEvidence (executionStatus : ExecutionStatus) (reason : ResultReason)
    (retryable : Bool) (state : ConsistencyState) (metrics : ResultMetrics) :
    Except Refusal (AttemptFailure recordBytes Cut) := do
  let reason ← reasonWithFailureConsistency reason state metrics
  return {
    executionStatus, verdict := .inconclusive, reason, additionalReasons := [], retryable
    contextIds := state.contextIds, stableReads := state.stableReads, cutAligned := state.cutAligned
    comparisonCoverage := emptyComparisonCoverage, evidenceCoverage := emptyEvidenceCoverage
    metrics, partialArtifact := none, persistedCut := none }

/-- `_failure_from_early_outcome`. -/
def failureFromEarlyOutcome (outcome : EarlyExecutionOutcome) (contextIds : List Uuid)
    (cutAligned : Bool) (metrics : ResultMetrics) :
    Except Refusal (AttemptFailure recordBytes Cut) :=
  failureWithoutEvidence outcome.executionStatus outcome.reason
    (decide (outcome.executionStatus = .incomplete))
    { contextIds, stableReads := .unknown, cutAligned } metrics

/-- The state of an attempt stopped by an exception. -/
def AttemptState.unknownReads (state : AttemptState Cut) : ConsistencyState where
  contextIds := contextIds state.resources
  stableReads := .unknown
  cutAligned := state.persistedCut.isSome

/-- `_failure_from_error`. -/
def failureFromError (executionStatus : ExecutionStatus) (reasonCode : ReasonCode)
    (operation message : String) (error : SourceError) (retryable : Bool)
    (state : AttemptState Cut) (usage : SourceUsageSnapshot) :
    Except Refusal (AttemptFailure recordBytes Cut) :=
  failureWithoutEvidence executionStatus (reasonFromSourceError reasonCode operation message error)
    retryable state.unknownReads (resultMetricsFromSourceBudget usage)

/-- `_failure_from_terminal_source_reason`. -/
def failureFromTerminalSourceReason (reason : ResultReason) (state : AttemptState Cut)
    (usage : SourceUsageSnapshot) : Except Refusal (AttemptFailure recordBytes Cut) :=
  failureWithoutEvidence .incomplete reason false state.unknownReads
    (resultMetricsFromSourceBudget usage)

/-- `_failure_from_unsupported_source_error`. -/
def failureFromUnsupportedSourceError (operation message : String) (error : SourceError)
    (state : AttemptState Cut) (usage : SourceUsageSnapshot) :
    Except Refusal (AttemptFailure recordBytes Cut) :=
  failureFromError .error .unsupportedCapability operation message error false state usage

/-- `_failure_from_unsupported_comparison`. -/
def failureFromUnsupportedComparison (error : SourceError) (state : AttemptState Cut)
    (usage : SourceUsageSnapshot) : Except Refusal (AttemptFailure recordBytes Cut) := do
  let message ← unsupportedComparisonMessage error
  failureFromUnsupportedSourceError "compare" message error state usage

/-- `_failure_from_attempt_error`. -/
def failureFromAttemptError (error : SourceError) (state : AttemptState Cut)
    (usage : SourceUsageSnapshot)
    (greenplumEndpointDirection clickhouseEndpointDirection : Option PlanDirection) :
    Except Refusal (AttemptFailure recordBytes Cut) :=
  if error.isOneOf [.unsupportedComparisonError] = true then
    failureFromUnsupportedComparison error state usage
  else if error.isOneOf [.mssqlQueryTimeoutError] = true then
    failureFromTerminalSourceReason (mssqlQueryTimeoutReason error) state usage
  else if error.isOneOf [.clickHouseResultLimitError, .mssqlResultLimitError,
      .originalGreenplumResultLimitError, .postgresResultLimitError] = true then
    failureFromError .incomplete .budgetExhausted "read_source"
      "a bounded source read exceeded its configured result budget" error false state usage
  else if error.isOneOf [.clickHouseAttemptDeadlineExceededError, .comparisonBudgetExceededError,
      .greengageBudgetExceededError, .originalGreenplumBudgetExceededError,
      .postgresReadDeadlineExceededError, .postgresSourceBudgetExceededError] = true then
    failureFromError .incomplete .budgetExhausted "compare"
      "the check exhausted an immutable execution budget" error false state usage
  else if error.isOneOf [.mssqlCancellationConfirmedError] = true then
    failureFromTerminalSourceReason (mssqlConfirmedCancellationReason error) state usage
  else if error.isOneOf [.mssqlCancellationUnconfirmedError] = true then
    failureFromTerminalSourceReason (mssqlUnconfirmedCancellationReason error) state usage
  else if error.isOneOf [.clickHouseCancellationUnconfirmedError] = true then do
    let direction ← requireClickhouseEndpointDirection clickhouseEndpointDirection
    failureFromTerminalSourceReason (clickhouseUnconfirmedCancellationReason error direction) state
      usage
  else if error.isOneOf [.unsupportedMssqlRelationError] = true then do
    let message ← actionableMssqlErrorMessage error "SQL Server relation refusal"
    failureFromUnsupportedSourceError "inspect_source_relation" message error state usage
  else if error.isOneOf [.mssqlLoweringError] = true then do
    let message ← actionableMssqlErrorMessage error "SQL Server query lowering refusal"
    failureFromUnsupportedSourceError "compile_source_query" message error state usage
  else if error.isOneOf [.clickHouseProtectedContextConfirmationError,
      .clickHouseProtectedContextLostError, .greenplumContextLostError,
      .greengageAcquisitionRaceError, .mssqlContextLostError, .mssqlMetadataError,
      .originalGreenplumAcquisitionRaceError, .postgresAcquisitionRaceError,
      .postgresContextLostError] = true then
    failureFromError .incomplete .snapshotLost "read_source"
      "a protected source snapshot was lost before completion" error true state usage
  else if error.isOneOf [.greenplumConnectionError, .greenplumQueryError, .mssqlConnectionError,
      .mssqlQueryError, .postgresConnectionError, .postgresMetadataError,
      .postgresQueryError] = true then
    failureFromError .error .queryError "read_source" "a source operation failed" error true state
      usage
  else if error.isOneOf [.unsupportedPostgresProfileError] = true then
    failureFromUnsupportedSourceError "open_source"
      "a source does not satisfy the required runtime profile" error state usage
  else if error.isOneOf [.unsupportedMssqlProfileError] = true then do
    let message ← actionableMssqlErrorMessage error "SQL Server profile refusal"
    failureFromUnsupportedSourceError "open_source" message error state usage
  else if error.isOneOf [.unsupportedClickHouseProfileError] = true then do
    let direction ← requireClickhouseEndpointDirection clickhouseEndpointDirection
    failureFromUnsupportedSourceError s!"open_{direction.value}"
      s!"the ClickHouse {direction.value} does not satisfy its protected-read profile" error state
      usage
  else if error.isOneOf [.unsupportedGreenplumProfileError, .greenplumMetadataError] = true then
    let (operation, message) := greenplumUnsupportedErrorContext greenplumEndpointDirection
    failureFromUnsupportedSourceError operation message error state usage
  else if error.isOneOf [.acquisitionValidationError, .clickHouseDataValidationError,
      .clickHouseProtectedContextClosedError, .clickHouseTransportAttemptMismatchError,
      .clickHouseTransportClosedError, .comparisonProtocolError, .greenplumContextClosedError,
      .greenplumDataValidationError, .mssqlContextClosedError, .mssqlDataValidationError,
      .mssqlQueryContextError, .postgresContextClosedError, .postgresDataValidationError,
      .postgresQueryContextError] = true then
    failureFromError .error .protocolViolation "execute_check"
      "source evidence violated the declared check protocol" error false state usage
  else if error.isOneOf [.mssqlTransportError] = true then
    failureFromError .error .queryError "read_source" "a SQL Server source operation failed" error
      true state usage
  else if error.isOneOf [.clickHouseProtectedContextCleanupError,
      .clickHouseTransportCleanupError] = true then do
    let direction ← requireClickhouseEndpointDirection clickhouseEndpointDirection
    failureFromError .incomplete .cancellationUnconfirmed s!"cleanup_{direction.value}"
      s!"ClickHouse {direction.value} transport cleanup could not be established" error false state
      usage
  else if error.isOneOf [.clickHouseTransportError] = true then do
    let direction ← requireClickhouseEndpointDirection clickhouseEndpointDirection
    failureFromError .error .queryError s!"read_{direction.value}"
      s!"a ClickHouse {direction.value} operation failed" error true state usage
  else
    .error { error := .assertionError, message := s!"unhandled attempt error {error.className}" }

/-! ## Keys that do not map -/

/-- `_consistency_state_for_active_cut`. -/
def AttemptState.activeCut (state : AttemptState Cut) : ConsistencyState :=
  let contexts := contextIds state.resources
  let clickhouse := state.resources.filterMap (·.clickHouse)
  { contextIds := contexts
    stableReads :=
      if state.persistedCut.isSome = false ∨ contexts.length ≠ 2 then .unknown
      else if clickhouse.any (· ≠ .active) = true then .unknown
      else if clickhouse ≠ [] then .asserted
      else .verified
    cutAligned := state.persistedCut.isSome }

/-- The handler of a `ComparisonKeyMappingError` that was raised without a partial
artifact. -/
def failureFromKeyMapping (reference target : KeySummary) (metrics : ResultMetrics)
    (referenceFullScans targetFullScans : ℕ) (state : AttemptState Cut) :
    Except Refusal (AttemptFailure recordBytes Cut) := do
  let finding : KeyMappingFinding := {
    referenceSummary := reference, targetSummary := target, metrics
    referenceFullScans, targetFullScans
    contractViolationReason := structuralContractViolationReason reference target }
  let contractReason := finding.contractViolationReason
  let mappingState := state.activeCut
  let reason ← reasonWithFailureConsistency
    (reasonOf .lossyTransport "validate_key_mapping"
      "scoped key values cannot map losslessly to logical INT64"
      (mappingErrorParameters finding mappingState.contextIds))
    mappingState metrics
  return {
    executionStatus := .error
    verdict := if contractReason.isSome = true then .mismatch else .inconclusive
    reason
    additionalReasons := contractReason.toList
    retryable := false
    contextIds := mappingState.contextIds
    stableReads := mappingState.stableReads
    cutAligned := mappingState.cutAligned
    comparisonCoverage := mappingFailureCoverage
    evidenceCoverage := emptyEvidenceCoverage
    metrics
    partialArtifact := none
    persistedCut := state.persistedCut }

/-! ## After the body -/

/-- `_degraded_stable_reads`. -/
def degradedStableReads (level : ConsistencyLevel) : ConsistencyLevel :=
  if level = .verified then .verified else .unknown

/-- `_combined_execution_status`. -/
def combinedExecutionStatus (current : ExecutionStatus) (cleanup : CleanupFailure) :
    ExecutionStatus :=
  if current = .error ∨ executionStatusForCleanupFailure cleanup = .error then .error
  else .incomplete

/-- `_failure_with_final_source_usage`, of a failure without a partial artifact. -/
def failureWithFinalSourceUsage (failure : AttemptFailure recordBytes Cut)
    (usage : SourceUsageSnapshot) : AttemptFailure recordBytes Cut :=
  let metrics := usageMetrics usage failure.metrics.fingerprintNodes
    failure.metrics.coordinatorPeakBytes
  { failure with
    reason := reasonWithReplacedFailureMetrics failure.reason metrics
    metrics }

/-- The failure of an interrupted or failed attempt gives way to a graver failure
of its cleanup. -/
def escalates (failure : AttemptFailure recordBytes Cut) (cleanup : CleanupFailure) : Bool :=
  failure.executionStatus = .incomplete
    ∧ executionStatusForFailureReason cleanup.reason = .error

/-- `_failure_with_secondary_context_loss`, of a failure without a partial
artifact. -/
def failureWithSecondaryContextLoss (failure : AttemptFailure recordBytes Cut)
    (cleanup : CleanupFailure) : Except Refusal (AttemptFailure recordBytes Cut) := do
  let state : ConsistencyState := {
    contextIds := failure.contextIds
    stableReads := degradedStableReads failure.stableReads
    cutAligned := failure.cutAligned }
  let combined (reason : ResultReason) (additionalReasons : List ResultReason) :
      AttemptFailure recordBytes Cut :=
    { failure with
      executionStatus := combinedExecutionStatus failure.executionStatus cleanup
      reason
      additionalReasons
      retryable := failure.retryable && cleanupFailureIsRetryable cleanup
      stableReads := state.stableReads }
  if escalates failure cleanup = true then
    let measured ← reasonWithFailureMetrics cleanup.reason failure.metrics
    let primary ← reasonWithCleanupState measured state
    let secondary ← reasonWithoutFailureConsistency failure.reason
    return combined primary
      (secondary :: (failure.additionalReasons ++ cleanup.additionalReasons))
  else
    let bare ← reasonWithoutFailureConsistency failure.reason
    let primary ← reasonWithCleanupState bare state
    return combined primary
      (failure.additionalReasons ++ cleanup.reason :: cleanup.additionalReasons)

/-- `_failure_from_cleanup_context_loss`. -/
def failureFromCleanupContextLoss (cleanup : CleanupFailure) (contextIds : List Uuid)
    (cutAligned : Bool) (metrics : ResultMetrics) :
    Except Refusal (AttemptFailure recordBytes Cut) := do
  let state : ConsistencyState := { contextIds, stableReads := .unknown, cutAligned }
  let reason ← reasonWithFailureMetrics cleanup.reason metrics
  let reason ← reasonWithCleanupState reason state
  return {
    executionStatus := executionStatusForCleanupFailure cleanup
    verdict := .inconclusive
    reason
    additionalReasons := cleanup.additionalReasons
    retryable := cleanupFailureIsRetryable cleanup
    contextIds := state.contextIds
    stableReads := state.stableReads
    cutAligned := state.cutAligned
    comparisonCoverage := emptyComparisonCoverage
    evidenceCoverage := emptyEvidenceCoverage
    metrics
    partialArtifact := none
    persistedCut := none }

/-! ## The end of an attempt -/

/-- The parameters that the acquisition and the readiness code give the reasons of
early outcomes. -/
inductive EarlyParameters : List SafeParameter → Prop where
  | none : EarlyParameters []
  | dataset (direction : PlanDirection) (datasetId : String) :
    EarlyParameters [parameter "direction" direction.value, parameter "dataset_id" datasetId]
  | request (direction : PlanDirection) (endpointProfile datasetId : String) :
    EarlyParameters [parameter "direction" direction.value,
      parameter "endpoint_profile" endpointProfile, parameter "dataset_id" datasetId]

/-- What stops the body of `_execute_attempt` before there is an artifact, complete
or partial. -/
inductive AttemptStop where
  | early (outcome : EarlyExecutionOutcome) (shown : EarlyParameters outcome.reason.safeParameters)
  | keyMapping (reference target : KeySummary) (metrics : ResultMetrics)
      (referenceFullScans targetFullScans : ℕ)
  | raised (error : SourceError)
      (greenplumEndpointDirection clickhouseEndpointDirection : Option PlanDirection)

/-- The failure that the handlers of `_execute_attempt` make of a stop. -/
def AttemptStop.failure (state : AttemptState Cut) (usage : SourceUsageSnapshot) :
    AttemptStop → Except Refusal (AttemptFailure recordBytes Cut)
  | .early outcome _ =>
    failureFromEarlyOutcome outcome (contextIds state.resources) false
      (resultMetricsFromSourceBudget usage)
  | .keyMapping reference target metrics referenceFullScans targetFullScans =>
    failureFromKeyMapping reference target metrics referenceFullScans targetFullScans state
  | .raised error greenplumEndpointDirection clickhouseEndpointDirection =>
    failureFromAttemptError error state usage greenplumEndpointDirection
      clickhouseEndpointDirection

/-- How an attempt without an artifact ends: refused before it reads anything, or
executed, stopped (or not) and its contexts closed; `stopped` and `final` are the
snapshots of the source budget. -/
inductive AttemptEnd (Cut : Type) where
  | refused (outcome : EarlyExecutionOutcome)
      (shown : EarlyParameters outcome.reason.safeParameters) (usage : SourceUsageSnapshot)
  | executed (stop : Option AttemptStop) (state : AttemptState Cut)
      (stopped final : SourceUsageSnapshot) (closing : List ClosingResource)

/-- The failure after the body of `_execute_attempt`, and after its cleanup. -/
def failureAfterCleanup (stop : Option (AttemptFailure recordBytes Cut)) (state : AttemptState Cut)
    (final : SourceUsageSnapshot) :
    Option CleanupFailure → Except Refusal (Option (AttemptFailure recordBytes Cut))
  | none => .ok (stop.map fun failure => failureWithFinalSourceUsage failure final)
  | some cleanup => do
    let combined ←
      match stop with
      | some failure =>
        failureWithSecondaryContextLoss (failureWithFinalSourceUsage failure final) cleanup
      | none =>
        failureFromCleanupContextLoss cleanup (contextIds state.resources)
          state.persistedCut.isSome (resultMetricsFromSourceBudget final)
    return some combined

/-- The failure of `_execute_attempt` without an artifact, or of an attempt that
`execute_check` does not execute. -/
def AttemptEnd.failure :
    AttemptEnd Cut → Except Refusal (Option (AttemptFailure recordBytes Cut))
  | .refused outcome _ usage => do
    let failure ← failureFromEarlyOutcome outcome [] false (resultMetricsFromSourceBudget usage)
    return some failure
  | .executed stop state stopped final closing =>
    match closeAttemptResources closing with
    | .error error => .error error.cause.refusal
    | .ok cleanup =>
      match stop with
      | none => failureAfterCleanup none state final cleanup
      | some stop => do
        let failure ← stop.failure state stopped
        failureAfterCleanup (some failure) state final cleanup

end ForensicData.Application
