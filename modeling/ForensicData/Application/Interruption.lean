/-
ForensicData.Application.Interruption — the published reason of an interrupted comparison.

`_failure_from_comparison_interruption` classifies the cause of the
interruption a second time, after `_interruption_reason_code` has given the
unresolved ranges of the partial artifact their reason.
-/
import ForensicData.Application.Failure
import ForensicData.Comparison.Partial

namespace ForensicData.Application

open ForensicData.Comparison
open ForensicData.Result

variable {Body Cut : Type} {recordBytes : DifferenceRecord Body → ℕ}

/-- `ComparisonInterruptedError`. -/
structure ComparisonInterruptedError (recordBytes : DifferenceRecord Body → ℕ) where
  cause : SourceError
  artifact : PartialComparisonArtifact recordBytes

/-- How a failure is published: its status, its reason and whether another
attempt may be made. -/
structure FailureClass where
  executionStatus : ExecutionStatus
  reason : ResultReason
  retryable : Bool
  deriving DecidableEq

/-- The status, reason and retryability that `_failure_from_comparison_interruption`
gives the cause. -/
def interruptionFailureClass (error : SourceError) (contextIds : List Uuid)
    (clickhouseEndpointDirection : Option PlanDirection) : Except Refusal FailureClass :=
  if error.cause.isAny [.comparisonKeyMappingError] = true then
    .ok {
      executionStatus := .error
      reason := reasonOf .lossyTransport "validate_key_mapping"
        "scoped key values cannot map losslessly to logical INT64"
        (error.cause.keyMapping.elim [] fun finding => mappingErrorParameters finding contextIds)
      retryable := false }
  else if error.cause.isAny [.unsupportedComparisonError] = true then do
    let message ← unsupportedComparisonMessage error
    .ok {
      executionStatus := .error
      reason := reasonOf .unsupportedCapability "compare" message []
      retryable := false }
  else if error.cause.isAny [.mssqlQueryTimeoutError] = true then
    .ok {
      executionStatus := .incomplete
      reason := mssqlQueryTimeoutReason error
      retryable := false }
  else if error.cause.isAny [.comparisonBudgetExceededError, .greengageBudgetExceededError,
      .originalGreenplumBudgetExceededError, .clickHouseAttemptDeadlineExceededError,
      .clickHouseResultLimitError, .postgresReadDeadlineExceededError, .postgresResultLimitError,
      .postgresSourceBudgetExceededError, .mssqlResultLimitError] = true then
    .ok {
      executionStatus := .incomplete
      reason := reasonFromSourceError .budgetExhausted "compare"
        "the check exhausted an immutable execution budget" error
      retryable := false }
  else if error.cause.isAny [.mssqlCancellationConfirmedError] = true then
    .ok {
      executionStatus := .incomplete
      reason := mssqlConfirmedCancellationReason error
      retryable := false }
  else if error.cause.isAny [.mssqlCancellationUnconfirmedError] = true then
    .ok {
      executionStatus := .incomplete
      reason := mssqlUnconfirmedCancellationReason error
      retryable := false }
  else if error.cause.isAny [.clickHouseCancellationUnconfirmedError] = true then do
    let direction ← requireClickhouseEndpointDirection clickhouseEndpointDirection
    .ok {
      executionStatus := .incomplete
      reason := clickhouseUnconfirmedCancellationReason error direction
      retryable := false }
  else if error.cause.isAny [.postgresContextLostError, .postgresAcquisitionRaceError,
      .mssqlContextLostError, .mssqlMetadataError, .greenplumContextLostError,
      .greengageAcquisitionRaceError, .originalGreenplumAcquisitionRaceError,
      .clickHouseProtectedContextLostError, .clickHouseProtectedContextConfirmationError]
      = true then
    .ok {
      executionStatus := .incomplete
      reason := reasonOf .snapshotLost "read_source"
        "a protected source snapshot was lost before completion" [error.typeParameter]
      retryable := true }
  else if error.cause.isAny [.postgresConnectionError, .postgresQueryError, .postgresMetadataError,
      .mssqlConnectionError, .mssqlQueryError, .greenplumConnectionError, .greenplumQueryError]
      = true then
    .ok {
      executionStatus := .error
      reason := reasonFromSourceError .queryError "read_source" "a source operation failed" error
      retryable := true }
  else if error.cause.isAny [.unsupportedPostgresProfileError] = true then
    .ok {
      executionStatus := .error
      reason := reasonOf .unsupportedCapability "open_source"
        "a source does not satisfy the required runtime profile" [error.typeParameter]
      retryable := false }
  else if error.cause.isAny [.unsupportedMssqlProfileError] = true then do
    let message ← actionableMssqlErrorMessage error "SQL Server profile refusal"
    .ok {
      executionStatus := .error
      reason := reasonOf .unsupportedCapability "open_source" message [error.typeParameter]
      retryable := false }
  else if error.cause.isAny [.unsupportedClickHouseProfileError] = true then do
    let direction ← requireClickhouseEndpointDirection clickhouseEndpointDirection
    .ok {
      executionStatus := .error
      reason := reasonOf .unsupportedCapability s!"open_{direction.value}"
        s!"the ClickHouse {direction.value} does not satisfy its protected-read profile"
        [error.typeParameter]
      retryable := false }
  else if error.cause.isAny [.unsupportedGreenplumProfileError, .greenplumMetadataError] = true then
    .ok {
      executionStatus := .error
      reason := reasonOf .unsupportedCapability "compare"
        "a Greenplum-family endpoint does not satisfy the required runtime capability"
        [error.typeParameter]
      retryable := false }
  else if error.cause.isAny [.acquisitionValidationError, .comparisonProtocolError,
      .postgresContextClosedError, .postgresDataValidationError, .postgresQueryContextError,
      .mssqlContextClosedError, .mssqlDataValidationError, .mssqlQueryContextError,
      .greenplumContextClosedError, .greenplumDataValidationError,
      .clickHouseProtectedContextClosedError, .clickHouseDataValidationError,
      .clickHouseTransportAttemptMismatchError, .clickHouseTransportClosedError] = true then
    .ok {
      executionStatus := .error
      reason := reasonOf .protocolViolation "execute_check"
        "source evidence violated the declared check protocol" [error.typeParameter]
      retryable := false }
  else if error.cause.isAny [.mssqlTransportError] = true then
    .ok {
      executionStatus := .error
      reason := reasonOf .queryError "read_source" "a SQL Server source operation failed"
        [error.typeParameter]
      retryable := true }
  else if error.cause.isAny [.clickHouseProtectedContextCleanupError,
      .clickHouseTransportCleanupError] = true then
    .ok {
      executionStatus := .incomplete
      reason := clickhouseCleanupUncertaintyReason error
      retryable := false }
  else if error.cause.isAny [.clickHouseTransportError] = true then do
    let direction ← requireClickhouseEndpointDirection clickhouseEndpointDirection
    .ok {
      executionStatus := .error
      reason := reasonFromSourceError .queryError s!"read_{direction.value}"
        s!"a ClickHouse {direction.value} operation failed" error
      retryable := true }
  else
    .error {
      error := .assertionError
      message := s!"unhandled comparison interruption cause {error.className}" }

/-- `_partial_data_mismatch_reason`. -/
def partialDataMismatchReason (artifact : PartialComparisonArtifact recordBytes) : ResultReason :=
  let lowerBound (name : String) : Total → Option SafeParameter
    | .lowerBound value =>
      if value = 0 then none else some (parameter s!"{name}_lower_bound" (decimalText value))
    | _ => none
  let parameters := (["missing", "extra", "modified"].zipWith lowerBound
    artifact.totals.differences).filterMap id
  reasonOf .dataMismatch "compare_integer_key_rows"
    (if parameters = [] then "comparable fingerprints established a content difference"
      else "completed exact leaves established row differences")
    parameters

/-- The contract violation a key-mapping error found. -/
def SourceError.contractReasons (error : SourceError) : List ResultReason :=
  if error.isInstance .comparisonKeyMappingError = true then
    (error.cause.keyMapping.bind (·.contractViolationReason)).toList
  else []

/-- `_failure_from_comparison_interruption`. -/
def failureFromComparisonInterruption (error : ComparisonInterruptedError recordBytes)
    (resources : List AttemptResource) (persistedCut : Option Cut)
    (clickhouseEndpointDirection : Option PlanDirection) :
    Except Refusal (AttemptFailure recordBytes Cut) :=
  match persistedCut with
  | none => .error (applicationStateError
      "interrupted comparison requires its persisted aligned input cut")
  | some persistedCut => do
    let artifact := error.artifact
    let failureClass ← interruptionFailureClass error.cause artifact.consistency.readContextIds
      clickhouseEndpointDirection
    let contractReasons := error.cause.contractReasons
    let observedReasons :=
      if artifact.verdict = .mismatch ∧ ¬ (contractReasons.any fun item =>
          decide (item.code = .dataMismatch ∨ item.code = .contractViolation)) = true then
        contractReasons ++ [partialDataMismatchReason artifact]
      else contractReasons
    refuseIf (artifact.consistency.readContextIds ≠ contextIds resources)
      (applicationStateError
        "partial comparison context identity differs from the active attempt resources")
    let published := partialFailurePublicationValues (some artifact) artifact.verdict
      observedReasons
    .ok {
      executionStatus := failureClass.executionStatus
      verdict := published.1
      reason := failureClass.reason
      additionalReasons := published.2
      retryable := failureClass.retryable
      contextIds := artifact.consistency.readContextIds
      stableReads := artifact.consistency.stableReads
      cutAligned := decide (artifact.consistency.cutAlignment ≠ .unknown)
      comparisonCoverage := artifact.comparisonCoverage
      evidenceCoverage := artifact.evidenceCoverage
      metrics := artifact.metrics
      partialArtifact := some artifact
      persistedCut := some persistedCut }

end ForensicData.Application
