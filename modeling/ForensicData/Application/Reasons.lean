/-
ForensicData.Application.Reasons — the reasons the application gives for a failure.

A reason carries a code, an operation, a text and parameters that name the
exception and what it recorded. `ErrorClass.name` is `type(error).__name__`;
`ErrorDetails` holds the fields that the connector exceptions set and the
reasons read.
-/
import ForensicData.Comparison.Artifact
import ForensicData.Lib.Digits
import ForensicData.Text

namespace ForensicData

/-- `type(error).__name__`. -/
def ErrorClass.name : ErrorClass → String
  | .exception => "Exception"
  | .runtimeError => "RuntimeError"
  | .valueError => "ValueError"
  | .typeError => "TypeError"
  | .assertionError => "AssertionError"
  | .keyError => "KeyError"
  | .indexError => "IndexError"
  | .canonicalizationError => "CanonicalizationError"
  | .schemaValidationError => "SchemaValidationError"
  | .payloadValidationError => "PayloadValidationError"
  | .frameValidationError => "FrameValidationError"
  | .nullKeyError => "NullKeyError"
  | .fingerprintOverflowError => "FingerprintOverflowError"
  | .acquisitionValidationError => "AcquisitionValidationError"
  | .postgresLoweringError => "PostgresLoweringError"
  | .mssqlLoweringError => "MssqlLoweringError"
  | .comparisonExecutionError => "ComparisonExecutionError"
  | .unsupportedComparisonError => "UnsupportedComparisonError"
  | .comparisonBudgetExceededError => "ComparisonBudgetExceededError"
  | .comparisonProtocolError => "ComparisonProtocolError"
  | .comparisonKeyMappingError => "ComparisonKeyMappingError"
  | .postgresConnectorError => "PostgresConnectorError"
  | .postgresAcquisitionRaceError => "PostgresAcquisitionRaceError"
  | .postgresCloseError => "PostgresCloseError"
  | .postgresConnectionError => "PostgresConnectionError"
  | .postgresContextClosedError => "PostgresContextClosedError"
  | .postgresContextLostError => "PostgresContextLostError"
  | .postgresDataValidationError => "PostgresDataValidationError"
  | .postgresMetadataError => "PostgresMetadataError"
  | .postgresQueryContextError => "PostgresQueryContextError"
  | .postgresQueryError => "PostgresQueryError"
  | .postgresReadDeadlineExceededError => "PostgresReadDeadlineExceededError"
  | .postgresResultLimitError => "PostgresResultLimitError"
  | .postgresSourceBudgetExceededError => "PostgresSourceBudgetExceededError"
  | .unsupportedPostgresProfileError => "UnsupportedPostgresProfileError"
  | .mssqlTransportError => "MssqlTransportError"
  | .mssqlCancellationError => "MssqlCancellationError"
  | .mssqlCancellationConfirmedError => "MssqlCancellationConfirmedError"
  | .mssqlCancellationRequestTimeoutError => "MssqlCancellationRequestTimeoutError"
  | .mssqlCancellationUnconfirmedError => "MssqlCancellationUnconfirmedError"
  | .mssqlNoActiveQueryError => "MssqlNoActiveQueryError"
  | .mssqlWrongQueryIdError => "MssqlWrongQueryIdError"
  | .mssqlCloseError => "MssqlCloseError"
  | .mssqlConnectionError => "MssqlConnectionError"
  | .mssqlTransportClosedError => "MssqlTransportClosedError"
  | .mssqlContextClosedError => "MssqlContextClosedError"
  | .mssqlContextLostError => "MssqlContextLostError"
  | .mssqlDataValidationError => "MssqlDataValidationError"
  | .mssqlLossyTransportError => "MssqlLossyTransportError"
  | .mssqlMetadataError => "MssqlMetadataError"
  | .unsupportedMssqlRelationError => "UnsupportedMssqlRelationError"
  | .mssqlQueryContextError => "MssqlQueryContextError"
  | .mssqlQueryError => "MssqlQueryError"
  | .mssqlQueryTimeoutError => "MssqlQueryTimeoutError"
  | .mssqlSnapshotMetadataChangedQueryError => "MssqlSnapshotMetadataChangedQueryError"
  | .mssqlResultLimitError => "MssqlResultLimitError"
  | .mssqlThreadOwnershipError => "MssqlThreadOwnershipError"
  | .unsupportedMssqlProfileError => "UnsupportedMssqlProfileError"
  | .greenplumConnectorError => "GreenplumConnectorError"
  | .greenplumCloseError => "GreenplumCloseError"
  | .greenplumConnectionError => "GreenplumConnectionError"
  | .greenplumContextClosedError => "GreenplumContextClosedError"
  | .greenplumContextLostError => "GreenplumContextLostError"
  | .greenplumDataValidationError => "GreenplumDataValidationError"
  | .greenplumMetadataError => "GreenplumMetadataError"
  | .greenplumQueryError => "GreenplumQueryError"
  | .greengageAcquisitionRaceError => "GreengageAcquisitionRaceError"
  | .greengageBudgetExceededError => "GreengageBudgetExceededError"
  | .greengageResultLimitError => "GreengageResultLimitError"
  | .originalGreenplumAcquisitionRaceError => "OriginalGreenplumAcquisitionRaceError"
  | .originalGreenplumBudgetExceededError => "OriginalGreenplumBudgetExceededError"
  | .originalGreenplumResultLimitError => "OriginalGreenplumResultLimitError"
  | .unsupportedGreenplumProfileError => "UnsupportedGreenplumProfileError"
  | .clickHouseTransportError => "ClickHouseTransportError"
  | .clickHouseAttemptDeadlineExceededError => "ClickHouseAttemptDeadlineExceededError"
  | .clickHouseCancellationUnconfirmedError => "ClickHouseCancellationUnconfirmedError"
  | .clickHouseConnectionError => "ClickHouseConnectionError"
  | .clickHouseDataValidationError => "ClickHouseDataValidationError"
  | .clickHouseMutationFailureError => "ClickHouseMutationFailureError"
  | .clickHouseReplacingVersionAmbiguityError => "ClickHouseReplacingVersionAmbiguityError"
  | .clickHouseProtectedContextCleanupError => "ClickHouseProtectedContextCleanupError"
  | .clickHouseProtectedContextClosedError => "ClickHouseProtectedContextClosedError"
  | .clickHouseProtectedContextLostError => "ClickHouseProtectedContextLostError"
  | .clickHouseProtectedContextConfirmationError => "ClickHouseProtectedContextConfirmationError"
  | .clickHouseQueryError => "ClickHouseQueryError"
  | .clickHouseResultLimitError => "ClickHouseResultLimitError"
  | .clickHouseResponseLimitError => "ClickHouseResponseLimitError"
  | .clickHouseSourceAccountingError => "ClickHouseSourceAccountingError"
  | .clickHouseTransportAttemptMismatchError => "ClickHouseTransportAttemptMismatchError"
  | .clickHouseTransportCleanupError => "ClickHouseTransportCleanupError"
  | .clickHouseTransportClosedError => "ClickHouseTransportClosedError"
  | .unsupportedClickHouseProfileError => "UnsupportedClickHouseProfileError"
  | .applicationError => "ApplicationError"
  | .applicationStateError => "ApplicationStateError"
  | .metadataError => "MetadataError"
  | .metadataConnectionError => "MetadataConnectionError"
  | .metadataPersistenceError => "MetadataPersistenceError"
  | .datasetIdentityConflictError => "DatasetIdentityConflictError"
  | .immutableContractRevisionConflictError => "ImmutableContractRevisionConflictError"
  | .codeArtifactIntegrityError => "CodeArtifactIntegrityError"
  | .storedMetadataIntegrityError => "StoredMetadataIntegrityError"
  | .storedLifecycleIntegrityError => "StoredLifecycleIntegrityError"
  | .lifecyclePersistenceError => "LifecyclePersistenceError"
  | .runRequestConflictError => "RunRequestConflictError"
  | .lifecycleOperationConflictError => "LifecycleOperationConflictError"
  | .lifecycleTransactionError => "LifecycleTransactionError"
  | .lifecycleCommitUnknownError => "LifecycleCommitUnknownError"
  | .runLifecycleStateError => "RunLifecycleStateError"
  | .completedComparisonNotFoundError => "CompletedComparisonNotFoundError"
  | .activeRunAttemptError => "ActiveRunAttemptError"
  | .runAttemptLimitError => "RunAttemptLimitError"
  | .runInvocationContinuationError => "RunInvocationContinuationError"
  | .attemptFenceError => "AttemptFenceError"
  | .inputCutMismatchError => "InputCutMismatchError"
  | .contractError => "ContractError"
  | .contractValidationError => "ContractValidationError"
  | .contractReferenceError => "ContractReferenceError"
  | .unsupportedContractError => "UnsupportedContractError"
  | .scopeValueError => "ScopeValueError"

namespace Application

open ForensicData.Comparison
open ForensicData.Lib
open ForensicData.Result

/-! ## Values as text -/

/-- `value.strip()`. -/
def strip (value : String) : String :=
  String.ofList (((value.toList.dropWhile isPythonSpace).reverse.dropWhile isPythonSpace).reverse)

/-- `str` of a UUID: its 32 hexadecimal digits in groups of 8, 4, 4, 4 and 12. -/
def uuidText (id : Uuid) : String :=
  let digits := fixedDigits 16 32 id
  String.ofList (digits.take 8 ++ '-' :: ((digits.drop 8).take 4 ++ '-' :: ((digits.drop 12).take 4
    ++ '-' :: ((digits.drop 16).take 4 ++ '-' :: digits.drop 20))))

/-- `str(value)` for a nonnegative integer. -/
def decimalText (value : ℕ) : String := toString value

/-- `str(value)` for an integer. -/
def integerText (value : Int) : String :=
  if value < 0 then "-" ++ decimalText value.natAbs else decimalText value.natAbs

/-- `"none" if value is None else str(value)`. -/
def optionalText {α : Type} (text : α → String) (value : Option α) : String :=
  value.elim "none" text

/-- `PlanDirection`. -/
inductive PlanDirection where
  | reference
  | target
  deriving DecidableEq, Repr

def PlanDirection.value : PlanDirection → String
  | .reference => "reference"
  | .target => "target"

/-- `completion.value`. -/
def completionText : ClickHouseQueryCompletion → String
  | .notDispatched => "not_dispatched"
  | .serverTerminal => "server_terminal"
  | .cancelled => "cancelled"
  | .unconfirmed => "unconfirmed"

/-! ## Exceptions with their fields -/

/-- The fields of an exception that the reasons read, each set by the classes
that have it. -/
structure ErrorDetails where
  operation : String
  sqlstate : Option String
  errorCategory : String
  httpStatus : Option Int
  errorCode : Option Int
  errorName : Option String
  connectionAttempts : ℕ
  connectionQueryId : Option Uuid
  queryId : Uuid
  sessionId : Int
  confirmationSessionId : Int
  confirmationValue : Int
  confirmationFailure : String
  attemptId : Uuid
  triggerCause : String
  cancellationCause : String
  receivedResponseBytes : ℕ
  responseTruncated : Bool

/-- An exception as the application catches it. -/
structure SourceError where
  cause : Cause
  details : ErrorDetails

/-- `isinstance(error, caught)`. -/
def SourceError.isInstance (error : SourceError) (caught : ErrorClass) : Bool :=
  error.cause.refusal.error.isInstance caught

def SourceError.className (error : SourceError) : String := error.cause.refusal.error.name

/-- `str(error)`. -/
def SourceError.text (error : SourceError) : String := error.cause.refusal.message

/-- `error.completion.value`. -/
def SourceError.completion (error : SourceError) : String :=
  error.cause.completion.elim "" completionText

/-- `raise ApplicationStateError(message)`. -/
def applicationStateError (message : String) : Refusal :=
  { error := .applicationStateError, message }

/-- `_require_clickhouse_endpoint_direction`. -/
def requireClickhouseEndpointDirection : Option PlanDirection → Except Refusal PlanDirection
  | some direction => .ok direction
  | none => .error
    { error := .assertionError
      message := "ClickHouse error classification requires its endpoint direction" }

/-- `_greenplum_unsupported_error_context`. -/
def greenplumUnsupportedErrorContext : Option PlanDirection → String × String
  | some .reference =>
    ("open_reference",
      "the original Greenplum reference does not satisfy the required runtime capability")
  | some .target =>
    ("open_target", "the Greengage target does not satisfy the required runtime capability")
  | none =>
    ("compare", "a Greenplum-family endpoint does not satisfy the required runtime capability")

/-! ## Reasons -/

/-- `_reason`. -/
def reasonOf (code : ReasonCode) (operation message : String)
    (safeParameters : List SafeParameter) : ResultReason :=
  { code, operation, message, safeParameters
    nativeErrorCode := none, queryId := none, redactedResponse := none }

def parameter (name value : String) : SafeParameter := { name, value }

/-- The parameter with the class of the exception, the first of every list. -/
def SourceError.typeParameter (error : SourceError) : SafeParameter :=
  parameter "error_type" error.className

/-- The status, code and name of a ClickHouse server's answer. -/
def ErrorDetails.responseParameters (details : ErrorDetails) : List SafeParameter :=
  [parameter "http_status" (optionalText integerText details.httpStatus),
   parameter "error_code" (optionalText integerText details.errorCode),
   parameter "error_name" (optionalText id details.errorName)]

/-- `_source_error_parameters`. -/
def sourceErrorParameters (error : SourceError) : List SafeParameter :=
  [error.typeParameter]
  ++ (if error.isInstance .greenplumQueryError = true then
        [parameter "source_operation" error.details.operation,
         parameter "error_category" error.details.errorCategory]
      else [])
  ++ (if (error.isInstance .greengageBudgetExceededError
          || error.isInstance .originalGreenplumBudgetExceededError) = true then
        [parameter "budget_detail" error.text]
      else [])
  ++ (if error.isInstance .clickHouseQueryError = true then
        parameter "target_operation" error.details.operation :: (error.details.responseParameters
          ++ [parameter "completion" error.completion])
      else if error.isInstance .clickHouseConnectionError = true then
        error.details.responseParameters
          ++ [parameter "connection_attempts" (decimalText error.details.connectionAttempts)]
      else [])

/-- `_reason_from_source_error`. -/
def reasonFromSourceError (code : ReasonCode) (operation message : String) (error : SourceError) :
    ResultReason :=
  let reason := reasonOf code operation message (sourceErrorParameters error)
  if error.isInstance .greenplumQueryError = true then
    { reason with nativeErrorCode := error.details.sqlstate }
  else if error.isInstance .clickHouseQueryError = true then
    { reason with
      nativeErrorCode := error.details.errorCode.map integerText
      queryId := some (uuidText error.details.queryId) }
  else if error.isInstance .clickHouseConnectionError = true
      ∧ error.details.connectionQueryId.isSome = true then
    { reason with
      nativeErrorCode := error.details.errorCode.map integerText
      queryId := error.details.connectionQueryId.map uuidText }
  else reason

/-- `_mssql_query_timeout_reason`. -/
def mssqlQueryTimeoutReason (error : SourceError) : ResultReason :=
  { code := .budgetExhausted
    operation := "read_source"
    message := "the SQL Server statement reached its immutable query or run timeout"
    safeParameters :=
      [error.typeParameter, parameter "session_id" (integerText error.details.sessionId)]
    nativeErrorCode := error.details.sqlstate
    queryId := some (uuidText error.details.queryId)
    redactedResponse := none }

/-- `_mssql_confirmed_cancellation_reason`. -/
def mssqlConfirmedCancellationReason (error : SourceError) : ResultReason :=
  { code := .cancelled
    operation := "cancel_source_query"
    message := "the SQL Server source query was cancelled and completion was confirmed"
    safeParameters :=
      [error.typeParameter, parameter "session_id" (integerText error.details.sessionId),
       parameter "confirmation_session_id" (integerText error.details.confirmationSessionId),
       parameter "confirmation_value" (integerText error.details.confirmationValue)]
    nativeErrorCode := error.details.sqlstate
    queryId := some (uuidText error.details.queryId)
    redactedResponse := none }

/-- `_mssql_unconfirmed_cancellation_reason`. -/
def mssqlUnconfirmedCancellationReason (error : SourceError) : ResultReason :=
  { code := .cancellationUnconfirmed
    operation := "cancel_source_query"
    message := "SQL Server source-query completion could not be confirmed after cancellation"
    safeParameters :=
      [error.typeParameter, parameter "session_id" (integerText error.details.sessionId),
       parameter "confirmation_failure" error.details.confirmationFailure]
    nativeErrorCode := none
    queryId := some (uuidText error.details.queryId)
    redactedResponse := none }

/-- `_clickhouse_unconfirmed_cancellation_reason`. -/
def clickhouseUnconfirmedCancellationReason (error : SourceError) (direction : PlanDirection) :
    ResultReason :=
  { code := .cancellationUnconfirmed
    operation := s!"cancel_{direction.value}_query"
    message := s!"ClickHouse {direction.value}-query completion could not be confirmed after "
      ++ "cancellation"
    safeParameters :=
      [error.typeParameter, parameter "attempt_id" (uuidText error.details.attemptId),
       parameter "query_operation" error.details.operation,
       parameter "trigger_cause" error.details.triggerCause,
       parameter "cancellation_cause" error.details.cancellationCause]
      ++ error.details.responseParameters
      ++ [parameter "received_response_bytes" (decimalText error.details.receivedResponseBytes),
          parameter "response_truncated"
            (if error.details.responseTruncated = true then "1" else "0")]
    nativeErrorCode := error.details.errorCode.map integerText
    queryId := some (uuidText error.details.queryId)
    redactedResponse := none }

/-- `_clickhouse_cleanup_uncertainty_reason`. -/
def clickhouseCleanupUncertaintyReason (error : SourceError) : ResultReason :=
  reasonOf .cancellationUnconfirmed "close_read_context"
    "ClickHouse final confirmation transport cleanup could not be established"
    [error.typeParameter]

/-- `_actionable_mssql_error_message`. -/
def actionableMssqlErrorMessage (error : SourceError) (context : String) : Except Refusal String :=
  if strip error.text = "" then
    .error (applicationStateError s!"{context} must include a safe actionable explanation")
  else .ok (strip error.text)

/-- The explanation of an unsupported comparison. -/
def unsupportedComparisonMessage (error : SourceError) : Except Refusal String :=
  if strip error.text = "" then
    .error (applicationStateError
      "unsupported comparison error must include a safe actionable explanation")
  else .ok (strip error.text)

/-- `_mapping_error_parameters`. -/
def mappingErrorParameters (finding : KeyMappingFinding) (contextIds : List Uuid) :
    List SafeParameter :=
  keySummarySafeParameters finding.referenceSummary finding.targetSummary
  ++ [parameter "queries" (decimalText finding.metrics.queries),
      parameter "fetched_records" (decimalText finding.metrics.fetchedRecords),
      parameter "result_bytes" (decimalText finding.metrics.resultBytes),
      parameter "fingerprint_nodes" (decimalText finding.metrics.fingerprintNodes),
      parameter "coordinator_peak_bytes" (decimalText finding.metrics.coordinatorPeakBytes),
      parameter "elapsed_milliseconds" (decimalText finding.metrics.elapsedMilliseconds)]
  ++ (match contextIds with
      | [reference, target] =>
        [parameter "reference_read_context_id" (uuidText reference),
         parameter "target_read_context_id" (uuidText target)]
      | _ => [])

end Application

end ForensicData
