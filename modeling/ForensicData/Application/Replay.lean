/-
ForensicData.Application.Replay — the result of a failed run, and its replay.

The first execution of a request builds the result of a terminal failure from
the failure itself; a later one only has the stored outcome and rebuilds the
failure from the parameters of its reason.
-/
import ForensicData.Application.Attempts
import ForensicData.Persistence.Records
import ForensicData.Result.RunResult

namespace ForensicData.Application

open ForensicData.Comparison
open ForensicData.Persistence (AttemptStatus)
open ForensicData.Result

variable {Body Cut : Type} {recordBytes : DifferenceRecord Body → ℕ}

/-! ## Outcomes -/

/-- `AttemptOutcomeRecord`, without the time of its end. -/
structure AttemptOutcomeRecord where
  runId : Uuid
  attemptId : Uuid
  status : AttemptStatus
  operationId : Uuid
  reason : ResultReason

/-- What a result takes from the check and from the scope. -/
structure CheckedScope where
  checkId : String
  contractDigest : Sha256Hex
  scopeDigest : Sha256Hex

/-- `_validate_incomplete_reason`. -/
def validateIncompleteReason (reason : ResultReason) : Except Refusal Unit :=
  refuseValue (reason.code ∉ [ReasonCode.notReady, .cutMismatch, .snapshotLost, .budgetExhausted,
      .cancelled, .cancellationUnconfirmed, .oversizedRecord])
    (s!"attempt status 'incomplete' does not accept reason code '{reason.code.value}'")

/-- `_validate_error_reason`. -/
def validateErrorReason (reason : ResultReason) : Except Refusal Unit :=
  refuseValue (reason.code ∉ [ReasonCode.invalidContract, .unsupportedCapability, .lossyTransport,
      .queryError, .persistenceError, .commitUnknown, .protocolViolation])
    (s!"attempt status 'error' does not accept reason code '{reason.code.value}'")

/-- `_publish_terminal_failure` of a failure without a partial artifact: the outcome
that is stored. -/
def publishTerminalFailure (runId attemptId operationId : Uuid)
    (failure : AttemptFailure recordBytes Cut) : Except Refusal AttemptOutcomeRecord :=
  if failure.executionStatus = .incomplete then do
    validateIncompleteReason failure.reason
    return { runId, attemptId, status := .incomplete, operationId, reason := failure.reason }
  else do
    validateErrorReason failure.reason
    return { runId, attemptId, status := .error, operationId, reason := failure.reason }

theorem validateStateDetails_confirmed (operationId : Uuid) :
    validateStateDetails .confirmed (some operationId) none = .ok () := rfl

/-- `PersistenceStatus(state=CONFIRMED, operation_id=operation_id, reason=None)`. -/
def confirmedPersistence (operationId : Uuid) : PersistenceStatus where
  state := .confirmed
  operationId := some operationId
  reason := none
  details := validateStateDetails_confirmed operationId

/-- `_run_result_from_attempt_outcome`. -/
def runResultFromAttemptOutcome (check : CheckedScope) (outcome : AttemptOutcomeRecord)
    (failure : AttemptFailure recordBytes Cut) : Except Refusal RunResult := do
  let consistency ← ConsistencyStatus.make failure.stableReads
    (if failure.cutAligned = true then .verified else .unknown) failure.contextIds
  let result : RunResult := {
    runId := outcome.runId
    attemptId := outcome.attemptId
    checkId := check.checkId
    contractDigest := check.contractDigest
    scopeDigest := check.scopeDigest
    executionStatus := failure.executionStatus
    verdict := failure.verdict
    consistency
    guarantee := .notEstablished
    comparisonCoverage := failure.comparisonCoverage
    totals := .uniform (.unavailable outcome.reason.code)
    evidenceCoverage := failure.evidenceCoverage
    metrics := failure.metrics
    reasons := outcome.reason :: failure.additionalReasons
    persistence := confirmedPersistence outcome.operationId }
  result.validateOutcome
  return result

/-! ## Stored outcomes -/

/-- `model_validate_json` of the result records that an artifact's cleanup stored in
its reason. -/
structure StoredJson where
  finding : String → Except Refusal ResultReason
  coverage : String → Except Refusal ComparisonCoverage
  evidence : String → Except Refusal EvidenceCoverage
  metrics : String → Except Refusal ResultMetrics

/-- `_required_parameter`. -/
def requiredParameter (values : List SafeParameter) (name : String) : Except Refusal String :=
  (valueOf values name).elim
    (.error (applicationStateError s!"stored terminal reason parameter '{name}' is missing")) .ok

/-- A record read from the text of a parameter. -/
def storedRecord {α : Type} (values : List SafeParameter) (name noun : String)
    (read : String → Except Refusal α) : Except Refusal α := do
  let payload ← requiredParameter values name
  (read payload).mapError fun error =>
    applicationStateError s!"stored artifact {noun} invalid: reason={error.message}"

/-- `_stored_artifact_findings`. -/
def storedArtifactFindings (store : StoredJson) (values : List SafeParameter) :
    Except Refusal (List ResultReason) := do
  let payload ← requiredParameter values "observed_finding"
  if payload = "none" then return []
  else
    let finding ← storedRecord values "observed_finding" "cleanup finding is" store.finding
    refuseIf (finding.code ≠ .dataMismatch ∧ finding.code ≠ .contractViolation)
      (applicationStateError "stored artifact cleanup finding code is unsupported")
    return [finding]

/-- `_failure_from_stored_artifact_context_loss`. -/
def failureFromStoredArtifactContextLoss (store : StoredJson) (reason : ResultReason) :
    Except Refusal (AttemptFailure recordBytes Cut) := do
  let values ← safeParameterMapping reason
  let refusal := applicationStateError "stored artifact cleanup state is incomplete"
  match ← cleanupStateFromReason reason with
  | none => .error refusal
  | some state => do
    refuseIf (valueOf values "cleanup_artifact" ≠ some "1") refusal
    let verdictText := valueOf values "observed_verdict"
    refuseIf (verdictText ≠ some "match" ∧ verdictText ≠ some "mismatch")
      (applicationStateError "stored artifact cleanup verdict is unsupported")
    let findings ← storedArtifactFindings store values
    refuseIf (¬ (verdictText = some "mismatch" ↔ findings ≠ []))
      (applicationStateError "stored artifact cleanup verdict and findings disagree")
    let comparisonCoverage ← storedRecord values "observed_comparison_coverage"
      "comparison coverage is" store.coverage
    let evidenceCoverage ← storedRecord values "observed_evidence_coverage"
      "evidence coverage is" store.evidence
    let metrics ← storedRecord values "observed_metrics" "metrics are" store.metrics
    return {
      executionStatus := .incomplete
      verdict := if verdictText = some "mismatch" then .mismatch else .inconclusive
      reason
      additionalReasons := findings
      retryable := false
      contextIds := state.contextIds
      stableReads := state.stableReads
      cutAligned := state.cutAligned
      comparisonCoverage
      evidenceCoverage
      metrics
      partialArtifact := none
      persistedCut := none }

/-- The reason is the one of a cleanup. -/
def cleanupIsPrimary (reason : ResultReason) : Bool :=
  reason.code = .snapshotLost ∧ reason.operation = "close_read_context"

/-- The status of the execution that an outcome's status stands for. -/
def executionStatusOfOutcome (status : AttemptStatus) : Except Refusal ExecutionStatus :=
  match status with
  | .error => .ok .error
  | .incomplete | .abandoned => .ok .incomplete
  | _ => .error (applicationStateError
      "terminal attempt readback returned a status that is not an early outcome")

/-- The consistency state of a stored reason: the one of the cleanup, or of the
failure, or what a key-mapping reason shows. -/
def storedState (reason : ResultReason) (cleanupState failureState : Option ConsistencyState) :
    Except Refusal ConsistencyState :=
  match cleanupState, failureState with
  | some state, _ => .ok state
  | none, some state => .ok state
  | none, none => do
    let contextIds ← mappingContextIds reason
    let cutAligned := decide (reason.code = .lossyTransport ∧ contextIds.length = 2)
    return {
      contextIds
      stableReads := if cutAligned = true then .verified else .unknown
      cutAligned }

/-- The failure that `_run_result_from_terminal_readback` rebuilds from a reason
without an artifact. -/
def failureFromStoredReason (executionStatus : ExecutionStatus) (reason : ResultReason) :
    Except Refusal (AttemptFailure recordBytes Cut) := do
  let cleanupState ← cleanupStateFromReason reason
  let contractReason ← mappingContractReason reason
  let failureMetrics ← failureMetricsFromReason reason
  let metrics ← failureMetrics.elim (mappingMetrics reason) .ok
  let failureState ← failureConsistencyFromReason reason
  refuseIf (failureState.isSome = true ∧ cleanupState.isSome = true)
    (applicationStateError "stored terminal reason mixes failure and cleanup consistency state")
  let state ← storedState reason cleanupState failureState
  let cleanupReasons :=
    if cleanupState = none ∨ cleanupIsPrimary reason = true then [] else [contextLossReason]
  return {
    executionStatus
    verdict := if contractReason.isSome = true then .mismatch else .inconclusive
    reason
    additionalReasons := contractReason.toList ++ cleanupReasons
    retryable := false
    contextIds := state.contextIds
    stableReads := state.stableReads
    cutAligned := state.cutAligned
    comparisonCoverage :=
      if reason.code = .lossyTransport then mappingFailureCoverage else emptyComparisonCoverage
    evidenceCoverage := emptyEvidenceCoverage
    metrics
    partialArtifact := none
    persistedCut := none }

/-- `_run_result_from_terminal_readback`. -/
def runResultFromTerminalReadback (store : StoredJson) (check : CheckedScope)
    (outcome : AttemptOutcomeRecord) : Except Refusal RunResult := do
  let executionStatus ← executionStatusOfOutcome outcome.status
  let values ← safeParameterMapping outcome.reason
  if valueOf values "cleanup_artifact" = some "1" then
    refuseIf (outcome.status ≠ .incomplete) (applicationStateError
      "stored artifact cleanup result must have incomplete attempt status")
    let failure : AttemptFailure (fun _ : DifferenceRecord Empty => 0) Empty ←
      failureFromStoredArtifactContextLoss store outcome.reason
    runResultFromAttemptOutcome check outcome failure
  else
    let failure : AttemptFailure (fun _ : DifferenceRecord Empty => 0) Empty ←
      failureFromStoredReason executionStatus outcome.reason
    runResultFromAttemptOutcome check outcome failure

end ForensicData.Application
