/-
ForensicData.Result.RunResult — a run's result and its validation.

A result puts the verdict beside what supports it: coverage, totals,
consistency, guarantee, reasons and persistence. `validateOutcome` is the web of
implications between them that every published result passes, and
`exitCodeForResult` what a caller of the program sees of it.
-/
import ForensicData.Result.Model
import ForensicData.Text

namespace ForensicData.Result

/-! ## Texts -/

def ExecutionStatus.value : ExecutionStatus → String
  | .completed => "completed"
  | .incomplete => "incomplete"
  | .error => "error"

def Verdict.value : Verdict → String
  | .match => "match"
  | .mismatch => "mismatch"
  | .inconclusive => "inconclusive"

def ReasonCode.value : ReasonCode → String
  | .dataMismatch => "data_mismatch"
  | .contractViolation => "contract_violation"
  | .notReady => "not_ready"
  | .cutMismatch => "cut_mismatch"
  | .snapshotLost => "snapshot_lost"
  | .budgetExhausted => "budget_exhausted"
  | .cancelled => "cancelled"
  | .cancellationUnconfirmed => "cancellation_unconfirmed"
  | .oversizedRecord => "oversized_record"
  | .invalidContract => "invalid_contract"
  | .unsupportedCapability => "unsupported_capability"
  | .lossyTransport => "lossy_transport"
  | .queryError => "query_error"
  | .persistenceError => "persistence_error"
  | .commitUnknown => "commit_unknown"
  | .protocolViolation => "protocol_violation"

/-! ## Persistence -/

inductive PersistenceState where
  | confirmed
  | notAttempted
  | failed
  | commitUnknown
  deriving DecidableEq, Repr

def PersistenceState.value : PersistenceState → String
  | .confirmed => "confirmed"
  | .notAttempted => "not_attempted"
  | .failed => "failed"
  | .commitUnknown => "commit_unknown"

def refuseValue (condition : Prop) [Decidable condition] (message : String) :
    Except Refusal Unit :=
  refuseIf condition { error := .valueError, message }

/-- The failure reason a state requires. -/
def requireFailureReason (state : PersistenceState) (code : ReasonCode) :
    Option ResultReason → Except Refusal Unit
  | none => raiseValueError s!"{state.value} persistence requires a failure reason"
  | some reason => refuseValue (reason.code ≠ code)
      s!"{state.value} persistence requires reason code {code.value}"

/-- `validate_state_details`. -/
def validateStateDetails (state : PersistenceState) (operationId : Option Uuid)
    (reason : Option ResultReason) : Except Refusal Unit :=
  match state with
  | .notAttempted =>
    refuseValue (operationId ≠ none ∨ reason ≠ none)
      "not_attempted persistence cannot have an operation_id or reason"
  | .confirmed => do
    requireOperation state operationId
    refuseValue (reason ≠ none) "confirmed persistence cannot have a failure reason"
  | .failed => do
    requireOperation state operationId
    requireFailureReason state .persistenceError reason
  | .commitUnknown => do
    requireOperation state operationId
    requireFailureReason state .commitUnknown reason
where
  requireOperation (state : PersistenceState) (operationId : Option Uuid) :
      Except Refusal Unit :=
    refuseValue (operationId = none) s!"{state.value} persistence requires operation_id"

structure PersistenceStatus where
  state : PersistenceState
  operationId : Option Uuid
  reason : Option ResultReason
  details : validateStateDetails state operationId reason = .ok ()

/-! ## Results -/

structure RunResult where
  runId : Uuid
  attemptId : Uuid
  checkId : String
  contractDigest : Sha256Hex
  scopeDigest : Sha256Hex
  executionStatus : ExecutionStatus
  verdict : Verdict
  consistency : ConsistencyStatus
  guarantee : Guarantee
  comparisonCoverage : ComparisonCoverage
  totals : ComparisonTotals
  evidenceCoverage : EvidenceCoverage
  metrics : ResultMetrics
  reasons : List ResultReason
  persistence : PersistenceStatus

def Total.unavailableReason : Total → Option ReasonCode
  | .unavailable reason => some reason
  | _ => none

namespace RunResult

/-- `_all_reason_codes`. -/
def allReasonCodes (result : RunResult) : List ReasonCode :=
  result.reasons.map ResultReason.code ++ result.comparisonCoverage.unresolvedReasons ++
    result.totals.values.filterMap Total.unavailableReason ++
    (result.persistence.reason.map ResultReason.code).toList

/-- The verdicts of a status. -/
def validVerdicts : ExecutionStatus → List Verdict
  | .completed => [.match, .mismatch]
  | .incomplete => [.inconclusive, .mismatch]
  | .error => [.inconclusive, .mismatch]

/-- `_validate_execution_state`. -/
def validateExecutionState (result : RunResult) : Except Refusal Unit := do
  refuseValue (result.verdict ∉ validVerdicts result.executionStatus)
    (s!"{result.executionStatus.value} execution cannot have " ++
      s!"{result.verdict.value} verdict")
  refuseValue (result.executionStatus = .completed ∧
      result.comparisonCoverage.unresolvedSegments ≠ 0)
    "completed execution cannot have unresolved segments"
  refuseValue (result.executionStatus = .completed ∧ result.persistence.state ≠ .confirmed)
    "completed execution requires confirmed persistence"
  refuseValue (result.executionStatus = .incomplete ∧ result.guarantee ≠ .notEstablished)
    "incomplete execution requires not_established guarantee"
  refuseValue ((result.persistence.state = .failed ∨ result.persistence.state = .commitUnknown) ∧
      result.executionStatus ≠ .error)
    "failed or uncertain persistence requires error execution status"

/-- One round of `_validate_persistence_reason_codes`. -/
def requireTogether (result : RunResult) (code : ReasonCode) (state : PersistenceState) :
    Except Refusal Unit :=
  refuseValue (¬ (code ∈ result.allReasonCodes ↔ result.persistence.state = state))
    (s!"reason code {code.value} and persistence state " ++
      s!"{state.value} must appear together")

/-- `_validate_persistence_reason_codes`. -/
def validatePersistenceReasonCodes (result : RunResult) : Except Refusal Unit := do
  requireTogether result .persistenceError .failed
  requireTogether result .commitUnknown .commitUnknown

/-- `_has_known_consistency`. -/
def hasKnownConsistency (result : RunResult) : Bool :=
  decide (result.consistency.readContextIds ≠ [] ∧ result.consistency.stableReads ≠ .unknown ∧
    result.consistency.cutAlignment ≠ .unknown)

/-- The part of `_validate_guarantee` about an exact guarantee. -/
def validateExactGuarantee (result : RunResult) : Except Refusal Unit := do
  refuseValue (result.comparisonCoverage.prunedSegments ≠ 0)
    "exact guarantee cannot include pruned segments"
  refuseValue (result.totals.values.all Total.isExact = false)
    "exact guarantee requires exact totals"

/-- The part of `_validate_guarantee` about a fingerprint guarantee. -/
def validateFingerprintGuarantee (result : RunResult) : Except Refusal Unit := do
  refuseValue (result.comparisonCoverage.prunedSegments = 0)
    "fingerprint guarantee requires at least one pruned segment"
  refuseValue (result.totals.matched.isExact = true)
    "fingerprint guarantee cannot claim an exact matched total"
  refuseValue (result.totals.matched.isInferred = false)
    "fingerprint guarantee requires an inferred matched total"

/-- `_validate_guarantee`. -/
def validateGuarantee (result : RunResult) : Except Refusal Unit :=
  if result.guarantee = .notEstablished then
    refuseValue (result.executionStatus = .completed ∨ result.verdict = .match)
      "not_established guarantee cannot be completed or match"
  else do
    refuseValue (result.consistency.readContextIds = [])
      "established guarantee requires at least one read context"
    refuseValue (result.consistency.stableReads = .unknown ∨
        result.consistency.cutAlignment = .unknown)
      "established guarantee requires known consistency evidence"
    refuseValue (result.comparisonCoverage.totalPartitions = 0)
      "established guarantee requires at least one verified root partition"
    refuseValue (result.comparisonCoverage.coveredPartitions
          ≠ result.comparisonCoverage.totalPartitions ∨
        result.comparisonCoverage.unresolvedSegments ≠ 0 ∨
        result.comparisonCoverage.resolvedSegments < result.comparisonCoverage.coveredPartitions)
      "established guarantee requires a complete resolved frontier"
    match result.guarantee with
    | .exact => validateExactGuarantee result
    | .fingerprint => validateFingerprintGuarantee result
    | _ => .ok ()

/-! ### Totals -/

/-- A positive number of differences that was counted row by row. -/
def isPositiveProven : Total → Bool
  | .exact value => decide (value ≠ 0)
  | .lowerBound value => decide (value ≠ 0)
  | _ => false

def isPositiveInferred : Total → Bool
  | .inferred value => decide (value ≠ 0)
  | _ => false

/-- `_has_positive_proven_difference`. -/
def hasPositiveProvenDifference (result : RunResult) : Bool :=
  result.totals.differences.any isPositiveProven

def hasPositiveInferredDifference (result : RunResult) : Bool :=
  result.totals.differences.any isPositiveInferred

def hasPositiveClassifiedDifference (result : RunResult) : Bool :=
  result.hasPositiveProvenDifference || result.hasPositiveInferredDifference

def hasDataMismatchReason (result : RunResult) : Bool :=
  decide (ReasonCode.dataMismatch ∈ result.allReasonCodes)

def hasContractViolation (result : RunResult) : Bool :=
  decide (ReasonCode.contractViolation ∈ result.allReasonCodes)

def hasProvenMismatch (result : RunResult) : Bool :=
  result.hasPositiveClassifiedDifference || result.hasDataMismatchReason ||
    result.hasContractViolation

/-- `_validate_match_totals`. -/
def validateMatchTotals (result : RunResult) : Except Refusal Unit :=
  if result.verdict ≠ .match then .ok ()
  else do
    refuseValue (result.totals.values.any Total.isUnavailable = true)
      "match result requires all totals to be available"
    refuseValue (∃ total ∈ result.totals.differences, total.value ≠ some 0)
      "match result requires zero difference totals"
    refuseValue (result.guarantee ≠ .fingerprint ∧
        result.totals.differences.all Total.isExact = false)
      "non-fingerprint match requires exact zero difference totals"

/-- `_validate_fingerprint_evidence`. -/
def validateFingerprintEvidence (result : RunResult) : Except Refusal Unit :=
  refuseValue (result.guarantee = .fingerprint ∧ result.verdict = .inconclusive ∧
      result.totals.values.any Total.isUnavailable = true)
    "inconclusive full fingerprint requires preserved inferred totals"

/-- `_validate_late_persistence_evidence`. -/
def validateLatePersistenceEvidence (result : RunResult) : Except Refusal Unit :=
  refuseValue (result.guarantee ≠ .notEstablished ∧
      (result.persistence.state = .failed ∨ result.persistence.state = .commitUnknown) ∧
      ∃ total ∈ result.totals.values, total.unavailableReason = some .persistenceError ∨
        total.unavailableReason = some .commitUnknown)
    "late persistence failure cannot erase comparison totals"

/-- `_validate_totals`. -/
def validateTotals (result : RunResult) : Except Refusal Unit := do
  refuseValue (result.totals.values.any Total.isInferred = true ∧ result.guarantee ≠ .fingerprint)
    "inferred totals require fingerprint guarantee"
  validateMatchTotals result
  refuseValue ((result.hasPositiveClassifiedDifference = true ∨
      result.hasDataMismatchReason = true) ∧ result.hasKnownConsistency = false)
    "proven data mismatch requires known consistency and at least one read context"
  refuseValue (result.guarantee = .fingerprint ∧ result.hasPositiveClassifiedDifference = true ∧
      result.comparisonCoverage.exactSegments = 0)
    "fingerprint difference requires an exact terminal segment"
  refuseValue (result.guarantee = .exact ∧ result.verdict = .mismatch ∧
      result.hasPositiveProvenDifference = false)
    "exact mismatch requires a positive exact difference total"
  refuseValue (result.guarantee = .fingerprint ∧ result.hasDataMismatchReason = true ∧
      result.hasPositiveClassifiedDifference = false)
    "fingerprint data_mismatch requires a positive classified difference"
  refuseValue (result.hasProvenMismatch = true ∧ result.verdict ≠ .mismatch)
    "proven difference or contract violation requires mismatch verdict"
  refuseValue (result.verdict = .mismatch ∧ result.hasProvenMismatch = false)
    "mismatch verdict requires a proven difference or violation"
  refuseValue (result.hasContractViolation = true ∧
      result.totals.values.all Total.isUnavailable = false)
    "contract violation requires unavailable row totals"
  validateFingerprintEvidence result
  validateLatePersistenceEvidence result

/-! ### Severity -/

/-- `_highest_reason_status`. -/
def highestReasonStatus (codes : List ReasonCode) : Option ExecutionStatus :=
  [ExecutionStatus.error, .incomplete, .completed].find? fun status =>
    codes.any fun code => decide (code.status = status)

/-- The codes that are reported with their details. -/
def detailedReasonCodes (result : RunResult) : List ReasonCode :=
  result.reasons.map ResultReason.code ++ (result.persistence.reason.map ResultReason.code).toList

/-- The status that the gravest reason code requires. -/
def requireHighestStatus (result : RunResult) : Except Refusal Unit :=
  match highestReasonStatus result.allReasonCodes with
  | none => .ok ()
  | some highest =>
    refuseValue (highest ≠ result.executionStatus)
      s!"reason severity requires {highest.value} execution status"

/-- `_validate_reason_severity`. -/
def validateReasonSeverity (result : RunResult) : Except Refusal Unit := do
  requireHighestStatus result
  if result.verdict = .match then
    refuseValue (result.allReasonCodes ≠ []) "match result cannot have failure reasons"
  else if result.executionStatus = .completed then
    refuseValue (∀ code ∈ result.allReasonCodes, code.status ≠ .completed)
      "completed result requires a reason for that status"
  else
    refuseValue (∀ code ∈ result.detailedReasonCodes, code.status ≠ result.executionStatus)
      s!"{result.executionStatus.value} result requires a detailed top-level reason"

/-- `validate_outcome`. -/
def validateOutcome (result : RunResult) : Except Refusal Unit := do
  validateExecutionState result
  validatePersistenceReasonCodes result
  validateGuarantee result
  validateTotals result
  validateReasonSeverity result

end RunResult

/-! ## Exit codes -/

inductive ExitCode where
  | match
  | mismatch
  | error
  | incomplete
  deriving DecidableEq, Repr

def ExitCode.value : ExitCode → ℕ
  | .match => 0
  | .mismatch => 1
  | .error => 2
  | .incomplete => 3

/-- `exit_code_for_result`. -/
def exitCodeForResult (result : RunResult) : ExitCode :=
  if result.executionStatus = .error then .error
  else if result.executionStatus = .incomplete then .incomplete
  else if result.verdict = .mismatch then .mismatch
  else .match

end ForensicData.Result
