/-
ForensicData.Comparison.Partial — what an interrupted comparison leaves behind.

`execute_integer_key_comparison` runs the generator and keeps the last progress
it yielded. A cause of one of five classes ends the run with the partial
artifact of that progress; any other one leaves it as it is, and so does
whatever building the artifact raises.

A completed comparison whose contexts cannot be closed cleanly is downgraded:
`partial_comparison_artifact_from_completed` makes a partial artifact of it.
-/
import ForensicData.Comparison.Engine

namespace ForensicData.Comparison

open ForensicData.Canonical
open ForensicData.Lib
open ForensicData.Lib.Generator
open ForensicData.Result

variable {budgets : ExecutionBudgets} {Body : Type}

/-! ## Reason codes -/

/-- `isinstance` with a tuple of classes. -/
def Cause.isAny (cause : Cause) (classes : List ErrorClass) : Bool :=
  classes.any cause.refusal.error.isInstance

/-- The completion of a ClickHouse error that has one. -/
def Cause.completes (cause : Cause) (raised : ErrorClass) (completion : ClickHouseQueryCompletion) :
    Bool :=
  cause.refusal.error.isInstance raised && cause.completion == some completion

/-- `_interruption_reason_code`. -/
def interruptionReasonCode (cause : Cause) : Except Cause ReasonCode :=
  if cause.isAny [.clickHouseCancellationUnconfirmedError, .clickHouseTransportCleanupError,
      .clickHouseProtectedContextCleanupError] = true then .ok .cancellationUnconfirmed
  else if cause.completes .clickHouseQueryError .cancelled = true then .ok .cancelled
  else if cause.completes .clickHouseQueryError .unconfirmed = true then
    .ok .cancellationUnconfirmed
  else if cause.completes .clickHouseAttemptDeadlineExceededError .unconfirmed = true then
    .ok .cancellationUnconfirmed
  else if cause.completes .clickHouseAttemptDeadlineExceededError .cancelled = true then
    .ok .cancelled
  else if cause.isAny [.comparisonBudgetExceededError, .greengageBudgetExceededError,
      .originalGreenplumBudgetExceededError, .mssqlQueryTimeoutError,
      .postgresReadDeadlineExceededError, .postgresResultLimitError,
      .postgresSourceBudgetExceededError, .mssqlResultLimitError,
      .clickHouseAttemptDeadlineExceededError, .clickHouseResultLimitError] = true then
    .ok .budgetExhausted
  else if cause.isAny [.mssqlCancellationConfirmedError] = true then .ok .cancelled
  else if cause.isAny [.mssqlCancellationUnconfirmedError] = true then .ok .cancellationUnconfirmed
  else if cause.isAny [.postgresContextLostError, .postgresAcquisitionRaceError,
      .mssqlContextLostError, .mssqlMetadataError, .greenplumContextLostError,
      .greengageAcquisitionRaceError, .originalGreenplumAcquisitionRaceError,
      .clickHouseProtectedContextLostError, .clickHouseProtectedContextConfirmationError]
      = true then .ok .snapshotLost
  else if cause.isAny [.comparisonKeyMappingError] = true then .ok .lossyTransport
  else if cause.isAny [.unsupportedComparisonError, .unsupportedPostgresProfileError,
      .unsupportedMssqlProfileError, .unsupportedGreenplumProfileError, .greenplumMetadataError,
      .unsupportedClickHouseProfileError] = true then .ok .unsupportedCapability
  else if cause.isAny [.comparisonProtocolError, .postgresContextClosedError,
      .postgresDataValidationError, .postgresQueryContextError, .mssqlContextClosedError,
      .mssqlDataValidationError, .mssqlQueryContextError, .greenplumContextClosedError,
      .greenplumDataValidationError, .clickHouseTransportClosedError,
      .clickHouseTransportAttemptMismatchError, .clickHouseDataValidationError,
      .clickHouseProtectedContextClosedError] = true then .ok .protocolViolation
  else if cause.isAny [.postgresConnectorError, .mssqlTransportError, .greenplumConnectionError,
      .greenplumQueryError, .clickHouseTransportError] = true then .ok .queryError
  else .error (Cause.of .assertionError "unhandled comparison interruption")

/-- The classes `execute_integer_key_comparison` catches. -/
def Cause.isInterruption (cause : Cause) : Bool :=
  cause.isAny [.comparisonExecutionError, .postgresConnectorError, .mssqlTransportError,
    .greenplumConnectorError, .clickHouseTransportError]

/-! ## The partial artifact -/

/-- The pending segments that are not recorded, in ascending sequence. -/
def unresolvedPending (progress : Progress Body) : List PendingSegment :=
  (progress.pending.filter fun item =>
    decide (item.segmentSequence ∉ progress.topology.map (·.segmentSequence))).insertionSort
      fun a b => a.segmentSequence ≤ b.segmentSequence

/-- The witness of the sequence; a later one hides an earlier one. -/
def Progress.witness (progress : Progress Body) (sequence : ℕ) : Option FingerprintNode :=
  progress.mismatchWitnesses.reverse.find? fun item =>
    decide (item.segment.segmentSequence = sequence)

def unresolvedSegment (progress : Progress Body) (reason : ReasonCode) (item : PendingSegment) :
    Except Refusal UnresolvedComparisonSegment :=
  UnresolvedComparisonSegment.make item reason
    ((progress.witness item.segmentSequence).map (·.reference.fingerprint))
    ((progress.witness item.segmentSequence).map (·.target.fingerprint))

/-- The verdict of an interrupted comparison: what it has found to differ stays
found. -/
def partialVerdict (counts : ExactCounts) (frontierMismatch : Bool)
    (contractViolation : Option ResultReason) : Verdict :=
  if counts.differences ≠ 0 ∨ frontierMismatch = true ∨ contractViolation.isSome = true then
    .mismatch
  else .inconclusive

/-- `_partial_comparison_artifact`. -/
def partialComparisonArtifact (inputs : ComparisonInputs Body) (sources : Sources budgets)
    (progress : Progress Body) (cause : Cause) :
    Engine budgets Body (PartialComparisonArtifact inputs.recordBytes) := do
  let reason ← lift (interruptionReasonCode cause)
  let contractViolation := cause.keyMapping.bind (·.contractViolationReason)
  let topology := orderedTopology progress.topology
  let unresolved ← liftRefusal ((unresolvedPending progress).mapM (unresolvedSegment progress reason))
  let prunedSegments := prunedSegmentCount topology
  let exactSegments := exactSegmentCount topology
  let usage ← consumeSourceUsage sources progress.usage 0 progress.usage.coordinatorPeakBytes
  let replyCount ← act fun world => (.ok world.replies.length, world)
  let stableReads ← lift (comparisonStableReadLevel sources replyCount progress.summariesVerified)
  let consistency ← liftRefusal (contextConsistency sources stableReads)
  let comparisonCoverage ← liftRefusal (ComparisonCoverage.make 1
    (if unresolved = [] ∧ 0 < prunedSegments + exactSegments then 1 else 0)
    (prunedSegments + exactSegments) prunedSegments exactSegments unresolved.length
    (if unresolved = [] then [] else [reason]))
  let evidenceCoverage ← liftRefusal (EvidenceCoverage.make progress.foundRecords
    progress.anomalies.length progress.foundBytes progress.retainedBytes)
  let frontier ← liftRefusal (PartialComparisonFrontier.make topology unresolved)
  liftRefusal (PartialComparisonArtifact.make inputs.recordBytes
    { checkId := inputs.checkId
      contractDigest := inputs.contractDigest
      scopeDigest := inputs.scopeDigest
      inputCutDigest := inputs.inputCutDigest
      verdict := partialVerdict progress.exactCounts frontier.hasFingerprintMismatch
        contractViolation
      consistency
      guarantee := .notEstablished
      comparisonCoverage
      totals := partialTotals progress.exactCounts exactSegments reason
      evidenceCoverage
      metrics := usage.metrics
      frontier
      anomalies := progress.anomalies
      referenceFullScans := usage.referenceFullScans
      targetFullScans := usage.targetFullScans })

/-! ## The comparison with its interruptions -/

/-- How `execute_integer_key_comparison` ends: with a completed artifact, with a
`ComparisonInterruptedError`, or with another exception. -/
inductive ComparisonEnd (recordBytes : DifferenceRecord Body → ℕ) where
  | returned (outcome : ComparisonOutcome recordBytes)
  | interrupted (cause : Cause) (artifact : PartialComparisonArtifact recordBytes)
  | escaped (cause : Cause)

/-- The last progress of the run, the initial one if it yielded none. -/
def lastProgress (inputs : ComparisonInputs Body) (sources : Sources budgets) : Progress Body :=
  ((comparisonRun inputs sources).yielded.getLast?).getD (sources.initialProgress Body)

/-- `execute_integer_key_comparison`. -/
def executeIntegerKeyComparison (inputs : ComparisonInputs Body) (sources : Sources budgets) :
    ComparisonEnd inputs.recordBytes :=
  let run := comparisonRun inputs sources
  match run.result with
  | .ok outcome => .returned outcome
  | .error cause =>
    if cause.isInterruption = true then
      match (partialComparisonArtifact inputs sources (lastProgress inputs sources) cause
          run.world).result with
      | .ok artifact => .interrupted cause artifact
      | .error raised => .escaped raised
    else .escaped cause

/-! ## Downgrading a completed comparison -/

/-- The coverage of a structural artifact: its root counts as one exact segment. -/
def structuralCoverage : ComparisonCoverage := .complete 0 1 Nat.one_pos

/-- The evidence coverage of a structural artifact. -/
def noEvidence : EvidenceCoverage where
  foundRecords := 0
  retainedRecords := 0
  foundBytes := 0
  retainedBytes := 0
  records_le := Nat.le_refl 0
  bytes_le := Nat.le_refl 0

/-- `_unavailable_contract_totals`. -/
def unavailableContractTotals : ComparisonTotals := .uniform (.unavailable .contractViolation)

/-- `_available_total_integer`. -/
def availableTotalInteger (total : Total) (name : String) : Except Refusal ℕ :=
  match total.value with
  | some value => .ok value
  | none => raiseValueError s!"completed comparison {name} total must be available"

/-- `partial_comparison_artifact_from_completed`. -/
def partialComparisonArtifactFromCompleted {recordBytes : DifferenceRecord Body → ℕ}
    (outcome : ComparisonOutcome recordBytes) (reasonCode : ReasonCode) :
    Except Refusal (PartialComparisonArtifact recordBytes) :=
  match outcome with
  | .structural artifact => do
    let frontier ← PartialComparisonFrontier.make [] []
    PartialComparisonArtifact.make recordBytes
      { checkId := artifact.checkId
        contractDigest := artifact.contractDigest
        scopeDigest := artifact.scopeDigest
        inputCutDigest := artifact.inputCutDigest
        verdict := .mismatch
        consistency := artifact.consistency
        guarantee := .notEstablished
        comparisonCoverage := structuralCoverage
        totals := unavailableContractTotals
        evidenceCoverage := noEvidence
        metrics := artifact.metrics
        frontier
        anomalies := []
        referenceFullScans := artifact.referenceFullScans
        targetFullScans := artifact.targetFullScans }
  | .completed artifact => do
    let exactReferenceRows := ((artifact.segments.filter fun segment => segment.state.isExact).map
      fun segment => segment.referenceFingerprint.count).sum
    let missing ← availableTotalInteger artifact.totals.missing "missing"
    let extra ← availableTotalInteger artifact.totals.extra "extra"
    let modified ← availableTotalInteger artifact.totals.modified "modified"
    refuseIf (exactReferenceRows < missing + modified)
      { error := .valueError
        message := "completed comparison exact leaves do not close to its totals" }
    let exactCounts : ExactCounts :=
      { matched := exactReferenceRows - missing - modified, missing, extra, modified }
    let frontier ← PartialComparisonFrontier.make artifact.segments []
    PartialComparisonArtifact.make recordBytes
      { checkId := artifact.checkId
        contractDigest := artifact.contractDigest
        scopeDigest := artifact.scopeDigest
        inputCutDigest := artifact.inputCutDigest
        verdict := if artifact.verdict = .mismatch then .mismatch else .inconclusive
        consistency := artifact.consistency
        guarantee := .notEstablished
        comparisonCoverage := artifact.comparisonCoverage
        totals := partialTotals exactCounts artifact.comparisonCoverage.exactSegments reasonCode
        evidenceCoverage := artifact.evidenceCoverage
        metrics := artifact.metrics
        frontier
        anomalies := artifact.anomalies
        referenceFullScans := artifact.referenceFullScans
        targetFullScans := artifact.targetFullScans }

end ForensicData.Comparison
