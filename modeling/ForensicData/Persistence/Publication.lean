/-
ForensicData.Persistence.Publication — from a completed artifact to the rows
that are published.

`completedComparisonPersistenceFromArtifact` checks an artifact against its
attempt and the attempt's persisted cut, turns it into a result row and its
segments, and puts these through the publisher's own checks. All of them
refuse with a `ValueError`.
-/
import ForensicData.Comparison.Artifact
import ForensicData.Persistence.Records
import ForensicData.Persistence.Topology

namespace ForensicData.Persistence

open ForensicData.Canonical
open ForensicData.Comparison
open ForensicData.Result

variable {Body : Type} {recordBytes : DifferenceRecord Body → ℕ}

/-- `CompletedComparisonDefinition(...)` with the fields of an artifact. -/
def CompletedComparisonDefinition.ofArtifact (artifact : CompletedComparisonArtifact recordBytes) :
    Except Refusal CompletedComparisonDefinition :=
  if verdict_known : artifact.verdict ≠ .inconclusive then
    if guarantee_established : artifact.guarantee = .exact ∨ artifact.guarantee = .fingerprint then
      .ok { checkId := artifact.checkId
            contractDigest := artifact.contractDigest
            scopeDigest := artifact.scopeDigest
            verdict := artifact.verdict
            consistency := artifact.consistency
            guarantee := artifact.guarantee
            comparisonCoverage := artifact.comparisonCoverage
            totals := artifact.totals
            evidenceCoverage := artifact.evidenceCoverage
            metrics := artifact.metrics
            reasons := artifact.reasons
            verdict_known, guarantee_established }
    else raiseValueError
      "integer-range completed comparison requires exact or fingerprint guarantee"
  else raiseValueError "completed comparison verdict cannot be inconclusive"

/-- The row of one segment of an artifact. -/
def segmentRow (observationIds : Uuid × Uuid) (segment : ComparisonSegmentRecord) :
    Except Refusal IntegerRangeFingerprintPersistence :=
  IntegerRangeFingerprintPersistence.make segment.toSegmentPlace segment.state
    observationIds.1 segment.referenceFingerprint observationIds.2 segment.targetFingerprint

/-- `_validate_completed_budget_use`. -/
def validateCompletedBudgetUse (budgets : ExecutionBudgets)
    (comparison : CompletedComparisonDefinition)
    (segments : List IntegerRangeFingerprintPersistence) : Except Refusal Unit := do
  let metrics := comparison.metrics
  let coverage := comparison.evidenceCoverage
  [("queries", metrics.queries, budgets.maxQueries),
    ("fetched_records", metrics.fetchedRecords, budgets.maxFetchedRecords),
    ("result_bytes", metrics.resultBytes, budgets.maxApplicationResultBytes),
    ("fingerprint_nodes", metrics.fingerprintNodes, budgets.maxFingerprintNodes),
    ("coordinator_peak_bytes", metrics.coordinatorPeakBytes, budgets.maxCoordinatorMemoryBytes),
    ("elapsed_milliseconds", metrics.elapsedMilliseconds, budgets.runTimeoutMilliseconds),
    ("retained_evidence_records", coverage.retainedRecords, budgets.maxEvidenceRows),
    ("retained_evidence_bytes", coverage.retainedBytes, budgets.maxEvidenceBytes)].forM
    fun (name, actual, maximum) =>
      refuseIf (actual > maximum)
        { error := .valueError
          message := s!"completed comparison {name} exceeds its immutable attempt budget" }
  refuseIf (∃ segment ∈ segments, segment.depth > budgets.maxDepth)
    { error := .valueError
      message := "completed comparison segment depth exceeds its attempt budget" }

/-- `_validate_artifact_summary_closure`. -/
def validateArtifactSummaryClosure (artifact : CompletedComparisonArtifact recordBytes)
    (root : IntegerRangeFingerprintPersistence) : Except Refusal Unit := do
  [("reference", artifact.referenceKeySummary), ("target", artifact.targetKeySummary)].forM
    fun (direction, summary) =>
      refuseIf (summary.nullKeyCount ≠ 0 ∨ summary.invalidKeyCount ≠ 0 ∨
          summary.validKeyCount ≠ summary.rowCount ∨ summary.distinctKeyCount ≠ summary.rowCount)
        { error := .valueError
          message := s!"completed {direction} artifact violates the unique integer-key contract" }
  refuseIf (artifact.referenceKeySummary.rowCount ≠ root.referenceFingerprint.count)
    { error := .valueError
      message := "reference key summary does not close to the root fingerprint" }
  refuseIf (artifact.targetKeySummary.rowCount ≠ root.targetFingerprint.count)
    { error := .valueError
      message := "target key summary does not close to the root fingerprint" }

/-- `_validate_anomaly_coverage`. -/
def validateAnomalyCoverage (recordBytes : DifferenceRecord Body → ℕ)
    (coverage : EvidenceCoverage) (anomalies : List (DifferenceRecord Body)) :
    Except Refusal Unit := do
  refuseIf (anomalies.map (·.sequence) ≠ List.range anomalies.length)
    { error := .valueError
      message := "retained anomaly sequences must be contiguous from zero in order" }
  refuseIf (coverage.retainedRecords ≠ anomalies.length)
    { error := .valueError
      message := "retained evidence count differs from the anomaly records" }
  refuseIf (coverage.retainedBytes ≠ (anomalies.map recordBytes).sum)
    { error := .valueError
      message := "retained evidence bytes differ from canonical anomaly payload bytes" }

/-- `_validate_completed_anomaly_segments`. -/
def validateCompletedAnomalySegments (anomalies : List (DifferenceRecord Body))
    (segments : List IntegerRangeFingerprintPersistence) : Except Refusal Unit :=
  anomalies.forM fun anomaly =>
    match segments.find? fun segment =>
      decide (segment.segmentSequence = anomaly.segmentSequence) with
    | none => raiseValueError "retained anomaly references an unknown completed segment"
    | some segment =>
      refuseIf (segment.state ≠ .exactMismatch)
        { error := .valueError
          message := "retained anomaly must belong to an exact-mismatch segment" }

/-- `completed_comparison_persistence_from_artifact`. -/
def completedComparisonPersistenceFromArtifact (attempt : RunAttemptRecord)
    (persistedCut : PersistedInputCut) (artifact : CompletedComparisonArtifact recordBytes) :
    Except Refusal (CompletedComparisonDefinition × List IntegerRangeFingerprintPersistence ×
      List (DifferenceRecord Body)) := do
  refuseIf (persistedCut.runId ≠ attempt.run.runId ∨ persistedCut.attemptId ≠ attempt.attemptId)
    { error := .valueError
      message := "persisted input cut must belong to the comparison attempt" }
  let inputCutDigest := persistedCut.inputCutDigest
  refuseIf (artifact.inputCutDigest ≠ inputCutDigest)
    { error := .valueError
      message := "comparison artifact input cut differs from the persisted attempt cut" }
  [attempt.run.boundInputCutDigest, attempt.inputCutDigest].forM fun boundDigest =>
    refuseIf (boundDigest ≠ none ∧ boundDigest ≠ some inputCutDigest)
      { error := .valueError
        message := "comparison attempt record is bound to a different input cut" }
  refuseIf (artifact.scopeDigest ≠ persistedCut.referenceScopeDigest)
    { error := .valueError
      message := "comparison artifact scope differs from its persisted input cut" }
  refuseIf (artifact.referenceFullScans > attempt.executionBudgets.maxFullScansPerSide)
    { error := .valueError
      message := "reference full scans exceed the immutable attempt budget" }
  refuseIf (artifact.targetFullScans > attempt.executionBudgets.maxFullScansPerSide)
    { error := .valueError
      message := "target full scans exceed the immutable attempt budget" }
  let definition ← CompletedComparisonDefinition.ofArtifact artifact
  let segments ← artifact.segments.mapM (segmentRow persistedCut.observationIds)
  validateCompletedSegments definition segments
  validateCompletedBudgetUse attempt.executionBudgets definition segments
  match segments with
  | [] => .error { error := .indexError, message := "tuple index out of range" }
  | root :: _ => validateArtifactSummaryClosure artifact root
  validateAnomalyCoverage recordBytes definition.evidenceCoverage artifact.anomalies
  validateCompletedAnomalySegments artifact.anomalies segments
  return (definition, segments, artifact.anomalies)

end ForensicData.Persistence
