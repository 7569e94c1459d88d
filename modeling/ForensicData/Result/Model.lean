/-
ForensicData.Result.Model — the vocabulary of comparison results.

Totals are rendered by the source as canonical decimal text; the model keeps
the number. `ComparisonCoverage`, `EvidenceCoverage` and `ConsistencyStatus`
have validators in the source, and carry what those check as proof fields:
`make` is the validating constructor.
-/
import Mathlib.Data.Nat.Notation
import ForensicData.Errors

namespace ForensicData.Result

/-- `UUID`. -/
abbrev Uuid := ℕ

inductive ExecutionStatus where
  | completed
  | incomplete
  | error
  deriving DecidableEq, Repr

inductive Verdict where
  | match
  | mismatch
  | inconclusive
  deriving DecidableEq, Repr

inductive Guarantee where
  | notEstablished
  | exact
  | fingerprint
  | aggregate
  | structural
  deriving DecidableEq, Repr

inductive ConsistencyLevel where
  | verified
  | asserted
  | unknown
  deriving DecidableEq, Repr

inductive ReasonCode where
  | dataMismatch
  | contractViolation
  | notReady
  | cutMismatch
  | snapshotLost
  | budgetExhausted
  | cancelled
  | cancellationUnconfirmed
  | oversizedRecord
  | invalidContract
  | unsupportedCapability
  | lossyTransport
  | queryError
  | persistenceError
  | commitUnknown
  | protocolViolation
  deriving DecidableEq, Repr

structure SafeParameter where
  name : String
  value : String
  deriving DecidableEq, Repr

structure ResultReason where
  code : ReasonCode
  operation : String
  message : String
  safeParameters : List SafeParameter
  nativeErrorCode : Option String
  queryId : Option String
  redactedResponse : Option String
  deriving DecidableEq, Repr

/-- `Total`: a number with its precision, or the reason there is none. -/
inductive Total where
  | exact (value : ℕ)
  | lowerBound (value : ℕ)
  | inferred (value : ℕ)
  | unavailable (reason : ReasonCode)
  deriving DecidableEq, Repr

/-- `total.value`, `None` for an unavailable total. -/
def Total.value : Total → Option ℕ
  | .exact v => some v
  | .lowerBound v => some v
  | .inferred v => some v
  | .unavailable _ => none

def Total.isUnavailable : Total → Bool
  | .unavailable _ => true
  | _ => false

def Total.isLowerBound : Total → Bool
  | .lowerBound _ => true
  | _ => false

def Total.isExact : Total → Bool
  | .exact _ => true
  | _ => false

def Total.isInferred : Total → Bool
  | .inferred _ => true
  | _ => false

structure ComparisonTotals where
  matched : Total
  missing : Total
  extra : Total
  modified : Total
  deriving DecidableEq, Repr

def ComparisonTotals.values (t : ComparisonTotals) : List Total :=
  [t.matched, t.missing, t.extra, t.modified]

def ComparisonTotals.differences (t : ComparisonTotals) : List Total :=
  [t.missing, t.extra, t.modified]

/-- The same total in all four places. -/
def ComparisonTotals.uniform (total : Total) : ComparisonTotals :=
  { matched := total, missing := total, extra := total, modified := total }

structure ResultMetrics where
  queries : ℕ
  fetchedRecords : ℕ
  resultBytes : ℕ
  fingerprintNodes : ℕ
  coordinatorPeakBytes : ℕ
  elapsedMilliseconds : ℕ
  deriving DecidableEq, Repr

/-! ## Coverage -/

/-- How much of the comparison frontier is resolved, with the checks of
`validate_segment_counts` as fields. -/
structure ComparisonCoverage where
  totalPartitions : ℕ
  coveredPartitions : ℕ
  resolvedSegments : ℕ
  prunedSegments : ℕ
  exactSegments : ℕ
  unresolvedSegments : ℕ
  unresolvedReasons : List ReasonCode
  covered_le_total : coveredPartitions ≤ totalPartitions
  resolved_eq : resolvedSegments = prunedSegments + exactSegments
  covered_le_resolved : coveredPartitions ≤ resolvedSegments
  unresolved_uncovered : 0 < unresolvedSegments → coveredPartitions ≠ totalPartitions
  reasons_iff : unresolvedReasons = [] ↔ unresolvedSegments = 0
  deriving DecidableEq

/-- `ComparisonCoverage(...)`. -/
def ComparisonCoverage.make (totalPartitions coveredPartitions resolvedSegments prunedSegments
    exactSegments unresolvedSegments : ℕ) (unresolvedReasons : List ReasonCode) :
    Except Refusal ComparisonCoverage :=
  if covered_le_total : coveredPartitions ≤ totalPartitions then
    if resolved_eq : resolvedSegments = prunedSegments + exactSegments then
      if covered_le_resolved : coveredPartitions ≤ resolvedSegments then
        if unresolved_uncovered : 0 < unresolvedSegments → coveredPartitions ≠ totalPartitions then
          if reasons_iff : unresolvedReasons = [] ↔ unresolvedSegments = 0 then
            .ok { totalPartitions, coveredPartitions, resolvedSegments, prunedSegments,
                  exactSegments, unresolvedSegments, unresolvedReasons, covered_le_total,
                  resolved_eq, covered_le_resolved, unresolved_uncovered, reasons_iff }
          else if unresolvedSegments = 0 then
            raiseValueError "unresolved_reasons must be empty when unresolved_segments is zero"
          else
            raiseValueError "unresolved_reasons must identify why segments are unresolved"
        else raiseValueError "unresolved segments require at least one uncovered partition"
      else raiseValueError "covered partitions require resolved terminal segments"
    else raiseValueError "resolved_segments must equal pruned_segments plus exact_segments"
  else raiseValueError "covered_partitions cannot exceed total_partitions"

/-- The coverage of a comparison whose single root partition is resolved. -/
def ComparisonCoverage.complete (pruned exact : ℕ) (h : 0 < pruned + exact) :
    ComparisonCoverage where
  totalPartitions := 1
  coveredPartitions := 1
  resolvedSegments := pruned + exact
  prunedSegments := pruned
  exactSegments := exact
  unresolvedSegments := 0
  unresolvedReasons := []
  covered_le_total := Nat.le.refl
  resolved_eq := rfl
  covered_le_resolved := h
  unresolved_uncovered := fun h => absurd h (Nat.lt_irrefl 0)
  reasons_iff := by simp

theorem ComparisonCoverage.make_of {totalPartitions coveredPartitions resolvedSegments
    prunedSegments exactSegments unresolvedSegments : ℕ} {unresolvedReasons : List ReasonCode}
    (covered_le_total : coveredPartitions ≤ totalPartitions)
    (resolved_eq : resolvedSegments = prunedSegments + exactSegments)
    (covered_le_resolved : coveredPartitions ≤ resolvedSegments)
    (unresolved_uncovered : 0 < unresolvedSegments → coveredPartitions ≠ totalPartitions)
    (reasons_iff : unresolvedReasons = [] ↔ unresolvedSegments = 0) :
    ComparisonCoverage.make totalPartitions coveredPartitions resolvedSegments prunedSegments
        exactSegments unresolvedSegments unresolvedReasons
      = .ok { totalPartitions, coveredPartitions, resolvedSegments, prunedSegments, exactSegments,
              unresolvedSegments, unresolvedReasons, covered_le_total, resolved_eq,
              covered_le_resolved, unresolved_uncovered, reasons_iff } := by
  rw [ComparisonCoverage.make, dif_pos covered_le_total, dif_pos resolved_eq,
    dif_pos covered_le_resolved, dif_pos unresolved_uncovered, dif_pos reasons_iff]

theorem ComparisonCoverage.make_complete {pruned exact : ℕ} (h : 0 < pruned + exact) :
    ComparisonCoverage.make 1 1 (pruned + exact) pruned exact 0 []
      = .ok (.complete pruned exact h) :=
  make_of (Nat.le_refl 1) rfl h (fun h => absurd h (Nat.lt_irrefl 0)) (by simp)

/-- What was found and what was kept of the row evidence, with the checks of
`validate_retention_bounds` as fields. -/
structure EvidenceCoverage where
  foundRecords : ℕ
  retainedRecords : ℕ
  foundBytes : ℕ
  retainedBytes : ℕ
  records_le : retainedRecords ≤ foundRecords
  bytes_le : retainedBytes ≤ foundBytes
  deriving DecidableEq

/-- `EvidenceCoverage(...)`. -/
def EvidenceCoverage.make (foundRecords retainedRecords foundBytes retainedBytes : ℕ) :
    Except Refusal EvidenceCoverage :=
  if records_le : retainedRecords ≤ foundRecords then
    if bytes_le : retainedBytes ≤ foundBytes then
      .ok { foundRecords, retainedRecords, foundBytes, retainedBytes, records_le, bytes_le }
    else raiseValueError "retained_bytes cannot exceed found_bytes"
  else raiseValueError "retained_records cannot exceed found_records"

theorem EvidenceCoverage.make_of_le {foundRecords retainedRecords foundBytes retainedBytes : ℕ}
    (records_le : retainedRecords ≤ foundRecords) (bytes_le : retainedBytes ≤ foundBytes) :
    EvidenceCoverage.make foundRecords retainedRecords foundBytes retainedBytes
      = .ok { foundRecords, retainedRecords, foundBytes, retainedBytes, records_le, bytes_le } := by
  rw [EvidenceCoverage.make, dif_pos records_le, dif_pos bytes_le]

/-- How stable the reads were and over which contexts. -/
structure ConsistencyStatus where
  stableReads : ConsistencyLevel
  cutAlignment : ConsistencyLevel
  readContextIds : List Uuid
  contexts_nodup : readContextIds.Nodup
  deriving DecidableEq

/-- `ConsistencyStatus(...)`. -/
def ConsistencyStatus.make (stableReads cutAlignment : ConsistencyLevel)
    (readContextIds : List Uuid) : Except Refusal ConsistencyStatus :=
  if contexts_nodup : readContextIds.Nodup then
    .ok { stableReads, cutAlignment, readContextIds, contexts_nodup }
  else raiseValueError "read_context_ids must not contain duplicates"

theorem ConsistencyStatus.make_of_nodup {stableReads cutAlignment : ConsistencyLevel}
    {readContextIds : List Uuid} (contexts_nodup : readContextIds.Nodup) :
    ConsistencyStatus.make stableReads cutAlignment readContextIds
      = .ok { stableReads, cutAlignment, readContextIds, contexts_nodup } :=
  dif_pos contexts_nodup

/-! ## Severity -/

/-- The execution status a reason code belongs to. -/
def ReasonCode.status : ReasonCode → ExecutionStatus
  | .dataMismatch => .completed
  | .contractViolation => .completed
  | .notReady => .incomplete
  | .cutMismatch => .incomplete
  | .snapshotLost => .incomplete
  | .budgetExhausted => .incomplete
  | .cancelled => .incomplete
  | .cancellationUnconfirmed => .incomplete
  | .oversizedRecord => .incomplete
  | .invalidContract => .error
  | .unsupportedCapability => .error
  | .lossyTransport => .error
  | .queryError => .error
  | .persistenceError => .error
  | .commitUnknown => .error
  | .protocolViolation => .error

end ForensicData.Result
