/-
ForensicData.Application.Failure — the failure of an attempt.

`AttemptFailure` is what an attempt leaves when it does not complete: how the
run is to be published, and what consistency and metrics it had.
-/
import ForensicData.Application.Reasons

namespace ForensicData.Application

open ForensicData.Comparison
open ForensicData.Result

variable {Body Cut : Type} {recordBytes : DifferenceRecord Body → ℕ}

/-- `ClickHouseProtectedContextState.ACTIVE` or another state. -/
inductive ProtectedState where
  | active
  | inactive
  deriving DecidableEq, Repr

/-- `_AttemptResource`: the state of a ClickHouse context, and the identifier of
the persisted context. -/
structure AttemptResource where
  clickHouse : Option ProtectedState
  persisted : Option Uuid
  deriving DecidableEq

/-- `_context_ids`. -/
def contextIds (resources : List AttemptResource) : List Uuid := resources.filterMap (·.persisted)

/-- `_ConsistencyState`. -/
structure ConsistencyState where
  contextIds : List Uuid
  stableReads : ConsistencyLevel
  cutAligned : Bool
  deriving DecidableEq

/-- `_AttemptFailure`. -/
structure AttemptFailure (recordBytes : DifferenceRecord Body → ℕ) (Cut : Type) where
  executionStatus : ExecutionStatus
  verdict : Verdict
  reason : ResultReason
  additionalReasons : List ResultReason
  retryable : Bool
  contextIds : List Uuid
  stableReads : ConsistencyLevel
  cutAligned : Bool
  comparisonCoverage : ComparisonCoverage
  evidenceCoverage : EvidenceCoverage
  metrics : ResultMetrics
  partialArtifact : Option (PartialComparisonArtifact recordBytes)
  persistedCut : Option Cut

/-- `_partial_failure_publication_values`: without stable reads no data mismatch
is published. -/
def partialFailurePublicationValues (artifact : Option (PartialComparisonArtifact recordBytes))
    (verdict : Verdict) (additionalReasons : List ResultReason) : Verdict × List ResultReason :=
  match artifact with
  | none => (verdict, additionalReasons)
  | some artifact =>
    if artifact.consistency.stableReads ≠ .unknown
        ∨ (artifact.frontier.topology = [] ∧ artifact.frontier.unresolved = []) then
      (verdict, additionalReasons)
    else
      (.inconclusive, additionalReasons.filter fun reason => decide (reason.code ≠ .dataMismatch))

end ForensicData.Application
