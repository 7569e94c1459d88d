/-
ForensicData.Persistence.Records — the lifecycle records a caller holds.

A record is a copy of rows of the metadata store as they were when it was
read; the rows may have moved on since. The checks of a record's constructor
are its proof fields.
-/
import ForensicData.Result.Model
import ForensicData.SourceBudget
import ForensicData.Text

namespace ForensicData.Persistence

open ForensicData.Result

/-- A point in time of the metadata database. -/
abbrev Instant := ℕ

inductive AttemptStatus where
  | running
  | completed
  | incomplete
  | error
  | abandoned
  deriving DecidableEq, Repr

/-- `ClaimedRun`, without its request. -/
structure ClaimedRun where
  runId : Uuid
  creationOperationId : Uuid
  createdAt : Instant
  boundInputCutDigest : Option Sha256Hex
  cutBindingOperationId : Option Uuid
  selectedTerminalAttemptId : Option Uuid
  terminalOperationId : Option Uuid

/-- `RunAttemptRecord`. -/
structure RunAttemptRecord where
  attemptId : Uuid
  run : ClaimedRun
  ordinal : ℕ
  startOperationId : Uuid
  status : AttemptStatus
  executionBudgets : ExecutionBudgets
  ownerToken : Uuid
  leaseRevision : ℕ
  leaseOperationId : Option Uuid
  initialLeaseExpiresAt : Instant
  leaseExpiresAt : Instant
  startedAt : Instant
  inputCutDigest : Option Sha256Hex
  endOperationId : Option Uuid
  ordinal_pos : 0 < ordinal
  lease_operation_iff : leaseRevision = 0 ↔ leaseOperationId = none
  lease_le : initialLeaseExpiresAt ≤ leaseExpiresAt

/-- `PersistedInputCut`, with the digests of its cut. -/
structure PersistedInputCut where
  runId : Uuid
  attemptId : Uuid
  inputCutDigest : Sha256Hex
  referenceScopeDigest : Sha256Hex
  observationIds : Uuid × Uuid

end ForensicData.Persistence
