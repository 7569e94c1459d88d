/-
ForensicData.Persistence.LifecycleTransactions — the transactions of a run's
lifecycle.

Each `…Once` is one transaction behind the locks of its identities, up to its
`COMMIT`: the store it commits, or the error that rolls it back. A receipt that
is found again is checked and leaves the store as it is. The transactions lock
the row of their run first, so that those of one run follow one another.

The database clock moves within a transaction (`Clock`). Checks of source
evidence, of contracts and of result payloads look at other tables and at other
systems; what they answer is given by `LifecycleEvidence`.
-/
import ForensicData.Persistence.LifecycleRows

namespace ForensicData.Persistence

open ForensicData.Application (uuidText PlanDirection)
open ForensicData.Contracts (Adapter)
open ForensicData.Reporting (canonicalJson)
open ForensicData.Result

/-! ## Readings -/

/-- What `clock_timestamp()` answers in a transaction: to the check of a fence, to the
statement that writes, and to the check before `COMMIT`. -/
structure Clock where
  fence : Instant
  write : Instant
  commit : Instant

/-- How much time a transaction takes up to each reading. -/
structure Elapsed where
  toFence : ℕ
  toWrite : ℕ
  toCommit : ℕ

def Elapsed.clock (elapsed : Elapsed) (now : Instant) : Clock where
  fence := now + elapsed.toFence
  write := now + elapsed.toFence + elapsed.toWrite
  commit := now + elapsed.toFence + elapsed.toWrite + elapsed.toCommit

/-- The checks that look beyond the lifecycle tables, and `uuid5`. -/
structure LifecycleEvidence where
  /-- `_validate_stored_clickhouse_closure`. -/
  validateStoredClickhouseClosure : ReadContextRow → Except Refusal Unit
  /-- `_require_protected_context_active` of an acquired context. -/
  requireProtectedContextActive : ContextExpectation → Except Refusal Unit
  /-- `_require_dataset_closure`. -/
  requireDatasetClosure : ContextExpectation → Except Refusal Unit
  /-- `_require_protected_context_active` of both sides of a cut and
  `_require_cut_contract_consistency`. -/
  requireCutConsistency : CutExpectation → Except Refusal Unit
  /-- `_require_context_contains_observation_relations` and
  `_require_observation_definition`. -/
  requireObservationClosure : ReadContextRow → CutExpectation → ObservationExpectation →
    Except Refusal Unit
  /-- The rest of `_require_completed_closure_rows` and the evidence boundary. -/
  requireCompletedEvidence : ComparisonExpectation → LifecycleStore → Except Refusal Unit
  /-- `_completed_result_from_database`. -/
  completedResultFromDatabase : ComparisonExpectation → LifecycleStore → Except Refusal Unit
  /-- The rest of `_require_partial_closure_rows` and the evidence boundary. -/
  requirePartialEvidence : PartialExpectation → LifecycleStore → Except Refusal Unit
  /-- `_partial_result_from_database` and the check of its selection. -/
  partialResultFromDatabase : PartialExpectation → LifecycleStore → Except Refusal Unit
  uuid5 : Uuid → String → Uuid

def fenceError (message : String) : Refusal where
  error := .attemptFenceError
  message := message

def stateError (message : String) : Refusal where
  error := .runLifecycleStateError
  message := message

def integrityError (message : String) : Refusal where
  error := .storedLifecycleIntegrityError
  message := message

def conflictError (message : String) : Refusal where
  error := .lifecycleOperationConflictError
  message := message

/-! ## Rows of a run -/

namespace LifecycleStore

/-- The run table, as a claim reads it. -/
def runStore (store : LifecycleStore) : RunStore where
  runs := store.runs.map (·.toRunRow)
  now := store.now

def selectRun (store : LifecycleStore) (runId : Uuid) : Option LifecycleRun :=
  store.runs.find? fun row => row.runId = runId

def selectAttempt (store : LifecycleStore) (attemptId : Uuid) : Option AttemptRow :=
  store.attempts.find? fun row => row.attemptId = attemptId

def selectAttemptByStartOperation (store : LifecycleStore) (operationId : Uuid) :
    Option AttemptRow :=
  store.attempts.find? fun row => row.startOperationId = operationId

def selectAttemptByCutOperation (store : LifecycleStore) (operationId : Uuid) :
    Option AttemptRow :=
  store.attempts.find? fun row => row.cutOperationId = some operationId

def selectAttemptByEndOperation (store : LifecycleStore) (operationId : Uuid) :
    Option AttemptRow :=
  store.attempts.find? fun row => row.endOperationId = some operationId

def selectLeaseRenewalReceipt (store : LifecycleStore) (operationId : Uuid) :
    Option LeaseRenewal :=
  store.renewals.find? fun row => row.leaseOperationId = operationId

def selectContext (store : LifecycleStore) (readContextId : Uuid) : Option ReadContextRow :=
  store.contexts.find? fun row => row.readContextId = readContextId

def selectContextByAcquisitionOperation (store : LifecycleStore) (operationId : Uuid) :
    Option ReadContextRow :=
  store.contexts.find? fun row => row.acquisitionOperationId = operationId

def selectContextByEndOperation (store : LifecycleStore) (operationId : Uuid) :
    Option ReadContextRow :=
  store.contexts.find? fun row => row.endOperationId = some operationId

/-- The attempts of a run, in the order of their ordinals: rows are only appended. -/
def attemptsOf (store : LifecycleStore) (runId : Uuid) : List AttemptRow :=
  store.attempts.filter fun row => row.runId = runId

def contextsOf (store : LifecycleStore) (runId attemptId : Uuid) : List ReadContextRow :=
  store.contexts.filter fun row => row.runId = runId ∧ row.attemptId = attemptId

def observationsOf (store : LifecycleStore) (attemptId : Uuid) : List ObservationRow :=
  store.observations.filter fun row => row.attemptId = attemptId

/-- An `UPDATE` of attempts that has to update one row. -/
def updateAttempt (store : LifecycleStore) (condition : AttemptRow → Prop)
    [DecidablePred condition] (change : AttemptRow → AttemptRow) (refusal : Refusal) :
    Except Refusal LifecycleStore := do
  refuseIf (store.attempts.countP condition ≠ 1) refusal
  return { store with
    attempts := store.attempts.map fun row => if condition row then change row else row }

/-- An `UPDATE` of runs that has to update one row. -/
def updateRun (store : LifecycleStore) (condition : LifecycleRun → Prop)
    [DecidablePred condition] (change : LifecycleRun → LifecycleRun) (refusal : Refusal) :
    Except Refusal LifecycleStore := do
  refuseIf (store.runs.countP condition ≠ 1) refusal
  return { store with
    runs := store.runs.map fun row => if condition row then change row else row }

/-- An `UPDATE` of read contexts that has to update one row. -/
def updateContext (store : LifecycleStore) (condition : ReadContextRow → Prop)
    [DecidablePred condition] (change : ReadContextRow → ReadContextRow) (refusal : Refusal) :
    Except Refusal LifecycleStore := do
  refuseIf (store.contexts.countP condition ≠ 1) refusal
  return { store with
    contexts := store.contexts.map fun row => if condition row then change row else row }

end LifecycleStore

/-! ## Locks and fences -/

/-- `_lock_run_by_id`, and the check of the locked row against the caller's run. -/
def lockRun (run : RequestedRun) (unknown : Refusal) (store : LifecycleStore) :
    Except Refusal LifecycleRun :=
  match store.selectRun run.runId with
  | none => .error unknown
  | some row => do
    let _ ← claimedRunFromRow run.expectation row.toRunRow
    return row

/-- `_lock_attempt_by_id`, and the check that the attempt belongs to the caller's run. -/
def lockAttempt (attempt : HeldAttempt) (unknown : Refusal) (store : LifecycleStore) :
    Except Refusal AttemptRow :=
  match store.selectAttempt attempt.attemptId with
  | none => .error unknown
  | some row => do
    refuseIf (row.runId ≠ attempt.run.runId) unknown
    return row

/-- `_require_attempt_fence_row`. -/
def requireAttemptFenceRow (attempt : HeldAttempt) (row : AttemptRow) (now : Instant) :
    Except Refusal Unit := do
  refuseIf (row.ownerToken ≠ attempt.ownerToken)
    (fenceError "attempt fence failed because the owner token differs")
  refuseIf (row.leaseRevision ≠ attempt.leaseRevision)
    (fenceError "attempt fence failed because the lease revision is stale")
  refuseIf (row.status ≠ .running)
    (fenceError "attempt fence failed because the attempt is not running")
  refuseIf (row.leaseExpiresAt ≤ now)
    (fenceError "attempt fence failed because the lease is expired")

/-- The fence that a writing statement repeats in its `WHERE`. -/
def Fenced (attempt : HeldAttempt) (now : Instant) (row : AttemptRow) : Prop :=
  row.runId = attempt.run.runId ∧ row.attemptId = attempt.attemptId ∧
    row.ownerToken = attempt.ownerToken ∧ row.leaseRevision = attempt.leaseRevision ∧
    row.status = .running ∧ now < row.leaseExpiresAt

instance (attempt : HeldAttempt) (now : Instant) : DecidablePred (Fenced attempt now) :=
  fun _ => inferInstanceAs (Decidable (_ ∧ _))

/-- `_commit_fenced_result`: the lease that was held before the write still holds. -/
def commitFenced (preMutationLeaseExpiresAt : Instant) (operation : String) (clock : Clock)
    (store : LifecycleStore) : Except Refusal LifecycleStore := do
  refuseIf (preMutationLeaseExpiresAt ≤ clock.commit)
    (fenceError
      s!"attempt lease expired before fenced lifecycle commit: operation='{operation}'")
  return store

/-! ## Claim and start -/

/-- `_claim_run_once`. -/
def claimOnce (expected : RunExpectation) (store : LifecycleStore) :
    Except Refusal LifecycleStore := do
  let (_, effect) ← claimRunOnce expected store.runStore
  match effect with
  | none => return store
  | some _ =>
    return { store with
      runs := store.runs ++ [{ expected.row store.now with
        boundInputCutPayload := none, cutBoundAt := none, terminalAt := none }] }

/-- The inserted row; `started_at` is the time at which the transaction began. -/
def AttemptExpectation.row (expected : AttemptExpectation) (ordinal : ℕ) (now : Instant) :
    AttemptRow where
  attemptId := expected.candidateAttemptId
  runId := expected.run.runId
  ordinal := ordinal
  startOperationId := expected.startOperationId
  status := .running
  executionBudgets := canonicalJson (executionPolicySemantics expected.run.request.executionPolicy)
  ownerToken := expected.ownerToken
  leaseRevision := 0
  leaseOperationId := none
  initialLeaseExpiresAt := expected.leaseExpiresAt
  leaseExpiresAt := expected.leaseExpiresAt
  inputCutDigest := none
  cutOperationId := none
  cutObservedAt := none
  endOperationId := none
  terminalReason := none
  startedAt := now
  endedAt := none

/-- The comparison of `_started_attempt_from_row`. -/
def startedAttemptFromRow (expected : AttemptExpectation) (row : AttemptRow) :
    Except Refusal Unit :=
  refuseIf
    (¬ (row.attemptId = expected.candidateAttemptId ∧ row.runId = expected.run.runId ∧
      row.startOperationId = expected.startOperationId ∧
      row.executionBudgets
        = canonicalJson (executionPolicySemantics expected.run.request.executionPolicy) ∧
      row.ownerToken = expected.ownerToken ∧
      row.initialLeaseExpiresAt = expected.leaseExpiresAt))
    (conflictError
      "attempt start operation UUID is already bound to a different full start receipt")

/-- `_start_attempt_once`. -/
def startAttemptOnce (expected : AttemptExpectation) (clock : Clock) (store : LifecycleStore) :
    Except Refusal LifecycleStore := do
  let run ← lockRun expected.run
    (stateError "cannot start an attempt for an unknown run") store
  match store.selectAttemptByStartOperation expected.startOperationId with
  | some row => do
    startedAttemptFromRow expected row
    return store
  | none => do
    refuseIf ((store.selectAttempt expected.candidateAttemptId).isSome = true)
      (conflictError "candidate attempt UUID is already bound to another lifecycle attempt")
    refuseIf (run.selectedTerminalAttemptId ≠ none)
      (stateError "cannot start an attempt for a terminal run")
    let attempts := store.attemptsOf expected.run.runId
    refuseIf (∃ row ∈ attempts, row.status = .running)
      { error := .activeRunAttemptError
        message := "run already has a fenced running attempt; expired attempts require explicit "
          ++ "maintenance abandonment" }
    refuseIf (∃ row ∈ attempts, row.ownerToken ≠ expected.ownerToken)
      { error := .runInvocationContinuationError
        message := "run has prior attempts admitted by a different process invocation and cannot "
          ++ "safely reset whole-run source budgets: "
          ++ s!"run_id={uuidText expected.run.runId}; inspect durable history and use a new "
          ++ "request UUID" }
    let maxAttempts := expected.run.request.executionPolicy.maxAttempts
    refuseIf (maxAttempts ≤ attempts.length)
      { error := .runAttemptLimitError
        message := "run exhausted the immutable request max_attempts budget: "
          ++ s!"attempt_count={attempts.length}, max_attempts={maxAttempts}" }
    refuseIf (expected.leaseExpiresAt ≤ clock.fence)
      (fenceError "new attempt lease expiry must be later than database time")
    refuseIf (expected.leaseExpiresAt ≤ clock.write)
      (fenceError "new attempt lease expired before admission")
    let after := { store with
      attempts := store.attempts ++ [expected.row (attempts.length + 1) store.now] }
    match after.selectAttemptByStartOperation expected.startOperationId with
    | none =>
      .error (integrityError "attempt start insert produced no durable operation receipt")
    | some inserted => do
      startedAttemptFromRow expected inserted
      commitFenced expected.leaseExpiresAt "new attempt admission" clock after

/-! ## Lease renewal -/

/-- The row that a renewal inserts. -/
def LeaseRenewalExpectation.receipt (expected : LeaseRenewalExpectation) : LeaseRenewal where
  leaseOperationId := expected.operationId
  runId := expected.attempt.run.runId
  attemptId := expected.attempt.attemptId
  ownerToken := expected.attempt.ownerToken
  expectedLeaseRevision := expected.attempt.leaseRevision
  requestedLeaseExpiresAt := expected.leaseExpiresAt
  resultingLeaseRevision := expected.attempt.leaseRevision + 1

/-- The checks of `_renewed_attempt_from_receipt`. -/
def renewedAttemptFromReceipt (expected : LeaseRenewalExpectation) (receipt : LeaseRenewal)
    (store : LifecycleStore) : Except Refusal Unit := do
  refuseIf (receipt ≠ expected.receipt)
    (conflictError
      "lease renewal operation UUID is bound to a different full renewal receipt")
  match store.selectAttempt expected.attempt.attemptId with
  | none => .error (integrityError "lease renewal attempt row is missing")
  | some row => do
    refuseIf
      (¬ (row.runId = expected.attempt.run.runId ∧
        row.startOperationId = expected.attempt.startOperationId ∧
        row.executionBudgets
          = canonicalJson (executionPolicySemantics expected.attempt.request.executionPolicy) ∧
        row.ownerToken = expected.attempt.ownerToken ∧
        row.initialLeaseExpiresAt = expected.attempt.initialLeaseExpiresAt))
      (integrityError
        "lease renewal receipt does not close over the attempt immutable start facts")
    let _ ← lockRun expected.attempt.requestedRun
      (integrityError "lease renewal run row is missing") store
    refuseIf (row.leaseRevision < expected.attempt.leaseRevision + 1)
      (integrityError
        "current attempt lease revision precedes its immutable renewal receipt")
    refuseIf (row.leaseExpiresAt < expected.leaseExpiresAt)
      (integrityError "current attempt lease expiry precedes its immutable renewal receipt")
    refuseIf (row.leaseRevision = expected.attempt.leaseRevision + 1 ∧
        (row.leaseOperationId ≠ some expected.operationId ∨
          row.leaseExpiresAt ≠ expected.leaseExpiresAt))
      (integrityError
        "current attempt lease state differs from its latest renewal receipt")

/-- `_renew_attempt_once`. -/
def renewAttemptOnce (expected : LeaseRenewalExpectation) (clock : Clock)
    (store : LifecycleStore) : Except Refusal LifecycleStore := do
  let _ ← lockRun expected.attempt.requestedRun
    (fenceError "lease renewal run is unknown") store
  let row ← lockAttempt expected.attempt (fenceError "lease renewal attempt is unknown") store
  match store.selectLeaseRenewalReceipt expected.operationId with
  | some receipt => do
    renewedAttemptFromReceipt expected receipt store
    return store
  | none => do
    requireAttemptFenceRow expected.attempt row clock.fence
    refuseIf (expected.leaseExpiresAt ≤ row.leaseExpiresAt)
      (fenceError "renewed lease expiry must be later than the current lease")
    let updated ← store.updateAttempt (Fenced expected.attempt clock.write)
      (fun row => { row with
        leaseRevision := row.leaseRevision + 1
        leaseOperationId := some expected.operationId
        leaseExpiresAt := expected.leaseExpiresAt })
      (fenceError "lease renewal compare-and-set did not update the attempt")
    let after := { updated with renewals := updated.renewals ++ [expected.receipt] }
    match after.selectLeaseRenewalReceipt expected.operationId with
    | none => .error (integrityError "lease renewal receipt insert is missing")
    | some receipt => do
      renewedAttemptFromReceipt expected receipt after
      commitFenced row.leaseExpiresAt "lease renewal" clock after

/-! ## Read contexts -/

section Evidence

variable (evidence : LifecycleEvidence)

/-- The checks of `_persisted_context_from_row`. -/
def persistedContextFromRow (expected : ContextExpectation) (row : ReadContextRow) :
    Except Refusal Unit := do
  evidence.validateStoredClickhouseClosure row
  refuseIf (row.toReadContextAcquisition ≠ expected.acquisition)
    (conflictError
      "context acquisition operation UUID is already bound to different evidence")

/-- `_persist_context_once`. -/
def persistContextOnce (expected : ContextExpectation) (clock : Clock)
    (store : LifecycleStore) : Except Refusal LifecycleStore := do
  let _ ← lockRun expected.attempt.requestedRun
    (fenceError "read context run fence is unknown") store
  let attemptRow ← lockAttempt expected.attempt
    (fenceError "read context attempt fence is unknown") store
  match store.selectContextByAcquisitionOperation expected.acquisitionOperationId with
  | some row => do
    persistedContextFromRow evidence expected row
    return store
  | none => do
    refuseIf ((store.selectContext expected.readContextId).isSome = true)
      (conflictError "read context UUID is already bound to another acquisition operation")
    evidence.requireProtectedContextActive expected
    requireAttemptFenceRow expected.attempt attemptRow clock.fence
    evidence.requireDatasetClosure expected
    refuseIf (store.attempts.countP (Fenced expected.attempt clock.write) ≠ 1)
      (fenceError "read context acquisition fence expired before persistence")
    let after := { store with
      contexts := store.contexts ++ [{ expected.acquisition with
        state := .active, endOperationId := none, endedAt := none, closureEvidence := none }] }
    match after.selectContextByAcquisitionOperation expected.acquisitionOperationId with
    | none =>
      .error (integrityError "read context insert produced no durable operation receipt")
    | some inserted => do
      persistedContextFromRow evidence expected inserted
      commitFenced attemptRow.leaseExpiresAt "read context acquisition" clock after

/-- The checks of `_require_finished_context`. -/
def requireFinishedContext (expected : ContextEnd) (targetState : ReadContextStatus)
    (row : ReadContextRow) : Except Refusal Unit := do
  evidence.validateStoredClickhouseClosure row
  refuseIf
    (¬ (row.readContextId = expected.readContextId ∧ row.runId = expected.attempt.run.runId ∧
      row.attemptId = expected.attempt.attemptId ∧ row.state = targetState ∧
      row.endOperationId = some expected.endOperationId ∧ row.endedAt = some expected.endedAt))
    (conflictError "read context end operation UUID is already bound to a different transition")

/-- The locks of `_begin_context_end_transaction`. -/
def beginContextEnd (expected : ContextEnd) (store : LifecycleStore) :
    Except Refusal AttemptRow := do
  let _ ← lockRun expected.attempt.requestedRun
    (fenceError "read context end run fence is unknown") store
  lockAttempt expected.attempt (fenceError "read context end attempt fence is unknown") store

/-- `_prepare_new_context_end`. -/
def prepareNewContextEnd (expected : ContextEnd) (attemptRow : AttemptRow) (now : Instant)
    (store : LifecycleStore) : Except Refusal ReadContextRow := do
  requireAttemptFenceRow expected.attempt attemptRow now
  match store.selectContext expected.readContextId with
  | none => .error (stateError "cannot finish an unknown read context")
  | some row => do
    refuseIf (row.runId ≠ expected.attempt.run.runId ∨
        row.attemptId ≠ expected.attempt.attemptId)
      (stateError "read context is outside the fenced attempt")
    refuseIf (row.state ≠ .active) (stateError "read context is not active")
    return row

/-- `_require_generic_context_end_supported`. -/
def requireGenericContextEndSupported (row : ReadContextRow) (targetState : ReadContextStatus) :
    Except Refusal Unit :=
  refuseIf (targetState = .closed ∧ row.engine = .clickhouse)
    (stateError ("ClickHouse read contexts require close_postgres_clickhouse_read_context so "
      ++ "final confirmation evidence is persisted atomically"))

/-- The `WHERE` of an `UPDATE` that ends a context. -/
def Endable (expected : ContextEnd) (now : Instant) (store : LifecycleStore)
    (row : ReadContextRow) : Prop :=
  row.readContextId = expected.readContextId ∧ row.state = .active ∧
    ∃ fence ∈ store.attempts, Fenced expected.attempt now fence

instance (expected : ContextEnd) (now : Instant) (store : LifecycleStore) :
    DecidablePred (Endable expected now store) :=
  fun _ => inferInstanceAs (Decidable (_ ∧ _))

/-- `_finish_context_once`; `lost` is its target state. -/
def finishContextOnce (expected : ContextEnd) (lost : Bool) (clock : Clock)
    (store : LifecycleStore) : Except Refusal LifecycleStore := do
  let targetState : ReadContextStatus := if lost then .lost else .closed
  let attemptRow ← beginContextEnd expected store
  match store.selectContextByEndOperation expected.endOperationId with
  | some row => do
    requireGenericContextEndSupported row targetState
    requireFinishedContext evidence expected targetState row
    return store
  | none => do
    let contextRow ← prepareNewContextEnd expected attemptRow clock.fence store
    requireGenericContextEndSupported contextRow targetState
    let after ← store.updateContext (Endable expected clock.write store)
      (fun row => { row with
        state := targetState
        endOperationId := some expected.endOperationId
        endedAt := some expected.endedAt })
      (fenceError "read context end fence expired before persistence")
    match after.selectContextByEndOperation expected.endOperationId with
    | none =>
      .error (integrityError "read context end mutation produced no durable operation receipt")
    | some updated => do
      requireFinishedContext evidence expected targetState updated
      commitFenced attemptRow.leaseExpiresAt "read context end" clock after

/-- `_require_clickhouse_context_acquisition_row`. -/
def requireClickhouseContextAcquisitionRow (expected : ClickHouseContextClosure)
    (row : ReadContextRow) : Except Refusal Unit :=
  refuseIf (row.engine ≠ .clickhouse ∨ row.direction ≠ expected.direction ∨
      row.acquisitionEvidence ≠ expected.acquisitionEvidenceJson)
    (conflictError
      "persisted ClickHouse read context differs from its exact immutable acquisition")

/-- The checks of `_require_closed_clickhouse_context`. -/
def requireClosedClickhouseContext (expected : ClickHouseContextClosure) (row : ReadContextRow) :
    Except Refusal Unit := do
  requireClickhouseContextAcquisitionRow expected row
  refuseIf (row.closureEvidence ≠ some expected.closureEvidenceJson)
    (conflictError
      "ClickHouse context end operation UUID is bound to different closure evidence")
  requireFinishedContext evidence expected.toContextEnd .closed row

/-- `_close_clickhouse_context_once`. -/
def closeClickhouseContextOnce (expected : ClickHouseContextClosure) (clock : Clock)
    (store : LifecycleStore) : Except Refusal LifecycleStore := do
  let attemptRow ← beginContextEnd expected.toContextEnd store
  match store.selectContextByEndOperation expected.endOperationId with
  | some row => do
    requireClosedClickhouseContext evidence expected row
    return store
  | none => do
    let contextRow ← prepareNewContextEnd expected.toContextEnd attemptRow clock.fence store
    requireClickhouseContextAcquisitionRow expected contextRow
    let after ← store.updateContext
      (fun row => Endable expected.toContextEnd clock.write store row ∧
        row.engine = .clickhouse ∧ row.closureEvidence = none)
      (fun row => { row with
        state := .closed
        endOperationId := some expected.endOperationId
        endedAt := some expected.endedAt
        closureEvidence := some expected.closureEvidenceJson })
      (fenceError "ClickHouse read context closure fence expired before persistence")
    match after.selectContextByEndOperation expected.endOperationId with
    | none =>
      .error (integrityError
        "ClickHouse read context closure produced no durable operation receipt")
    | some updated => do
      requireClosedClickhouseContext evidence expected updated
      commitFenced attemptRow.leaseExpiresAt "ClickHouse read context closure" clock after

/-! ## Input cuts -/

/-- `_require_observation_row`. -/
def requireObservationRow (cut : CutExpectation) (expected : ObservationExpectation)
    (row : ObservationRow) : Except Refusal Unit :=
  refuseIf (row ≠ cut.observationRow expected)
    (conflictError
      "observation operation UUID is already bound to different immutable evidence")

/-- `_persist_observation`. -/
def persistObservation (cut : CutExpectation) (expected : ObservationExpectation)
    (store : LifecycleStore) : Except Refusal LifecycleStore :=
  match store.observations.find? fun row =>
      row.observationOperationId = expected.observationOperationId with
  | some row => do
    requireObservationRow cut expected row
    return store
  | none => do
    refuseIf (∃ row ∈ store.observations, row.observationId = expected.observationId)
      (conflictError "observation UUID is already bound to another observation operation")
    match store.selectContext expected.readContextId with
    | none => .error (stateError "observation references an unknown read context")
    | some context => do
      refuseIf
        (¬ (context.state = .active ∧ context.runId = cut.attempt.run.runId ∧
          context.attemptId = cut.attempt.attemptId ∧
          context.datasetVersionId = expected.datasetVersionId ∧
          context.direction = expected.direction ∧
          context.scopeDigest = cut.attempt.request.scopeDigest))
        (stateError
          "observation read context is outside the active attempt/dataset closure")
      evidence.requireObservationClosure context cut expected
      return { store with
        observations := store.observations ++ [cut.observationRow expected] }

/-- The observations of an attempt, each against the expectation of its direction. -/
def requireObservations (cut : CutExpectation) (rows : List ObservationRow) :
    Except Refusal Unit :=
  rows.forM fun row =>
    if row.direction = cut.observations.2.direction then
      requireObservationRow cut cut.observations.2 row
    else if row.direction = cut.observations.1.direction then
      requireObservationRow cut cut.observations.1 row
    else
      .error (integrityError "aligned cut observations contain an unexpected direction")

/-- The checks of `_persisted_cut_from_database`. -/
def persistedCutFromDatabase (expected : CutExpectation) (store : LifecycleStore) :
    Except Refusal Unit :=
  match store.selectRun expected.attempt.run.runId with
  | none => .error (integrityError "bound cut run row is missing")
  | some run => do
    refuseIf (run.boundInputCutDigest ≠ some expected.inputCutDigest ∨
        run.boundInputCutPayload ≠ some expected.inputCutJson)
      { error := .inputCutMismatchError
        message := "stored run cut differs from the requested full canonical cut: "
          ++ "reason_code='cut_mismatch'" }
    refuseIf (run.cutBindingOperationId ≠ some expected.cutBindingOperationId)
      (conflictError "run cut binding operation differs from the requested stable receipt")
    match store.selectAttemptByCutOperation expected.attemptCutOperationId with
    | none => .error (integrityError "attempt cut operation receipt is missing")
    | some row => do
      refuseIf (row.attemptId ≠ expected.attempt.attemptId ∨
          row.runId ≠ expected.attempt.run.runId ∨
          row.inputCutDigest ≠ some expected.inputCutDigest ∨
          row.cutObservedAt ≠ some expected.recordedAt)
        (conflictError "attempt cut operation receipt differs from the requested cut mutation")
      let rows := store.observationsOf expected.attempt.attemptId
      refuseIf (rows.length ≠ 2)
        (integrityError "aligned cut must have exactly two persisted dataset observations")
      requireObservations expected rows

/-- The comparison of a bound cut with the one that is asked for. -/
def requireSameRunCut (expected : CutExpectation) (run : LifecycleRun) : Except Refusal Unit := do
  if run.boundInputCutDigest ≠ none ∨ run.boundInputCutPayload ≠ none ∨
      run.cutBindingOperationId ≠ none then
    refuseIf (run.boundInputCutDigest ≠ some expected.inputCutDigest ∨
        run.boundInputCutPayload ≠ some expected.inputCutJson)
      { error := .inputCutMismatchError
        message := "observed input cut differs from the run's first bound cut: "
          ++ "reason_code='cut_mismatch'" }
    refuseIf (run.cutBindingOperationId ≠ some expected.cutBindingOperationId)
      (conflictError "run input cut is already bound under a different operation UUID")
  else .ok ()

/-- The `UPDATE` of the run's first cut, where it has none. -/
def bindRunCut (expected : CutExpectation) (run : LifecycleRun) (store : LifecycleStore) :
    Except Refusal LifecycleStore :=
  if run.boundInputCutDigest = none then
    store.updateRun
      (fun row => row.runId = expected.attempt.run.runId ∧ row.boundInputCutDigest = none)
      (fun row => { row with
        boundInputCutDigest := some expected.inputCutDigest
        boundInputCutPayload := some expected.inputCutJson
        cutBindingOperationId := some expected.cutBindingOperationId
        cutBoundAt := some expected.recordedAt })
      { error := .inputCutMismatchError
        message := "run first-cut compare-and-set did not bind the requested full cut: "
          ++ "reason_code='cut_mismatch'" }
  else .ok store

/-- `_persist_cut_once`. -/
def persistCutOnce (expected : CutExpectation) (clock : Clock) (store : LifecycleStore) :
    Except Refusal LifecycleStore := do
  let run ← lockRun expected.attempt.requestedRun
    (stateError "cannot bind an input cut for an unknown run") store
  let attemptRow ← lockAttempt expected.attempt
    (fenceError "input cut attempt fence is unknown") store
  match store.selectAttemptByCutOperation expected.attemptCutOperationId with
  | some _ => do
    persistedCutFromDatabase expected store
    return store
  | none => do
    refuseIf (∃ row ∈ store.runs, row.cutBindingOperationId = some expected.cutBindingOperationId ∧
        row.runId ≠ expected.attempt.run.runId)
      (conflictError "run cut binding operation UUID is already bound to another run")
    requireAttemptFenceRow expected.attempt attemptRow clock.fence
    refuseIf (run.selectedTerminalAttemptId ≠ none)
      (stateError "cannot bind an input cut after terminal publication")
    requireSameRunCut expected run
    if attemptRow.inputCutDigest ≠ none ∨ attemptRow.cutOperationId ≠ none ∨
        attemptRow.cutObservedAt ≠ none then
      refuseIf (attemptRow.inputCutDigest ≠ some expected.inputCutDigest ∨
          attemptRow.cutOperationId ≠ some expected.attemptCutOperationId ∨
          attemptRow.cutObservedAt ≠ some expected.recordedAt)
        (conflictError "attempt already has a different immutable cut receipt")
      persistedCutFromDatabase expected store
      return store
    else do
      evidence.requireCutConsistency expected
      let marked ← store.updateAttempt
        (fun row => Fenced expected.attempt clock.write row ∧ row.inputCutDigest = none)
        (fun row => { row with
          inputCutDigest := some expected.inputCutDigest
          cutOperationId := some expected.attemptCutOperationId
          cutObservedAt := some expected.recordedAt })
        (fenceError "attempt cut compare-and-set did not update")
      let reference ← persistObservation evidence expected expected.observations.1 marked
      let observed ← persistObservation evidence expected expected.observations.2 reference
      let after ← bindRunCut expected run observed
      persistedCutFromDatabase expected after
      commitFenced attemptRow.leaseExpiresAt "aligned input cut persistence" clock after

/-! ## Outcomes -/

/-- The checks of `_outcome_receipt_from_database`. -/
def outcomeReceiptFromDatabase (expected : OutcomeExpectation) (store : LifecycleStore) :
    Except Refusal Unit :=
  match store.selectAttemptByEndOperation expected.operationId with
  | none => .error (integrityError "attempt outcome operation receipt is missing")
  | some row =>
    refuseIf
      (¬ (row.attemptId = expected.attempt.attemptId ∧ row.runId = expected.attempt.run.runId ∧
        row.status = expected.status ∧ row.terminalReason = some expected.reason ∧
        row.endedAt = some expected.endedAt))
      (conflictError
        "attempt outcome operation UUID is already bound to a different full outcome")

/-- The checks of `_retryable_outcome_from_database`. -/
def retryableOutcomeFromDatabase (expected : OutcomeExpectation) (store : LifecycleStore) :
    Except Refusal Unit := do
  outcomeReceiptFromDatabase expected store
  match store.selectRun expected.attempt.run.runId with
  | none => .error (integrityError "attempt outcome run row is missing")
  | some run =>
    refuseIf (run.terminalOperationId = some expected.operationId)
      (conflictError "retryable outcome operation unexpectedly selected a terminal run")

/-- The checks of `_terminal_outcome_from_database`. -/
def terminalOutcomeFromDatabase (expected : OutcomeExpectation) (store : LifecycleStore) :
    Except Refusal Unit := do
  outcomeReceiptFromDatabase expected store
  match store.selectRun expected.attempt.run.runId with
  | none => .error (integrityError "attempt outcome run row is missing")
  | some run =>
    refuseIf (run.selectedTerminalAttemptId ≠ some expected.attempt.attemptId ∨
        run.terminalOperationId ≠ some expected.operationId ∨
        run.terminalAt ≠ some expected.endedAt)
      (conflictError
        "terminal publication operation differs from the attempt outcome receipt")

/-- `_require_stored_attempt_closure`. -/
def requireStoredAttemptClosure (attempt : HeldAttempt) (store : LifecycleStore) :
    Except Refusal Unit := do
  let runId := attempt.run.runId
  refuseIf (∃ row ∈ store.contextsOf runId attempt.attemptId, row.state = .active)
    (stateError "attempt outcome requires every acquired read context to be closed or lost")
  match (store.attemptsOf runId).find? fun row => row.attemptId = attempt.attemptId with
  | none => .error (integrityError "attempt closure row is missing")
  | some row =>
    let observations := (store.observationsOf attempt.attemptId).filter fun row =>
      row.runId = runId
    match row.inputCutDigest with
    | none =>
      refuseIf (observations.length ≠ 0)
        (integrityError "attempt without a bound cut cannot contain dataset observations")
    | some digest => do
      refuseIf (observations.length ≠ 2)
        (integrityError "attempt with a bound cut requires exactly two dataset observations")
      refuseIf ((store.selectRun runId).bind (·.boundInputCutDigest) ≠ some digest)
        (integrityError
          "attempt input cut digest differs from its run's first bound cut")

/-- The columns that end an attempt. -/
def AttemptRow.ended (row : AttemptRow) (status : AttemptStatus) (operationId : Uuid)
    (reason : Option ResultReason) (endedAt : Instant) : AttemptRow :=
  { row with
    status := status
    endOperationId := some operationId
    terminalReason := reason
    endedAt := some endedAt }

/-- The `UPDATE` that selects the terminal attempt of a run. -/
def selectTerminal (attempt : HeldAttempt) (operationId : Uuid) (endedAt : Instant)
    (refusal : Refusal) (store : LifecycleStore) : Except Refusal LifecycleStore :=
  store.updateRun
    (fun row => row.runId = attempt.run.runId ∧ row.selectedTerminalAttemptId = none)
    (fun row => { row with
      selectedTerminalAttemptId := some attempt.attemptId
      terminalOperationId := some operationId
      terminalAt := some endedAt })
    refusal

def selectedAlready : Refusal := stateError "run already has a selected terminal attempt"

/-- `_persist_retryable_outcome_once`. -/
def persistRetryableOutcomeOnce (expected : OutcomeExpectation) (clock : Clock)
    (store : LifecycleStore) : Except Refusal LifecycleStore := do
  let run ← lockRun expected.attempt.requestedRun
    (stateError "cannot finish an attempt for an unknown run") store
  let attemptRow ← lockAttempt expected.attempt
    (fenceError "attempt outcome fence is unknown") store
  match store.selectAttemptByEndOperation expected.operationId with
  | some _ => do
    retryableOutcomeFromDatabase expected store
    return store
  | none => do
    requireAttemptFenceRow expected.attempt attemptRow clock.fence
    refuseIf (run.selectedTerminalAttemptId ≠ none) selectedAlready
    requireStoredAttemptClosure expected.attempt store
    let after ← store.updateAttempt (Fenced expected.attempt clock.write)
      (fun row => row.ended expected.status expected.operationId (some expected.reason)
        expected.endedAt)
      (fenceError "retryable attempt outcome compare-and-set did not update")
    retryableOutcomeFromDatabase expected after
    commitFenced attemptRow.leaseExpiresAt "retryable attempt outcome" clock after

/-- `_publish_terminal_outcome_once`. -/
def publishTerminalOutcomeOnce (expected : OutcomeExpectation) (clock : Clock)
    (store : LifecycleStore) : Except Refusal LifecycleStore := do
  let run ← lockRun expected.attempt.requestedRun
    (stateError "cannot publish an outcome for an unknown run") store
  let attemptRow ← lockAttempt expected.attempt
    (fenceError "attempt outcome fence is unknown") store
  match store.selectAttemptByEndOperation expected.operationId with
  | some _ => do
    terminalOutcomeFromDatabase expected store
    return store
  | none => do
    requireAttemptFenceRow expected.attempt attemptRow clock.fence
    refuseIf (run.selectedTerminalAttemptId ≠ none) selectedAlready
    requireStoredAttemptClosure expected.attempt store
    let ended ← store.updateAttempt (Fenced expected.attempt clock.write)
      (fun row => row.ended expected.status expected.operationId (some expected.reason)
        expected.endedAt)
      (fenceError "terminal attempt outcome compare-and-set did not update")
    let after ← selectTerminal expected.attempt expected.operationId expected.endedAt
      (stateError "terminal run publication compare-and-set did not update") ended
    terminalOutcomeFromDatabase expected after
    commitFenced attemptRow.leaseExpiresAt "terminal attempt publication" clock after

/-! ## Comparisons -/

def directionRank : PlanDirection → ℕ
  | .reference => 0
  | .target => 1

/-- The contexts of an attempt, ordered reference then target. -/
def orderedContexts (attempt : HeldAttempt) (store : LifecycleStore) : List ReadContextRow :=
  (store.contextsOf attempt.run.runId attempt.attemptId).mergeSort fun left right =>
    directionRank left.direction ≤ directionRank right.direction

/-- `_require_closed_completed_context`. -/
def requireClosedCompletedContext (expected : ComparisonExpectation) (direction : PlanDirection)
    (row : ReadContextRow) : Except Refusal Unit := do
  evidence.validateStoredClickhouseClosure row
  refuseIf (row.runId ≠ expected.attempt.run.runId ∨
      row.attemptId ≠ expected.attempt.attemptId ∨ row.direction ≠ direction ∨
      row.scopeDigest ≠ expected.attempt.request.scopeDigest)
    (integrityError
      "completed protected context differs from its run, attempt, direction, or scope")
  refuseIf (row.state ≠ .closed)
    (stateError
      "completed comparison requires both protected read contexts to be closed, not lost")
  refuseIf (row.endOperationId = none)
    (integrityError "closed completed context has no durable end operation")
  match row.endedAt with
  | none => .error (integrityError "closed completed context has no durable end timestamp")
  | some endedAt =>
    refuseIf (expected.endedAt < endedAt)
      (stateError "completed comparison cannot precede protected context closure")

/-- `_require_terminal_partial_context`. -/
def requireTerminalPartialContext (expected : ComparisonExpectation) (direction : PlanDirection)
    (row : ReadContextRow) : Except Refusal Unit := do
  evidence.validateStoredClickhouseClosure row
  refuseIf (row.runId ≠ expected.attempt.run.runId ∨
      row.attemptId ≠ expected.attempt.attemptId ∨ row.direction ≠ direction ∨
      row.scopeDigest ≠ expected.attempt.request.scopeDigest)
    (integrityError "partial context differs from its run, attempt, direction, or scope")
  refuseIf (row.state ≠ .closed ∧ row.state ≠ .lost)
    (stateError "partial comparison requires every context to be terminal")
  refuseIf (row.endOperationId = none)
    (integrityError "terminal partial context lacks an end operation")
  match row.endedAt with
  | none =>
    .error (integrityError
      "partial context end timestamp is absent or later than its result")
  | some endedAt =>
    refuseIf (expected.endedAt < endedAt)
      (integrityError "partial context end timestamp is absent or later than its result")

/-- The contexts of a comparison: one of each direction, in that order, and each as
`requireContext` has it. -/
def requireContextRows (kind : String) (expected : ComparisonExpectation)
    (requireContext : PlanDirection → ReadContextRow → Except Refusal Unit)
    (orderMessage : String) : List ReadContextRow → Except Refusal Unit
  | [reference, target] => do
    refuseIf (reference.direction ≠ .reference ∨ target.direction ≠ .target)
      (integrityError
        s!"{kind} comparison contexts lack one reference and one target direction")
    refuseIf (expected.readContextIds ≠ [reference.readContextId, target.readContextId])
      (stateError orderMessage)
    requireContext .reference reference
    requireContext .target target
  | _ =>
    .error (stateError s!"{kind} comparison requires exactly two protected read contexts")

/-- `_require_locked_completed_comparison_closure`, and the evidence boundary. -/
def requireCompletedClosure (expected : ComparisonExpectation) (store : LifecycleStore) :
    Except Refusal Unit := do
  requireContextRows "completed" expected (requireClosedCompletedContext evidence expected)
    "completed result context ids must be ordered as its reference and target contexts"
    (orderedContexts expected.attempt store)
  evidence.requireCompletedEvidence expected store

/-- `_require_locked_partial_comparison_closure`. -/
def requirePartialClosure (expected : PartialExpectation) (store : LifecycleStore) :
    Except Refusal Unit := do
  requireContextRows "partial" expected.toComparisonExpectation
    (requireTerminalPartialContext evidence expected.toComparisonExpectation)
    "partial result context ids must be ordered reference then target"
    (orderedContexts expected.attempt store)
  evidence.requirePartialEvidence expected store

def ComparisonExpectation.result (expected : ComparisonExpectation) : ResultReceipt where
  runId := expected.attempt.run.runId
  attemptId := expected.attempt.attemptId
  operationId := expected.operationId

def HasResult (operationId : Uuid) (results : List ResultReceipt) : Prop :=
  ∃ row ∈ results, row.operationId = operationId

instance (operationId : Uuid) (results : List ResultReceipt) :
    Decidable (HasResult operationId results) :=
  inferInstanceAs (Decidable (∃ row ∈ results, row.operationId = operationId))

/-- `_publish_completed_comparison_once`. -/
def publishCompletedOnce (expected : ComparisonExpectation) (clock : Clock)
    (store : LifecycleStore) : Except Refusal LifecycleStore := do
  let run ← lockRun expected.attempt.requestedRun
    (stateError "cannot publish a comparison for an unknown run") store
  let attemptRow ← lockAttempt expected.attempt
    (fenceError "completed comparison attempt fence is unknown") store
  if HasResult expected.operationId store.checkResults then
    evidence.completedResultFromDatabase expected store
    return store
  else do
    refuseIf (HasResult expected.operationId store.partialCheckResults)
      (conflictError
        "completed comparison operation UUID is already bound to a partial result")
    refuseIf ((store.selectAttemptByEndOperation expected.operationId).isSome = true)
      (conflictError
        "completed comparison operation UUID is already bound to a different outcome")
    requireAttemptFenceRow expected.attempt attemptRow clock.fence
    refuseIf (run.selectedTerminalAttemptId ≠ none) selectedAlready
    requireCompletedClosure evidence expected store
    let ended ← store.updateAttempt (Fenced expected.attempt clock.write)
      (fun row => row.ended .completed expected.operationId none expected.endedAt)
      (fenceError "completed comparison attempt compare-and-set did not update")
    let recorded := { ended with checkResults := ended.checkResults ++ [expected.result] }
    let after ← selectTerminal expected.attempt expected.operationId expected.endedAt
      (stateError "completed comparison run publication compare-and-set did not update") recorded
    evidence.completedResultFromDatabase expected after
    commitFenced attemptRow.leaseExpiresAt "completed comparison publication" clock after

/-- `_require_new_partial_operation`. -/
def requireNewPartialOperation (operationId : Uuid) (store : LifecycleStore) :
    Except Refusal Unit := do
  refuseIf (HasResult operationId store.checkResults)
    (conflictError "partial comparison operation UUID is already bound to a completed result")
  refuseIf ((store.selectAttemptByEndOperation operationId).isSome = true)
    (conflictError "partial comparison operation UUID is already bound to a different outcome")

/-- `_finish_partial_attempt` and `_insert_partial_result`. -/
def finishPartialAttempt (expected : PartialExpectation) (clock : Clock)
    (store : LifecycleStore) : Except Refusal LifecycleStore := do
  let ended ← store.updateAttempt (Fenced expected.attempt clock.write)
    (fun row => row.ended expected.status expected.operationId (some expected.reason)
      expected.endedAt)
    (fenceError "partial comparison attempt compare-and-set did not update")
  return { ended with
    partialCheckResults := ended.partialCheckResults ++ [expected.result] }

/-- A terminal publication selects the attempt too. -/
def selectIfTerminal (terminal : Bool) (expected : PartialExpectation) (store : LifecycleStore) :
    Except Refusal LifecycleStore :=
  if terminal then
    selectTerminal expected.attempt expected.operationId expected.endedAt
      (stateError "terminal partial comparison run publication compare-and-set did not update")
      store
  else .ok store

/-- `_record_retryable_partial_comparison_once`, and with `terminal`
`_publish_terminal_partial_comparison_once`. -/
def partialComparisonOnce (terminal : Bool) (expected : PartialExpectation) (clock : Clock)
    (store : LifecycleStore) : Except Refusal LifecycleStore := do
  let run ← lockRun expected.attempt.requestedRun
    (stateError
      (if terminal then "cannot publish a partial comparison for an unknown run"
        else "cannot record a partial comparison for an unknown run")) store
  let attemptRow ← lockAttempt expected.attempt
    (fenceError "partial comparison attempt fence is unknown") store
  if HasResult expected.operationId store.partialCheckResults then
    evidence.partialResultFromDatabase expected store
    return store
  else do
    requireNewPartialOperation expected.operationId store
    requireAttemptFenceRow expected.attempt attemptRow clock.fence
    refuseIf (run.selectedTerminalAttemptId ≠ none) selectedAlready
    requirePartialClosure evidence expected store
    let finished ← finishPartialAttempt expected clock store
    let after ← selectIfTerminal terminal expected finished
    evidence.partialResultFromDatabase expected after
    commitFenced attemptRow.leaseExpiresAt
      (if terminal then "terminal partial comparison publication"
        else "retryable partial comparison publication") clock after

/-! ## Abandonment -/

/-- `_derived_context_abandonment_operation`. -/
def derivedContextAbandonmentOperation (maintenanceOperationId contextId : Uuid) : Uuid :=
  evidence.uuid5 maintenanceOperationId s!"read-context-lost:{uuidText contextId}"

/-- The loop of `_abandon_attempt_once` over the active contexts. -/
def loseContexts (expected : OutcomeExpectation) :
    List Uuid → LifecycleStore → Except Refusal LifecycleStore
  | [], store => .ok store
  | contextId :: rest, store => do
    let after ← store.updateContext
      (fun row => row.readContextId = contextId ∧ row.state = .active)
      (fun row => { row with
        state := .lost
        endOperationId :=
          some (derivedContextAbandonmentOperation evidence expected.operationId contextId)
        endedAt := some expected.endedAt })
      (stateError "expired attempt abandonment could not mark every active context lost")
    loseContexts expected rest after

/-- `_abandon_attempt_once`. -/
def abandonAttemptOnce (expected : OutcomeExpectation) (clock : Clock)
    (store : LifecycleStore) : Except Refusal LifecycleStore := do
  let _ ← lockRun expected.attempt.requestedRun
    (stateError "cannot abandon an attempt for an unknown run") store
  let attemptRow ← lockAttempt expected.attempt
    (stateError "cannot abandon an unknown attempt") store
  match store.selectAttemptByEndOperation expected.operationId with
  | some _ => do
    retryableOutcomeFromDatabase expected store
    return store
  | none => do
    refuseIf (attemptRow.status ≠ .running)
      (stateError "only a running attempt can be abandoned")
    refuseIf (clock.fence < attemptRow.leaseExpiresAt)
      (fenceError "maintenance abandonment requires an expired attempt lease")
    let active := (store.contextsOf expected.attempt.run.runId
      expected.attempt.attemptId).filter fun row => row.state = .active
    let lost ← loseContexts evidence expected
      ((active.map (·.readContextId)).mergeSort (· ≤ ·)) store
    let after ← lost.updateAttempt
      (fun row => row.runId = expected.attempt.run.runId ∧
        row.attemptId = expected.attempt.attemptId ∧ row.status = .running ∧
        row.leaseExpiresAt ≤ clock.write)
      (fun row => row.ended .abandoned expected.operationId (some expected.reason)
        expected.endedAt)
      (fenceError "expired attempt abandonment compare-and-set did not update")
    retryableOutcomeFromDatabase expected after
    return after

/-! ## Runs of transactions -/

/-- What a caller asks the store to do. -/
inductive LifecycleTransaction where
  | claim (candidateRunId creationOperationId : Uuid) (request : RunRequestDefinition)
  | startAttempt (expected : AttemptExpectation)
  | renewLease (expected : LeaseRenewalExpectation)
  | persistContext (expected : ContextExpectation)
  | persistCut (expected : CutExpectation)
  | finishContext (expected : ContextEnd) (lost : Bool)
  | closeClickhouseContext (expected : ClickHouseContextClosure)
  | retryableOutcome (expected : OutcomeExpectation)
  | terminalOutcome (expected : OutcomeExpectation)
  | completedComparison (expected : ComparisonExpectation)
  | partialComparison (terminal : Bool) (expected : PartialExpectation)
  | abandon (expected : OutcomeExpectation)

/-- A transaction up to its `COMMIT`. -/
def LifecycleTransaction.execute (clock : Clock) (store : LifecycleStore) :
    LifecycleTransaction → Except Refusal LifecycleStore
  | .claim candidateRunId creationOperationId request =>
    claimOnce { candidateRunId, creationOperationId, request := request.columns } store
  | .startAttempt expected => startAttemptOnce expected clock store
  | .renewLease expected => renewAttemptOnce expected clock store
  | .persistContext expected => persistContextOnce evidence expected clock store
  | .persistCut expected => persistCutOnce evidence expected clock store
  | .finishContext expected lost => finishContextOnce evidence expected lost clock store
  | .closeClickhouseContext expected => closeClickhouseContextOnce evidence expected clock store
  | .retryableOutcome expected => persistRetryableOutcomeOnce expected clock store
  | .terminalOutcome expected => publishTerminalOutcomeOnce expected clock store
  | .completedComparison expected => publishCompletedOnce evidence expected clock store
  | .partialComparison terminal expected =>
    partialComparisonOnce evidence terminal expected clock store
  | .abandon expected => abandonAttemptOnce evidence expected clock store

/-- A transaction is committed, or rolled back by an error; either way time passes. -/
def transact (store : LifecycleStore) (request : LifecycleTransaction × Elapsed) :
    LifecycleStore :=
  let clock := request.2.clock store.now
  match request.1.execute evidence clock store with
  | .ok after => { after with now := clock.commit }
  | .error _ => { store with now := clock.commit }

/-- The store after transactions that follow one another. -/
def transactAll (store : LifecycleStore) (history : List (LifecycleTransaction × Elapsed)) :
    LifecycleStore :=
  history.foldl (transact evidence) store

end Evidence

end ForensicData.Persistence
