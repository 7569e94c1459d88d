/-
ForensicData.Application.Cleanup — what closing the read contexts leaves behind.

Each context is closed in turn; a context that cannot be closed cleanly leaves a
reason, and the reasons are folded into one cleanup failure. The fold keeps every
reason, so its status and whether it may be retried do not depend on the order
(`combineAll_reasons`); and the reason it picks as the primary one is as severe
as the whole, because each failure that closing can leave behind is so by itself
(`Led`).
-/
import ForensicData.Application.Confirmation

namespace ForensicData.Application

open ForensicData.Comparison
open ForensicData.Result

/-! ## Cleanup failures -/

/-- `_CleanupFailure`. -/
structure CleanupFailure where
  reason : ResultReason
  additionalReasons : List ResultReason

/-- `(reason, *additional_reasons)`. -/
def CleanupFailure.reasons (failure : CleanupFailure) : List ResultReason :=
  failure.reason :: failure.additionalReasons

/-- `_execution_status_for_failure_reason`. -/
def executionStatusForFailureReason (reason : ResultReason) : ExecutionStatus :=
  match reason.code with
  | .invalidContract | .unsupportedCapability | .lossyTransport | .queryError | .persistenceError
  | .commitUnknown | .protocolViolation => .error
  | _ => .incomplete

/-- `_execution_status_for_cleanup_failure`. -/
def executionStatusForCleanupFailure (failure : CleanupFailure) : ExecutionStatus :=
  if .error ∈ failure.reasons.map executionStatusForFailureReason then .error else .incomplete

/-- `_cleanup_failure_is_retryable`. -/
def cleanupFailureIsRetryable (failure : CleanupFailure) : Bool :=
  failure.reasons.all fun reason =>
    match reason.code with
    | .notReady | .cutMismatch | .snapshotLost | .queryError => true
    | _ => false

/-- `_cleanup_failure_dominates`. -/
def cleanupFailureDominates (candidate current : CleanupFailure) : Bool :=
  (candidate.reason.code = .cancellationUnconfirmed ∧ current.reason.code = .snapshotLost)
  ∨ (candidate.reason.code = .snapshotLost
      ∧ (candidate.reason.operation = "confirm_reference"
        ∨ candidate.reason.operation = "confirm_target")
      ∧ current.reason.code = .snapshotLost ∧ current.reason.operation = "close_read_context")
  ∨ (executionStatusForCleanupFailure candidate = .error
      ∧ executionStatusForCleanupFailure current = .incomplete)

/-- `_combine_cleanup_failures`. -/
def combineCleanupFailures (current : Option CleanupFailure) (candidate : CleanupFailure) :
    CleanupFailure :=
  match current with
  | none => candidate
  | some current =>
    if cleanupFailureDominates candidate current = true then
      { reason := candidate.reason
        additionalReasons :=
          candidate.additionalReasons ++ current.reason :: current.additionalReasons }
    else
      { reason := current.reason
        additionalReasons :=
          current.additionalReasons ++ candidate.reason :: candidate.additionalReasons }

/-- The failures folded one after the other. -/
def combineFrom (current : Option CleanupFailure) (failures : List CleanupFailure) :
    Option CleanupFailure :=
  failures.foldl (fun current failure => some (combineCleanupFailures current failure)) current

/-! ## Closing a ClickHouse context -/

/-- What closing a context is stopped by. -/
inductive CloseError where
  | confirmation (early : EarlyExecutionOutcome)
  | raised (error : SourceError)

/-- `ClickHouseProtectedContextState`. -/
inductive ClickHouseState where
  | active
  | lost
  | closed
  deriving DecidableEq, Repr

/-- A run of one of the confirmations. -/
inductive ConfirmationRun : Confirming Unit → Prop where
  | mergeTree {Evidence Identity Runtime Fingerprint : Type} [DecidableEq Evidence]
      [DecidableEq Identity] [DecidableEq Runtime] [DecidableEq Fingerprint]
      (rules : ReadinessRules Evidence) (isReady : Runtime → Except SourceError Unit)
      (isSealed isPlain : Identity → Except SourceError Unit)
      (binding : MergeTreeBinding Evidence Identity Runtime Fingerprint)
      (reads : MergeTreeReads Identity Runtime Fingerprint) :
      ConfirmationRun
        (confirmClickhouseMergeTreeProjection rules isReady isSealed isPlain binding reads)
  | legacy {Evidence Source Fingerprint : Type} [DecidableEq Evidence] [DecidableEq Source]
      [DecidableEq Fingerprint] (rules : ReadinessRules Evidence)
      (published : ReadinessRow → Bool) (counted : Source → Fingerprint → Except SourceError Unit)
      (binding : LegacyBinding Evidence Source Fingerprint)
      (reads : LegacyReads Source Fingerprint) :
      ConfirmationRun (confirmClickhouseLegacySource rules published counted binding reads)

/-- An open ClickHouse context, with what the steps of its `close` give. -/
structure ClickHouseContext where
  state : ClickHouseState
  confirmation : { run : Confirming Unit // ConfirmationRun run }
  hasFinalQueryId : Bool
  closeTransport : Except SourceError Unit

/-- `ClickHouseProtectedContextCleanupError`. -/
def contextCleanupError : CloseError :=
  .raised (.of .clickHouseProtectedContextCleanupError
    "ClickHouse protected context failed and worker cleanup was not confirmed")

/-- `_lose`: the exception that leaves `close` after the transport is given up. -/
def loseContext (closeTransport : Except SourceError Unit) (error : CloseError) : CloseError :=
  match closeTransport with
  | .ok () => error
  | .error cleanup =>
    if cleanup.isInstance .clickHouseTransportCleanupError = true then contextCleanupError
    else .raised cleanup

/-- `ClickHouseProtectedReadContext.close`, with the state it leaves. -/
def closeClickHouse (context : ClickHouseContext) : Except CloseError Unit × ClickHouseState :=
  match context.state with
  | .closed => (.ok (), .closed)
  | .lost => (context.closeTransport.mapError .raised, .lost)
  | .active =>
    match context.confirmation.val with
    | .error (.outcome early) =>
      (.error (loseContext context.closeTransport (.confirmation early)), .lost)
    | .error (.raised error) =>
      if (error.isInstance .clickHouseTransportError
          || error.isInstance .postgresReadDeadlineExceededError
          || error.isInstance .postgresSourceBudgetExceededError) = true then
        (.error (loseContext context.closeTransport (.raised error)), .lost)
      else (.error (.raised error), .active)
    | .ok () =>
      if context.hasFinalQueryId = false then
        (.error (loseContext context.closeTransport (.raised (.of
          .clickHouseProtectedContextLostError
          "ClickHouse final confirmation completed without a final query identity"))), .lost)
      else
        match context.closeTransport with
        | .ok () => (.ok (), .closed)
        | .error cleanup =>
          if cleanup.isInstance .clickHouseTransportError = true then
            (.error contextCleanupError, .lost)
          else (.error (.raised cleanup), .active)

/-! ## Closing the resources of an attempt -/

/-- `_context_loss_reason`. -/
def contextLossReason : ResultReason :=
  reasonOf .snapshotLost "close_read_context"
    "a protected source snapshot could not be closed cleanly" []

/-- `_clickhouse_confirmation_operation`. -/
def clickhouseConfirmationOperation (direction : PlanDirection) : String :=
  s!"confirm_{direction.value}"

/-- `code.value`, of the codes of early outcomes. -/
def earlyCodeText (code : ReasonCode) : String :=
  match code with
  | .cutMismatch => "cut_mismatch"
  | .notReady => "not_ready"
  | _ => "unsupported_capability"

/-- `_clickhouse_confirmation_loss_reason`. -/
def clickhouseConfirmationLossReason (early : EarlyExecutionOutcome) (direction : PlanDirection) :
    ResultReason :=
  reasonOf .snapshotLost (clickhouseConfirmationOperation direction)
    s!"ClickHouse {direction.value} provenance could not be confirmed after comparison"
    [parameter "error_type" "ClickHouseProtectedContextConfirmationError",
     parameter "confirmation_code" (earlyCodeText early.reason.code),
     parameter "confirmation_operation" early.reason.operation]

/-- The exception is of one of the classes. -/
def SourceError.isOneOf (error : SourceError) (classes : List ErrorClass) : Bool :=
  classes.any fun caught => error.isInstance caught

/-- The `except` clauses: the reason of an exception, and the additional ones. -/
def closingReasons (direction : PlanDirection) :
    CloseError → Except SourceError (ResultReason × List ResultReason)
  | .confirmation early =>
    .ok (clickhouseConfirmationLossReason early direction, [early.reason])
  | .raised error =>
    if error.isOneOf [.clickHouseProtectedContextCleanupError,
        .clickHouseTransportCleanupError] = true then
      .ok (clickhouseCleanupUncertaintyReason error, [])
    else if error.isInstance .clickHouseCancellationUnconfirmedError = true then
      .ok (clickhouseUnconfirmedCancellationReason error direction, [])
    else if error.isOneOf [.clickHouseAttemptDeadlineExceededError, .clickHouseResultLimitError,
        .postgresReadDeadlineExceededError, .postgresSourceBudgetExceededError] = true then
      .ok (reasonFromSourceError .budgetExhausted (clickhouseConfirmationOperation direction)
        "ClickHouse final confirmation exhausted an immutable execution budget" error, [])
    else if error.isInstance .unsupportedClickHouseProfileError = true then
      .ok (reasonFromSourceError .unsupportedCapability (clickhouseConfirmationOperation direction)
        "ClickHouse final confirmation no longer satisfies the required profile" error, [])
    else if error.isOneOf [.clickHouseDataValidationError, .clickHouseTransportAttemptMismatchError,
        .clickHouseTransportClosedError, .postgresDataValidationError] = true then
      .ok (reasonFromSourceError .protocolViolation (clickhouseConfirmationOperation direction)
        "ClickHouse final confirmation violated its typed evidence protocol" error, [])
    else if error.isInstance .clickHouseTransportError = true then
      .ok (reasonFromSourceError .queryError (clickhouseConfirmationOperation direction)
        "ClickHouse final confirmation query failed" error, [])
    else if error.isOneOf [.postgresCloseError, .mssqlCloseError, .greenplumCloseError] = true then
      .ok (contextLossReason, [])
    else .error error

/-- A protected context: of ClickHouse, or of another engine with its state and
what its `close` raises. -/
inductive ProtectedContext where
  | clickHouse (context : ClickHouseContext)
  | other (isActive : Bool) (close : Except SourceError Unit)

/-- `_protected_context_state_is_active`. -/
def ProtectedContext.isActive : ProtectedContext → Bool
  | .clickHouse context => context.state = .active
  | .other isActive _ => isActive

def ProtectedContext.close : ProtectedContext → Except CloseError Unit
  | .clickHouse context => (closeClickHouse context).1
  | .other _ close => close.mapError .raised

/-- A ClickHouse context that is not closed after its `close` returned. -/
def ProtectedContext.isLeftOpen : ProtectedContext → Bool
  | .clickHouse context => (closeClickHouse context).2 ≠ .closed
  | .other _ _ => false

/-- `_AttemptResource`, with what recording the end of its context in the store
raises, when it was recorded. -/
structure ClosingResource where
  direction : PlanDirection
  context : ProtectedContext
  recordEnd : Option (Except SourceError Unit)

/-- The cleanup failure of one resource. -/
def closeResource (resource : ClosingResource) : Except SourceError (Option CleanupFailure) :=
  match resource.context.close with
  | .error error => do
    let (reason, additionalReasons) ← closingReasons resource.direction error
    return some { reason, additionalReasons }
  | .ok () =>
    if (resource.context.isLeftOpen || !resource.context.isActive) = true then
      .ok (some { reason := contextLossReason, additionalReasons := [] })
    else .ok none

/-- The loop of `_close_attempt_resources`: the failure so far and the first error
of the store. -/
def closeResources (current : Option CleanupFailure) (persistenceError : Option SourceError) :
    List ClosingResource → Except SourceError (Option CleanupFailure × Option SourceError)
  | [] => .ok (current, persistenceError)
  | resource :: resources => do
    let failure ← closeResource resource
    let current := combineFrom current failure.toList
    match resource.recordEnd with
    | some (.error error) =>
      if error.isInstance .lifecyclePersistenceError = true then
        closeResources current (persistenceError <|> some error) resources
      else .error error
    | _ => closeResources current persistenceError resources

/-- `_close_attempt_resources`. -/
def closeAttemptResources (resources : List ClosingResource) :
    Except SourceError (Option CleanupFailure) := do
  let (failure, persistenceError) ← closeResources none none resources
  match persistenceError with
  | some error => .error error
  | none => return failure

/-- A cleanup failure that closing a context leaves behind. -/
def Produced (failure : CleanupFailure) : Prop :=
  ∃ resource, closeResource resource = .ok (some failure)

/-! ## The fold -/

theorem combineCleanupFailures_reasons (current candidate : CleanupFailure) :
    (combineCleanupFailures (some current) candidate).reasons.Perm
      (current.reasons ++ candidate.reasons) := by
  unfold combineCleanupFailures
  dsimp only
  split
  · show (candidate.reasons ++ current.reasons).Perm (current.reasons ++ candidate.reasons)
    exact List.perm_append_comm
  · exact List.Perm.refl _

/-- The fold keeps every reason. -/
theorem combineFrom_reasons {failures : List CleanupFailure} {current combined : CleanupFailure}
    (h : combineFrom (some current) failures = some combined) :
    combined.reasons.Perm (current.reasons ++ failures.flatMap CleanupFailure.reasons) := by
  induction failures generalizing current with
  | nil =>
    cases h
    simp
  | cons failure failures ih =>
    have hrest := @ih (combineCleanupFailures (some current) failure) h
    rw [List.flatMap_cons, ← List.append_assoc]
    exact hrest.trans ((combineCleanupFailures_reasons current failure).append_right _)

theorem combineFrom_some (failures : List CleanupFailure) (current : CleanupFailure) :
    ∃ combined, combineFrom (some current) failures = some combined := by
  induction failures generalizing current with
  | nil => exact ⟨current, rfl⟩
  | cons failure failures ih => exact ih (combineCleanupFailures (some current) failure)

theorem executionStatusForCleanupFailure_eq_error {failure : CleanupFailure} :
    executionStatusForCleanupFailure failure = .error ↔
      ∃ reason ∈ failure.reasons, executionStatusForFailureReason reason = .error := by
  unfold executionStatusForCleanupFailure
  split
  · rename_i h
    simpa using h
  · rename_i h
    simpa using h

theorem executionStatusForCleanupFailure_cases (failure : CleanupFailure) :
    executionStatusForCleanupFailure failure = .error ∨
      executionStatusForCleanupFailure failure = .incomplete := by
  unfold executionStatusForCleanupFailure
  split <;> simp

/-- Failures with the same reasons have the same status. -/
theorem executionStatus_congr {failure other : CleanupFailure}
    (h : failure.reasons.Perm other.reasons) :
    executionStatusForCleanupFailure failure = executionStatusForCleanupFailure other := by
  have hmem : .error ∈ failure.reasons.map executionStatusForFailureReason ↔
      .error ∈ other.reasons.map executionStatusForFailureReason :=
    (h.map executionStatusForFailureReason).mem_iff
  unfold executionStatusForCleanupFailure
  simp only [hmem]

theorem cleanupFailureIsRetryable_congr {failure other : CleanupFailure}
    (h : failure.reasons.Perm other.reasons) :
    cleanupFailureIsRetryable failure = cleanupFailureIsRetryable other :=
  h.all_eq

/-! ## The primary reason -/

/-- The primary reason is as severe as the whole failure. -/
def Led (failure : CleanupFailure) : Prop :=
  executionStatusForFailureReason failure.reason = executionStatusForCleanupFailure failure

theorem led_of_additional {failure : CleanupFailure}
    (h : ∀ reason ∈ failure.additionalReasons, executionStatusForFailureReason reason ≠ .error) :
    Led failure := by
  unfold Led executionStatusForCleanupFailure CleanupFailure.reasons
  have hadditional : .error ∉ failure.additionalReasons.map executionStatusForFailureReason := by
    simpa using h
  have hreason : executionStatusForFailureReason failure.reason = .error ∨
      executionStatusForFailureReason failure.reason = .incomplete := by
    unfold executionStatusForFailureReason
    split <;> simp
  rcases hreason with hreason | hreason <;> simp [hreason, hadditional]

theorem ConfirmationRun.movesCut {run : Confirming Unit} (h : ConfirmationRun run) :
    MovesCut run := by
  cases h with
  | mergeTree rules isReady isSealed isPlain binding reads =>
    exact movesCut_confirmClickhouseMergeTreeProjection rules isReady isSealed isPlain binding reads
  | legacy rules published counted binding reads =>
    exact movesCut_confirmClickhouseLegacySource rules published counted binding reads

theorem loseContext_confirmation {closeTransport : Except SourceError Unit} {error : CloseError}
    {early : EarlyExecutionOutcome}
    (h : loseContext closeTransport error = .confirmation early) : error = .confirmation early := by
  unfold loseContext contextCleanupError at h
  split at h
  · exact h
  · split at h <;> cases h

/-- The outcome in a confirmation error is one that a confirmation returned. -/
theorem close_confirmation {context : ProtectedContext} {early : EarlyExecutionOutcome}
    (h : context.close = .error (.confirmation early)) :
    early.reason.code = .cutMismatch ∨ early.reason.code = .notReady := by
  cases context with
  | other isActive close => cases close <;> simp [ProtectedContext.close, Except.mapError] at h
  | clickHouse context =>
    have hmoves := context.confirmation.2.movesCut
    simp only [ProtectedContext.close, closeClickHouse] at h
    split at h
    · cases h
    · cases hclose : context.closeTransport <;> simp [hclose, Except.mapError] at h
    · split at h
      · rename_i other hother
        have hsame := loseContext_confirmation (Except.error.inj h)
        cases hsame
        exact hmoves early hother
      · split at h
        · have hsame := loseContext_confirmation (Except.error.inj h)
          cases hsame
        · cases h
      · split at h
        · have hsame := loseContext_confirmation (Except.error.inj h)
          cases hsame
        · split at h
          · cases h
          · split at h <;> cases h

/-- Every failure that closing a context leaves behind leads by itself. -/
theorem Produced.led {failure : CleanupFailure} (h : Produced failure) : Led failure := by
  rcases h with ⟨resource, h⟩
  apply led_of_additional
  unfold closeResource at h
  split at h
  · rename_i error herror
    rcases bind_eq_ok.mp h with ⟨⟨reason, additional⟩, hreasons, hfailure⟩
    cases hfailure
    have hadditional : additional = [] ∨ ∃ early, error = .confirmation early ∧
        additional = [early.reason] := by
      unfold closingReasons at hreasons
      split at hreasons
      · rename_i early
        cases hreasons
        exact .inr ⟨early, rfl, rfl⟩
      · repeat' split at hreasons
        all_goals cases hreasons
        all_goals exact .inl rfl
    rcases hadditional with hnone | ⟨early, hconfirmation, hearly⟩
    · simp [hnone]
    · -- the outcome is one that a confirmation returned
      rw [hconfirmation] at herror
      have hmoved : early.reason.code = .cutMismatch ∨ early.reason.code = .notReady :=
        close_confirmation herror
      intro other hother
      rw [hearly, List.mem_singleton] at hother
      rw [hother]
      unfold executionStatusForFailureReason
      rcases hmoved with hcode | hcode <;> rw [hcode] <;> simp
  · split at h
    · cases h
      simp
    · cases h

theorem executionStatus_of_snapshotLost {failure : CleanupFailure} (hled : Led failure)
    (h : failure.reason.code = .snapshotLost) :
    executionStatusForCleanupFailure failure = .incomplete := by
  rw [← hled, executionStatusForFailureReason, h]

/-- A combination of two failures that lead is led by the primary reason it picks. -/
theorem led_combineCleanupFailures {current candidate : CleanupFailure} (hcurrent : Led current)
    (hcandidate : Led candidate) : Led (combineCleanupFailures (some current) candidate) := by
  have hstatus : executionStatusForCleanupFailure (combineCleanupFailures (some current) candidate)
      = .error ↔ executionStatusForCleanupFailure current = .error ∨
        executionStatusForCleanupFailure candidate = .error := by
    simp only [executionStatusForCleanupFailure_eq_error,
      (combineCleanupFailures_reasons current candidate).mem_iff, List.mem_append, or_and_right,
      exists_or]
  by_cases hdominates : cleanupFailureDominates candidate current = true
  · -- a dominated failure is no more severe than the candidate
    have hweaker : executionStatusForCleanupFailure current = .error →
        executionStatusForCleanupFailure candidate = .error := by
      intro herror
      unfold cleanupFailureDominates at hdominates
      rw [decide_eq_true_eq] at hdominates
      rcases hdominates with ⟨-, hlost⟩ | ⟨-, -, hlost, -⟩ | ⟨hcandidate, -⟩
      · rw [executionStatus_of_snapshotLost hcurrent hlost] at herror
        cases herror
      · rw [executionStatus_of_snapshotLost hcurrent hlost] at herror
        cases herror
      · exact hcandidate
    have hreason : (combineCleanupFailures (some current) candidate).reason = candidate.reason := by
      simp [combineCleanupFailures, hdominates]
    have hsame : executionStatusForCleanupFailure
        (combineCleanupFailures (some current) candidate)
        = executionStatusForCleanupFailure candidate := by
      rcases executionStatusForCleanupFailure_cases candidate with hcase | hcase
      · rw [hcase, hstatus]
        exact .inr hcase
      · rcases executionStatusForCleanupFailure_cases
          (combineCleanupFailures (some current) candidate) with hcombined | hcombined
        · rcases hstatus.mp hcombined with herror | herror
          · rw [hweaker herror] at hcase
            cases hcase
          · rw [herror] at hcase
            cases hcase
        · rw [hcase, hcombined]
    rw [Led, hreason, hsame, hcandidate]
  · -- the candidate is no more severe than a failure it does not dominate
    have hweaker : executionStatusForCleanupFailure candidate = .error →
        executionStatusForCleanupFailure current = .error := by
      intro herror
      rcases executionStatusForCleanupFailure_cases current with hcase | hcase
      · exact hcase
      · refine absurd ?_ hdominates
        unfold cleanupFailureDominates
        rw [decide_eq_true_eq]
        exact .inr (.inr ⟨herror, hcase⟩)
    have hreason : (combineCleanupFailures (some current) candidate).reason = current.reason := by
      simp [combineCleanupFailures, hdominates]
    have hsame : executionStatusForCleanupFailure
        (combineCleanupFailures (some current) candidate)
        = executionStatusForCleanupFailure current := by
      rcases executionStatusForCleanupFailure_cases current with hcase | hcase
      · rw [hcase, hstatus]
        exact .inl hcase
      · rcases executionStatusForCleanupFailure_cases
          (combineCleanupFailures (some current) candidate) with hcombined | hcombined
        · rcases hstatus.mp hcombined with herror | herror
          · rw [herror] at hcase
            cases hcase
          · rw [hweaker herror] at hcase
            cases hcase
        · rw [hcase, hcombined]
    rw [Led, hreason, hsame, hcurrent]

theorem led_combineFrom {failures : List CleanupFailure} {current combined : CleanupFailure}
    (hcurrent : Led current) (hled : ∀ failure ∈ failures, Led failure)
    (h : combineFrom (some current) failures = some combined) : Led combined := by
  induction failures generalizing current with
  | nil =>
    cases h
    exact hcurrent
  | cons failure failures ih =>
    exact ih (led_combineCleanupFailures hcurrent (hled failure (by simp)))
      (fun other hother => hled other (by simp [hother])) h

/-! ## Any order -/

/-- How severe a status is. -/
def severity : ExecutionStatus → ℕ
  | .completed => 0
  | .incomplete => 1
  | .error => 2

/-- What a fold of failures gives: their reasons, led by one as severe as all. -/
theorem combined_of_fold {failures : List CleanupFailure} (hnonempty : failures ≠ [])
    (hproduced : ∀ failure ∈ failures, Produced failure) :
    ∃ combined, combineFrom none failures = some combined ∧
      combined.reasons.Perm (failures.flatMap CleanupFailure.reasons) ∧ Led combined := by
  cases failures with
  | nil => exact absurd rfl hnonempty
  | cons failure failures =>
    rcases combineFrom_some failures failure with ⟨combined, hcombined⟩
    refine ⟨combined, hcombined, ?_, ?_⟩
    · simpa using combineFrom_reasons hcombined
    · exact led_combineFrom (hproduced failure (by simp)).led
        (fun other hother => (hproduced other (by simp [hother])).led) hcombined

theorem severity_le {failures : List CleanupFailure} {combined failure : CleanupFailure}
    (hreasons : combined.reasons.Perm (failures.flatMap CleanupFailure.reasons))
    (hfailure : failure ∈ failures) :
    severity (executionStatusForCleanupFailure failure)
      ≤ severity (executionStatusForCleanupFailure combined) := by
  rcases executionStatusForCleanupFailure_cases failure with hcase | hcase
  · have hcombined : executionStatusForCleanupFailure combined = .error := by
      rcases executionStatusForCleanupFailure_eq_error.mp hcase with ⟨reason, hreason, herror⟩
      apply executionStatusForCleanupFailure_eq_error.mpr
      exact ⟨reason, hreasons.mem_iff.mpr (List.mem_flatMap.mpr ⟨failure, hfailure, hreason⟩),
        herror⟩
    rw [hcase, hcombined]
  · rcases executionStatusForCleanupFailure_cases combined with hcombined | hcombined
    · rw [hcase, hcombined]
      decide
    · rw [hcase, hcombined]

theorem exists_severity_eq {failures : List CleanupFailure} {combined : CleanupFailure}
    (hnonempty : failures ≠ [])
    (hreasons : combined.reasons.Perm (failures.flatMap CleanupFailure.reasons)) :
    ∃ failure ∈ failures, severity (executionStatusForCleanupFailure failure)
      = severity (executionStatusForCleanupFailure combined) := by
  rcases executionStatusForCleanupFailure_cases combined with hcombined | hcombined
  · rcases executionStatusForCleanupFailure_eq_error.mp hcombined with ⟨reason, hreason, herror⟩
    rcases List.mem_flatMap.mp (hreasons.mem_iff.mp hreason) with ⟨failure, hfailure, hmem⟩
    refine ⟨failure, hfailure, ?_⟩
    rw [executionStatusForCleanupFailure_eq_error.mpr ⟨reason, hmem, herror⟩, hcombined]
  · rcases List.exists_mem_of_ne_nil failures hnonempty with ⟨failure, hfailure⟩
    refine ⟨failure, hfailure, ?_⟩
    have hle := severity_le hreasons hfailure
    rcases executionStatusForCleanupFailure_cases failure with hcase | hcase
    · rw [hcase, hcombined] at hle
      exact absurd hle (by decide)
    · rw [hcase, hcombined]

theorem combineFrom_append (current : Option CleanupFailure) (failures rest : List CleanupFailure) :
    combineFrom current (failures ++ rest) = combineFrom (combineFrom current failures) rest :=
  List.foldl_append

/-- Closing the resources folds the failures that their contexts leave behind. -/
theorem closeResources_folds {resources : List ClosingResource}
    {current result : Option CleanupFailure} {persistenceError error : Option SourceError}
    (h : closeResources current persistenceError resources = .ok (result, error)) :
    ∃ failures, (∀ failure ∈ failures, Produced failure) ∧
      result = combineFrom current failures := by
  induction resources generalizing current persistenceError with
  | nil =>
    cases h
    exact ⟨[], by simp, rfl⟩
  | cons resource resources ih =>
    rcases bind_eq_ok.mp h with ⟨failure, hfailure, h⟩
    have hown : ∀ own ∈ failure.toList, Produced own := by
      intro own hmem
      rw [Option.mem_toList] at hmem
      exact ⟨resource, by rw [hfailure, hmem]⟩
    have hrest : ∃ later, closeResources (combineFrom current failure.toList) later resources
        = .ok (result, error) := by
      dsimp only at h
      split at h
      · split at h
        · exact ⟨_, h⟩
        · cases h
      · exact ⟨_, h⟩
    rcases hrest with ⟨later, hrest⟩
    rcases ih hrest with ⟨failures, hproduced, hresult⟩
    refine ⟨failure.toList ++ failures, ?_, ?_⟩
    · intro other hother
      rcases List.mem_append.mp hother with hother | hother
      · exact hown other hother
      · exact hproduced other hother
    · rw [hresult, combineFrom_append]

/-- Two orders of the failures that closing the contexts leaves behind fold to the
same status, the same reasons and the same answer on a retry; the status is the
greatest of the single ones, and the primary reason is of that status. -/
theorem combineFrom_order {failures order : List CleanupFailure} (hnonempty : failures ≠ [])
    (hproduced : ∀ failure ∈ failures, Produced failure) (horder : order.Perm failures) :
    ∃ combined combined', combineFrom none failures = some combined ∧
      combineFrom none order = some combined' ∧
      executionStatusForCleanupFailure combined' = executionStatusForCleanupFailure combined ∧
      cleanupFailureIsRetryable combined' = cleanupFailureIsRetryable combined ∧
      combined'.reasons.Perm combined.reasons ∧
      (∀ failure ∈ failures, severity (executionStatusForCleanupFailure failure)
        ≤ severity (executionStatusForCleanupFailure combined)) ∧
      (∃ failure ∈ failures, severity (executionStatusForCleanupFailure failure)
        = severity (executionStatusForCleanupFailure combined)) ∧
      executionStatusForFailureReason combined.reason
        = executionStatusForCleanupFailure combined ∧
      executionStatusForFailureReason combined'.reason
        = executionStatusForCleanupFailure combined' := by
  rcases combined_of_fold hnonempty hproduced with ⟨combined, hcombined, hreasons, hled⟩
  have hnonempty' : order ≠ [] := by
    rintro rfl
    exact hnonempty (List.nil_perm.mp horder)
  rcases combined_of_fold hnonempty' fun failure hfailure =>
    hproduced failure (horder.mem_iff.mp hfailure) with ⟨combined', hcombined', hreasons', hled'⟩
  have hsame : combined'.reasons.Perm combined.reasons :=
    hreasons'.trans ((horder.flatMap_right _).trans hreasons.symm)
  exact ⟨combined, combined', hcombined, hcombined', executionStatus_congr hsame,
    cleanupFailureIsRetryable_congr hsame, hsame, fun failure => severity_le hreasons,
    exists_severity_eq hnonempty hreasons, hled, hled'⟩

/-- Closing the contexts of an attempt folds the failures they leave behind, and
the fold of such failures is the same in every order: status, reasons and answer
on a retry, with the greatest of the single statuses, which is that of the
primary reason. -/
theorem cleanup_failures_combine :
    (∀ resources result, closeAttemptResources resources = .ok result →
      ∃ failures, (∀ failure ∈ failures, Produced failure) ∧
        result = combineFrom none failures) ∧
    ∀ failures order : List CleanupFailure, failures ≠ [] →
      (∀ failure ∈ failures, Produced failure) → order.Perm failures →
      ∃ combined combined', combineFrom none failures = some combined ∧
        combineFrom none order = some combined' ∧
        executionStatusForCleanupFailure combined' = executionStatusForCleanupFailure combined ∧
        cleanupFailureIsRetryable combined' = cleanupFailureIsRetryable combined ∧
        combined'.reasons.Perm combined.reasons ∧
        (∀ failure ∈ failures, severity (executionStatusForCleanupFailure failure)
          ≤ severity (executionStatusForCleanupFailure combined)) ∧
        (∃ failure ∈ failures, severity (executionStatusForCleanupFailure failure)
          = severity (executionStatusForCleanupFailure combined)) ∧
        executionStatusForFailureReason combined.reason
          = executionStatusForCleanupFailure combined ∧
        executionStatusForFailureReason combined'.reason
          = executionStatusForCleanupFailure combined' := by
  refine ⟨fun resources result h => ?_, fun failures order => combineFrom_order⟩
  rcases bind_eq_ok.mp h with ⟨⟨failure, persistenceError⟩, hclosed, h⟩
  dsimp only at h
  split at h
  · cases h
  · cases h
    exact closeResources_folds hclosed

/-- A context that was lost before it is closed. -/
def lostResource : ClosingResource where
  direction := .reference
  context := .other false (.ok ())
  recordEnd := none

/-- A context whose last query fails. -/
def failingResource : ClosingResource where
  direction := .target
  context := .other true (.error (.of .clickHouseQueryError "query failed"))
  recordEnd := none

/-- A lost context after a failed query: the failed query is the primary reason in
both orders. -/
theorem cleanup_failures_combine_two :
    ∃ lost failing, closeResource lostResource = .ok (some lost) ∧
      closeResource failingResource = .ok (some failing) ∧
      ∃ combined combined', combineFrom none [lost, failing] = some combined ∧
        combineFrom none [failing, lost] = some combined' ∧
        executionStatusForCleanupFailure combined'
          = executionStatusForCleanupFailure combined := by
  refine ⟨_, _, rfl, rfl, ?_⟩
  rcases cleanup_failures_combine.2 [_, _] [_, _] (by simp) (by
    intro failure hfailure
    rcases List.mem_cons.mp hfailure with rfl | hfailure
    · exact ⟨lostResource, rfl⟩
    · rw [List.mem_singleton] at hfailure
      exact ⟨failingResource, hfailure ▸ rfl⟩) (List.Perm.swap _ _ [])
    with ⟨combined, combined', hcombined, hcombined', hstatus, -⟩
  exact ⟨combined, combined', hcombined, hcombined', hstatus⟩

end ForensicData.Application
