/-
ForensicData.Errors — the exceptions of the modelled code.

A refusal carries the exception's class and its text. `ErrorClass.base` is the
class hierarchy of the source: an `except` clause catches a class and every
class below it (`ErrorClass.isInstance`).
-/
import Mathlib.Data.List.Forall2
import Mathlib.Data.Nat.Notation

namespace ForensicData

/-- The exception classes raised by the modelled functions. -/
inductive ErrorClass where
  | exception
  | runtimeError
  | valueError
  | typeError
  | assertionError
  | keyError
  | indexError
  | canonicalizationError
  | schemaValidationError
  | payloadValidationError
  | frameValidationError
  | nullKeyError
  | fingerprintOverflowError
  | acquisitionValidationError
  | postgresLoweringError
  | mssqlLoweringError
  | comparisonExecutionError
  | unsupportedComparisonError
  | comparisonBudgetExceededError
  | comparisonProtocolError
  | comparisonKeyMappingError
  | postgresConnectorError
  | postgresAcquisitionRaceError
  | postgresCloseError
  | postgresConnectionError
  | postgresContextClosedError
  | postgresContextLostError
  | postgresDataValidationError
  | postgresMetadataError
  | postgresQueryContextError
  | postgresQueryError
  | postgresReadDeadlineExceededError
  | postgresResultLimitError
  | postgresSourceBudgetExceededError
  | unsupportedPostgresProfileError
  | mssqlTransportError
  | mssqlCancellationError
  | mssqlCancellationConfirmedError
  | mssqlCancellationRequestTimeoutError
  | mssqlCancellationUnconfirmedError
  | mssqlNoActiveQueryError
  | mssqlWrongQueryIdError
  | mssqlCloseError
  | mssqlConnectionError
  | mssqlTransportClosedError
  | mssqlContextClosedError
  | mssqlContextLostError
  | mssqlDataValidationError
  | mssqlLossyTransportError
  | mssqlMetadataError
  | unsupportedMssqlRelationError
  | mssqlQueryContextError
  | mssqlQueryError
  | mssqlQueryTimeoutError
  | mssqlSnapshotMetadataChangedQueryError
  | mssqlResultLimitError
  | mssqlThreadOwnershipError
  | unsupportedMssqlProfileError
  | greenplumConnectorError
  | greenplumCloseError
  | greenplumConnectionError
  | greenplumContextClosedError
  | greenplumContextLostError
  | greenplumDataValidationError
  | greenplumMetadataError
  | greenplumQueryError
  | greengageAcquisitionRaceError
  | greengageBudgetExceededError
  | greengageResultLimitError
  | originalGreenplumAcquisitionRaceError
  | originalGreenplumBudgetExceededError
  | originalGreenplumResultLimitError
  | unsupportedGreenplumProfileError
  | clickHouseTransportError
  | clickHouseAttemptDeadlineExceededError
  | clickHouseCancellationUnconfirmedError
  | clickHouseConnectionError
  | clickHouseDataValidationError
  | clickHouseMutationFailureError
  | clickHouseReplacingVersionAmbiguityError
  | clickHouseProtectedContextCleanupError
  | clickHouseProtectedContextClosedError
  | clickHouseProtectedContextLostError
  | clickHouseProtectedContextConfirmationError
  | clickHouseQueryError
  | clickHouseResultLimitError
  | clickHouseResponseLimitError
  | clickHouseSourceAccountingError
  | clickHouseTransportAttemptMismatchError
  | clickHouseTransportCleanupError
  | clickHouseTransportClosedError
  | unsupportedClickHouseProfileError
  | applicationError
  | applicationStateError
  | metadataError
  | metadataConnectionError
  | metadataPersistenceError
  | datasetIdentityConflictError
  | immutableContractRevisionConflictError
  | codeArtifactIntegrityError
  | storedMetadataIntegrityError
  | storedLifecycleIntegrityError
  | lifecyclePersistenceError
  | runRequestConflictError
  | lifecycleOperationConflictError
  | lifecycleTransactionError
  | lifecycleCommitUnknownError
  | runLifecycleStateError
  | completedComparisonNotFoundError
  | activeRunAttemptError
  | runAttemptLimitError
  | runInvocationContinuationError
  | attemptFenceError
  | inputCutMismatchError
  | contractError
  | contractValidationError
  | contractReferenceError
  | unsupportedContractError
  | scopeValueError
  deriving DecidableEq, Repr

/-- The class a class directly extends. -/
def ErrorClass.base : ErrorClass → Option ErrorClass
  | .exception => none
  | .runtimeError => some .exception
  | .valueError => some .exception
  | .typeError => some .exception
  | .assertionError => some .exception
  | .keyError => some .exception
  | .indexError => some .exception
  | .canonicalizationError => some .valueError
  | .schemaValidationError => some .canonicalizationError
  | .payloadValidationError => some .canonicalizationError
  | .frameValidationError => some .canonicalizationError
  | .nullKeyError => some .frameValidationError
  | .fingerprintOverflowError => some .canonicalizationError
  | .acquisitionValidationError => some .valueError
  | .postgresLoweringError => some .valueError
  | .mssqlLoweringError => some .valueError
  | .comparisonExecutionError => some .runtimeError
  | .unsupportedComparisonError => some .comparisonExecutionError
  | .comparisonBudgetExceededError => some .comparisonExecutionError
  | .comparisonProtocolError => some .comparisonExecutionError
  | .comparisonKeyMappingError => some .comparisonExecutionError
  | .postgresConnectorError => some .runtimeError
  | .postgresAcquisitionRaceError => some .postgresMetadataError
  | .postgresCloseError => some .postgresConnectorError
  | .postgresConnectionError => some .postgresConnectorError
  | .postgresContextClosedError => some .postgresConnectorError
  | .postgresContextLostError => some .postgresConnectorError
  | .postgresDataValidationError => some .postgresConnectorError
  | .postgresMetadataError => some .postgresConnectorError
  | .postgresQueryContextError => some .postgresConnectorError
  | .postgresQueryError => some .postgresConnectorError
  | .postgresReadDeadlineExceededError => some .postgresConnectorError
  | .postgresResultLimitError => some .postgresConnectorError
  | .postgresSourceBudgetExceededError => some .postgresConnectorError
  | .unsupportedPostgresProfileError => some .postgresConnectorError
  | .mssqlTransportError => some .runtimeError
  | .mssqlCancellationError => some .mssqlTransportError
  | .mssqlCancellationConfirmedError => some .mssqlCancellationError
  | .mssqlCancellationRequestTimeoutError => some .mssqlCancellationError
  | .mssqlCancellationUnconfirmedError => some .mssqlCancellationError
  | .mssqlNoActiveQueryError => some .mssqlCancellationError
  | .mssqlWrongQueryIdError => some .mssqlCancellationError
  | .mssqlCloseError => some .mssqlTransportError
  | .mssqlConnectionError => some .mssqlTransportError
  | .mssqlTransportClosedError => some .mssqlTransportError
  | .mssqlContextClosedError => some .mssqlTransportClosedError
  | .mssqlContextLostError => some .mssqlTransportError
  | .mssqlDataValidationError => some .mssqlTransportError
  | .mssqlLossyTransportError => some .mssqlDataValidationError
  | .mssqlMetadataError => some .mssqlDataValidationError
  | .unsupportedMssqlRelationError => some .mssqlMetadataError
  | .mssqlQueryContextError => some .mssqlTransportError
  | .mssqlQueryError => some .mssqlTransportError
  | .mssqlQueryTimeoutError => some .mssqlQueryError
  | .mssqlSnapshotMetadataChangedQueryError => some .mssqlQueryError
  | .mssqlResultLimitError => some .mssqlTransportError
  | .mssqlThreadOwnershipError => some .mssqlTransportError
  | .unsupportedMssqlProfileError => some .mssqlTransportError
  | .greenplumConnectorError => some .runtimeError
  | .greenplumCloseError => some .greenplumConnectorError
  | .greenplumConnectionError => some .greenplumConnectorError
  | .greenplumContextClosedError => some .greenplumConnectorError
  | .greenplumContextLostError => some .greenplumConnectorError
  | .greenplumDataValidationError => some .greenplumConnectorError
  | .greenplumMetadataError => some .greenplumConnectorError
  | .greenplumQueryError => some .greenplumConnectorError
  | .greengageAcquisitionRaceError => some .greenplumMetadataError
  | .greengageBudgetExceededError => some .greenplumConnectorError
  | .greengageResultLimitError => some .greengageBudgetExceededError
  | .originalGreenplumAcquisitionRaceError => some .greenplumMetadataError
  | .originalGreenplumBudgetExceededError => some .greenplumConnectorError
  | .originalGreenplumResultLimitError => some .originalGreenplumBudgetExceededError
  | .unsupportedGreenplumProfileError => some .greenplumConnectorError
  | .clickHouseTransportError => some .runtimeError
  | .clickHouseAttemptDeadlineExceededError => some .clickHouseTransportError
  | .clickHouseCancellationUnconfirmedError => some .clickHouseTransportError
  | .clickHouseConnectionError => some .clickHouseTransportError
  | .clickHouseDataValidationError => some .clickHouseTransportError
  | .clickHouseMutationFailureError => some .clickHouseDataValidationError
  | .clickHouseReplacingVersionAmbiguityError => some .clickHouseDataValidationError
  | .clickHouseProtectedContextCleanupError => some .clickHouseTransportError
  | .clickHouseProtectedContextClosedError => some .clickHouseTransportError
  | .clickHouseProtectedContextLostError => some .clickHouseTransportError
  | .clickHouseProtectedContextConfirmationError => some .clickHouseProtectedContextLostError
  | .clickHouseQueryError => some .clickHouseTransportError
  | .clickHouseResultLimitError => some .clickHouseTransportError
  | .clickHouseResponseLimitError => some .clickHouseResultLimitError
  | .clickHouseSourceAccountingError => some .clickHouseTransportError
  | .clickHouseTransportAttemptMismatchError => some .clickHouseTransportError
  | .clickHouseTransportCleanupError => some .clickHouseTransportError
  | .clickHouseTransportClosedError => some .clickHouseTransportError
  | .unsupportedClickHouseProfileError => some .clickHouseTransportError
  | .applicationError => some .runtimeError
  | .applicationStateError => some .applicationError
  | .metadataError => some .runtimeError
  | .metadataConnectionError => some .metadataError
  | .metadataPersistenceError => some .metadataError
  | .datasetIdentityConflictError => some .metadataPersistenceError
  | .immutableContractRevisionConflictError => some .metadataPersistenceError
  | .codeArtifactIntegrityError => some .metadataPersistenceError
  | .storedMetadataIntegrityError => some .metadataPersistenceError
  | .storedLifecycleIntegrityError => some .storedMetadataIntegrityError
  | .lifecyclePersistenceError => some .metadataPersistenceError
  | .runRequestConflictError => some .lifecyclePersistenceError
  | .lifecycleOperationConflictError => some .lifecyclePersistenceError
  | .lifecycleTransactionError => some .lifecyclePersistenceError
  | .lifecycleCommitUnknownError => some .lifecyclePersistenceError
  | .runLifecycleStateError => some .lifecyclePersistenceError
  | .completedComparisonNotFoundError => some .runLifecycleStateError
  | .activeRunAttemptError => some .runLifecycleStateError
  | .runAttemptLimitError => some .runLifecycleStateError
  | .runInvocationContinuationError => some .runLifecycleStateError
  | .attemptFenceError => some .runLifecycleStateError
  | .inputCutMismatchError => some .runLifecycleStateError
  | .contractError => some .valueError
  | .contractValidationError => some .contractError
  | .contractReferenceError => some .contractError
  | .unsupportedContractError => some .contractError
  | .scopeValueError => some .contractError

/-- `isinstance`, up to `depth` classes above the raised one. -/
def ErrorClass.isInstanceWithin : ℕ → ErrorClass → ErrorClass → Bool
  | 0, raised, caught => decide (raised = caught)
  | depth + 1, raised, caught =>
    decide (raised = caught) || raised.base.any fun base => isInstanceWithin depth base caught

/-- `isinstance(raised, caught)`: the longest chain of the hierarchy has six
links. -/
def ErrorClass.isInstance (raised caught : ErrorClass) : Bool :=
  raised.isInstanceWithin 6 caught

/-- A raised exception: its class and its text. -/
structure Refusal where
  error : ErrorClass
  message : String
  deriving DecidableEq, Repr

/-- `raise ValueError(message)`. -/
def raiseValueError {α : Type*} (message : String) : Except Refusal α :=
  .error { error := .valueError, message := message }

/-- `if condition: raise refusal`. -/
def refuseIf (condition : Prop) [Decidable condition] (refusal : Refusal) : Except Refusal Unit :=
  if condition then .error refusal else .ok ()

@[simp] theorem refuseIf_eq_ok {condition : Prop} [Decidable condition] {refusal : Refusal}
    {u : Unit} : refuseIf condition refusal = .ok u ↔ ¬ condition := by
  unfold refuseIf
  split <;> simp [*]

/-- A sequence of fallible steps succeeds when its first step does and the rest
succeeds on its value. -/
theorem bind_eq_ok {ε α β : Type} {x : Except ε α} {f : α → Except ε β} {b : β} :
    (x >>= f) = .ok b ↔ ∃ a, x = .ok a ∧ f a = .ok b := by
  cases x with
  | error e => simp [bind, Except.bind]
  | ok a => simp [bind, Except.bind]

/-- A sequence stops with the error of its first step or with one of the rest. -/
theorem bind_eq_error {ε α β : Type} {x : Except ε α} {f : α → Except ε β} {e : ε} :
    (x >>= f) = .error e ↔ x = .error e ∨ ∃ a, x = .ok a ∧ f a = .error e := by
  cases x with
  | error e' => simp [bind, Except.bind]
  | ok a => simp [bind, Except.bind]

/-- A check that returns nothing passes, and the rest then runs. -/
@[simp] theorem bind_unit_eq_ok {ε β : Type} {x : Except ε Unit} {f : Unit → Except ε β} {b : β} :
    (x >>= f) = .ok b ↔ x = .ok () ∧ f () = .ok b := by
  rw [bind_eq_ok]
  refine ⟨fun h => ?_, fun h => ⟨(), h⟩⟩
  obtain ⟨u, h⟩ := h
  exact h

/-- A loop of checks passes when every round does. -/
theorem forM_eq_ok {ε α : Type} {f : α → Except ε Unit} {xs : List α} {u : Unit} :
    xs.forM f = .ok u ↔ ∀ x ∈ xs, f x = .ok () := by
  induction xs with
  | nil => simp [List.forM, pure, Except.pure]
  | cons x xs ih =>
    change (f x >>= fun _ => xs.forM f) = .ok u ↔ _
    rw [bind_eq_ok, List.forall_mem_cons]
    refine ⟨fun h => ?_, fun h => ⟨(), h.1, ih.mpr h.2⟩⟩
    obtain ⟨v, hx, hxs⟩ := h
    exact ⟨hx, ih.mp hxs⟩

@[simp] theorem pure_eq_ok {ε α : Type} {a b : α} :
    (pure a : Except ε α) = .ok b ↔ a = b := by
  simp [pure, Except.pure]

theorem mapError_eq_ok {ε δ α : Type} {x : Except ε α} {f : ε → δ} {a : α} :
    x.mapError f = .ok a ↔ x = .ok a := by
  cases x <;> simp [Except.mapError]

/-- A list is mapped to the values of its items. -/
theorem mapM_eq_ok {ε α β : Type} {f : α → Except ε β} {items : List α} {results : List β} :
    items.mapM f = .ok results ↔ List.Forall₂ (fun a b => f a = .ok b) items results := by
  induction items generalizing results with
  | nil => simp [pure, Except.pure, eq_comm]
  | cons a items ih =>
    simp only [List.mapM_cons, bind_eq_ok, ih, pure_eq_ok, List.forall₂_cons_left_iff]
    refine exists_congr fun b => ?_
    rw [← exists_and_left]
    exact exists_congr fun rest => and_congr_right fun _ => and_congr_right fun _ => eq_comm

/-- A list is mapped when every item is. -/
theorem exists_mapM_eq_ok {ε α β : Type} {f : α → Except ε β} {related : α → β → Prop}
    {items : List α} (hitems : ∀ a ∈ items, ∃ b, f a = .ok b ∧ related a b) :
    ∃ results, items.mapM f = .ok results ∧ List.Forall₂ related items results := by
  induction items with
  | nil => exact ⟨[], rfl, .nil⟩
  | cons a items ih =>
    rw [List.forall_mem_cons] at hitems
    obtain ⟨b, hb, hrelated⟩ := hitems.1
    obtain ⟨results, hresults, hall⟩ := ih hitems.2
    exact ⟨b :: results, mapM_eq_ok.mpr (.cons hb (mapM_eq_ok.mp hresults)),
      .cons hrelated hall⟩

end ForensicData
