/-
ForensicData.Application.ReplayRuns — when a replayed failure is the failure.

Every stop of an attempt, and every way of closing a context, gives a reason with
names of its own. What is not stored are the secondary reasons: the readback adds
one plain context loss for every cleanup failure, and that is the truth only where
exactly one context was lost without another reason.
-/
import ForensicData.Application.ReplayTheorems
import ForensicData.Result.ExitCodes

namespace ForensicData.Application

open ForensicData.Comparison
open ForensicData.Result

variable {Body Cut : Type} {recordBytes : DifferenceRecord Body → ℕ}

/-! ## The reasons of a stop -/

theorem ownParameters_sourceError (error : SourceError) :
    OwnParameters (sourceErrorParameters error) := by
  apply ownParameters_of_names
  unfold sourceErrorParameters SourceError.typeParameter ErrorDetails.responseParameters parameter
  split_ifs
  all_goals
    simp only [List.map_cons, List.map_nil, List.cons_append, List.nil_append, List.append_nil]
    decide

theorem reasonFromSourceError_fields (code : ReasonCode) (operation message : String)
    (error : SourceError) :
    (reasonFromSourceError code operation message error).code = code ∧
    (reasonFromSourceError code operation message error).operation = operation ∧
    (reasonFromSourceError code operation message error).safeParameters
      = sourceErrorParameters error := by
  unfold reasonFromSourceError
  dsimp only
  split
  · exact ⟨rfl, rfl, rfl⟩
  · split
    · exact ⟨rfl, rfl, rfl⟩
    · split <;> exact ⟨rfl, rfl, rfl⟩

/-- The reason of a stop that says nothing of keys. -/
structure StopReason (reason : ResultReason) : Prop where
  isOwn : OwnParameters reason.safeParameters
  notLossy : reason.code ≠ .lossyTransport
  notCleanup : cleanupIsPrimary reason = false

theorem stopReason_sourceError {code : ReasonCode} {operation message : String}
    {error : SourceError} (hcode : code ≠ .lossyTransport)
    (hoperation : code = .snapshotLost → operation ≠ "close_read_context") :
    StopReason (reasonFromSourceError code operation message error) := by
  obtain ⟨hfields, hoperations, hparameters⟩ :=
    reasonFromSourceError_fields code operation message error
  refine ⟨?_, ?_, ?_⟩
  · rw [hparameters]
    exact ownParameters_sourceError error
  · rwa [hfields]
  · rw [cleanupIsPrimary, hfields, hoperations, decide_eq_false_iff_not]
    exact fun h => hoperation h.1 h.2

theorem stopReason_mssqlQueryTimeout (error : SourceError) :
    StopReason (mssqlQueryTimeoutReason error) where
  isOwn := by
    apply ownParameters_of_names
    simp only [mssqlQueryTimeoutReason, SourceError.typeParameter, parameter, List.map_cons,
      List.map_nil]
    decide
  notLossy := by simp [mssqlQueryTimeoutReason]
  notCleanup := by simp [cleanupIsPrimary, mssqlQueryTimeoutReason]

theorem stopReason_mssqlConfirmedCancellation (error : SourceError) :
    StopReason (mssqlConfirmedCancellationReason error) where
  isOwn := by
    apply ownParameters_of_names
    simp only [mssqlConfirmedCancellationReason, SourceError.typeParameter, parameter,
      List.map_cons, List.map_nil]
    decide
  notLossy := by simp [mssqlConfirmedCancellationReason]
  notCleanup := by simp [cleanupIsPrimary, mssqlConfirmedCancellationReason]

theorem stopReason_mssqlUnconfirmedCancellation (error : SourceError) :
    StopReason (mssqlUnconfirmedCancellationReason error) where
  isOwn := by
    apply ownParameters_of_names
    simp only [mssqlUnconfirmedCancellationReason, SourceError.typeParameter, parameter,
      List.map_cons, List.map_nil]
    decide
  notLossy := by simp [mssqlUnconfirmedCancellationReason]
  notCleanup := by simp [cleanupIsPrimary, mssqlUnconfirmedCancellationReason]

theorem stopReason_clickhouseUnconfirmedCancellation (error : SourceError)
    (direction : PlanDirection) :
    StopReason (clickhouseUnconfirmedCancellationReason error direction) where
  isOwn := by
    apply ownParameters_of_names
    simp only [clickhouseUnconfirmedCancellationReason, SourceError.typeParameter,
      ErrorDetails.responseParameters, parameter, List.map_cons, List.map_nil, List.cons_append,
      List.nil_append]
    decide
  notLossy := by simp [clickhouseUnconfirmedCancellationReason]
  notCleanup := by simp [cleanupIsPrimary, clickhouseUnconfirmedCancellationReason]

theorem stopReason_early {outcome : EarlyExecutionOutcome}
    (shown : EarlyParameters outcome.reason.safeParameters) : StopReason outcome.reason := by
  have hcode : outcome.reason.code ≠ .lossyTransport ∧ outcome.reason.code ≠ .snapshotLost := by
    rcases outcome.agrees with ⟨-, hcode | hcode⟩ | ⟨-, hcode⟩ <;> simp [hcode]
  refine ⟨?_, hcode.1, by simp [cleanupIsPrimary, hcode.2]⟩
  generalize outcome.reason.safeParameters = parameters at shown
  apply ownParameters_of_names
  cases shown with
  | none => decide
  | dataset direction datasetId =>
    simp only [parameter, List.map_cons, List.map_nil]
    decide
  | request direction endpointProfile datasetId =>
    simp only [parameter, List.map_cons, List.map_nil]
    decide

/-! ## The failures of a stop -/

/-- A failure of which only its contexts, if at all, are known. -/
theorem recorded_failureWithoutEvidence {status : ExecutionStatus} {reason : ResultReason}
    {retryable : Bool} {contexts : List Uuid} {cutAligned : Bool} {metrics : ResultMetrics}
    {failure : AttemptFailure recordBytes Cut} (hstatus : status ≠ .completed)
    (hreason : StopReason reason) (hcount : contexts.length ≤ 2)
    (hids : ∀ id ∈ contexts, id < 2 ^ 128) (haligned : cutAligned = true → contexts.length = 2)
    (h : failureWithoutEvidence status reason retryable
      { contextIds := contexts, stableReads := .unknown, cutAligned } metrics = .ok failure) :
    Recorded failure reason.safeParameters none := by
  obtain ⟨appended, happended, h⟩ := bind_eq_ok.mp h
  have happended := appendParameters_eq_ok happended
  rw [pure_eq_ok] at h
  subst h
  exact {
    isOwn := hreason.isOwn
    parameters := by
      rw [happended]
      rfl
    storable := fun hnodup => {
      count_le := hcount
      distinct := hnodup
      ids_lt := hids
      aligned := haligned
      verified := fun hreads => by cases hreads
      asserted := fun hreads => by cases hreads }
    reads_contract := fun stored hcode _ _ =>
      mappingContractReason_of_ne (by rw [hcode, happended]; exact hreason.notLossy)
    additional_eq := rfl
    verdict_eq := rfl
    coverage_eq := by rw [happended, if_neg hreason.notLossy]
    evidence_eq := rfl
    notCleanup := by
      rw [← hreason.notCleanup, happended, cleanupIsPrimary, cleanupIsPrimary]
    notLossy := fun _ => ⟨rfl, by rw [happended]; exact hreason.notLossy⟩
    notCompleted := hstatus }

/-- A computation of a failure whose reason is recorded. -/
def Records (attempt : Except Refusal (AttemptFailure recordBytes Cut)) : Prop :=
  ∀ failure, attempt = .ok failure → ∃ own contract, Recorded failure own contract

theorem records_ite {condition : Prop} [Decidable condition]
    {first second : Except Refusal (AttemptFailure recordBytes Cut)} (hfirst : Records first)
    (hsecond : Records second) : Records (if condition then first else second) := by
  split
  · exact hfirst
  · exact hsecond

theorem records_bind {α : Type} {step : Except Refusal α}
    {rest : α → Except Refusal (AttemptFailure recordBytes Cut)}
    (hrest : ∀ value, Records (rest value)) : Records (step >>= rest) := by
  intro failure h
  obtain ⟨value, -, h⟩ := bind_eq_ok.mp h
  exact hrest value failure h

section Stops

variable {state : AttemptState Cut} {usage : SourceUsageSnapshot}

theorem records_unknownReads {status : ExecutionStatus} {reason : ResultReason} {retryable : Bool}
    {metrics : ResultMetrics} (hstatus : status ≠ .completed) (hreason : StopReason reason) :
    Records (failureWithoutEvidence status reason retryable state.unknownReads metrics :
      Except Refusal (AttemptFailure recordBytes Cut)) := by
  intro failure h
  exact ⟨_, _, recorded_failureWithoutEvidence hstatus hreason
    ((List.length_filterMap_le _ _).trans state.resources_le) state.ids_lt state.cut_contexts h⟩

theorem records_failureFromError {status : ExecutionStatus} {code : ReasonCode}
    {operation message : String} {error : SourceError} {retryable : Bool}
    (hstatus : status ≠ .completed) (hcode : code ≠ .lossyTransport)
    (hoperation : code = .snapshotLost → operation ≠ "close_read_context") :
    Records (failureFromError status code operation message error retryable state usage :
      Except Refusal (AttemptFailure recordBytes Cut)) :=
  records_unknownReads hstatus (stopReason_sourceError hcode hoperation)

theorem records_unsupported {operation message : String} {error : SourceError} :
    Records (failureFromUnsupportedSourceError operation message error state usage :
      Except Refusal (AttemptFailure recordBytes Cut)) :=
  records_failureFromError (by simp) (by simp) (by simp)

theorem records_terminal {reason : ResultReason} (hreason : StopReason reason) :
    Records (failureFromTerminalSourceReason reason state usage :
      Except Refusal (AttemptFailure recordBytes Cut)) :=
  records_unknownReads (by simp) hreason

theorem records_failureFromAttemptError (error : SourceError)
    (greenplumEndpointDirection clickhouseEndpointDirection : Option PlanDirection) :
    Records (failureFromAttemptError error state usage greenplumEndpointDirection
      clickhouseEndpointDirection : Except Refusal (AttemptFailure recordBytes Cut)) := by
  unfold failureFromAttemptError
  apply records_ite
  · exact records_bind fun message => records_unsupported
  apply records_ite
  · exact records_terminal (stopReason_mssqlQueryTimeout error)
  apply records_ite
  · exact records_failureFromError (by simp) (by simp) (by simp)
  apply records_ite
  · exact records_failureFromError (by simp) (by simp) (by simp)
  apply records_ite
  · exact records_terminal (stopReason_mssqlConfirmedCancellation error)
  apply records_ite
  · exact records_terminal (stopReason_mssqlUnconfirmedCancellation error)
  apply records_ite
  · exact records_bind fun direction =>
      records_terminal (stopReason_clickhouseUnconfirmedCancellation error direction)
  apply records_ite
  · exact records_bind fun message => records_unsupported
  apply records_ite
  · exact records_bind fun message => records_unsupported
  apply records_ite
  · exact records_failureFromError (by simp) (by simp) (by decide)
  apply records_ite
  · exact records_failureFromError (by simp) (by simp) (by simp)
  apply records_ite
  · exact records_unsupported
  apply records_ite
  · exact records_bind fun message => records_unsupported
  apply records_ite
  · exact records_bind fun direction => records_unsupported
  apply records_ite
  · exact records_unsupported
  apply records_ite
  · exact records_failureFromError (by simp) (by simp) (by simp)
  apply records_ite
  · exact records_failureFromError (by simp) (by simp) (by simp)
  apply records_ite
  · exact records_bind fun direction => records_failureFromError (by simp) (by simp) (by simp)
  apply records_ite
  · exact records_bind fun direction => records_failureFromError (by simp) (by simp) (by simp)
  · intro failure h
    cases h

/-! ### Key mappings -/

/-- The counts of a summary. -/
def countsOf (summary : KeySummary) : MappingCounts where
  rowCount := summary.rowCount
  nullKeyCount := summary.nullKeyCount
  invalidKeyCount := summary.invalidKeyCount
  validKeyCount := summary.validKeyCount
  distinctKeyCount := summary.distinctKeyCount

theorem storedCounts_of_mem {values : List SafeParameter} {side : String} {summary : KeySummary}
    (hnodup : (values.map (·.name)).Nodup)
    (hmem : ∀ item ∈ [parameter (side ++ "_row_count") (decimalText summary.rowCount),
      parameter (side ++ "_null_key_count") (decimalText summary.nullKeyCount),
      parameter (side ++ "_invalid_key_count") (decimalText summary.invalidKeyCount),
      parameter (side ++ "_valid_key_count") (decimalText summary.validKeyCount),
      parameter (side ++ "_distinct_key_count") (decimalText summary.distinctKeyCount)],
      item ∈ values) : storedCounts values side = .ok (countsOf summary) := by
  simp only [List.forall_mem_cons] at hmem
  obtain ⟨hrow, hnull, hinvalid, hvalid, hdistinct, -⟩ := hmem
  unfold storedCounts
  rw [valueOf_of_parameter hnodup hrow, valueOf_of_parameter hnodup hnull,
    valueOf_of_parameter hnodup hinvalid, valueOf_of_parameter hnodup hvalid,
    valueOf_of_parameter hnodup hdistinct]
  simp only [nonnegativeDecimal_decimalText]
  rfl

theorem requireCounts_countsOf (side : String) (summary : KeySummary) :
    requireCounts side (countsOf summary) = .ok () := by
  rw [requireCounts, bind_unit_eq_ok, refuseIf_eq_ok, refuseIf_eq_ok]
  exact ⟨not_not.mpr summary.rows_eq, Nat.not_lt.mpr summary.distinct_le⟩

theorem countsOf_violations (summary : KeySummary) :
    (countsOf summary).violations = 0 ↔ summary.uniqueKeys = true := by
  have hle := summary.distinct_le
  simp only [MappingCounts.violations, countsOf, KeySummary.uniqueKeys, Bool.and_eq_true,
    beq_iff_eq]
  omega

/-- The contract reason is rebuilt from the counts of a key-mapping reason. -/
theorem mappingContractReason_of_mem {stored : ResultReason} {reference target : KeySummary}
    (hcode : stored.code = .lossyTransport)
    (hnodup : (stored.safeParameters.map (·.name)).Nodup)
    (hmem : ∀ item ∈ keySummarySafeParameters reference target, item ∈ stored.safeParameters) :
    mappingContractReason stored = .ok (structuralContractViolationReason reference target) := by
  have hreference : storedCounts stored.safeParameters "reference" = .ok (countsOf reference) :=
    storedCounts_of_mem hnodup fun item hitem => hmem item (List.mem_append_left
      [parameter "target_row_count" (decimalText target.rowCount),
       parameter "target_null_key_count" (decimalText target.nullKeyCount),
       parameter "target_invalid_key_count" (decimalText target.invalidKeyCount),
       parameter "target_valid_key_count" (decimalText target.validKeyCount),
       parameter "target_distinct_key_count" (decimalText target.distinctKeyCount)] hitem)
  have htarget : storedCounts stored.safeParameters "target" = .ok (countsOf target) :=
    storedCounts_of_mem hnodup fun item hitem => hmem item (List.mem_append_right
      [parameter "reference_row_count" (decimalText reference.rowCount),
       parameter "reference_null_key_count" (decimalText reference.nullKeyCount),
       parameter "reference_invalid_key_count" (decimalText reference.invalidKeyCount),
       parameter "reference_valid_key_count" (decimalText reference.validKeyCount),
       parameter "reference_distinct_key_count" (decimalText reference.distinctKeyCount)] hitem)
  have hvalues : (mappingParameterNames.map fun name =>
      parameter name ((valueOf stored.safeParameters name).getD ""))
      = keySummarySafeParameters reference target := by
    have hitems : ∀ item ∈ keySummarySafeParameters reference target,
        parameter item.name ((valueOf stored.safeParameters item.name).getD "") = item := by
      intro item hitem
      rw [valueOf_of_mem hnodup (hmem item hitem), Option.getD_some]
      rfl
    have hnames : mappingParameterNames
        = (keySummarySafeParameters reference target).map (·.name) := rfl
    rw [hnames, List.map_map]
    exact (List.map_congr_left hitems).trans (List.map_id' _)
  have hviolations : (countsOf reference).violations + (countsOf target).violations = 0 ↔
      (reference.uniqueKeys && target.uniqueKeys) = true := by
    rw [Nat.add_eq_zero_iff, countsOf_violations, countsOf_violations, Bool.and_eq_true]
  have hmapping : safeParameterMapping stored = .ok stored.safeParameters := if_pos hnodup
  unfold mappingContractReason structuralContractViolationReason
  rw [if_neg (not_not.mpr hcode), hmapping]
  simp only [bind_eq_ok, Except.ok.injEq, exists_eq_left', mappingCounts, hreference, htarget,
    requireCounts_countsOf, pure_eq_ok, exists_const, true_and]
  rw [hvalues]
  by_cases hunique : (reference.uniqueKeys && target.uniqueKeys) = true
  · rw [if_pos (hviolations.mpr hunique), if_pos hunique]
    rfl
  · rw [if_neg (mt hviolations.mp hunique), if_neg hunique]
    rfl

theorem ownParameters_mappingError (finding : KeyMappingFinding) (contextIds : List Uuid) :
    OwnParameters (mappingErrorParameters finding contextIds) := by
  apply ownParameters_of_names
  unfold mappingErrorParameters keySummarySafeParameters parameter
  split <;>
  · simp only [List.map_cons, List.map_nil, List.cons_append, List.nil_append, List.append_nil]
    decide

/-- The state of an active cut can be stored. -/
theorem storable_activeCut (hnodup : (contextIds state.resources).Nodup) :
    Storable .failure state.activeCut := by
  have hreads : state.activeCut.stableReads ≠ .unknown →
      state.activeCut.contextIds.length = 2 := by
    intro hknown
    by_contra hlength
    exact hknown (if_pos (.inr hlength))
  exact {
    count_le := (List.length_filterMap_le _ _).trans state.resources_le
    distinct := hnodup
    ids_lt := state.ids_lt
    aligned := state.cut_contexts
    verified := fun h => hreads (by rw [h]; simp)
    asserted := fun h => ⟨rfl, hreads (by rw [h]; simp)⟩ }

/-- The counts of the keys are part of the reason that says they do not map. -/
theorem records_keyMapping (reference target : KeySummary) (metrics : ResultMetrics)
    (referenceFullScans targetFullScans : ℕ) :
    Records (failureFromKeyMapping reference target metrics referenceFullScans targetFullScans
      state : Except Refusal (AttemptFailure recordBytes Cut)) := by
  intro failure h
  obtain ⟨appended, happended, h⟩ := bind_eq_ok.mp h
  have happended := appendParameters_eq_ok happended
  rw [pure_eq_ok] at h
  subst h
  refine ⟨_, structuralContractViolationReason reference target, {
    isOwn := ownParameters_mappingError _ _
    parameters := by
      rw [happended]
      rfl
    storable := storable_activeCut
    reads_contract := ?_
    additional_eq := rfl
    verdict_eq := rfl
    coverage_eq := by
      rw [happended]
      rfl
    evidence_eq := rfl
    notCleanup := by
      rw [happended]
      rfl
    notLossy := fun h => by cases h
    notCompleted := by simp }⟩
  intro stored hcode hnodup hmem
  refine mappingContractReason_of_mem (by rw [hcode, happended]; rfl) hnodup fun item hitem => ?_
  exact hmem item (List.mem_append_left _ (List.mem_append_left _ hitem))

theorem records_stop (stop : AttemptStop) :
    Records (stop.failure state usage : Except Refusal (AttemptFailure recordBytes Cut)) := by
  cases stop with
  | early outcome shown =>
    intro failure h
    have hstatus : outcome.executionStatus ≠ .completed := by
      rcases outcome.agrees with ⟨hcode, -⟩ | ⟨hcode, -⟩ <;> simp [hcode]
    exact ⟨_, _, recorded_failureWithoutEvidence hstatus (stopReason_early shown)
      ((List.length_filterMap_le _ _).trans state.resources_le) state.ids_lt (by simp) h⟩
  | keyMapping reference target metrics referenceFullScans targetFullScans =>
    exact records_keyMapping reference target metrics referenceFullScans targetFullScans
  | raised error greenplumEndpointDirection clickhouseEndpointDirection =>
    exact records_failureFromAttemptError error greenplumEndpointDirection
      clickhouseEndpointDirection

end Stops

/-! ## The reasons of a cleanup -/

theorem StopReason.cleanupReason {reason : ResultReason} (h : StopReason reason) :
    CleanupReason reason where
  isOwn := h.isOwn
  notLossy := h.notLossy
  primary_iff := by
    rw [h.notCleanup]
    refine ⟨fun hfalse => absurd hfalse (by simp), fun heq => ?_⟩
    rw [heq] at h
    exact absurd h.notCleanup (by decide)

theorem cleanupReason_contextLoss : CleanupReason contextLossReason where
  isOwn := ownParameters_of_names (by decide)
  notLossy := by decide
  primary_iff := ⟨fun _ => rfl, fun _ => by decide⟩

theorem stopReason_confirmationLoss (early : EarlyExecutionOutcome) (direction : PlanDirection) :
    StopReason (clickhouseConfirmationLossReason early direction) where
  isOwn := by
    apply ownParameters_of_names
    simp only [clickhouseConfirmationLossReason, reasonOf, parameter, List.map_cons, List.map_nil]
    decide
  notLossy := by simp [clickhouseConfirmationLossReason, reasonOf]
  notCleanup := by
    rw [cleanupIsPrimary, decide_eq_false_iff_not]
    rintro ⟨_, hoperation⟩
    cases direction with
    | reference =>
      have hname : clickhouseConfirmationOperation .reference ≠ "close_read_context" := by decide
      exact hname hoperation
    | target =>
      have hname : clickhouseConfirmationOperation .target ≠ "close_read_context" := by decide
      exact hname hoperation

theorem stopReason_cleanupUncertainty (error : SourceError) :
    StopReason (clickhouseCleanupUncertaintyReason error) where
  isOwn := by
    apply ownParameters_of_names
    simp only [clickhouseCleanupUncertaintyReason, SourceError.typeParameter, reasonOf, parameter,
      List.map_cons, List.map_nil]
    decide
  notLossy := by simp [clickhouseCleanupUncertaintyReason, reasonOf]
  notCleanup := by simp [cleanupIsPrimary, clickhouseCleanupUncertaintyReason, reasonOf]

theorem cleanupReason_of_closing {direction : PlanDirection} {error : CloseError}
    {reasons : ResultReason × List ResultReason}
    (h : closingReasons direction error = .ok reasons) : CleanupReason reasons.1 := by
  unfold closingReasons at h
  split at h
  · cases h
    exact (stopReason_confirmationLoss _ direction).cleanupReason
  · repeat' split at h
    all_goals cases h
    · exact (stopReason_cleanupUncertainty _).cleanupReason
    · exact (stopReason_clickhouseUnconfirmedCancellation _ direction).cleanupReason
    · exact (stopReason_sourceError (by simp) (by simp)).cleanupReason
    · exact (stopReason_sourceError (by simp) (by simp)).cleanupReason
    · exact (stopReason_sourceError (by simp) (by simp)).cleanupReason
    · exact (stopReason_sourceError (by simp) (by simp)).cleanupReason
    · exact cleanupReason_contextLoss

theorem cleanupReason_of_resource {resource : ClosingResource} {failure : CleanupFailure}
    (h : closeResource resource = .ok (some failure)) : CleanupReason failure.reason := by
  unfold closeResource at h
  split at h
  · obtain ⟨reasons, hreasons, h⟩ := bind_eq_ok.mp h
    cases h
    exact cleanupReason_of_closing hreasons
  · split at h
    · cases h
      exact cleanupReason_contextLoss
    · cases h

theorem cleanupReason_combineFrom {failures : List CleanupFailure}
    {current : Option CleanupFailure} {combined : CleanupFailure}
    (hcurrent : ∀ failure ∈ current, CleanupReason failure.reason)
    (hfailures : ∀ failure ∈ failures, CleanupReason failure.reason)
    (h : combineFrom current failures = some combined) : CleanupReason combined.reason := by
  induction failures generalizing current with
  | nil => exact hcurrent combined h
  | cons failure failures ih =>
    refine ih ?_ (fun other hother => hfailures other (List.mem_cons_of_mem _ hother)) h
    intro next hnext
    cases hnext
    have hcandidate := hfailures failure List.mem_cons_self
    unfold combineCleanupFailures
    split
    · exact hcandidate
    · split
      · exact hcandidate
      · rename_i current _
        exact hcurrent current rfl

/-- Closing the contexts leaves a reason of a cleanup. -/
theorem cleanupReason_of_close {closing : List ClosingResource} {cleanup : CleanupFailure}
    (h : closeAttemptResources closing = .ok (some cleanup)) : CleanupReason cleanup.reason := by
  obtain ⟨⟨failure, persistenceError⟩, hclosed, h⟩ := bind_eq_ok.mp h
  dsimp only at h
  split at h
  · cases h
  · cases h
    obtain ⟨failures, hproduced, hfolded⟩ := closeResources_folds hclosed
    refine cleanupReason_combineFrom (by simp) (fun failure hfailure => ?_) hfolded.symm
    obtain ⟨resource, hresource⟩ := hproduced failure hfailure
    exact cleanupReason_of_resource hresource

/-! ## Replays -/

/-- What the readback can say of a cleanup failure. -/
def Replayed (stopped : Bool) (cleanup : CleanupFailure) : Prop :=
  cleanup.reasons = [contextLossReason] ∨
    stopped = false ∧ cleanup.reason ≠ contextLossReason ∧
      cleanup.additionalReasons = [contextLossReason]

/-- Closing the contexts of an attempt left nothing that its primary reason does not
say: no failure, or one plain context loss. -/
def AttemptEnd.Replays : AttemptEnd Cut → Prop
  | .refused _ _ _ => True
  | .executed stop _ _ _ closing =>
    ∀ cleanup, closeAttemptResources closing = .ok (some cleanup) → Replayed stop.isSome cleanup

/-- The outcome of a published failure is read back with its status and reason. -/
theorem readback_of_published {runId attemptId operationId : Uuid}
    {failure : AttemptFailure recordBytes Cut} {outcome : AttemptOutcomeRecord}
    (hstatus : failure.executionStatus ≠ .completed)
    (hpublished : publishTerminalFailure runId attemptId operationId failure = .ok outcome) :
    outcome.reason = failure.reason ∧
    executionStatusOfOutcome outcome.status = .ok failure.executionStatus := by
  unfold publishTerminalFailure at hpublished
  split at hpublished
  · rename_i hincomplete
    rw [bind_unit_eq_ok, pure_eq_ok] at hpublished
    obtain ⟨-, rfl⟩ := hpublished
    exact ⟨rfl, by rw [hincomplete]; rfl⟩
  · rename_i hincomplete
    rw [bind_unit_eq_ok, pure_eq_ok] at hpublished
    obtain ⟨-, rfl⟩ := hpublished
    have herror : failure.executionStatus = .error := by
      cases hcase : failure.executionStatus with
      | completed => exact absurd hcase hstatus
      | incomplete => exact absurd hcase hincomplete
      | error => rfl
    exact ⟨rfl, by rw [herror]; rfl⟩

/-- What is read back is the first result exactly under the condition. -/
theorem ReadsBack.iff {store : StoredJson} {check : CheckedScope}
    {runId attemptId operationId : Uuid} {failure : AttemptFailure recordBytes Cut}
    {condition : Prop} {outcome : AttemptOutcomeRecord} {result : RunResult}
    (h : ReadsBack failure condition)
    (hpublished : publishTerminalFailure runId attemptId operationId failure = .ok outcome)
    (hfirst : runResultFromAttemptOutcome check outcome failure = .ok result) :
    runResultFromTerminalReadback store check outcome = .ok result ↔ condition := by
  obtain ⟨rebuilt, hrebuilt, hsame, hcondition⟩ := h.rebuilds
  obtain ⟨hreason, hexecution⟩ := readback_of_published h.notCompleted hpublished
  have hmapping : safeParameterMapping failure.reason = .ok failure.reason.safeParameters :=
    if_pos h.names_nodup
  rw [← hcondition, ← hsame.result_iff hfirst]
  unfold runResultFromTerminalReadback
  rw [hexecution, hreason, hmapping]
  simp [bind_eq_ok, h.notArtifact, hrebuilt]

theorem secondary_contextIds {failure combined : AttemptFailure recordBytes Cut}
    {cleanup : CleanupFailure}
    (h : failureWithSecondaryContextLoss failure cleanup = .ok combined) :
    combined.contextIds = failure.contextIds := by
  unfold failureWithSecondaryContextLoss at h
  split at h
  · obtain ⟨measured, -, h⟩ := bind_eq_ok.mp h
    obtain ⟨primary, -, h⟩ := bind_eq_ok.mp h
    obtain ⟨secondary, -, h⟩ := bind_eq_ok.mp h
    cases h
    rfl
  · obtain ⟨bare, -, h⟩ := bind_eq_ok.mp h
    obtain ⟨primary, -, h⟩ := bind_eq_ok.mp h
    cases h
    rfl

/-- A stopped attempt is read back when closing its contexts left one plain context
loss or nothing. -/
theorem readsBack_stopped {stop failure : AttemptFailure recordBytes Cut} {own : List SafeParameter}
    {contract : Option ResultReason} {state : AttemptState Cut} {final : SourceUsageSnapshot}
    {cleanup : Option CleanupFailure} (hstop : Recorded stop own contract)
    (hcleanup : ∀ lost ∈ cleanup, CleanupReason lost.reason)
    (hnodup : failure.contextIds.Nodup)
    (h : failureAfterCleanup (some stop) state final cleanup = .ok (some failure)) :
    ReadsBack failure (∀ lost ∈ cleanup, lost.reasons = [contextLossReason]) := by
  cases cleanup with
  | none =>
    cases h
    exact ((hstop.finalUsage hnodup final).readback hnodup).congr (by simp)
  | some lost =>
    obtain ⟨combined, hcombined, h⟩ := bind_eq_ok.mp h
    cases h
    have hids : stop.contextIds.Nodup := by
      rw [secondary_contextIds hcombined] at hnodup
      exact hnodup
    exact ((hstop.finalUsage hids final).secondary hids (hcleanup lost rfl) hcombined).congr
      (by simp)

/-- A failure without a partial artifact is read back exactly when closing the contexts
left nothing that its primary reason does not say. -/
theorem readsBack_attempt {attempt : AttemptEnd Cut} {failure : AttemptFailure recordBytes Cut}
    (hfailure : attempt.failure = .ok (some failure)) (hnodup : failure.contextIds.Nodup) :
    ReadsBack failure attempt.Replays := by
  cases attempt with
  | refused early shown usage =>
    obtain ⟨stopped, hstopped, hfailure⟩ := bind_eq_ok.mp hfailure
    cases hfailure
    have hstatus : early.executionStatus ≠ .completed := by
      rcases early.agrees with ⟨hcode, -⟩ | ⟨hcode, -⟩ <;> simp [hcode]
    have hrecorded := recorded_failureWithoutEvidence hstatus (stopReason_early shown)
      (by simp) (by simp) (by simp) hstopped
    exact hrecorded.readback hnodup
  | executed stop state stopped final closing =>
    cases hclosed : closeAttemptResources closing with
    | error error =>
      simp [AttemptEnd.failure, hclosed] at hfailure
    | ok cleanup =>
      have hreasons : ∀ lost ∈ cleanup, CleanupReason lost.reason := by
        intro lost hlost
        cases hlost
        exact cleanupReason_of_close hclosed
      simp only [AttemptEnd.failure, hclosed] at hfailure
      cases stop with
      | some stop =>
        obtain ⟨base, hbase, hfailure⟩ := bind_eq_ok.mp hfailure
        obtain ⟨own, contract, hrecorded⟩ := records_stop stop base hbase
        refine (readsBack_stopped hrecorded hreasons hnodup hfailure).congr ?_
        simp [AttemptEnd.Replays, Replayed, hclosed]
      | none =>
        cases cleanup with
        | none => simp [failureAfterCleanup] at hfailure
        | some lost =>
          obtain ⟨combined, hcombined, hfailure⟩ := bind_eq_ok.mp hfailure
          cases hfailure
          have hids : (contextIds state.resources).Nodup := by
            obtain ⟨measured, -, hcombined⟩ := bind_eq_ok.mp hcombined
            obtain ⟨primary, -, hcombined⟩ := bind_eq_ok.mp hcombined
            cases hcombined
            exact hnodup
          refine (readback_cleanupAlone hids (hreasons lost rfl) hcombined).congr ?_
          simp [AttemptEnd.Replays, Replayed, hclosed]

/-- A failure without a partial artifact is replayed with the result of its first
execution exactly when closing the contexts left nothing, or one context that was
lost without another reason. -/
theorem terminal_replay_iff (store : StoredJson) (check : CheckedScope)
    (runId attemptId operationId : Uuid) (attempt : AttemptEnd Cut)
    (failure : AttemptFailure recordBytes Cut) (outcome : AttemptOutcomeRecord)
    (result : RunResult) (hfailure : attempt.failure = .ok (some failure))
    (hpublished : publishTerminalFailure runId attemptId operationId failure = .ok outcome)
    (hfirst : runResultFromAttemptOutcome check outcome failure = .ok result) :
    runResultFromTerminalReadback store check outcome = .ok result ↔ attempt.Replays :=
  (readsBack_attempt hfailure (runResult_reasons hfirst).2).iff hpublished hfirst

/-! Both sources are open when a query fails; then closing them fails. -/

/-- Two PostgreSQL contexts, recorded before a cut was. -/
def bothOpened : AttemptState Empty where
  resources := [{ clickHouse := none, persisted := some 1 },
    { clickHouse := none, persisted := some 2 }]
  persistedCut := none
  resources_le := Nat.le_add_left 2 0
  ids_lt := by simp [contextIds]
  cut_contexts := by simp

/-- A context whose connection cannot be closed. -/
def unclosedResource (direction : PlanDirection) : ClosingResource where
  direction := direction
  context := .other true (.error (.of .postgresCloseError "close failed"))
  recordEnd := none

def noUsage : SourceUsageSnapshot where
  queries := 0
  fetchedRecords := 0
  resultBytes := 0
  referenceFullScans := 0
  targetFullScans := 0
  elapsedMilliseconds := 0

/-- A failed query, after which the contexts of the directions cannot be closed. -/
def lostAfterQuery (directions : List PlanDirection) : AttemptEnd Empty :=
  .executed (some (.raised (.of .postgresQueryError "query failed") none none)) bothOpened noUsage
    noUsage (directions.map unclosedResource)

/-- A store without the results of artifacts. -/
def noArtifacts : StoredJson where
  finding := fun _ => .error (applicationStateError "no finding")
  coverage := fun _ => .error (applicationStateError "no coverage")
  evidence := fun _ => .error (applicationStateError "no evidence")
  metrics := fun _ => .error (applicationStateError "no metrics")

def ordersCheck : CheckedScope where
  checkId := "orders"
  contractDigest := RunResult.zeroDigest
  scopeDigest := RunResult.zeroDigest

/-- One lost context is replayed. -/
theorem terminal_replay_one_lost :
    ∃ (failure : AttemptFailure (fun _ : DifferenceRecord Empty => 0) Empty)
      (outcome : AttemptOutcomeRecord) (result : RunResult),
      (lostAfterQuery [.target]).failure = .ok (some failure) ∧
      publishTerminalFailure 3 4 5 failure = .ok outcome ∧
      runResultFromAttemptOutcome ordersCheck outcome failure = .ok result ∧
      runResultFromTerminalReadback noArtifacts ordersCheck outcome = .ok result := by
  have hfirst : ∃ (failure : AttemptFailure (fun _ : DifferenceRecord Empty => 0) Empty)
      (outcome : AttemptOutcomeRecord) (result : RunResult),
      (lostAfterQuery [.target]).failure = .ok (some failure) ∧
      publishTerminalFailure 3 4 5 failure = .ok outcome ∧
      runResultFromAttemptOutcome ordersCheck outcome failure = .ok result :=
    ⟨_, _, _, rfl, rfl, rfl⟩
  obtain ⟨failure, outcome, result, hfailure, hpublished, hfirst⟩ := hfirst
  refine ⟨failure, outcome, result, hfailure, hpublished, hfirst, ?_⟩
  refine (terminal_replay_iff noArtifacts ordersCheck 3 4 5 (lostAfterQuery [.target]) failure
    outcome result hfailure hpublished hfirst).mpr ?_
  intro cleanup hcleanup
  cases hcleanup
  exact .inl rfl

/-- Of two lost contexts the replay reports one. -/
theorem terminal_replay_both_lost :
    ∃ (failure : AttemptFailure (fun _ : DifferenceRecord Empty => 0) Empty)
      (outcome : AttemptOutcomeRecord) (result : RunResult),
      (lostAfterQuery [.reference, .target]).failure = .ok (some failure) ∧
      publishTerminalFailure 3 4 5 failure = .ok outcome ∧
      runResultFromAttemptOutcome ordersCheck outcome failure = .ok result ∧
      runResultFromTerminalReadback noArtifacts ordersCheck outcome ≠ .ok result := by
  have hfirst : ∃ (failure : AttemptFailure (fun _ : DifferenceRecord Empty => 0) Empty)
      (outcome : AttemptOutcomeRecord) (result : RunResult),
      (lostAfterQuery [.reference, .target]).failure = .ok (some failure) ∧
      publishTerminalFailure 3 4 5 failure = .ok outcome ∧
      runResultFromAttemptOutcome ordersCheck outcome failure = .ok result :=
    ⟨_, _, _, rfl, rfl, rfl⟩
  obtain ⟨failure, outcome, result, hfailure, hpublished, hfirst⟩ := hfirst
  refine ⟨failure, outcome, result, hfailure, hpublished, hfirst, ?_⟩
  have hreads := readsBack_attempt hfailure (runResult_reasons hfirst).2
  intro hreplayed
  rcases (hreads.iff hpublished hfirst).mp hreplayed _ rfl with hreasons | ⟨hstopped, -⟩
  · exact absurd (List.cons.inj hreasons).2 (List.cons_ne_nil _ _)
  · cases hstopped

end ForensicData.Application
