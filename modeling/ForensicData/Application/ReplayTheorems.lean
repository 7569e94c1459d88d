/-
ForensicData.Application.ReplayTheorems — what is read back of a published reason.

The parameters of a published reason are those of the reason itself, followed by
the state and the metrics of the attempt. The names never clash, so each part is
read back (`read_failureTail`, `read_cleanupTail`), and a failure is rebuilt but
for its secondary reasons (`ReadsBack`).
-/
import ForensicData.Application.Replay

namespace ForensicData.Application

open ForensicData.Comparison
open ForensicData.Result

variable {Body Cut : Type} {recordBytes : DifferenceRecord Body → ℕ}

/-! ## Names -/

/-- The name of a parameter that is appended to a reason. -/
def isReserved (name : String) : Bool :=
  name.toList.take 8 = "failure_".toList ∨ name.toList.take 8 = "cleanup_".toList

/-- The parameters that a reason has of its own. -/
structure OwnParameters (parameters : List SafeParameter) : Prop where
  nodup : (parameters.map (·.name)).Nodup
  fresh : ∀ item ∈ parameters, isReserved item.name = false

/-- Different names, none of them reserved. -/
def ownNames (names : List String) : Bool :=
  decide names.Nodup && names.all fun name => !isReserved name

theorem ownParameters_of_names {parameters : List SafeParameter}
    (h : ownNames (parameters.map (·.name)) = true) : OwnParameters parameters := by
  rw [ownNames, Bool.and_eq_true, decide_eq_true_eq, List.all_eq_true] at h
  refine ⟨h.1, fun item hitem => ?_⟩
  simpa using h.2 item.name (List.mem_map_of_mem hitem)

/-- The names of a state with a number of contexts. -/
def stateNames (kind : StateKind) (count : ℕ) : List String :=
  [s!"{kind.stem}_context_count", s!"{kind.stem}_stable_reads", s!"{kind.stem}_cut_aligned"]
  ++ (List.range count).map fun index => s!"{kind.stem}_context_{index}"

theorem names_stateParameters (kind : StateKind) (state : ConsistencyState) :
    (stateParameters kind state).map (·.name) = stateNames kind state.contextIds.length := by
  have hcontexts : (state.contextIds.zipIdx.map fun item =>
        s!"{kind.stem}_context_{item.2}")
      = (List.range state.contextIds.length).map fun index => s!"{kind.stem}_context_{index}" := by
    rw [List.range_eq_range', ← List.zipIdx_map_snd 0 state.contextIds,
      List.map_map]
    rfl
  simp only [stateParameters, stateNames, List.map_append, List.map_map]
  exact congrArg _ hcontexts

/-- The names of the metrics of a failure. -/
def failureMetricNames : List String :=
  ["failure_metrics_queries", "failure_metrics_fetched_records", "failure_metrics_result_bytes",
   "failure_metrics_fingerprint_nodes", "failure_metrics_coordinator_peak_bytes",
   "failure_metrics_elapsed_milliseconds"]

theorem names_failureMetricsParameters (metrics : ResultMetrics) :
    (failureMetricsParameters metrics).map (·.name) = failureMetricNames := rfl

/-- The names that are appended to the reason of a failure. -/
def failureTailNames (count : ℕ) : List String := stateNames .failure count ++ failureMetricNames

/-- The names that are appended to the primary reason after a cleanup failure. -/
def cleanupTailNames (count : ℕ) : List String :=
  failureMetricNames ++ "cleanup_context_lost" :: stateNames .cleanup count

/-- Reserved names, each once. -/
def TailNames (names : List String) : Prop :=
  names.Nodup ∧ ∀ name ∈ names, isReserved name = true

instance (names : List String) : Decidable (TailNames names) :=
  inferInstanceAs (Decidable (_ ∧ _))

theorem tailNames_failure {count : ℕ} (h : count ≤ 2) :
    TailNames (failureTailNames count) ∧ "cleanup_context_lost" ∉ failureTailNames count
      ∧ "cleanup_artifact" ∉ failureTailNames count := by
  interval_cases count <;> decide

theorem tailNames_cleanup {count : ℕ} (h : count ≤ 2) :
    TailNames (cleanupTailNames count) ∧ "failure_context_count" ∉ cleanupTailNames count
      ∧ "cleanup_artifact" ∉ cleanupTailNames count := by
  interval_cases count <;> decide

/-- Nothing that is appended has a name of the reason itself. -/
theorem OwnParameters.nodup_append {own rest : List SafeParameter} (hown : OwnParameters own)
    (hrest : TailNames (rest.map (·.name))) : ((own ++ rest).map (·.name)).Nodup := by
  rw [List.map_append, List.nodup_append]
  refine ⟨hown.nodup, hrest.1, fun name hname other hother heq => ?_⟩
  obtain ⟨item, hitem, rfl⟩ := List.mem_map.mp hname
  have hreserved := hrest.2 other hother
  rw [← heq, hown.fresh item hitem] at hreserved
  cases hreserved

/-- A reserved name that was not appended is not found. -/
theorem OwnParameters.valueOf_append {own rest : List SafeParameter} (hown : OwnParameters own)
    {name : String} (hreserved : isReserved name = true) (hrest : name ∉ rest.map (·.name)) :
    valueOf (own ++ rest) name = none := by
  rw [valueOf_eq_none, List.map_append, List.mem_append, not_or]
  refine ⟨fun hname => ?_, hrest⟩
  obtain ⟨item, hitem, rfl⟩ := List.mem_map.mp hname
  rw [hown.fresh item hitem] at hreserved
  cases hreserved

/-! ## Reading a published reason back -/

section Shapes

variable {own : List SafeParameter} {state : ConsistencyState} {metrics : ResultMetrics}
  {reason : ResultReason}

/-- What is appended to the reason of a failure. -/
def failureTail (state : ConsistencyState) (metrics : ResultMetrics) : List SafeParameter :=
  failureConsistencyParameters state ++ failureMetricsParameters metrics

/-- What is appended to the primary reason after a cleanup failure. -/
def cleanupTail (state : ConsistencyState) (metrics : ResultMetrics) : List SafeParameter :=
  failureMetricsParameters metrics ++ cleanupStateParameters state

theorem names_failureTail : (failureTail state metrics).map (·.name)
    = failureTailNames state.contextIds.length := by
  rw [failureTail, List.map_append, failureConsistencyParameters, names_stateParameters,
    names_failureMetricsParameters, failureTailNames]

theorem names_cleanupTail : (cleanupTail state metrics).map (·.name)
    = cleanupTailNames state.contextIds.length := by
  rw [cleanupTail, List.map_append, cleanupStateParameters, List.map_cons, names_stateParameters,
    names_failureMetricsParameters, cleanupTailNames]
  rfl

/-- What is read of the reason of a failure: its state and its metrics. -/
theorem read_failureTail (hown : OwnParameters own) (hstate : Storable .failure state)
    (h : reason.safeParameters = own ++ failureTail state metrics) :
    safeParameterMapping reason = .ok reason.safeParameters ∧
    valueOf reason.safeParameters "cleanup_artifact" = none ∧
    cleanupStateFromReason reason = .ok none ∧
    failureConsistencyFromReason reason = .ok (some state) ∧
    failureMetricsFromReason reason = .ok (some metrics) := by
  obtain ⟨htail, hlost, hartifact⟩ := tailNames_failure hstate.count_le
  rw [← @names_failureTail state metrics] at htail hlost hartifact
  have hnodup : (reason.safeParameters.map (·.name)).Nodup := by
    rw [h]
    exact hown.nodup_append htail
  have hmapping : safeParameterMapping reason = .ok reason.safeParameters := if_pos hnodup
  have hmem : ∀ item ∈ failureTail state metrics, item ∈ reason.safeParameters := by
    intro item hitem
    rw [h]
    exact List.mem_append_right _ hitem
  refine ⟨hmapping, ?_, ?_, ?_, ?_⟩
  · rw [h]
    exact hown.valueOf_append (by decide) hartifact
  · have hnone : valueOf reason.safeParameters "cleanup_context_lost" = none := by
      rw [h]
      exact hown.valueOf_append (by decide) hlost
    rw [cleanupStateFromReason, hmapping]
    simp [bind_eq_ok, hnone]
  · have hstored := storedConsistencyState_of_mem hnodup hstate fun item hitem =>
      hmem item (List.mem_append_left _ hitem)
    have hcount : valueOf reason.safeParameters "failure_context_count"
        = some (decimalText state.contextIds.length) :=
      valueOf_of_parameter hnodup (hmem _
        (List.mem_append_left _ (List.mem_append_left _ List.mem_cons_self)))
    rw [failureConsistencyFromReason, hmapping]
    simp [bind_eq_ok, hcount, hstored]
  · have hstored := storedMetrics_of_mem hnodup fun item hitem =>
      hmem item (List.mem_append_right _ hitem)
    have hqueries : valueOf reason.safeParameters "failure_metrics_queries"
        = some (decimalText metrics.queries) :=
      valueOf_of_parameter hnodup (hmem _ (by
        simp [failureTail, failureMetricsParameters, metricsParameters]))
    rw [failureMetricsFromReason, hmapping]
    simp [bind_eq_ok, hqueries, hstored]

/-- What is read of a primary reason after a cleanup failure: the state of the
cleanup and the metrics. -/
theorem read_cleanupTail (hown : OwnParameters own) (hstate : Storable .cleanup state)
    (h : reason.safeParameters = own ++ cleanupTail state metrics) :
    safeParameterMapping reason = .ok reason.safeParameters ∧
    valueOf reason.safeParameters "cleanup_artifact" = none ∧
    cleanupStateFromReason reason = .ok (some state) ∧
    failureConsistencyFromReason reason = .ok none ∧
    failureMetricsFromReason reason = .ok (some metrics) := by
  obtain ⟨htail, hcount, hartifact⟩ := tailNames_cleanup hstate.count_le
  rw [← @names_cleanupTail state metrics] at htail hcount hartifact
  have hnodup : (reason.safeParameters.map (·.name)).Nodup := by
    rw [h]
    exact hown.nodup_append htail
  have hmapping : safeParameterMapping reason = .ok reason.safeParameters := if_pos hnodup
  have hmem : ∀ item ∈ cleanupTail state metrics, item ∈ reason.safeParameters := by
    intro item hitem
    rw [h]
    exact List.mem_append_right _ hitem
  refine ⟨hmapping, ?_, ?_, ?_, ?_⟩
  · rw [h]
    exact hown.valueOf_append (by decide) hartifact
  · have hstored := storedConsistencyState_of_mem hnodup hstate fun item hitem =>
      hmem item (List.mem_append_right _ (List.mem_cons_of_mem _ hitem))
    have hlost : valueOf reason.safeParameters "cleanup_context_lost" = some "1" :=
      valueOf_of_parameter hnodup (hmem _ (by simp [cleanupTail, cleanupStateParameters]))
    rw [cleanupStateFromReason, hmapping]
    simp [bind_eq_ok, hlost, hstored]
  · have hnone : valueOf reason.safeParameters "failure_context_count" = none := by
      rw [h]
      exact hown.valueOf_append (by decide) hcount
    rw [failureConsistencyFromReason, hmapping]
    simp [bind_eq_ok, hnone]
  · have hstored := storedMetrics_of_mem hnodup fun item hitem =>
      hmem item (List.mem_append_left _ hitem)
    have hqueries : valueOf reason.safeParameters "failure_metrics_queries"
        = some (decimalText metrics.queries) :=
      valueOf_of_parameter hnodup (hmem _ (by
        simp [cleanupTail, failureMetricsParameters, metricsParameters]))
    rw [failureMetricsFromReason, hmapping]
    simp [bind_eq_ok, hqueries, hstored]

end Shapes

/-! ## Appending and dropping -/

theorem appendParameters_eq_ok {reason appended : ResultReason} {parameters : List SafeParameter}
    {message : String} (h : appendParameters reason parameters message = .ok appended) :
    appended = { reason with safeParameters := reason.safeParameters ++ parameters } := by
  unfold appendParameters at h
  split at h
  · cases h
  · cases h
    rfl

/-- Dropping the names of a part leaves what stands before and after it. -/
theorem filter_names_eq {front dropped back : List SafeParameter}
    (h : ((front ++ dropped ++ back).map (·.name)).Nodup) :
    (front ++ dropped ++ back).filter (fun item => decide (item.name ∉ dropped.map (·.name)))
      = front ++ back := by
  rw [List.map_append, List.map_append, List.nodup_append, List.nodup_append] at h
  obtain ⟨⟨-, -, hfront⟩, -, hback⟩ := h
  have hkept : ∀ part : List SafeParameter,
      (∀ item ∈ part, item.name ∉ dropped.map (·.name)) →
      part.filter (fun item => decide (item.name ∉ dropped.map (·.name))) = part :=
    fun part hpart => List.filter_eq_self.mpr fun item hitem => decide_eq_true (hpart item hitem)
  have hgone : dropped.filter (fun item => decide (item.name ∉ dropped.map (·.name))) = [] :=
    List.filter_eq_nil_iff.mpr fun item hitem => by
      simpa using ⟨item, hitem, rfl⟩
  rw [List.filter_append, List.filter_append, hgone, List.append_nil, hkept front, hkept back]
  · intro item hitem hname
    exact hback _ (List.mem_append_right _ hname) _ (List.mem_map_of_mem hitem) rfl
  · intro item hitem hname
    exact hfront _ (List.mem_map_of_mem hitem) _ hname rfl

/-! ## Failures and their stored reasons -/

/-- `_ConsistencyState` of a failure. -/
def AttemptFailure.state (failure : AttemptFailure recordBytes Cut) : ConsistencyState where
  contextIds := failure.contextIds
  stableReads := failure.stableReads
  cutAligned := failure.cutAligned

/-- The primary reason of a failure before the cleanup shows its state and its
metrics; what the failure says beside them follows from the parameters `own` of the
reason itself. -/
structure Recorded (failure : AttemptFailure recordBytes Cut) (own : List SafeParameter)
    (contract : Option ResultReason) : Prop where
  isOwn : OwnParameters own
  parameters : failure.reason.safeParameters = own ++ failureTail failure.state failure.metrics
  storable : failure.contextIds.Nodup → Storable .failure failure.state
  reads_contract : ∀ stored : ResultReason, stored.code = failure.reason.code →
    (stored.safeParameters.map (·.name)).Nodup → (∀ item ∈ own, item ∈ stored.safeParameters) →
    mappingContractReason stored = .ok contract
  additional_eq : failure.additionalReasons = contract.toList
  verdict_eq : failure.verdict = if contract.isSome = true then .mismatch else .inconclusive
  coverage_eq : failure.comparisonCoverage
    = if failure.reason.code = .lossyTransport then mappingFailureCoverage
      else emptyComparisonCoverage
  evidence_eq : failure.evidenceCoverage = emptyEvidenceCoverage
  notCleanup : cleanupIsPrimary failure.reason = false
  notLossy : failure.executionStatus = .incomplete →
    contract = none ∧ failure.reason.code ≠ .lossyTransport
  notCompleted : failure.executionStatus ≠ .completed

/-- Two failures whose results differ at most in the secondary reasons. -/
structure SameOutcome {Body' Cut' : Type} {recordBytes' : DifferenceRecord Body' → ℕ}
    (failure : AttemptFailure recordBytes Cut) (other : AttemptFailure recordBytes' Cut') :
    Prop where
  status_eq : other.executionStatus = failure.executionStatus
  verdict_eq : other.verdict = failure.verdict
  state_eq : other.state = failure.state
  coverage_eq : other.comparisonCoverage = failure.comparisonCoverage
  evidence_eq : other.evidenceCoverage = failure.evidenceCoverage
  metrics_eq : other.metrics = failure.metrics

theorem runResult_reasons {check : CheckedScope} {outcome : AttemptOutcomeRecord}
    {failure : AttemptFailure recordBytes Cut} {result : RunResult}
    (h : runResultFromAttemptOutcome check outcome failure = .ok result) :
    result.reasons = outcome.reason :: failure.additionalReasons ∧ failure.contextIds.Nodup := by
  obtain ⟨consistency, hconsistency, h⟩ := bind_eq_ok.mp h
  rw [bind_unit_eq_ok, pure_eq_ok] at h
  obtain ⟨-, rfl⟩ := h
  refine ⟨rfl, ?_⟩
  unfold ConsistencyStatus.make at hconsistency
  split at hconsistency
  · assumption
  · cases hconsistency

/-- A failure whose result is read back from its reason exactly under the condition. -/
structure ReadsBack (failure : AttemptFailure recordBytes Cut) (condition : Prop) : Prop where
  notCompleted : failure.executionStatus ≠ .completed
  names_nodup : (failure.reason.safeParameters.map (·.name)).Nodup
  notArtifact : valueOf failure.reason.safeParameters "cleanup_artifact" = none
  rebuilds : ∃ rebuilt : AttemptFailure (fun _ : DifferenceRecord Empty => 0) Empty,
    failureFromStoredReason failure.executionStatus failure.reason = .ok rebuilt ∧
    SameOutcome failure rebuilt ∧
    (rebuilt.additionalReasons = failure.additionalReasons ↔ condition)

theorem ReadsBack.congr {failure : AttemptFailure recordBytes Cut} {condition other : Prop}
    (h : ReadsBack failure condition) (heq : condition ↔ other) : ReadsBack failure other := by
  rwa [← propext heq]

/-- Two failures that differ in the secondary reasons at most give one result exactly
when these are the same. -/
theorem SameOutcome.result_iff {Body' Cut' : Type} {recordBytes' : DifferenceRecord Body' → ℕ}
    {failure : AttemptFailure recordBytes Cut} {other : AttemptFailure recordBytes' Cut'}
    (hsame : SameOutcome failure other) {check : CheckedScope} {outcome : AttemptOutcomeRecord}
    {result : RunResult} (h : runResultFromAttemptOutcome check outcome failure = .ok result) :
    runResultFromAttemptOutcome check outcome other = .ok result ↔
      other.additionalReasons = failure.additionalReasons := by
  have hreasons := (runResult_reasons h).1
  constructor
  · intro hother
    have heq := (runResult_reasons hother).1
    rw [hreasons, List.cons.injEq] at heq
    exact heq.2.symm
  · intro hadditional
    have hids : other.contextIds = failure.contextIds := congrArg (·.contextIds) hsame.state_eq
    have hreads : other.stableReads = failure.stableReads := congrArg (·.stableReads) hsame.state_eq
    have hcut : other.cutAligned = failure.cutAligned := congrArg (·.cutAligned) hsame.state_eq
    rw [← h]
    unfold runResultFromAttemptOutcome
    rw [hsame.status_eq, hsame.verdict_eq, hids, hreads, hcut, hsame.coverage_eq,
      hsame.evidence_eq, hsame.metrics_eq, hadditional]

/-! ## Without a cleanup failure -/

section Readback

variable {failure : AttemptFailure recordBytes Cut} {own : List SafeParameter}
  {contract : Option ResultReason}

theorem Recorded.nodup_names (h : Recorded failure own contract)
    (hnodup : failure.contextIds.Nodup) :
    (failure.reason.safeParameters.map (·.name)).Nodup := by
  have hcount : failure.state.contextIds.length ≤ 2 := (h.storable hnodup).count_le
  rw [h.parameters]
  refine h.isOwn.nodup_append ?_
  rw [names_failureTail]
  exact (tailNames_failure hcount).1

/-- Replacing the metrics keeps what is recorded. -/
theorem Recorded.finalUsage (h : Recorded failure own contract)
    (hnodup : failure.contextIds.Nodup) (usage : SourceUsageSnapshot) :
    Recorded (failureWithFinalSourceUsage failure usage) own contract := by
  have hparameters : (failureWithFinalSourceUsage failure usage).reason.safeParameters
      = own ++ failureTail failure.state (failureWithFinalSourceUsage failure usage).metrics := by
    have hdropped : (dropParameters failure.reason failureMetricNames).safeParameters
        = own ++ failureConsistencyParameters failure.state := by
      have hall := h.nodup_names hnodup
      rw [h.parameters, failureTail, ← List.append_assoc, ← List.append_nil
        (own ++ failureConsistencyParameters failure.state ++ _)] at hall
      have hfilter := filter_names_eq hall
      rw [List.append_nil, List.append_nil, names_failureMetricsParameters, List.append_assoc]
        at hfilter
      rw [dropParameters, h.parameters]
      exact hfilter
    show (dropParameters failure.reason failureMetricNames).safeParameters ++ _ = _
    rw [hdropped, failureTail, List.append_assoc]
    rfl
  exact {
    isOwn := h.isOwn
    parameters := hparameters
    storable := h.storable
    reads_contract := h.reads_contract
    additional_eq := h.additional_eq
    verdict_eq := h.verdict_eq
    coverage_eq := h.coverage_eq
    evidence_eq := h.evidence_eq
    notCleanup := h.notCleanup
    notLossy := h.notLossy
    notCompleted := h.notCompleted }

/-- The failure that is rebuilt from what is read of a reason. -/
theorem failureFromStoredReason_spec {status : ExecutionStatus} {reason : ResultReason}
    {cleanupState failureState : Option ConsistencyState} {state : ConsistencyState}
    {metrics : ResultMetrics} (hcleanup : cleanupStateFromReason reason = .ok cleanupState)
    (hcontract : mappingContractReason reason = .ok contract)
    (hmetrics : failureMetricsFromReason reason = .ok (some metrics))
    (hfailure : failureConsistencyFromReason reason = .ok failureState)
    (hone : ¬ (failureState.isSome = true ∧ cleanupState.isSome = true))
    (hstate : storedState reason cleanupState failureState = .ok state) :
    ∃ rebuilt : AttemptFailure (fun _ : DifferenceRecord Empty => 0) Empty,
      failureFromStoredReason status reason = .ok rebuilt ∧
      rebuilt.executionStatus = status ∧
      rebuilt.verdict = (if contract.isSome = true then .mismatch else .inconclusive) ∧
      rebuilt.state = state ∧
      rebuilt.comparisonCoverage = (if reason.code = .lossyTransport then mappingFailureCoverage
        else emptyComparisonCoverage) ∧
      rebuilt.evidenceCoverage = emptyEvidenceCoverage ∧ rebuilt.metrics = metrics ∧
      rebuilt.additionalReasons = contract.toList ++
        (if cleanupState = none ∨ cleanupIsPrimary reason = true then []
          else [contextLossReason]) := by
  unfold failureFromStoredReason
  simp only [hcleanup, hcontract, hmetrics, hfailure, hstate, bind_eq_ok, Except.ok.injEq,
    exists_eq_left', Option.elim_some, refuseIf_eq_ok, exists_const, pure_eq_ok]
  exact ⟨_, ⟨hone, rfl⟩, rfl, rfl, rfl, rfl, rfl, rfl, rfl⟩

/-- Without a cleanup failure the failure is rebuilt with all its reasons. -/
theorem Recorded.readback (h : Recorded failure own contract)
    (hnodup : failure.contextIds.Nodup) : ReadsBack failure True := by
  have hnames := h.nodup_names hnodup
  obtain ⟨-, hartifact, hcleanup, hstate, hmetrics⟩ :=
    read_failureTail h.isOwn (h.storable hnodup) h.parameters
  have hcontract := h.reads_contract failure.reason rfl hnames fun item hitem => by
    rw [h.parameters]
    exact List.mem_append_left _ hitem
  obtain ⟨rebuilt, hrebuilt, hstatus, hverdict, hsame, hcoverage, hevidence, hmetric, hreasons⟩ :=
    failureFromStoredReason_spec hcleanup hcontract hmetrics hstate (by simp) rfl
  refine ⟨h.notCompleted, hnames, hartifact, rebuilt, hrebuilt, ?_, ?_⟩
  · exact ⟨hstatus, hverdict.trans h.verdict_eq.symm, hsame, hcoverage.trans h.coverage_eq.symm,
      hevidence.trans h.evidence_eq.symm, hmetric⟩
  · simp [hreasons, h.additional_eq]

end Readback

/-! ## After a cleanup failure -/

/-- A reason that closing a context gives. -/
structure CleanupReason (reason : ResultReason) : Prop where
  isOwn : OwnParameters reason.safeParameters
  notLossy : reason.code ≠ .lossyTransport
  primary_iff : cleanupIsPrimary reason = true ↔ reason = contextLossReason

theorem mappingContractReason_of_ne {reason : ResultReason} (h : reason.code ≠ .lossyTransport) :
    mappingContractReason reason = .ok none := if_pos h

theorem nodup_cleanupTail {own : List SafeParameter} {state : ConsistencyState}
    {metrics : ResultMetrics} (hown : OwnParameters own) (hcount : state.contextIds.length ≤ 2) :
    ((own ++ cleanupTail state metrics).map (·.name)).Nodup := by
  refine hown.nodup_append ?_
  rw [names_cleanupTail]
  exact (tailNames_cleanup hcount).1

/-- After a cleanup failure one plain context loss is added, unless the cleanup is the
primary reason. -/
theorem readback_cleanup (failure : AttemptFailure recordBytes Cut) {own : List SafeParameter}
    {contract : Option ResultReason} (hown : OwnParameters own)
    (hparameters : failure.reason.safeParameters
      = own ++ cleanupTail failure.state failure.metrics)
    (hstate : Storable .cleanup failure.state)
    (hcontract : mappingContractReason failure.reason = .ok contract)
    (hverdict : failure.verdict = if contract.isSome = true then .mismatch else .inconclusive)
    (hcoverage : failure.comparisonCoverage
      = if failure.reason.code = .lossyTransport then mappingFailureCoverage
        else emptyComparisonCoverage)
    (hevidence : failure.evidenceCoverage = emptyEvidenceCoverage)
    (hstatus : failure.executionStatus ≠ .completed) :
    ReadsBack failure (contract.toList ++
        (if cleanupIsPrimary failure.reason = true then [] else [contextLossReason])
      = failure.additionalReasons) := by
  obtain ⟨-, hartifact, hcleanup, hfailure, hmetrics⟩ :=
    read_cleanupTail hown hstate hparameters
  obtain ⟨rebuilt, hrebuilt, hrebuiltStatus, hrebuiltVerdict, hsame, hrebuiltCoverage,
    hrebuiltEvidence, hmetric, hreasons⟩ :=
    failureFromStoredReason_spec hcleanup hcontract hmetrics hfailure (by simp) rfl
  have hnames : (failure.reason.safeParameters.map (·.name)).Nodup := by
    rw [hparameters]
    exact nodup_cleanupTail hown hstate.count_le
  refine ⟨hstatus, hnames, hartifact, rebuilt, hrebuilt, ?_, ?_⟩
  · exact ⟨hrebuiltStatus, hrebuiltVerdict.trans hverdict.symm, hsame,
      hrebuiltCoverage.trans hcoverage.symm, hrebuiltEvidence.trans hevidence.symm, hmetric⟩
  · rw [hreasons]
    simp

section Secondary

variable {failure combined : AttemptFailure recordBytes Cut} {own : List SafeParameter}
  {contract : Option ResultReason} {cleanup : CleanupFailure}

/-- Reads that are only verified or unknown can be stored for a cleanup. -/
theorem Storable.degraded {state : ConsistencyState} (h : Storable .failure state) :
    Storable .cleanup { state with stableReads := degradedStableReads state.stableReads } where
  count_le := h.count_le
  distinct := h.distinct
  ids_lt := h.ids_lt
  aligned := h.aligned
  verified := by
    intro hreads
    apply h.verified
    by_contra hnot
    simp [degradedStableReads, hnot] at hreads
  asserted := by
    intro hreads
    simp only [degradedStableReads] at hreads
    split at hreads <;> cases hreads

/-- The reason of a failure without its state keeps its metrics. -/
theorem Recorded.without (h : Recorded failure own contract) (hnodup : failure.contextIds.Nodup) :
    reasonWithoutFailureConsistency failure.reason = .ok { failure.reason with
      safeParameters := own ++ failureMetricsParameters failure.metrics } := by
  obtain ⟨-, -, -, hstate, -⟩ := read_failureTail h.isOwn (h.storable hnodup) h.parameters
  have hfilter := h.nodup_names hnodup
  rw [h.parameters, failureTail, ← List.append_assoc] at hfilter
  rw [reasonWithoutFailureConsistency, hstate]
  simp only [bind_eq_ok, Except.ok.injEq, exists_eq_left', pure_eq_ok, dropParameters]
  rw [h.parameters, failureTail, ← List.append_assoc, filter_names_eq hfilter]

/-- What a cleanup failure leaves of a failure. -/
structure Combined (failure combined : AttemptFailure recordBytes Cut) (cleanup : CleanupFailure)
    (primary : ResultReason) (additional : List ResultReason) : Prop where
  status_eq : combined.executionStatus = combinedExecutionStatus failure.executionStatus cleanup
  verdict_eq : combined.verdict = failure.verdict
  state_eq : combined.state
    = { failure.state with stableReads := degradedStableReads failure.state.stableReads }
  coverage_eq : combined.comparisonCoverage = failure.comparisonCoverage
  evidence_eq : combined.evidenceCoverage = failure.evidenceCoverage
  metrics_eq : combined.metrics = failure.metrics
  reason_eq : combined.reason = { primary with
    safeParameters := primary.safeParameters ++ cleanupStateParameters combined.state }
  additional_eq : combined.additionalReasons = additional

theorem Combined.notCompleted {primary : ResultReason} {additional : List ResultReason}
    (h : Combined failure combined cleanup primary additional) :
    combined.executionStatus ≠ .completed := by
  rw [h.status_eq, combinedExecutionStatus]
  split <;> simp

/-- A graver cleanup failure takes the place of the primary reason. -/
theorem Recorded.escalated (h : Recorded failure own contract)
    (hnodup : failure.contextIds.Nodup) (hescalates : escalates failure cleanup = true)
    (hcombined : failureWithSecondaryContextLoss failure cleanup = .ok combined) :
    Combined failure combined cleanup
      { cleanup.reason with
        safeParameters := cleanup.reason.safeParameters
          ++ failureMetricsParameters failure.metrics }
      ({ failure.reason with
          safeParameters := own ++ failureMetricsParameters failure.metrics }
        :: (failure.additionalReasons ++ cleanup.additionalReasons)) := by
  unfold failureWithSecondaryContextLoss at hcombined
  rw [if_pos hescalates, h.without hnodup] at hcombined
  obtain ⟨measured, hmeasured, hcombined⟩ := bind_eq_ok.mp hcombined
  obtain ⟨primary, hprimary, hcombined⟩ := bind_eq_ok.mp hcombined
  simp only [bind_eq_ok, Except.ok.injEq, exists_eq_left', pure_eq_ok] at hcombined
  rw [appendParameters_eq_ok hmeasured] at hprimary
  subst hcombined
  exact ⟨rfl, rfl, rfl, rfl, rfl, rfl, appendParameters_eq_ok hprimary, rfl⟩

/-- Any other cleanup failure stands after the reasons of the failure. -/
theorem Recorded.kept (h : Recorded failure own contract)
    (hnodup : failure.contextIds.Nodup) (hescalates : ¬ escalates failure cleanup = true)
    (hcombined : failureWithSecondaryContextLoss failure cleanup = .ok combined) :
    Combined failure combined cleanup
      { failure.reason with safeParameters := own ++ failureMetricsParameters failure.metrics }
      (failure.additionalReasons ++ cleanup.reasons) := by
  unfold failureWithSecondaryContextLoss at hcombined
  rw [if_neg hescalates, h.without hnodup] at hcombined
  simp only [bind_eq_ok, Except.ok.injEq, exists_eq_left', pure_eq_ok] at hcombined
  obtain ⟨primary, hprimary, rfl⟩ := hcombined
  exact ⟨rfl, rfl, rfl, rfl, rfl, rfl, appendParameters_eq_ok hprimary, rfl⟩

/-- The results of a failure and of its replay are the same after a cleanup failure
exactly when this is one plain context loss. -/
theorem Recorded.secondary (h : Recorded failure own contract)
    (hnodup : failure.contextIds.Nodup) (hreason : CleanupReason cleanup.reason)
    (hcombined : failureWithSecondaryContextLoss failure cleanup = .ok combined) :
    ReadsBack combined (cleanup.reasons = [contextLossReason]) := by
  have hdegraded := (h.storable hnodup).degraded
  by_cases hescalates : escalates failure cleanup = true
  · -- the cleanup is graver: its reason is the primary one, the failure's is not stored
    have hfields := h.escalated hnodup hescalates hcombined
    simp only [escalates, decide_eq_true_eq] at hescalates
    obtain ⟨hincomplete, herror⟩ := hescalates
    obtain ⟨rfl, hcode⟩ := h.notLossy hincomplete
    have hcombinedCode : combined.reason.code = cleanup.reason.code := by rw [hfields.reason_eq]
    have hnotPrimary : cleanupIsPrimary combined.reason = false := by
      have hlost : cleanup.reason.code ≠ .snapshotLost := by
        intro hlost
        rw [executionStatusForFailureReason, hlost] at herror
        cases herror
      simp [cleanupIsPrimary, hcombinedCode, hlost]
    have hreads := readback_cleanup combined hreason.isOwn
      (by rw [hfields.reason_eq, cleanupTail, hfields.metrics_eq, List.append_assoc])
      (by rw [hfields.state_eq]; exact hdegraded)
      (mappingContractReason_of_ne (by rw [hcombinedCode]; exact hreason.notLossy))
      (hfields.verdict_eq.trans h.verdict_eq)
      (by rw [hfields.coverage_eq, h.coverage_eq, if_neg hcode, hcombinedCode,
        if_neg hreason.notLossy])
      (hfields.evidence_eq.trans h.evidence_eq) hfields.notCompleted
    rw [hnotPrimary, hfields.additional_eq] at hreads
    refine hreads.congr ?_
    rw [CleanupFailure.reasons]
    constructor
    · intro heq
      have hparameters := congrArg ResultReason.safeParameters (List.cons.inj heq).1
      simp [contextLossReason, reasonOf, failureMetricsParameters, metricsParameters]
        at hparameters
    · intro heq
      rw [(List.cons.inj heq).1] at herror
      cases herror
  · have hfields := h.kept hnodup hescalates hcombined
    have hcombinedCode : combined.reason.code = failure.reason.code := by rw [hfields.reason_eq]
    have hparameters : combined.reason.safeParameters
        = own ++ cleanupTail combined.state combined.metrics := by
      rw [hfields.reason_eq, cleanupTail, hfields.metrics_eq, List.append_assoc]
    have hnotPrimary : cleanupIsPrimary combined.reason = false := by
      rw [← h.notCleanup, hfields.reason_eq, cleanupIsPrimary, cleanupIsPrimary]
    have hstate : Storable .cleanup combined.state := by
      rw [hfields.state_eq]
      exact hdegraded
    have hcontract : mappingContractReason combined.reason = .ok contract := by
      apply h.reads_contract combined.reason hcombinedCode
      · rw [hparameters]
        exact nodup_cleanupTail h.isOwn hstate.count_le
      · intro item hitem
        rw [hparameters]
        exact List.mem_append_left _ hitem
    have hreads := readback_cleanup combined h.isOwn hparameters hstate hcontract
      (hfields.verdict_eq.trans h.verdict_eq)
      (by rw [hfields.coverage_eq, h.coverage_eq, hcombinedCode])
      (hfields.evidence_eq.trans h.evidence_eq) hfields.notCompleted
    rw [hnotPrimary, hfields.additional_eq, h.additional_eq] at hreads
    refine hreads.congr ?_
    simp [eq_comm]

end Secondary

/-- The results of a cleanup failure alone and of its replay are the same exactly when
one plain context loss is all of it or all that comes after another reason. -/
theorem readback_cleanupAlone {state : AttemptState Cut} {metrics : ResultMetrics}
    {combined : AttemptFailure recordBytes Cut} {cleanup : CleanupFailure}
    (hnodup : (contextIds state.resources).Nodup) (hreason : CleanupReason cleanup.reason)
    (hcombined : failureFromCleanupContextLoss cleanup (contextIds state.resources)
      state.persistedCut.isSome metrics = .ok combined) :
    ReadsBack combined (cleanup.reasons = [contextLossReason] ∨
      cleanup.reason ≠ contextLossReason ∧ cleanup.additionalReasons = [contextLossReason]) := by
  obtain ⟨measured, hmeasured, hcombined⟩ := bind_eq_ok.mp hcombined
  obtain ⟨primary, hprimary, hcombined⟩ := bind_eq_ok.mp hcombined
  rw [appendParameters_eq_ok hmeasured] at hprimary
  have hprimary := appendParameters_eq_ok hprimary
  rw [pure_eq_ok] at hcombined
  have hcombinedReason : combined.reason = primary := by rw [← hcombined]
  have hcode : combined.reason.code ≠ .lossyTransport := by
    rw [hcombinedReason, hprimary]
    exact hreason.notLossy
  have hprimaryReason : cleanupIsPrimary combined.reason = cleanupIsPrimary cleanup.reason := by
    rw [hcombinedReason, hprimary, cleanupIsPrimary, cleanupIsPrimary]
  have hstate : Storable .cleanup combined.state := by
    rw [← hcombined]
    exact {
      count_le := (List.length_filterMap_le _ _).trans state.resources_le
      distinct := hnodup
      ids_lt := state.ids_lt
      aligned := state.cut_contexts
      verified := fun hreads => by cases hreads
      asserted := fun hreads => by cases hreads }
  have hstatus : combined.executionStatus ≠ .completed := by
    rw [← hcombined]
    show executionStatusForCleanupFailure cleanup ≠ .completed
    unfold executionStatusForCleanupFailure
    split <;> simp
  have hadditional : combined.additionalReasons = cleanup.additionalReasons := by
    rw [← hcombined]
  have hreads := readback_cleanup combined hreason.isOwn
    (by rw [hcombinedReason, hprimary, ← hcombined, cleanupTail, List.append_assoc]; rfl)
    hstate (mappingContractReason_of_ne hcode) (by rw [← hcombined]; rfl)
    (by rw [if_neg hcode, ← hcombined]) (by rw [← hcombined]) hstatus
  rw [hprimaryReason, hadditional] at hreads
  refine hreads.congr ?_
  rw [CleanupFailure.reasons]
  by_cases hplain : cleanup.reason = contextLossReason
  · rw [if_pos (hreason.primary_iff.mpr hplain), hplain]
    simp
  · have hnot : cleanupIsPrimary cleanup.reason = false := by
      rw [Bool.eq_false_iff]
      exact fun htrue => hplain (hreason.primary_iff.mp htrue)
    have hlost : [contextLossReason] = cleanup.additionalReasons
        ↔ cleanup.additionalReasons = [contextLossReason] := eq_comm
    simpa [hnot, hplain] using hlost

end ForensicData.Application
