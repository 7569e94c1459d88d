/-
ForensicData.SourceBudget — the work a run may spend on its sources.

One ledger counts the queries, records, bytes and full scans of every attempt of
a run. A query is refused before it is counted; records and bytes are counted
when they arrive and refused afterwards. So the counters of queries and scans
never pass their bounds (`SourceUsage` carries that), and those of records and
bytes are within bounds whenever an operation succeeds.
-/
import ForensicData.Errors

namespace ForensicData

/-- `ExecutionBudgets`, without its concurrency and version fields. -/
structure ExecutionBudgets where
  maxQueries : ℕ
  maxFetchedRecords : ℕ
  maxApplicationResultBytes : ℕ
  maxEvidenceRows : ℕ
  maxEvidenceBytes : ℕ
  maxFingerprintNodes : ℕ
  maxCoordinatorMemoryBytes : ℕ
  maxDepth : ℕ
  maxFullScansPerSide : ℕ
  statementTimeoutMilliseconds : ℕ
  runTimeoutMilliseconds : ℕ
  maxAttempts : ℕ
  queries_pos : 0 < maxQueries
  fetched_pos : 0 < maxFetchedRecords
  result_pos : 0 < maxApplicationResultBytes
  nodes_pos : 0 < maxFingerprintNodes
  memory_pos : 0 < maxCoordinatorMemoryBytes
  statement_pos : 0 < statementTimeoutMilliseconds
  run_pos : 0 < runTimeoutMilliseconds
  attempts_pos : 0 < maxAttempts

/-- `PostgresSourceDirection`. -/
inductive Side where
  | reference
  | target
  deriving DecidableEq, Repr

variable {budgets : ExecutionBudgets}

/-- `_PostgresSourceUsage`. -/
structure SourceUsage (budgets : ExecutionBudgets) where
  queries : ℕ
  fetchedRecords : ℕ
  resultBytes : ℕ
  referenceFullScans : ℕ
  targetFullScans : ℕ
  queries_le : queries ≤ budgets.maxQueries
  reference_le : referenceFullScans ≤ budgets.maxFullScansPerSide
  target_le : targetFullScans ≤ budgets.maxFullScansPerSide

/-- `_PostgresSourceUsage(0, 0, 0, 0, 0)`. -/
def SourceUsage.zero (budgets : ExecutionBudgets) : SourceUsage budgets where
  queries := 0
  fetchedRecords := 0
  resultBytes := 0
  referenceFullScans := 0
  targetFullScans := 0
  queries_le := Nat.zero_le _
  reference_le := Nat.zero_le _
  target_le := Nat.zero_le _

/-- The records and bytes received so far fit the budgets. -/
def SourceUsage.ReceivedWithin (usage : SourceUsage budgets) : Prop :=
  usage.fetchedRecords ≤ budgets.maxFetchedRecords ∧
    usage.resultBytes ≤ budgets.maxApplicationResultBytes

/-- `PostgresSourceCapacitySnapshot`, without its deadline. -/
structure SourceCapacity where
  queries : ℕ
  fetchedRecords : ℕ
  resultBytes : ℕ
  referenceFullScans : ℕ
  targetFullScans : ℕ
  deriving DecidableEq, Repr

/-- `PostgresSourceBudgetLedger.remaining`: `max(0, maximum - used)` is the
subtraction of natural numbers. -/
def SourceUsage.remaining (usage : SourceUsage budgets) : SourceCapacity where
  queries := budgets.maxQueries - usage.queries
  fetchedRecords := budgets.maxFetchedRecords - usage.fetchedRecords
  resultBytes := budgets.maxApplicationResultBytes - usage.resultBytes
  referenceFullScans := budgets.maxFullScansPerSide - usage.referenceFullScans
  targetFullScans := budgets.maxFullScansPerSide - usage.targetFullScans

/-- `PostgresSourceUsageSnapshot`. -/
structure SourceUsageSnapshot where
  queries : ℕ
  fetchedRecords : ℕ
  resultBytes : ℕ
  referenceFullScans : ℕ
  targetFullScans : ℕ
  elapsedMilliseconds : ℕ
  deriving DecidableEq, Repr

/-- `PostgresSourceBudgetAttempt.snapshot`: what was used since the attempt
began. -/
def SourceUsage.since (baseline usage : SourceUsage budgets) (elapsedMilliseconds : ℕ) :
    SourceUsageSnapshot where
  queries := usage.queries - baseline.queries
  fetchedRecords := usage.fetchedRecords - baseline.fetchedRecords
  resultBytes := usage.resultBytes - baseline.resultBytes
  referenceFullScans := usage.referenceFullScans - baseline.referenceFullScans
  targetFullScans := usage.targetFullScans - baseline.targetFullScans
  elapsedMilliseconds := elapsedMilliseconds

/-- `_elapsed_milliseconds_since`. -/
def elapsedMillisecondsSince (startedNanoseconds nowNanoseconds : ℕ) : ℕ :=
  (nowNanoseconds - startedNanoseconds) / 1000000

/-! ## Charging the ledger -/

def budgetExceeded (message : String) : Refusal :=
  { error := .postgresSourceBudgetExceededError, message := message }

/-- `PostgresSourceBudgetLedger.dispatch_query` once its deadline is checked. -/
def SourceUsage.dispatchQuery (usage : SourceUsage budgets) (direction : Side) (fullScans : ℕ) :
    Except Refusal (SourceUsage budgets) :=
  if queries_lt : usage.queries < budgets.maxQueries then
    match direction with
    | .reference =>
      if scans : usage.referenceFullScans + fullScans ≤ budgets.maxFullScansPerSide then
        .ok { usage with queries := usage.queries + 1
                         referenceFullScans := usage.referenceFullScans + fullScans
                         queries_le := queries_lt
                         reference_le := scans }
      else .error (budgetExceeded
        "next reference source query exceeds immutable whole-run max_full_scans_per_side")
    | .target =>
      if scans : usage.targetFullScans + fullScans ≤ budgets.maxFullScansPerSide then
        .ok { usage with queries := usage.queries + 1
                         targetFullScans := usage.targetFullScans + fullScans
                         queries_le := queries_lt
                         target_le := scans }
      else .error (budgetExceeded
        "next target source query exceeds immutable whole-run max_full_scans_per_side")
  else .error (budgetExceeded "next source query exceeds immutable whole-run max_queries")

/-- The records and bytes of an operation, added whether or not they fit. -/
def SourceUsage.receive (usage : SourceUsage budgets) (records bytes : ℕ) : SourceUsage budgets :=
  { usage with fetchedRecords := usage.fetchedRecords + records
               resultBytes := usage.resultBytes + bytes }

/-- The checks of `consume_records` and `consume_observed_result_bytes` after the
counters moved; the second counts no record. -/
def SourceUsage.checkReceived (usage : SourceUsage budgets) (checkRecords : Bool) :
    Except Refusal Unit := do
  refuseIf (checkRecords = true ∧ usage.fetchedRecords > budgets.maxFetchedRecords)
    (budgetExceeded "source reads exceeded immutable whole-run max_fetched_records")
  refuseIf (usage.resultBytes > budgets.maxApplicationResultBytes)
    (budgetExceeded "source reads exceeded immutable whole-run max_application_result_bytes")

/-- A query that is let through is counted, and leaves the received work as it
was. -/
theorem SourceUsage.dispatchQuery_eq_ok {usage after : SourceUsage budgets} {direction : Side}
    {fullScans : ℕ} (h : usage.dispatchQuery direction fullScans = .ok after) :
    after.queries = usage.queries + 1 ∧ after.fetchedRecords = usage.fetchedRecords ∧
      after.resultBytes = usage.resultBytes := by
  unfold SourceUsage.dispatchQuery at h
  split at h
  · cases direction with
    | reference =>
      simp only at h
      split at h
      · rw [Except.ok.injEq] at h
        subst h
        exact ⟨rfl, rfl, rfl⟩
      · simp at h
    | target =>
      simp only at h
      split at h
      · rw [Except.ok.injEq] at h
        subst h
        exact ⟨rfl, rfl, rfl⟩
      · simp at h
  · simp at h

theorem SourceUsage.ReceivedWithin.dispatchQuery {usage after : SourceUsage budgets}
    {direction : Side} {fullScans : ℕ} (hwithin : usage.ReceivedWithin)
    (h : usage.dispatchQuery direction fullScans = .ok after) : after.ReceivedWithin := by
  obtain ⟨-, hrecords, hbytes⟩ := dispatchQuery_eq_ok h
  unfold ReceivedWithin at hwithin ⊢
  rw [hrecords, hbytes]
  exact hwithin

/-- Received work that passes the check fits the budgets: an operation that
counts no record cannot have added any. -/
theorem SourceUsage.ReceivedWithin.receive {usage : SourceUsage budgets} {records bytes : ℕ}
    {checkRecords : Bool} (hwithin : usage.ReceivedWithin)
    (hrecords : checkRecords = false → records = 0)
    (h : (usage.receive records bytes).checkReceived checkRecords = .ok ()) :
    (usage.receive records bytes).ReceivedWithin := by
  simp only [checkReceived, bind_unit_eq_ok, refuseIf_eq_ok, not_and, Nat.not_lt, gt_iff_lt] at h
  obtain ⟨hfetched, hbytes⟩ := h
  refine ⟨?_, hbytes⟩
  cases checkRecords with
  | true => exact hfetched rfl
  | false =>
    have := hwithin.1
    simpa [SourceUsage.receive, hrecords rfl] using this

/-- What an attempt used lies within what the run used. -/
theorem SourceUsage.since_le {baseline usage : SourceUsage budgets} {elapsed : ℕ} :
    (baseline.since usage elapsed).queries ≤ budgets.maxQueries ∧
      (baseline.since usage elapsed).fetchedRecords ≤ usage.fetchedRecords ∧
      (baseline.since usage elapsed).resultBytes ≤ usage.resultBytes ∧
      (baseline.since usage elapsed).referenceFullScans ≤ budgets.maxFullScansPerSide ∧
      (baseline.since usage elapsed).targetFullScans ≤ budgets.maxFullScansPerSide := by
  have hqueries := usage.queries_le
  have hreference := usage.reference_le
  have htarget := usage.target_le
  simp only [SourceUsage.since]
  omega

end ForensicData
