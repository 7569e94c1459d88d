/-
ForensicData.Result.ExitCodes — what an exit code says about a valid result.

The checks of `validateOutcome` are read off one group at a time, and combined
for each exit code. `exit_code_sound` puts them together: success and mismatch
are reported only on their evidence, and nothing counted, unresolved or reasoned
about is reported as success.
-/
import ForensicData.Result.RunResult

namespace ForensicData.Result

/-! ## Totals -/

/-- A total that counts at least one row. -/
def Total.IsPositive (total : Total) : Prop := ∃ count, total.value = some count ∧ count ≠ 0

theorem Total.isPositive_iff (total : Total) :
    total.IsPositive ↔
      (RunResult.isPositiveProven total || RunResult.isPositiveInferred total) = true := by
  cases total <;> simp [IsPositive, Total.value, RunResult.isPositiveProven,
    RunResult.isPositiveInferred]

theorem Total.not_isPositive_of_zero {total : Total} (h : total.value = some 0) :
    ¬ total.IsPositive := by
  intro ⟨count, hcount, hne⟩
  rw [h, Option.some.injEq] at hcount
  exact hne hcount.symm

namespace RunResult

/-- A row difference is counted, exactly, inferred or as a lower bound. -/
def CountsDifference (result : RunResult) : Prop :=
  ∃ total ∈ result.totals.differences, total.IsPositive

theorem countsDifference_iff (result : RunResult) :
    result.CountsDifference ↔ result.hasPositiveClassifiedDifference = true := by
  simp only [CountsDifference, Total.isPositive_iff, hasPositiveClassifiedDifference,
    hasPositiveProvenDifference, hasPositiveInferredDifference, Bool.or_eq_true,
    List.any_eq_true, and_or_left, exists_or]

/-! ## Exit codes and states -/

theorem exitCode_match_iff (result : RunResult) :
    exitCodeForResult result = .match ↔
      result.executionStatus = .completed ∧ result.verdict ≠ .mismatch := by
  cases hstatus : result.executionStatus <;> cases hverdict : result.verdict <;>
    simp [exitCodeForResult, hstatus, hverdict]

theorem exitCode_mismatch_iff (result : RunResult) :
    exitCodeForResult result = .mismatch ↔
      result.executionStatus = .completed ∧ result.verdict = .mismatch := by
  cases hstatus : result.executionStatus <;> cases hverdict : result.verdict <;>
    simp [exitCodeForResult, hstatus, hverdict]

/-! ## What a valid result has passed -/

section

variable {result : RunResult}

theorem validateOutcome_eq_ok :
    validateOutcome result = .ok () ↔
      validateExecutionState result = .ok () ∧ validatePersistenceReasonCodes result = .ok () ∧
        validateGuarantee result = .ok () ∧ validateTotals result = .ok () ∧
        validateReasonSeverity result = .ok () := by
  simp only [validateOutcome, bind_unit_eq_ok]

/-- A completed run has decided, left nothing open and been stored. -/
theorem completed_of_validateExecutionState (h : validateExecutionState result = .ok ())
    (hcompleted : result.executionStatus = .completed) :
    (result.verdict = .match ∨ result.verdict = .mismatch) ∧
      result.comparisonCoverage.unresolvedSegments = 0 ∧
      result.persistence.state = .confirmed := by
  simp only [validateExecutionState, refuseValue, bind_unit_eq_ok, refuseIf_eq_ok, hcompleted,
    true_and, Decidable.not_not] at h
  obtain ⟨hverdict, hunresolved, hpersistence, -, -⟩ := h
  exact ⟨by simpa [validVerdicts] using hverdict, hunresolved, hpersistence⟩

/-- A guarantee that is established rests on known reads of a whole frontier. -/
theorem established_of_validateGuarantee (h : validateGuarantee result = .ok ())
    (hestablished : result.guarantee ≠ .notEstablished) :
    result.consistency.readContextIds ≠ [] ∧ result.consistency.stableReads ≠ .unknown ∧
      result.consistency.cutAlignment ≠ .unknown ∧
      result.comparisonCoverage.totalPartitions ≠ 0 ∧
      result.comparisonCoverage.coveredPartitions = result.comparisonCoverage.totalPartitions := by
  rw [validateGuarantee, if_neg hestablished] at h
  simp only [refuseValue, bind_unit_eq_ok, refuseIf_eq_ok, not_or, Decidable.not_not] at h
  obtain ⟨hcontexts, ⟨hstable, hcut⟩, htotal, ⟨hcovered, -, -⟩, -⟩ := h
  exact ⟨hcontexts, hstable, hcut, htotal, hcovered⟩

theorem established_of_completed (h : validateGuarantee result = .ok ())
    (hcompleted : result.executionStatus = .completed) : result.guarantee ≠ .notEstablished := by
  intro hguarantee
  rw [validateGuarantee, if_pos hguarantee, refuseValue, refuseIf_eq_ok, not_or] at h
  exact h.1 hcompleted

theorem zero_of_validateMatchTotals (h : validateMatchTotals result = .ok ())
    (hmatch : result.verdict = .match) :
    ∀ total ∈ result.totals.differences, total.value = some 0 := by
  rw [validateMatchTotals, if_neg (not_not_intro hmatch)] at h
  simp only [refuseValue, bind_unit_eq_ok, refuseIf_eq_ok] at h
  intro total hmem
  by_contra hvalue
  exact h.2.1 ⟨total, hmem, hvalue⟩

/-- A mismatch verdict stands exactly on a proven mismatch. -/
theorem mismatch_iff_of_validateTotals (h : validateTotals result = .ok ()) :
    result.verdict = .mismatch ↔ result.hasProvenMismatch = true := by
  simp only [validateTotals, refuseValue, bind_unit_eq_ok, refuseIf_eq_ok] at h
  obtain ⟨-, -, -, -, -, -, hproven, hmismatch, -⟩ := h
  constructor
  · intro hverdict
    by_contra hnot
    exact hmismatch ⟨hverdict, by simpa using hnot⟩
  · intro hproof
    by_contra hverdict
    exact hproven ⟨hproof, hverdict⟩

theorem matchTotals_of_validateTotals (h : validateTotals result = .ok ()) :
    validateMatchTotals result = .ok () := by
  simp only [validateTotals, bind_unit_eq_ok] at h
  exact h.2.1

theorem noReasons_of_validateReasonSeverity (h : validateReasonSeverity result = .ok ())
    (hmatch : result.verdict = .match) : result.allReasonCodes = [] := by
  rw [validateReasonSeverity, bind_unit_eq_ok, if_pos hmatch, refuseValue, refuseIf_eq_ok,
    Decidable.not_not] at h
  exact h.2

end

/-! ## Soundness -/

/-- What success stands on. -/
structure ShowsMatch (result : RunResult) : Prop where
  differences : ∀ total ∈ result.totals.differences, total.value = some 0
  covered : result.comparisonCoverage.coveredPartitions = result.comparisonCoverage.totalPartitions
  partitions : 0 < result.comparisonCoverage.totalPartitions
  unresolved : result.comparisonCoverage.unresolvedSegments = 0
  contexts : result.consistency.readContextIds ≠ []
  stableReads : result.consistency.stableReads ≠ .unknown
  cutAlignment : result.consistency.cutAlignment ≠ .unknown
  reasons : result.allReasonCodes = []
  persistence : result.persistence.state = .confirmed

/-- What a reported mismatch stands on. -/
structure ShowsMismatch (result : RunResult) : Prop where
  completed : result.executionStatus = .completed
  evidence : result.CountsDifference ∨ .dataMismatch ∈ result.allReasonCodes ∨
    .contractViolation ∈ result.allReasonCodes

theorem showsMatch_of_exitCode {result : RunResult} (h : validateOutcome result = .ok ())
    (hexit : exitCodeForResult result = .match) : ShowsMatch result := by
  obtain ⟨hexecution, -, hguarantee, htotals, hseverity⟩ := validateOutcome_eq_ok.mp h
  obtain ⟨hcompleted, hverdict⟩ := (exitCode_match_iff result).mp hexit
  obtain ⟨hdecided, hunresolved, hpersistence⟩ :=
    completed_of_validateExecutionState hexecution hcompleted
  have hmatch : result.verdict = .match := hdecided.resolve_right hverdict
  obtain ⟨hcontexts, hstable, hcut, hpartitions, hcovered⟩ :=
    established_of_validateGuarantee hguarantee (established_of_completed hguarantee hcompleted)
  exact {
    differences := zero_of_validateMatchTotals (matchTotals_of_validateTotals htotals) hmatch
    covered := hcovered
    partitions := Nat.pos_of_ne_zero hpartitions
    unresolved := hunresolved
    contexts := hcontexts
    stableReads := hstable
    cutAlignment := hcut
    reasons := noReasons_of_validateReasonSeverity hseverity hmatch
    persistence := hpersistence }

theorem showsMismatch_of_exitCode {result : RunResult} (h : validateOutcome result = .ok ())
    (hexit : exitCodeForResult result = .mismatch) : ShowsMismatch result := by
  obtain ⟨-, -, -, htotals, -⟩ := validateOutcome_eq_ok.mp h
  obtain ⟨hcompleted, hverdict⟩ := (exitCode_mismatch_iff result).mp hexit
  have hproven := (mismatch_iff_of_validateTotals htotals).mp hverdict
  rw [hasProvenMismatch, Bool.or_eq_true, Bool.or_eq_true, ← countsDifference_iff,
    hasDataMismatchReason, hasContractViolation, decide_eq_true_iff, decide_eq_true_iff,
    or_assoc] at hproven
  exact ⟨hcompleted, hproven⟩

theorem exit_code_sound (result : RunResult) (h : validateOutcome result = .ok ()) :
    (exitCodeForResult result = .match → ShowsMatch result) ∧
      (exitCodeForResult result = .mismatch → ShowsMismatch result) ∧
      (result.CountsDifference ∨ result.comparisonCoverage.unresolvedSegments ≠ 0 ∨
          result.allReasonCodes ≠ [] →
        (exitCodeForResult result).value ≠ 0) := by
  refine ⟨showsMatch_of_exitCode h, showsMismatch_of_exitCode h, fun hfailure hzero => ?_⟩
  have hexit : exitCodeForResult result = .match := by
    cases hcode : exitCodeForResult result <;> simp [hcode, ExitCode.value] at hzero ⊢
  have hmatch := showsMatch_of_exitCode h hexit
  rcases hfailure with ⟨total, hmem, hpositive⟩ | hunresolved | hreasons
  · exact Total.not_isPositive_of_zero (hmatch.differences total hmem) hpositive
  · exact hunresolved hmatch.unresolved
  · exact hreasons hmatch.reasons

def zeroDigest : Sha256Hex :=
  ⟨"0000000000000000000000000000000000000000000000000000000000000000", by decide +kernel⟩

/-- One exact leaf with three matched rows. -/
def threeMatchedRows : RunResult where
  runId := 1
  attemptId := 2
  checkId := "orders"
  contractDigest := zeroDigest
  scopeDigest := zeroDigest
  executionStatus := .completed
  verdict := .match
  consistency := ⟨.verified, .asserted, [3, 4], by decide⟩
  guarantee := .exact
  comparisonCoverage := .complete 0 1 (by decide)
  totals := ⟨.exact 3, .exact 0, .exact 0, .exact 0⟩
  evidenceCoverage := ⟨0, 0, 0, 0, Nat.le_add_left 0 0, Nat.le_add_left 0 0⟩
  metrics := ⟨2, 6, 48, 1, 0, 5⟩
  reasons := []
  persistence := ⟨.confirmed, some 5, none, by decide⟩

/-- The three matched rows are reported as success, with all that stands behind it. -/
theorem three_matched_rows_sound :
    (exitCodeForResult threeMatchedRows).value = 0 ∧ ShowsMatch threeMatchedRows :=
  have h := exit_code_sound threeMatchedRows (by decide +kernel)
  ⟨by decide, h.1 (by decide)⟩

end RunResult

end ForensicData.Result
