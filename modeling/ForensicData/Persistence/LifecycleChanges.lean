/-
ForensicData.Persistence.LifecycleChanges — what a lifecycle transaction can do
to the store.

A committed transaction claims a run, starts an attempt, acquires a read
context, or updates rows that are there (`LifecycleChange`). An update never
touches an attempt that has ended (`AttemptKept`); what it may do to a cut, to
the contexts of an attempt that it ends and to the selection of a run is said
by `Updates`.
-/
import ForensicData.Persistence.LifecycleTransactions

namespace ForensicData.Persistence

open ForensicData.Application (uuidText PlanDirection)
open ForensicData.Contracts (Adapter)
open ForensicData.Result

variable {evidence : LifecycleEvidence} {store after : LifecycleStore} {clock : Clock}

/-! ## Changes -/

/-- An attempt keeps its identity, and once ended it keeps everything. -/
structure AttemptKept (row changed : AttemptRow) : Prop where
  attemptId : changed.attemptId = row.attemptId
  runId : changed.runId = row.runId
  ordinal : changed.ordinal = row.ordinal
  ended : row.status ≠ .running → changed = row

/-- A context keeps its attempt, and is not activated again. -/
structure ContextKept (row changed : ReadContextRow) : Prop where
  runId : changed.runId = row.runId
  attemptId : changed.attemptId = row.attemptId
  active : changed.state = .active → row.state = .active

/-- How the rows of an update change. -/
structure Changes where
  run : LifecycleRun → LifecycleRun
  attempt : AttemptRow → AttemptRow
  context : ReadContextRow → ReadContextRow

def Changes.none : Changes := ⟨id, id, id⟩

/-- The selection of a run stays as it is, or it is made of a running attempt, which the
update ends under the operation of the selection. -/
def SelectionKept (changes : Changes) (store : LifecycleStore) (run : LifecycleRun) : Prop :=
  ((changes.run run).selectedTerminalAttemptId = run.selectedTerminalAttemptId ∧
      (changes.run run).terminalOperationId = run.terminalOperationId) ∨
    (run.selectedTerminalAttemptId = none ∧
      ∃ row ∈ store.attempts, row.runId = run.runId ∧ row.status = .running ∧
        (changes.run run).selectedTerminalAttemptId = some row.attemptId ∧
        (changes.attempt row).status ≠ .running ∧
        ∃ operationId, (changes.attempt row).endOperationId = some operationId ∧
          (changes.run run).terminalOperationId = some operationId)

/-- What an update does. -/
structure Updates (changes : Changes) (store after : LifecycleStore) : Prop where
  runs : after.runs = store.runs.map changes.run
  attempts : after.attempts = store.attempts.map changes.attempt
  contexts : after.contexts = store.contexts.map changes.context
  run_claim : ∀ run, (changes.run run).toRunClaim = run.toRunClaim
  run_cut : ∀ run ∈ store.runs, run.boundInputCutDigest ≠ none →
    (changes.run run).boundInputCutDigest = run.boundInputCutDigest
  attempt_kept : ∀ row, AttemptKept row (changes.attempt row)
  context_kept : ∀ row, ContextKept row (changes.context row)
  cut : ∀ run ∈ store.runs, ∀ row ∈ store.attempts, row.runId = run.runId →
    (changes.attempt row).inputCutDigest = row.inputCutDigest ∨
      (changes.attempt row).inputCutDigest = (changes.run run).boundInputCutDigest
  released : ∀ row ∈ store.attempts, row.status = .running →
    (changes.attempt row).status ≠ .running → ∀ context ∈ store.contexts,
      context.runId = row.runId → context.attemptId = row.attemptId →
        (changes.context context).state ≠ .active
  selection : ∀ run ∈ store.runs, SelectionKept changes store run

/-- What a committed transaction does. -/
inductive LifecycleChange (store after : LifecycleStore) : Prop where
  | claimed (row : LifecycleRun) (request : RunRequestDefinition)
      (fresh : ∀ run ∈ store.runs, run.runId ≠ row.runId)
      (payload : row.requestPayload = request.columns.payloadJson)
      (uncut : row.boundInputCutDigest = none)
      (unselected : row.selectedTerminalAttemptId = none)
      (runs : after.runs = store.runs ++ [row]) (attempts : after.attempts = store.attempts)
      (contexts : after.contexts = store.contexts)
  | started (run : LifecycleRun) (row : AttemptRow) (request : RunRequestDefinition)
      (mem : run ∈ store.runs) (runId : row.runId = run.runId)
      (payload : run.requestPayload = request.columns.payloadJson)
      (fresh : ∀ other ∈ store.attempts, other.attemptId ≠ row.attemptId)
      (unselected : run.selectedTerminalAttemptId = none)
      (idle : ∀ other ∈ store.attemptsOf run.runId, other.status ≠ .running)
      (budget : (store.attemptsOf run.runId).length < request.executionPolicy.maxAttempts)
      (ordinal : row.ordinal = (store.attemptsOf run.runId).length + 1)
      (status : row.status = .running) (uncut : row.inputCutDigest = none)
      (runs : after.runs = store.runs) (attempts : after.attempts = store.attempts ++ [row])
      (contexts : after.contexts = store.contexts)
  | acquired (context : ReadContextRow) (row : AttemptRow) (mem : row ∈ store.attempts)
      (status : row.status = .running) (attemptId : context.attemptId = row.attemptId)
      (runs : after.runs = store.runs) (attempts : after.attempts = store.attempts)
      (contexts : after.contexts = store.contexts ++ [context])
  | updated (changes : Changes) (updates : Updates changes store after)

theorem AttemptKept.refl (row : AttemptRow) : AttemptKept row row := ⟨rfl, rfl, rfl, fun _ => rfl⟩

theorem ContextKept.refl (row : ReadContextRow) : ContextKept row row := ⟨rfl, rfl, id⟩

/-- A store whose runs, attempts and contexts are those of another. -/
theorem LifecycleChange.same (runs : after.runs = store.runs)
    (attempts : after.attempts = store.attempts) (contexts : after.contexts = store.contexts) :
    LifecycleChange store after :=
  .updated .none
    { runs := by simp [runs, Changes.none]
      attempts := by simp [attempts, Changes.none]
      contexts := by simp [contexts, Changes.none]
      run_claim := fun _ => rfl
      run_cut := fun _ _ _ => rfl
      attempt_kept := AttemptKept.refl
      context_kept := ContextKept.refl
      cut := fun _ _ _ _ _ => .inl rfl
      released := fun _ _ hrunning hended => absurd hrunning hended
      selection := fun _ _ => .inl ⟨rfl, rfl⟩ }

theorem LifecycleChange.refl : LifecycleChange store store := .same rfl rfl rfl

/-! ## Locks and statements -/

theorem payload_of_claimedRunFromRow {expected : RunExpectation} {row : RunRow} {run : ClaimedRun}
    (h : claimedRunFromRow expected row = .ok run) :
    row.requestPayload = expected.request.payloadJson := by
  unfold claimedRunFromRow at h
  split at h
  · cases h
  · rename_i hmatches
    by_contra hdiffers
    exact hmatches (.inr fun hsame => hdiffers hsame.2.1)

theorem RequestedRun.expectation_request (run : RequestedRun) :
    run.expectation.request = run.request.columns := rfl

/-- A locked run is the caller's. -/
theorem lockRun_eq_ok {run : RequestedRun} {unknown : Refusal} {row : LifecycleRun}
    (h : lockRun run unknown store = .ok row) :
    store.selectRun run.runId = some row ∧ row ∈ store.runs ∧ row.runId = run.runId ∧
      row.requestPayload = run.request.columns.payloadJson := by
  unfold lockRun at h
  cases hselect : store.selectRun run.runId with
  | none =>
    rw [hselect] at h
    cases h
  | some found =>
    rw [hselect] at h
    obtain ⟨claimed, hclaimed, hpure⟩ := bind_eq_ok.mp h
    have hfound : found = row := pure_eq_ok.mp hpure
    subst hfound
    have hid := List.find?_some hselect
    have hpayload := payload_of_claimedRunFromRow hclaimed
    rw [RequestedRun.expectation_request] at hpayload
    exact ⟨rfl, List.mem_of_find?_eq_some hselect, of_decide_eq_true hid, hpayload⟩

theorem commitFenced_eq_ok {expiry : Instant} {operation : String} {committed : LifecycleStore}
    (h : commitFenced expiry operation clock after = .ok committed) : committed = after := by
  unfold commitFenced at h
  simp only [bind_unit_eq_ok, pure_eq_ok] at h
  exact h.2.symm

theorem updateAttempt_eq_ok {condition : AttemptRow → Prop} [DecidablePred condition]
    {change : AttemptRow → AttemptRow} {refusal : Refusal}
    (h : store.updateAttempt condition change refusal = .ok after) :
    (∃ row ∈ store.attempts, condition row) ∧ after = { store with
      attempts := store.attempts.map fun row => if condition row then change row else row } := by
  unfold LifecycleStore.updateAttempt at h
  simp only [bind_unit_eq_ok, refuseIf_eq_ok, not_not, pure_eq_ok] at h
  have hpos : 0 < store.attempts.countP condition := by omega
  simp only [List.countP_pos_iff, decide_eq_true_eq] at hpos
  exact ⟨hpos, h.2.symm⟩

theorem updateRun_eq_ok {condition : LifecycleRun → Prop} [DecidablePred condition]
    {change : LifecycleRun → LifecycleRun} {refusal : Refusal}
    (h : store.updateRun condition change refusal = .ok after) :
    after = { store with
      runs := store.runs.map fun row => if condition row then change row else row } := by
  unfold LifecycleStore.updateRun at h
  simp only [bind_unit_eq_ok, pure_eq_ok] at h
  exact h.2.symm

theorem updateContext_eq_ok {condition : ReadContextRow → Prop} [DecidablePred condition]
    {change : ReadContextRow → ReadContextRow} {refusal : Refusal}
    (h : store.updateContext condition change refusal = .ok after) :
    after = { store with
      contexts := store.contexts.map fun row => if condition row then change row else row } := by
  unfold LifecycleStore.updateContext at h
  simp only [bind_unit_eq_ok, pure_eq_ok] at h
  exact h.2.symm

/-! ## Claim and start -/

theorem claimOnce_change {expected : RunExpectation} {request : RunRequestDefinition}
    (hrequest : expected.request = request.columns)
    (h : claimOnce expected store = .ok after) : LifecycleChange store after := by
  unfold claimOnce at h
  obtain ⟨⟨run, effect⟩, honce, h⟩ := bind_eq_ok.mp h
  rcases claimRunOnce_eq_ok honce with ⟨heffect, -⟩ | ⟨heffect, hunclaimed⟩
  · subst heffect
    rw [← pure_eq_ok.mp h]
    exact .refl
  · subst heffect
    have hafter := pure_eq_ok.mp h
    have hfree := hunclaimed.run
    rw [RunStore.selectRunById, List.find?_eq_none] at hfree
    have hfresh : ∀ run ∈ store.runs, run.runId ≠ expected.candidateRunId :=
      fun run hrun heq => hfree run.toRunRow (List.mem_map_of_mem hrun) (decide_eq_true heq)
    rw [← hafter]
    exact .claimed _ request hfresh (congrArg RunRequest.payloadJson hrequest) rfl rfl rfl rfl rfl

theorem startAttemptOnce_change {expected : AttemptExpectation}
    (h : startAttemptOnce expected clock store = .ok after) : LifecycleChange store after := by
  unfold startAttemptOnce at h
  obtain ⟨run, hlock, h⟩ := bind_eq_ok.mp h
  obtain ⟨-, hmem, hrun, hpayload⟩ := lockRun_eq_ok hlock
  cases hreceipt : store.selectAttemptByStartOperation expected.startOperationId with
  | some row =>
    rw [hreceipt] at h
    simp only [bind_unit_eq_ok, pure_eq_ok] at h
    rw [← h.2]
    exact .refl
  | none =>
    rw [hreceipt] at h
    simp only [bind_unit_eq_ok, refuseIf_eq_ok, not_not, not_exists, not_and, not_le,
      Bool.not_eq_true, Option.isSome_eq_false_iff, Option.isNone_iff_eq_none] at h
    obtain ⟨hcandidate, hunselected, hidle, -, hbudget, -, -, h⟩ := h
    rw [LifecycleStore.selectAttempt, List.find?_eq_none] at hcandidate
    split at h
    · cases h
    · simp only [bind_unit_eq_ok] at h
      have hafter := commitFenced_eq_ok h.2
      rw [← hrun] at hidle hbudget hafter
      have hfresh : ∀ other ∈ store.attempts, other.attemptId ≠ expected.candidateAttemptId :=
        fun other hother heq => hcandidate other hother (decide_eq_true heq)
      rw [hafter]
      exact .started run (expected.row ((store.attemptsOf run.runId).length + 1) store.now)
        expected.run.request hmem hrun.symm hpayload hfresh hunselected hidle hbudget rfl rfl rfl
        rfl rfl rfl

/-! ## Updates of attempts -/

section Updates

variable {condition : AttemptRow → Prop} [DecidablePred condition]
  {change : AttemptRow → AttemptRow} {refusal : Refusal} {updated : LifecycleStore}

/-- A statement that changes running attempts only, and no identity of theirs. -/
theorem attemptKept_ite (change : AttemptRow → AttemptRow)
    (hrunning : ∀ row, condition row → row.status = .running)
    (hattempt : ∀ row, (change row).attemptId = row.attemptId)
    (hrun : ∀ row, (change row).runId = row.runId)
    (hordinal : ∀ row, (change row).ordinal = row.ordinal) (row : AttemptRow) :
    AttemptKept row (if condition row then change row else row) := by
  by_cases hcondition : condition row
  · rw [if_pos hcondition]
    exact ⟨hattempt row, hrun row, hordinal row,
      fun hended => absurd (hrunning row hcondition) hended⟩
  · rw [if_neg hcondition]
    exact .refl row

/-- Where the rows that a statement changes are those of one attempt, it ends no other. -/
theorem ended_of_ite (change : AttemptRow → AttemptRow) {row : AttemptRow}
    (hrunning : row.status = .running)
    (hended : (if condition row then change row else row).status ≠ .running) : condition row := by
  by_contra hcondition
  rw [if_neg hcondition] at hended
  exact hended hrunning

/-- A statement that leaves the status and the cut of attempts as they are. -/
theorem LifecycleChange.ofAttempts
    (hupdate : store.updateAttempt condition change refusal = .ok updated)
    (hrunning : ∀ row, condition row → row.status = .running)
    (hkept : ∀ row, (change row).attemptId = row.attemptId ∧ (change row).runId = row.runId ∧
      (change row).ordinal = row.ordinal ∧ (change row).status = row.status ∧
      (change row).inputCutDigest = row.inputCutDigest)
    (runs : after.runs = updated.runs) (attempts : after.attempts = updated.attempts)
    (contexts : after.contexts = updated.contexts) : LifecycleChange store after := by
  obtain ⟨-, rfl⟩ := updateAttempt_eq_ok hupdate
  have hsteady : ∀ row, (if condition row then change row else row).status = row.status ∧
      (if condition row then change row else row).inputCutDigest = row.inputCutDigest := by
    intro row
    by_cases hcondition : condition row
    · rw [if_pos hcondition]
      exact (hkept row).2.2.2
    · simp [hcondition]
  exact .updated ⟨id, fun row => if condition row then change row else row, id⟩
    { runs := by simp [runs]
      attempts := attempts
      contexts := by simp [contexts]
      run_claim := fun _ => rfl
      run_cut := fun _ _ _ => rfl
      attempt_kept := attemptKept_ite change hrunning (fun row => (hkept row).1)
        (fun row => (hkept row).2.1) (fun row => (hkept row).2.2.1)
      context_kept := ContextKept.refl
      cut := fun _ _ row _ _ => .inl (hsteady row).2
      released := fun row _ hrun hended => absurd ((hsteady row).1.trans hrun) hended
      selection := fun _ _ => .inl ⟨rfl, rfl⟩ }

/-- A statement that gives attempts of a run the cut that the run has. -/
theorem LifecycleChange.binds {bind : LifecycleRun → LifecycleRun}
    (hupdate : store.updateAttempt condition change refusal = .ok updated)
    (hrunning : ∀ row, condition row → row.status = .running)
    (hkept : ∀ row, (change row).attemptId = row.attemptId ∧ (change row).runId = row.runId ∧
      (change row).ordinal = row.ordinal ∧ (change row).status = row.status)
    (runs : after.runs = store.runs.map bind) (attempts : after.attempts = updated.attempts)
    (contexts : after.contexts = updated.contexts)
    (hclaim : ∀ run, (bind run).toRunClaim = run.toRunClaim ∧
      (bind run).selectedTerminalAttemptId = run.selectedTerminalAttemptId ∧
      (bind run).terminalOperationId = run.terminalOperationId)
    (hbound : ∀ run, run.boundInputCutDigest ≠ none →
      (bind run).boundInputCutDigest = run.boundInputCutDigest)
    (hcut : ∀ row, condition row → ∀ run ∈ store.runs, row.runId = run.runId →
      (change row).inputCutDigest = (bind run).boundInputCutDigest) :
    LifecycleChange store after := by
  obtain ⟨-, rfl⟩ := updateAttempt_eq_ok hupdate
  have hsteady : ∀ row, (if condition row then change row else row).status = row.status := by
    intro row
    by_cases hcondition : condition row
    · rw [if_pos hcondition]
      exact (hkept row).2.2.2
    · simp [hcondition]
  exact .updated ⟨bind, fun row => if condition row then change row else row, id⟩
    { runs := runs
      attempts := attempts
      contexts := by simp [contexts]
      run_claim := fun run => (hclaim run).1
      run_cut := fun run _ => hbound run
      attempt_kept := attemptKept_ite change hrunning (fun row => (hkept row).1)
        (fun row => (hkept row).2.1) (fun row => (hkept row).2.2.1)
      context_kept := ContextKept.refl
      cut := by
        intro run hrun row hrow hof
        by_cases hcondition : condition row
        · right
          simp only [if_pos hcondition]
          exact hcut row hcondition run hrun hof
        · left
          simp only [if_neg hcondition]
      released := fun row _ hrun hended => absurd ((hsteady row).trans hrun) hended
      selection := fun run _ => .inl (hclaim run).2 }

variable {attempt : HeldAttempt} {status : AttemptStatus} {operationId : Uuid}
  {reason : Option ResultReason} {endedAt : Instant} {middle : LifecycleStore}

/-- A statement that ends the rows of one attempt, of which no context stays active. -/
theorem LifecycleChange.ends {changeRun : LifecycleRun → LifecycleRun}
    {changeContext : ReadContextRow → ReadContextRow}
    (hcondition : ∀ row, condition row → row.runId = attempt.run.runId ∧
      row.attemptId = attempt.attemptId ∧ row.status = .running)
    (hupdate : middle.updateAttempt condition
      (fun row => row.ended status operationId reason endedAt) refusal = .ok updated)
    (hmiddle : middle.attempts = store.attempts) (runs : after.runs = store.runs.map changeRun)
    (attempts : after.attempts = updated.attempts)
    (contexts : after.contexts = store.contexts.map changeContext)
    (hclaim : ∀ run, (changeRun run).toRunClaim = run.toRunClaim ∧
      (changeRun run).boundInputCutDigest = run.boundInputCutDigest)
    (hcontext : ∀ row, ContextKept row (changeContext row))
    (hreleased : ∀ context ∈ store.contexts, context.runId = attempt.run.runId →
      context.attemptId = attempt.attemptId → (changeContext context).state ≠ .active)
    (hselection : ∀ run ∈ store.runs, SelectionKept
      ⟨changeRun, fun row => if condition row then row.ended status operationId reason endedAt
        else row, changeContext⟩ store run) : LifecycleChange store after := by
  obtain ⟨-, rfl⟩ := updateAttempt_eq_ok hupdate
  rw [hmiddle] at attempts
  exact .updated _
    { runs, attempts, contexts
      run_claim := fun run => (hclaim run).1
      run_cut := fun run _ _ => (hclaim run).2
      attempt_kept := fun row =>
        attemptKept_ite (·.ended status operationId reason endedAt)
          (fun row h => (hcondition row h).2.2) (fun _ => rfl) (fun _ => rfl) (fun _ => rfl) row
      context_kept := hcontext
      cut := by
        intro run hrun row hrow hsame
        left
        dsimp only
        split <;> rfl
      released := by
        intro row hrow hrunning hended context hmem hrunId hattemptId
        have hrow := hcondition row
          (ended_of_ite (·.ended status operationId reason endedAt) hrunning hended)
        exact hreleased context hmem (hrunId.trans hrow.1) (hattemptId.trans hrow.2.1)
      selection := hselection }

theorem Fenced.row {now : Instant} {row : AttemptRow} (h : Fenced attempt now row) :
    row.runId = attempt.run.runId ∧ row.attemptId = attempt.attemptId ∧
      row.status = .running :=
  ⟨h.1, h.2.1, h.2.2.2.2.1⟩

end Updates

/-! ## Lease renewal -/

theorem renewAttemptOnce_change {expected : LeaseRenewalExpectation}
    (h : renewAttemptOnce expected clock store = .ok after) : LifecycleChange store after := by
  unfold renewAttemptOnce at h
  obtain ⟨run, -, h⟩ := bind_eq_ok.mp h
  obtain ⟨row, -, h⟩ := bind_eq_ok.mp h
  split at h
  · simp only [bind_unit_eq_ok, pure_eq_ok] at h
    rw [← h.2]
    exact .refl
  · simp only [bind_unit_eq_ok] at h
    obtain ⟨-, -, h⟩ := h
    obtain ⟨updated, hupdate, h⟩ := bind_eq_ok.mp h
    split at h
    · cases h
    · simp only [bind_unit_eq_ok] at h
      rw [commitFenced_eq_ok h.2]
      exact .ofAttempts hupdate (fun row hrow => (Fenced.row hrow).2.2)
        (fun _ => ⟨rfl, rfl, rfl, rfl, rfl⟩) rfl rfl rfl

/-! ## Read contexts -/

theorem persistContextOnce_change {expected : ContextExpectation}
    (h : persistContextOnce evidence expected clock store = .ok after) :
    LifecycleChange store after := by
  unfold persistContextOnce at h
  obtain ⟨run, -, h⟩ := bind_eq_ok.mp h
  obtain ⟨attemptRow, -, h⟩ := bind_eq_ok.mp h
  split at h
  · simp only [bind_unit_eq_ok, pure_eq_ok] at h
    rw [← h.2]
    exact .refl
  · simp only [bind_unit_eq_ok, refuseIf_eq_ok, not_not] at h
    obtain ⟨-, -, -, -, hfence, h⟩ := h
    have hpos : 0 < store.attempts.countP (Fenced expected.attempt clock.write) := by omega
    simp only [List.countP_pos_iff, decide_eq_true_eq] at hpos
    obtain ⟨row, hmem, hrow⟩ := hpos
    split at h
    · cases h
    · simp only [bind_unit_eq_ok] at h
      rw [commitFenced_eq_ok h.2]
      exact .acquired _ row hmem hrow.row.2.2 hrow.row.2.1.symm rfl rfl rfl

/-- A statement that ends contexts, and does nothing else. -/
theorem LifecycleChange.ofContexts {condition : ReadContextRow → Prop} [DecidablePred condition]
    {change : ReadContextRow → ReadContextRow} {refusal : Refusal}
    (hupdate : store.updateContext condition change refusal = .ok after)
    (hkept : ∀ row, (change row).runId = row.runId ∧ (change row).attemptId = row.attemptId)
    (hended : ∀ row, (change row).state ≠ .active) : LifecycleChange store after := by
  have hafter := updateContext_eq_ok hupdate
  have hcontext : ∀ row, ContextKept row (if condition row then change row else row) := by
    intro row
    by_cases hcondition : condition row
    · rw [if_pos hcondition]
      exact ⟨(hkept row).1, (hkept row).2, fun hactive => absurd hactive (hended row)⟩
    · rw [if_neg hcondition]
      exact .refl row
  exact .updated ⟨id, id, fun row => if condition row then change row else row⟩
    { runs := by simp [hafter]
      attempts := by simp [hafter]
      contexts := congrArg (·.contexts) hafter
      run_claim := fun _ => rfl
      run_cut := fun _ _ _ => rfl
      attempt_kept := AttemptKept.refl
      context_kept := hcontext
      cut := fun _ _ _ _ _ => .inl rfl
      released := fun _ _ hrunning hended => absurd hrunning hended
      selection := fun _ _ => .inl ⟨rfl, rfl⟩ }

theorem finishContextOnce_change {expected : ContextEnd} {lost : Bool}
    (h : finishContextOnce evidence expected lost clock store = .ok after) :
    LifecycleChange store after := by
  unfold finishContextOnce at h
  obtain ⟨attemptRow, -, h⟩ := bind_eq_ok.mp h
  split at h
  · simp only [bind_unit_eq_ok, pure_eq_ok] at h
    rw [← h.2.2]
    exact .refl
  · obtain ⟨contextRow, -, h⟩ := bind_eq_ok.mp h
    simp only [bind_unit_eq_ok] at h
    obtain ⟨-, h⟩ := h
    obtain ⟨updated, hupdate, h⟩ := bind_eq_ok.mp h
    split at h
    · cases h
    · simp only [bind_unit_eq_ok] at h
      rw [commitFenced_eq_ok h.2]
      refine .ofContexts hupdate (fun _ => ⟨rfl, rfl⟩) ?_
      intro row
      cases lost <;> simp

theorem closeClickhouseContextOnce_change {expected : ClickHouseContextClosure}
    (h : closeClickhouseContextOnce evidence expected clock store = .ok after) :
    LifecycleChange store after := by
  unfold closeClickhouseContextOnce at h
  obtain ⟨attemptRow, -, h⟩ := bind_eq_ok.mp h
  split at h
  · simp only [bind_unit_eq_ok, pure_eq_ok] at h
    rw [← h.2]
    exact .refl
  · obtain ⟨contextRow, -, h⟩ := bind_eq_ok.mp h
    simp only [bind_unit_eq_ok] at h
    obtain ⟨-, h⟩ := h
    obtain ⟨updated, hupdate, h⟩ := bind_eq_ok.mp h
    split at h
    · cases h
    · simp only [bind_unit_eq_ok] at h
      rw [commitFenced_eq_ok h.2]
      exact .ofContexts hupdate (fun _ => ⟨rfl, rfl⟩) (fun _ => by simp)

/-! ## Input cuts -/

/-- The observations of a cut are outside the rows that a change is about. -/
theorem persistObservation_eq_ok {cut : CutExpectation} {expected : ObservationExpectation}
    (h : persistObservation evidence cut expected store = .ok after) :
    after.runs = store.runs ∧ after.attempts = store.attempts ∧
      after.contexts = store.contexts := by
  unfold persistObservation at h
  split at h
  · simp only [bind_unit_eq_ok, pure_eq_ok] at h
    rw [← h.2]
    exact ⟨rfl, rfl, rfl⟩
  · simp only [bind_unit_eq_ok] at h
    obtain ⟨-, h⟩ := h
    split at h
    · cases h
    · simp only [bind_unit_eq_ok, pure_eq_ok] at h
      rw [← h.2.2]
      exact ⟨rfl, rfl, rfl⟩

/-- The first cut of a run is bound, or it is the cut that is asked for. -/
theorem bindRunCut_eq_ok {expected : CutExpectation} {run : LifecycleRun}
    (hsame : requireSameRunCut expected run = .ok ())
    (h : bindRunCut expected run store = .ok after) :
    ∃ bind : LifecycleRun → LifecycleRun,
      after = { store with runs := store.runs.map bind } ∧
      (∀ row, (bind row).toRunClaim = row.toRunClaim ∧
        (bind row).selectedTerminalAttemptId = row.selectedTerminalAttemptId ∧
        (bind row).terminalOperationId = row.terminalOperationId) ∧
      (∀ row, row.boundInputCutDigest ≠ none →
        (bind row).boundInputCutDigest = row.boundInputCutDigest) ∧
      (run.runId = expected.attempt.run.runId →
        (bind run).boundInputCutDigest = some expected.inputCutDigest) := by
  unfold bindRunCut at h
  by_cases hbound : run.boundInputCutDigest = none
  · rw [if_pos hbound] at h
    refine ⟨_, updateRun_eq_ok h, ?_, ?_, ?_⟩
    · intro row
      split <;> exact ⟨rfl, rfl, rfl⟩
    · intro row hrow
      rw [if_neg fun hcondition => hrow hcondition.2]
    · intro hrun
      rw [if_pos ⟨hrun, hbound⟩]
  · rw [if_neg hbound] at h
    cases h
    unfold requireSameRunCut at hsame
    rw [if_pos (.inl hbound)] at hsame
    simp only [bind_unit_eq_ok, refuseIf_eq_ok, not_or, not_not] at hsame
    exact ⟨id, by simp, fun _ => ⟨rfl, rfl, rfl⟩, fun _ _ => rfl, fun _ => hsame.1.1⟩

theorem persistCutOnce_change {expected : CutExpectation}
    (hids : (store.runs.map (·.runId)).Nodup)
    (h : persistCutOnce evidence expected clock store = .ok after) :
    LifecycleChange store after := by
  unfold persistCutOnce at h
  obtain ⟨run, hlock, h⟩ := bind_eq_ok.mp h
  obtain ⟨-, hmem, hrun, -⟩ := lockRun_eq_ok hlock
  obtain ⟨attemptRow, -, h⟩ := bind_eq_ok.mp h
  split at h
  · simp only [bind_unit_eq_ok, pure_eq_ok] at h
    rw [← h.2]
    exact .refl
  · simp only [bind_unit_eq_ok] at h
    obtain ⟨-, -, -, hsame, h⟩ := h
    split at h
    · simp only [bind_unit_eq_ok, pure_eq_ok] at h
      rw [← h.2.2]
      exact .refl
    · simp only [bind_unit_eq_ok] at h
      obtain ⟨-, h⟩ := h
      obtain ⟨marked, hmark, h⟩ := bind_eq_ok.mp h
      obtain ⟨reference, hreference, h⟩ := bind_eq_ok.mp h
      obtain ⟨observed, hobserved, h⟩ := bind_eq_ok.mp h
      obtain ⟨bound, hbound, h⟩ := bind_eq_ok.mp h
      simp only [bind_unit_eq_ok] at h
      rw [commitFenced_eq_ok h.2]
      obtain ⟨-, hmarked⟩ := updateAttempt_eq_ok hmark
      have hfirst := persistObservation_eq_ok hreference
      have hsecond := persistObservation_eq_ok hobserved
      obtain ⟨bind, hbind, hclaim, hkept, hcut⟩ := bindRunCut_eq_ok hsame hbound
      have hruns : bound.runs = store.runs.map bind := by
        simp [hbind, hsecond.1, hfirst.1, hmarked]
      have hattempts : bound.attempts = marked.attempts := by
        rw [hbind, hsecond.2.1, hfirst.2.1]
      have hcontexts : bound.contexts = marked.contexts := by
        rw [hbind, hsecond.2.2, hfirst.2.2]
      refine .binds hmark (fun row hrow => (Fenced.row hrow.1).2.2)
        (fun _ => ⟨rfl, rfl, rfl, rfl⟩) hruns hattempts hcontexts hclaim hkept ?_
      intro row hrow other hother hof
      -- the locked run is the only one with its id
      have hid : other.runId = run.runId :=
        (hof.symm.trans (Fenced.row hrow.1).1).trans hrun.symm
      have heq : other = run := List.inj_on_of_nodup_map hids hother hmem hid
      rw [heq, hcut hrun]

/-! ## Outcomes -/

section Outcomes

variable {attempt : HeldAttempt} {status : AttemptStatus} {operationId : Uuid}
  {reason : Option ResultReason} {endedAt : Instant} {refusal : Refusal}
  {updated recorded : LifecycleStore}

/-- No context of the attempt is active. -/
def Released (attempt : HeldAttempt) (store : LifecycleStore) : Prop :=
  ∀ context ∈ store.contextsOf attempt.run.runId attempt.attemptId, context.state ≠ .active

theorem Released.context (h : Released attempt store) {context : ReadContextRow}
    (hmem : context ∈ store.contexts) (hrun : context.runId = attempt.run.runId)
    (hattempt : context.attemptId = attempt.attemptId) : context.state ≠ .active :=
  h context (List.mem_filter.mpr ⟨hmem, decide_eq_true ⟨hrun, hattempt⟩⟩)

theorem requireStoredAttemptClosure_released
    (h : requireStoredAttemptClosure attempt store = .ok ()) : Released attempt store := by
  unfold requireStoredAttemptClosure at h
  simp only [bind_unit_eq_ok, refuseIf_eq_ok, not_exists, not_and] at h
  exact h.1

/-- The fenced attempt ends, and its run stays open. -/
theorem LifecycleChange.retries
    (hupdate : store.updateAttempt (Fenced attempt clock.write)
      (fun row => row.ended status operationId reason endedAt) refusal = .ok updated)
    (hreleased : Released attempt store) (runs : after.runs = updated.runs)
    (attempts : after.attempts = updated.attempts)
    (contexts : after.contexts = updated.contexts) : LifecycleChange store after := by
  obtain ⟨-, hupdated⟩ := updateAttempt_eq_ok hupdate
  refine .ends (fun row => Fenced.row) hupdate rfl (?_ : _ = store.runs.map id) attempts
    (?_ : _ = store.contexts.map id) (fun _ => ⟨rfl, rfl⟩) ContextKept.refl
    (fun context hmem hrun hattempt => hreleased.context hmem hrun hattempt)
    (fun _ _ => .inl ⟨rfl, rfl⟩)
  · simp [runs, hupdated]
  · simp [contexts, hupdated]

/-- The fenced attempt ends, and its run selects it. -/
theorem LifecycleChange.selects
    (hupdate : store.updateAttempt (Fenced attempt clock.write)
      (fun row => row.ended status operationId reason endedAt) refusal = .ok updated)
    {unselectable : Refusal}
    (hselect : selectTerminal attempt operationId endedAt unselectable recorded = .ok after)
    (hstatus : status ≠ .running) (hreleased : Released attempt store)
    (hruns : recorded.runs = updated.runs) (hattempts : recorded.attempts = updated.attempts)
    (hcontexts : recorded.contexts = updated.contexts) : LifecycleChange store after := by
  obtain ⟨⟨row, hmem, hfenced⟩, hupdated⟩ := updateAttempt_eq_ok hupdate
  have hafter := updateRun_eq_ok hselect
  refine .ends (fun row => Fenced.row) hupdate rfl
    (?_ : _ = store.runs.map fun row =>
      if row.runId = attempt.run.runId ∧ row.selectedTerminalAttemptId = none then
        { row with
          selectedTerminalAttemptId := some attempt.attemptId
          terminalOperationId := some operationId
          terminalAt := some endedAt }
      else row) ?_ (?_ : _ = store.contexts.map id) ?_ ContextKept.refl
    (fun context hmem hrun hattempt => hreleased.context hmem hrun hattempt) ?_
  · simp [hafter, hruns, hupdated]
  · rw [hafter, ← hattempts]
  · simp [hafter, hcontexts, hupdated]
  · intro run
    split <;> exact ⟨rfl, rfl⟩
  · intro run _
    by_cases hopen : run.runId = attempt.run.runId ∧ run.selectedTerminalAttemptId = none
    · have hrow := hfenced.row
      refine .inr ⟨hopen.2, row, hmem, hrow.1.trans hopen.1.symm, hrow.2.2, ?_⟩
      simp only [if_pos hopen, if_pos hfenced]
      exact ⟨congrArg some hrow.2.1.symm, hstatus, operationId, rfl, rfl⟩
    · left
      simp only [if_neg hopen, and_self]

end Outcomes

theorem AttemptStatus.IsOutcome.ne_running {status : AttemptStatus} (h : status.IsOutcome) :
    status ≠ .running := by
  rcases h with rfl | rfl | rfl <;> decide

theorem persistRetryableOutcomeOnce_change {expected : OutcomeExpectation}
    (h : persistRetryableOutcomeOnce expected clock store = .ok after) :
    LifecycleChange store after := by
  unfold persistRetryableOutcomeOnce at h
  obtain ⟨run, -, h⟩ := bind_eq_ok.mp h
  obtain ⟨attemptRow, -, h⟩ := bind_eq_ok.mp h
  split at h
  · simp only [bind_unit_eq_ok, pure_eq_ok] at h
    rw [← h.2]
    exact .refl
  · simp only [bind_unit_eq_ok] at h
    obtain ⟨-, -, hclosure, h⟩ := h
    obtain ⟨updated, hupdate, h⟩ := bind_eq_ok.mp h
    simp only [bind_unit_eq_ok] at h
    rw [commitFenced_eq_ok h.2]
    exact .retries hupdate (requireStoredAttemptClosure_released hclosure) rfl rfl rfl

theorem publishTerminalOutcomeOnce_change {expected : OutcomeExpectation}
    (h : publishTerminalOutcomeOnce expected clock store = .ok after) :
    LifecycleChange store after := by
  unfold publishTerminalOutcomeOnce at h
  obtain ⟨run, -, h⟩ := bind_eq_ok.mp h
  obtain ⟨attemptRow, -, h⟩ := bind_eq_ok.mp h
  split at h
  · simp only [bind_unit_eq_ok, pure_eq_ok] at h
    rw [← h.2]
    exact .refl
  · simp only [bind_unit_eq_ok] at h
    obtain ⟨-, -, hclosure, h⟩ := h
    obtain ⟨ended, hupdate, h⟩ := bind_eq_ok.mp h
    obtain ⟨selected, hselect, h⟩ := bind_eq_ok.mp h
    simp only [bind_unit_eq_ok] at h
    rw [commitFenced_eq_ok h.2]
    exact .selects hupdate hselect expected.status_outcome.ne_running
      (requireStoredAttemptClosure_released hclosure) rfl rfl rfl

/-! ## Comparisons -/

theorem requireClosedCompletedContext_ended {expected : ComparisonExpectation}
    {direction : PlanDirection} {row : ReadContextRow}
    (h : requireClosedCompletedContext evidence expected direction row = .ok ()) :
    row.state ≠ .active := by
  unfold requireClosedCompletedContext at h
  simp only [bind_unit_eq_ok, refuseIf_eq_ok, not_not] at h
  rw [h.2.2.1]
  decide

theorem requireTerminalPartialContext_ended {expected : ComparisonExpectation}
    {direction : PlanDirection} {row : ReadContextRow}
    (h : requireTerminalPartialContext evidence expected direction row = .ok ()) :
    row.state ≠ .active := by
  unfold requireTerminalPartialContext at h
  simp only [bind_unit_eq_ok, refuseIf_eq_ok] at h
  intro hactive
  exact h.2.2.1 (by simp [hactive])

theorem requireContextRows_ended {kind message : String} {expected : ComparisonExpectation}
    {requireContext : PlanDirection → ReadContextRow → Except Refusal Unit}
    (hrequire : ∀ {direction row}, requireContext direction row = .ok () → row.state ≠ .active)
    {rows : List ReadContextRow}
    (h : requireContextRows kind expected requireContext message rows = .ok ()) :
    ∀ row ∈ rows, row.state ≠ .active := by
  unfold requireContextRows at h
  split at h
  · simp only [bind_unit_eq_ok] at h
    simp [hrequire h.2.2.1, hrequire h.2.2.2]
  · cases h

/-- The contexts that a comparison checks are all those of its attempt. -/
theorem released_of_ordered {attempt : HeldAttempt}
    (h : ∀ row ∈ orderedContexts attempt store, row.state ≠ .active) : Released attempt store :=
  fun context hmem => h context (List.mem_mergeSort.mpr hmem)

theorem publishCompletedOnce_change {expected : ComparisonExpectation}
    (h : publishCompletedOnce evidence expected clock store = .ok after) :
    LifecycleChange store after := by
  unfold publishCompletedOnce at h
  obtain ⟨run, -, h⟩ := bind_eq_ok.mp h
  obtain ⟨attemptRow, -, h⟩ := bind_eq_ok.mp h
  split at h
  · simp only [bind_unit_eq_ok, pure_eq_ok] at h
    rw [← h.2]
    exact .refl
  · simp only [bind_unit_eq_ok] at h
    obtain ⟨-, -, -, -, hclosure, h⟩ := h
    obtain ⟨ended, hupdate, h⟩ := bind_eq_ok.mp h
    obtain ⟨selected, hselect, h⟩ := bind_eq_ok.mp h
    simp only [bind_unit_eq_ok] at h
    rw [commitFenced_eq_ok h.2]
    unfold requireCompletedClosure at hclosure
    rw [bind_unit_eq_ok] at hclosure
    exact .selects hupdate hselect (by decide)
      (released_of_ordered (requireContextRows_ended requireClosedCompletedContext_ended
        hclosure.1)) rfl rfl rfl

theorem partialComparisonOnce_change {terminal : Bool} {expected : PartialExpectation}
    (h : partialComparisonOnce evidence terminal expected clock store = .ok after) :
    LifecycleChange store after := by
  unfold partialComparisonOnce at h
  obtain ⟨run, -, h⟩ := bind_eq_ok.mp h
  obtain ⟨attemptRow, -, h⟩ := bind_eq_ok.mp h
  split at h
  · simp only [bind_unit_eq_ok, pure_eq_ok] at h
    rw [← h.2]
    exact .refl
  · simp only [bind_unit_eq_ok] at h
    obtain ⟨-, -, -, hclosure, h⟩ := h
    obtain ⟨finished, hfinish, h⟩ := bind_eq_ok.mp h
    obtain ⟨selected, hselect, h⟩ := bind_eq_ok.mp h
    simp only [bind_unit_eq_ok] at h
    rw [commitFenced_eq_ok h.2]
    unfold finishPartialAttempt at hfinish
    obtain ⟨ended, hupdate, hfinished⟩ := bind_eq_ok.mp hfinish
    rw [pure_eq_ok] at hfinished
    unfold requirePartialClosure at hclosure
    rw [bind_unit_eq_ok] at hclosure
    have hreleased := released_of_ordered
      (requireContextRows_ended requireTerminalPartialContext_ended hclosure.1)
    subst hfinished
    cases terminal with
    | true =>
      exact .selects hupdate hselect expected.status_outcome.ne_running hreleased rfl rfl rfl
    | false =>
      cases hselect
      exact .retries hupdate hreleased rfl rfl rfl

/-! ## Abandonment -/

/-- The loop deactivates the contexts it is given, and only them. -/
theorem loseContexts_eq_ok {expected : OutcomeExpectation} {ids : List Uuid}
    (h : loseContexts evidence expected ids store = .ok after) :
    ∃ lose : ReadContextRow → ReadContextRow,
      after = { store with contexts := store.contexts.map lose } ∧
      (∀ row, ContextKept row (lose row) ∧ (lose row).readContextId = row.readContextId) ∧
      ∀ row, row.readContextId ∈ ids → (lose row).state ≠ .active := by
  induction ids generalizing store with
  | nil =>
    cases h
    exact ⟨id, by simp, fun row => ⟨.refl row, rfl⟩, fun row hmem => absurd hmem (by simp)⟩
  | cons contextId rest ih =>
    unfold loseContexts at h
    obtain ⟨middle, hupdate, h⟩ := bind_eq_ok.mp h
    have hmiddle := updateContext_eq_ok hupdate
    obtain ⟨lose, hafter, hkept, hlost⟩ := ih h
    subst hmiddle
    refine ⟨lose ∘ fun row =>
      if row.readContextId = contextId ∧ row.state = .active then
        { row with
          state := .lost
          endOperationId :=
            some (derivedContextAbandonmentOperation evidence expected.operationId contextId)
          endedAt := some expected.endedAt }
      else row, ?_, ?_, ?_⟩
    · rw [hafter, List.map_map]
    · intro row
      rw [Function.comp_apply]
      by_cases hcondition : row.readContextId = contextId ∧ row.state = .active
      · rw [if_pos hcondition]
        have hrow := hkept { row with
          state := .lost
          endOperationId :=
            some (derivedContextAbandonmentOperation evidence expected.operationId contextId)
          endedAt := some expected.endedAt }
        exact ⟨⟨hrow.1.runId, hrow.1.attemptId, fun _ => hcondition.2⟩, hrow.2⟩
      · rw [if_neg hcondition]
        exact hkept row
    · intro row hmem
      rw [Function.comp_apply]
      by_cases hcondition : row.readContextId = contextId ∧ row.state = .active
      · rw [if_pos hcondition]
        intro hactive
        exact absurd ((hkept _).1.active hactive) (by simp)
      · rw [if_neg hcondition]
        rcases List.mem_cons.mp hmem with hhead | htail
        · intro hactive
          exact hcondition ⟨hhead, (hkept row).1.active hactive⟩
        · exact hlost row htail

theorem abandonAttemptOnce_change {expected : OutcomeExpectation}
    (h : abandonAttemptOnce evidence expected clock store = .ok after) :
    LifecycleChange store after := by
  unfold abandonAttemptOnce at h
  obtain ⟨run, -, h⟩ := bind_eq_ok.mp h
  obtain ⟨attemptRow, -, h⟩ := bind_eq_ok.mp h
  split at h
  · simp only [bind_unit_eq_ok, pure_eq_ok] at h
    rw [← h.2]
    exact .refl
  · simp only [bind_unit_eq_ok] at h
    obtain ⟨-, -, h⟩ := h
    obtain ⟨lost, hlose, h⟩ := bind_eq_ok.mp h
    obtain ⟨ended, hupdate, h⟩ := bind_eq_ok.mp h
    simp only [bind_unit_eq_ok, pure_eq_ok] at h
    obtain ⟨-, rfl⟩ := h
    obtain ⟨lose, hlost, hkept, hinactive⟩ := loseContexts_eq_ok hlose
    obtain ⟨-, hended⟩ := updateAttempt_eq_ok hupdate
    refine .ends (fun row hrow => ⟨hrow.1, hrow.2.1, hrow.2.2.1⟩) hupdate (by rw [hlost])
      (?_ : _ = store.runs.map id) rfl (?_ : _ = store.contexts.map lose) (fun _ => ⟨rfl, rfl⟩)
      (fun row => (hkept row).1) ?_ (fun _ _ => .inl ⟨rfl, rfl⟩)
    · simp [hended, hlost]
    · rw [hended, hlost]
    · intro context hmem hrun hattempt hactive
      refine hinactive context ?_ hactive
      have hbefore := (hkept context).1.active hactive
      simp only [List.mem_mergeSort, List.mem_map, List.mem_filter, LifecycleStore.contextsOf,
        decide_eq_true_eq]
      exact ⟨context, ⟨⟨hmem, hrun, hattempt⟩, hbefore⟩, rfl⟩

/-- What a committed transaction does is one of the changes. -/
theorem execute_change (transaction : LifecycleTransaction)
    (hids : (store.runs.map (·.runId)).Nodup)
    (h : transaction.execute evidence clock store = .ok after) : LifecycleChange store after := by
  cases transaction with
  | claim candidateRunId creationOperationId request => exact claimOnce_change rfl h
  | startAttempt expected => exact startAttemptOnce_change h
  | renewLease expected => exact renewAttemptOnce_change h
  | persistContext expected => exact persistContextOnce_change h
  | persistCut expected => exact persistCutOnce_change hids h
  | finishContext expected lost => exact finishContextOnce_change h
  | closeClickhouseContext expected => exact closeClickhouseContextOnce_change h
  | retryableOutcome expected => exact persistRetryableOutcomeOnce_change h
  | terminalOutcome expected => exact publishTerminalOutcomeOnce_change h
  | completedComparison expected => exact publishCompletedOnce_change h
  | partialComparison terminal expected => exact partialComparisonOnce_change h
  | abandon expected => exact abandonAttemptOnce_change h

end ForensicData.Persistence
