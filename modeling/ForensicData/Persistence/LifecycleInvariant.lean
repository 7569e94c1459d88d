/-
ForensicData.Persistence.LifecycleInvariant — what holds of every run in every
store that lifecycle transactions reach.

`RunLifecycle` is the invariant of a run, `RunContinues` what a later store
keeps of it. Both are carried through each `LifecycleChange`, and so through
every history of transactions (`run_lifecycle`).
-/
import ForensicData.Persistence.LifecycleChanges

namespace ForensicData.Persistence

variable {evidence : LifecycleEvidence} {store after : LifecycleStore}

/-! ## The invariant -/

/-- What the rows of a run agree on. -/
structure RunLifecycle (store : LifecycleStore) (run : LifecycleRun) : Prop where
  one_running : (store.attemptsOf run.runId).countP (·.status = .running) ≤ 1
  ordinals : (store.attemptsOf run.runId).map (·.ordinal)
    = List.range' 1 (store.attemptsOf run.runId).length
  requested : ∃ request : RunRequestDefinition, run.requestPayload = request.columns.payloadJson
  budget : ∀ request : RunRequestDefinition, run.requestPayload = request.columns.payloadJson →
    (store.attemptsOf run.runId).length ≤ request.executionPolicy.maxAttempts
  cuts : ∀ row ∈ store.attemptsOf run.runId, row.inputCutDigest ≠ none →
    row.inputCutDigest = run.boundInputCutDigest
  released : ∀ row ∈ store.attemptsOf run.runId, row.status ≠ .running →
    ∀ context ∈ store.contextsOf run.runId row.attemptId, context.state ≠ .active
  selected : ∀ attemptId, run.selectedTerminalAttemptId = some attemptId →
    ∃ row ∈ store.attemptsOf run.runId, row.attemptId = attemptId ∧ row.status ≠ .running ∧
      ∃ operationId, row.endOperationId = some operationId ∧
        run.terminalOperationId = some operationId
  closed : run.selectedTerminalAttemptId ≠ none →
    ∀ row ∈ store.attemptsOf run.runId, row.status ≠ .running

/-- Every run of a store has its invariant; runs and attempts are told by their ids. -/
structure LifecycleInvariant (store : LifecycleStore) : Prop where
  runIds : (store.runs.map (·.runId)).Nodup
  attemptIds : (store.attempts.map (·.attemptId)).Nodup
  owned : ∀ row ∈ store.attempts, ∃ run ∈ store.runs, run.runId = row.runId
  run : ∀ run ∈ store.runs, RunLifecycle store run

/-- What a later store keeps of a run: its first cut, and once it has selected its terminal
attempt, the selection and all its attempts. -/
structure RunContinues (store after : LifecycleStore) (run later : LifecycleRun) : Prop where
  runId : later.runId = run.runId
  cut : run.boundInputCutDigest ≠ none → later.boundInputCutDigest = run.boundInputCutDigest
  selection : run.selectedTerminalAttemptId ≠ none →
    later.selectedTerminalAttemptId = run.selectedTerminalAttemptId ∧
      later.terminalOperationId = run.terminalOperationId ∧
      after.attemptsOf run.runId = store.attemptsOf run.runId

def Continues (store after : LifecycleStore) : Prop :=
  ∀ run ∈ store.runs, ∃ later ∈ after.runs, RunContinues store after run later

theorem Continues.refl (store : LifecycleStore) : Continues store store :=
  fun run hrun => ⟨run, hrun, rfl, fun _ => rfl, fun _ => ⟨rfl, rfl, rfl⟩⟩

theorem Continues.trans {last : LifecycleStore} (h : Continues store after)
    (hlast : Continues after last) : Continues store last := by
  intro run hrun
  obtain ⟨later, hlater, hfirst⟩ := h run hrun
  obtain ⟨latest, hlatest, hsecond⟩ := hlast later hlater
  refine ⟨latest, hlatest, hsecond.runId.trans hfirst.runId, ?_, ?_⟩
  · intro hbound
    have hcut := hfirst.cut hbound
    exact (hsecond.cut (by rwa [hcut])).trans hcut
  · intro hselected
    obtain ⟨hselection, hoperation, hattempts⟩ := hfirst.selection hselected
    obtain ⟨hselection', hoperation', hattempts'⟩ := hsecond.selection (by rwa [hselection])
    rw [hfirst.runId] at hattempts'
    exact ⟨hselection'.trans hselection, hoperation'.trans hoperation,
      hattempts'.trans hattempts⟩

theorem LifecycleInvariant.eq_of_runId (h : LifecycleInvariant store) {run other : LifecycleRun}
    (hrun : run ∈ store.runs) (hother : other ∈ store.runs) (hid : run.runId = other.runId) :
    run = other :=
  List.inj_on_of_nodup_map h.runIds hrun hother hid

theorem LifecycleInvariant.eq_of_attemptId (h : LifecycleInvariant store)
    {row other : AttemptRow} (hrow : row ∈ store.attempts) (hother : other ∈ store.attempts)
    (hid : row.attemptId = other.attemptId) : row = other :=
  List.inj_on_of_nodup_map h.attemptIds hrow hother hid

theorem mem_attemptsOf {runId : Result.Uuid} {row : AttemptRow} :
    row ∈ store.attemptsOf runId ↔ row ∈ store.attempts ∧ row.runId = runId := by
  simp [LifecycleStore.attemptsOf]

theorem mem_contextsOf {runId attemptId : Result.Uuid} {context : ReadContextRow} :
    context ∈ store.contextsOf runId attemptId ↔
      context ∈ store.contexts ∧ context.runId = runId ∧ context.attemptId = attemptId := by
  simp [LifecycleStore.contextsOf]

theorem attemptsOf_congr (attempts : after.attempts = store.attempts) (runId : Result.Uuid) :
    after.attemptsOf runId = store.attemptsOf runId := by
  rw [LifecycleStore.attemptsOf, attempts, LifecycleStore.attemptsOf]

theorem contextsOf_congr (contexts : after.contexts = store.contexts)
    (runId attemptId : Result.Uuid) :
    after.contextsOf runId attemptId = store.contextsOf runId attemptId := by
  rw [LifecycleStore.contextsOf, contexts, LifecycleStore.contextsOf]

/-- A run whose attempts and contexts are those it had. -/
theorem RunLifecycle.congr {run : LifecycleRun} (h : RunLifecycle store run)
    (attempts : after.attemptsOf run.runId = store.attemptsOf run.runId)
    (contexts : after.contexts = store.contexts) : RunLifecycle after run where
  one_running := by rw [attempts]; exact h.one_running
  ordinals := by rw [attempts]; exact h.ordinals
  requested := h.requested
  budget := by rw [attempts]; exact h.budget
  cuts := by rw [attempts]; exact h.cuts
  released := by
    intro row hrow hended
    rw [contextsOf_congr contexts]
    rw [attempts] at hrow
    exact h.released row hrow hended
  selected := by rw [attempts]; exact h.selected
  closed := by rw [attempts]; exact h.closed

/-- A run that nothing has been attempted of. -/
theorem RunLifecycle.fresh {run : LifecycleRun} {request : RunRequestDefinition}
    (hattempts : store.attemptsOf run.runId = [])
    (hpayload : run.requestPayload = request.columns.payloadJson)
    (hunselected : run.selectedTerminalAttemptId = none) : RunLifecycle store run where
  one_running := by simp [hattempts]
  ordinals := by simp [hattempts]
  requested := ⟨request, hpayload⟩
  budget := by simp [hattempts]
  cuts := by simp [hattempts]
  released := by simp [hattempts]
  selected := by simp [hunselected]
  closed := by simp [hattempts]

/-! ## Claims and starts -/

/-- A run that had no running attempt starts one more. -/
theorem RunLifecycle.started {run : LifecycleRun} {row : AttemptRow}
    {request : RunRequestDefinition} (hrun : RunLifecycle store run)
    (payload : run.requestPayload = request.columns.payloadJson)
    (unselected : run.selectedTerminalAttemptId = none)
    (idle : ∀ other ∈ store.attemptsOf run.runId, other.status ≠ .running)
    (budget : (store.attemptsOf run.runId).length < request.executionPolicy.maxAttempts)
    (ordinal : row.ordinal = (store.attemptsOf run.runId).length + 1)
    (status : row.status = .running) (uncut : row.inputCutDigest = none)
    (attempts : after.attemptsOf run.runId = store.attemptsOf run.runId ++ [row])
    (contexts : after.contexts = store.contexts) : RunLifecycle after run where
  one_running := by
    have hnone : (store.attemptsOf run.runId).countP (·.status = .running) = 0 := by
      simpa [List.countP_eq_zero] using idle
    rw [attempts, List.countP_append, hnone]
    simp [status]
  ordinals := by
    rw [attempts, List.map_append, hrun.ordinals, List.map_singleton, ordinal,
      List.length_append, List.length_singleton, List.range'_concat]
    simp [Nat.add_comm]
  requested := ⟨request, payload⟩
  budget := by
    intro other hother
    rw [attempts, List.length_append, List.length_singleton,
      maxAttempts_of_payloadJson (hother.symm.trans payload)]
    exact budget
  cuts := by
    intro other hother hcut
    rw [attempts, List.mem_append, List.mem_singleton] at hother
    rcases hother with hold | rfl
    · exact hrun.cuts other hold hcut
    · exact absurd uncut hcut
  released := by
    intro other hother hended
    rw [attempts, List.mem_append, List.mem_singleton] at hother
    rw [contextsOf_congr contexts]
    rcases hother with hold | rfl
    · exact hrun.released other hold hended
    · exact absurd status hended
  selected := by simp [unselected]
  closed := by simp [unselected]

theorem LifecycleInvariant.claimed (h : LifecycleInvariant store) {row : LifecycleRun}
    {request : RunRequestDefinition}
    (fresh : ∀ run ∈ store.runs, run.runId ≠ row.runId)
    (payload : row.requestPayload = request.columns.payloadJson)
    (unselected : row.selectedTerminalAttemptId = none)
    (runs : after.runs = store.runs ++ [row]) (attempts : after.attempts = store.attempts)
    (contexts : after.contexts = store.contexts) : LifecycleInvariant after where
  runIds := by
    rw [runs, List.map_append, List.map_singleton, ← List.concat_eq_append]
    refine List.Nodup.concat ?_ h.runIds
    simpa using fresh
  attemptIds := by rw [attempts]; exact h.attemptIds
  owned := by
    intro other hother
    rw [attempts] at hother
    obtain ⟨run, hrun, hid⟩ := h.owned other hother
    exact ⟨run, by simp [runs, hrun], hid⟩
  run := by
    intro run hrun
    rw [runs, List.mem_append, List.mem_singleton] at hrun
    rcases hrun with hold | rfl
    · exact (h.run run hold).congr (attemptsOf_congr attempts _) contexts
    · refine .fresh ?_ payload unselected
      rw [attemptsOf_congr attempts, LifecycleStore.attemptsOf, List.filter_eq_nil_iff]
      intro other hother hid
      obtain ⟨owner, howner, howned⟩ := h.owned other hother
      exact fresh owner howner (howned.trans (of_decide_eq_true hid))

theorem LifecycleInvariant.started (h : LifecycleInvariant store) {run : LifecycleRun}
    {row : AttemptRow} {request : RunRequestDefinition} (mem : run ∈ store.runs)
    (runId : row.runId = run.runId)
    (payload : run.requestPayload = request.columns.payloadJson)
    (fresh : ∀ other ∈ store.attempts, other.attemptId ≠ row.attemptId)
    (unselected : run.selectedTerminalAttemptId = none)
    (idle : ∀ other ∈ store.attemptsOf run.runId, other.status ≠ .running)
    (budget : (store.attemptsOf run.runId).length < request.executionPolicy.maxAttempts)
    (ordinal : row.ordinal = (store.attemptsOf run.runId).length + 1)
    (status : row.status = .running) (uncut : row.inputCutDigest = none)
    (runs : after.runs = store.runs) (attempts : after.attempts = store.attempts ++ [row])
    (contexts : after.contexts = store.contexts) : LifecycleInvariant after where
  runIds := by rw [runs]; exact h.runIds
  attemptIds := by
    rw [attempts, List.map_append, List.map_singleton, ← List.concat_eq_append]
    refine List.Nodup.concat ?_ h.attemptIds
    simpa using fresh
  owned := by
    intro other hother
    rw [attempts, List.mem_append, List.mem_singleton] at hother
    rw [runs]
    rcases hother with hold | rfl
    · exact h.owned other hold
    · exact ⟨run, mem, runId.symm⟩
  run := by
    intro other hother
    rw [runs] at hother
    by_cases hid : other.runId = run.runId
    · obtain rfl := h.eq_of_runId hother mem hid
      refine (h.run other hother).started payload unselected idle budget ordinal status uncut ?_
        contexts
      simp [LifecycleStore.attemptsOf, attempts, runId]
    · refine (h.run other hother).congr ?_ contexts
      have hapart : row.runId ≠ other.runId := fun heq => hid (heq.symm.trans runId)
      simp [LifecycleStore.attemptsOf, attempts, hapart]

/-! ## Acquisitions and updates -/

theorem LifecycleInvariant.acquired (h : LifecycleInvariant store) {context : ReadContextRow}
    {row : AttemptRow} (mem : row ∈ store.attempts) (status : row.status = .running)
    (attemptId : context.attemptId = row.attemptId) (runs : after.runs = store.runs)
    (attempts : after.attempts = store.attempts)
    (contexts : after.contexts = store.contexts ++ [context]) : LifecycleInvariant after where
  runIds := by rw [runs]; exact h.runIds
  attemptIds := by rw [attempts]; exact h.attemptIds
  owned := by rw [runs, attempts]; exact h.owned
  run := by
    intro run hrun
    rw [runs] at hrun
    have hlifecycle := h.run run hrun
    have hattempts := attemptsOf_congr attempts run.runId
    constructor
    · rw [hattempts]
      exact hlifecycle.one_running
    · rw [hattempts]
      exact hlifecycle.ordinals
    · exact hlifecycle.requested
    · rw [hattempts]
      exact hlifecycle.budget
    · rw [hattempts]
      exact hlifecycle.cuts
    · intro other hother hended held hheld
      rw [hattempts] at hother
      rw [mem_contextsOf, contexts, List.mem_append, List.mem_singleton] at hheld
      rcases hheld with ⟨hold | rfl, hof⟩
      · exact hlifecycle.released other hother hended held (mem_contextsOf.mpr ⟨hold, hof⟩)
      · -- the attempt of an acquired context is running
        have hid : other.attemptId = row.attemptId := hof.2.symm.trans attemptId
        have heq := h.eq_of_attemptId (mem_attemptsOf.mp hother).1 mem hid
        rw [heq] at hended
        exact absurd status hended
    · rw [hattempts]
      exact hlifecycle.selected
    · rw [hattempts]
      exact hlifecycle.closed

/-- At most one item of a list satisfies what it counts once. -/
theorem eq_of_countP_le_one {α : Type} {items : List α} {p : α → Prop} [DecidablePred p]
    (hcount : items.countP p ≤ 1) {a b : α} (ha : a ∈ items) (hb : b ∈ items) (hpa : p a)
    (hpb : p b) : a = b := by
  rw [List.countP_eq_length_filter] at hcount
  have hmem : ∀ c ∈ items, p c → c ∈ items.filter p :=
    fun c hc hpc => List.mem_filter.mpr ⟨hc, decide_eq_true hpc⟩
  cases hfilter : items.filter p with
  | nil => simpa [hfilter] using hmem a ha hpa
  | cons first rest =>
    rw [hfilter, List.length_cons] at hcount
    have hrest : rest = [] := List.length_eq_zero_iff.mp (by omega)
    have hfirst : ∀ c ∈ items, p c → c = first := by
      intro c hc hpc
      simpa [hfilter, hrest] using hmem c hc hpc
    rw [hfirst a ha hpa, hfirst b hb hpb]

section Updates

variable {changes : Changes}

theorem AttemptKept.running {row changed : AttemptRow} (h : AttemptKept row changed)
    (hrunning : changed.status = .running) : row.status = .running := by
  by_contra hended
  rw [h.ended hended] at hrunning
  exact hended hrunning

theorem Updates.run_id (h : Updates changes store after) (run : LifecycleRun) :
    (changes.run run).runId = run.runId :=
  congrArg RunClaim.runId (h.run_claim run)

/-- The attempts of a run are the changed attempts that it had. -/
theorem Updates.attemptsOf (h : Updates changes store after) (runId : Result.Uuid) :
    after.attemptsOf runId = (store.attemptsOf runId).map changes.attempt := by
  have hsame : (fun row : AttemptRow => decide (row.runId = runId)) ∘ changes.attempt
      = fun row => decide (row.runId = runId) := by
    funext row
    simp only [Function.comp_apply, (h.attempt_kept row).runId]
  rw [LifecycleStore.attemptsOf, h.attempts, List.filter_map, hsame]
  rfl

/-- A run that selects its terminal attempt has no running attempt left. -/
theorem Updates.closed (h : Updates changes store after) (hinvariant : LifecycleInvariant store)
    {run : LifecycleRun} (hrun : run ∈ store.runs)
    (hselected : (changes.run run).selectedTerminalAttemptId ≠ none) {row : AttemptRow}
    (hrow : row ∈ store.attemptsOf run.runId) : (changes.attempt row).status ≠ .running := by
  intro hrunning
  have hbefore := (h.attempt_kept row).running hrunning
  rcases h.selection run hrun with ⟨hkept, -⟩ | ⟨-, selected, hmem, hof, hactive, -, hended, -⟩
  · rw [hkept] at hselected
    exact (hinvariant.run run hrun).closed hselected row hrow hbefore
  · have heq := eq_of_countP_le_one (hinvariant.run run hrun).one_running hrow
      (mem_attemptsOf.mpr ⟨hmem, hof⟩) hbefore hactive
    rw [heq] at hrunning
    exact hended hrunning

theorem RunLifecycle.updated (h : Updates changes store after)
    (hinvariant : LifecycleInvariant store) {run : LifecycleRun} (hrun : run ∈ store.runs) :
    RunLifecycle after (changes.run run) := by
  have hlifecycle := hinvariant.run run hrun
  have hattempts := h.attemptsOf run.runId
  have hpayload : (changes.run run).requestPayload = run.requestPayload :=
    congrArg RunClaim.requestPayload (h.run_claim run)
  constructor
  · rw [h.run_id, hattempts, List.countP_map]
    refine le_trans (List.countP_mono_left ?_) hlifecycle.one_running
    intro row _ hrunning
    rw [Function.comp_apply, decide_eq_true_eq] at hrunning
    exact decide_eq_true ((h.attempt_kept row).running hrunning)
  · rw [h.run_id, hattempts, List.map_map, List.length_map, ← hlifecycle.ordinals]
    exact List.map_congr_left fun row _ => (h.attempt_kept row).ordinal
  · rw [hpayload]
    exact hlifecycle.requested
  · rw [h.run_id, hattempts, List.length_map, hpayload]
    exact hlifecycle.budget
  · intro row hrow hcut
    rw [h.run_id, hattempts, List.mem_map] at hrow
    obtain ⟨before, hbefore, rfl⟩ := hrow
    have hmem := mem_attemptsOf.mp hbefore
    rcases h.cut run hrun before hmem.1 hmem.2 with hkept | hbound
    · rw [hkept] at hcut ⊢
      have hsame := hlifecycle.cuts before hbefore hcut
      rw [h.run_cut run hrun (hsame ▸ hcut)]
      exact hsame
    · exact hbound
  · intro row hrow hended context hcontext
    rw [h.run_id, hattempts, List.mem_map] at hrow
    obtain ⟨before, hbefore, rfl⟩ := hrow
    have hmem := mem_attemptsOf.mp hbefore
    rw [mem_contextsOf, h.contexts, List.mem_map] at hcontext
    obtain ⟨⟨held, hheld, rfl⟩, hrunId, hattemptId⟩ := hcontext
    have hkept := h.context_kept held
    rw [hkept.runId, h.run_id] at hrunId
    rw [hkept.attemptId, (h.attempt_kept before).attemptId] at hattemptId
    by_cases hrunning : before.status = .running
    · exact h.released before hmem.1 hrunning hended held hheld (hrunId.trans hmem.2.symm)
        hattemptId
    · intro hactive
      exact hlifecycle.released before hbefore hrunning held
        (mem_contextsOf.mpr ⟨hheld, hrunId, hattemptId⟩) (hkept.active hactive)
  · intro attemptId hselected
    rw [h.run_id, hattempts]
    rcases h.selection run hrun with ⟨hkept, hoperation⟩ | ⟨-, row, hmem, hof, -, hof', hended, hop⟩
    · rw [hkept] at hselected
      obtain ⟨row, hrow, hid, hended, operationId, hend, hterminal⟩ :=
        hlifecycle.selected attemptId hselected
      refine ⟨row, List.mem_map.mpr ⟨row, hrow, (h.attempt_kept row).ended hended⟩, hid, hended,
        operationId, hend, hoperation.trans hterminal⟩
    · rw [hof', Option.some.injEq] at hselected
      exact ⟨changes.attempt row, List.mem_map_of_mem (mem_attemptsOf.mpr ⟨hmem, hof⟩),
        (h.attempt_kept row).attemptId.trans hselected, hended, hop⟩
  · intro hselected row hrow
    rw [h.run_id, hattempts, List.mem_map] at hrow
    obtain ⟨before, hbefore, rfl⟩ := hrow
    exact h.closed hinvariant hrun hselected hbefore

theorem LifecycleInvariant.updated (hinvariant : LifecycleInvariant store)
    (h : Updates changes store after) : LifecycleInvariant after where
  runIds := by
    have hids : after.runs.map (·.runId) = store.runs.map (·.runId) := by
      rw [h.runs, List.map_map]
      exact List.map_congr_left fun run _ => h.run_id run
    rw [hids]
    exact hinvariant.runIds
  attemptIds := by
    have hids : after.attempts.map (·.attemptId) = store.attempts.map (·.attemptId) := by
      rw [h.attempts, List.map_map]
      exact List.map_congr_left fun row _ => (h.attempt_kept row).attemptId
    rw [hids]
    exact hinvariant.attemptIds
  owned := by
    intro row hrow
    rw [h.attempts, List.mem_map] at hrow
    obtain ⟨before, hbefore, rfl⟩ := hrow
    obtain ⟨run, hrun, hid⟩ := hinvariant.owned before hbefore
    refine ⟨changes.run run, by simpa [h.runs] using ⟨run, hrun, rfl⟩, ?_⟩
    rw [h.run_id, (h.attempt_kept before).runId, hid]
  run := by
    intro run hrun
    rw [h.runs, List.mem_map] at hrun
    obtain ⟨before, hbefore, rfl⟩ := hrun
    exact .updated h hinvariant hbefore

/-- An update keeps the first cut of a run, and a run that has selected its terminal attempt
as it is. -/
theorem Updates.continues (h : Updates changes store after)
    (hinvariant : LifecycleInvariant store) : Continues store after := by
  intro run hrun
  refine ⟨changes.run run, by simpa [h.runs] using ⟨run, hrun, rfl⟩, h.run_id run,
    h.run_cut run hrun, ?_⟩
  intro hselected
  rcases h.selection run hrun with ⟨hkept, hoperation⟩ | ⟨hnone, -⟩
  · refine ⟨hkept, hoperation, ?_⟩
    rw [h.attemptsOf]
    refine (List.map_congr_left fun row hrow => ?_).trans (List.map_id _)
    exact (h.attempt_kept row).ended ((hinvariant.run run hrun).closed hselected row hrow)
  · exact absurd hnone hselected

end Updates

/-! ## Steps and runs -/

theorem LifecycleChange.preserves (h : LifecycleChange store after)
    (hinvariant : LifecycleInvariant store) : LifecycleInvariant after := by
  cases h with
  | claimed row request fresh payload uncut unselected runs attempts contexts =>
    exact hinvariant.claimed fresh payload unselected runs attempts contexts
  | started run row request mem runId payload fresh unselected idle budget ordinal status uncut
      runs attempts contexts =>
    exact hinvariant.started mem runId payload fresh unselected idle budget ordinal status uncut
      runs attempts contexts
  | acquired context row mem status attemptId runs attempts contexts =>
    exact hinvariant.acquired mem status attemptId runs attempts contexts
  | updated changes updates => exact hinvariant.updated updates

theorem LifecycleChange.continues (h : LifecycleChange store after)
    (hinvariant : LifecycleInvariant store) : Continues store after := by
  cases h with
  | claimed row request fresh payload uncut unselected runs attempts contexts =>
    intro run hrun
    exact ⟨run, by simp [runs, hrun], rfl, fun _ => rfl,
      fun _ => ⟨rfl, rfl, attemptsOf_congr attempts _⟩⟩
  | started run row request mem runId payload fresh unselected idle budget ordinal status uncut
      runs attempts contexts =>
    intro other hother
    refine ⟨other, by rwa [runs], rfl, fun _ => rfl, fun hselected => ⟨rfl, rfl, ?_⟩⟩
    have hapart : row.runId ≠ other.runId := by
      intro heq
      obtain rfl := hinvariant.eq_of_runId hother mem (heq.symm.trans runId)
      exact hselected unselected
    simp [LifecycleStore.attemptsOf, attempts, hapart]
  | acquired context row mem status attemptId runs attempts contexts =>
    intro run hrun
    exact ⟨run, by rwa [runs], rfl, fun _ => rfl,
      fun _ => ⟨rfl, rfl, attemptsOf_congr attempts _⟩⟩
  | updated changes updates => exact updates.continues hinvariant

/-- Time passes. -/
theorem LifecycleChange.passes (h : LifecycleChange store after) (now : Instant) :
    LifecycleChange store { after with now := now } := by
  cases h with
  | claimed row request fresh payload uncut unselected runs attempts contexts =>
    exact .claimed row request fresh payload uncut unselected runs attempts contexts
  | started run row request mem runId payload fresh unselected idle budget ordinal status uncut
      runs attempts contexts =>
    exact .started run row request mem runId payload fresh unselected idle budget ordinal status
      uncut runs attempts contexts
  | acquired context row mem status attemptId runs attempts contexts =>
    exact .acquired context row mem status attemptId runs attempts contexts
  | updated changes updates => exact .updated changes { updates with }

/-- A transaction, committed or rolled back, is one of the changes. -/
theorem transact_change (evidence : LifecycleEvidence) (hinvariant : LifecycleInvariant store)
    (request : LifecycleTransaction × Elapsed) :
    LifecycleChange store (transact evidence store request) := by
  unfold transact
  cases hexecute : request.1.execute evidence (request.2.clock store.now) store with
  | error refusal =>
    simp only [hexecute]
    exact LifecycleChange.refl.passes _
  | ok committed =>
    simp only [hexecute]
    exact (execute_change request.1 hinvariant.runIds hexecute).passes _

theorem LifecycleInvariant.empty (now : Instant) : LifecycleInvariant (.empty now) where
  runIds := List.nodup_nil
  attemptIds := List.nodup_nil
  owned := by simp [LifecycleStore.empty]
  run := by simp [LifecycleStore.empty]

theorem transactAll_preserves (evidence : LifecycleEvidence)
    (hinvariant : LifecycleInvariant store) (history : List (LifecycleTransaction × Elapsed)) :
    LifecycleInvariant (transactAll evidence store history) ∧
      Continues store (transactAll evidence store history) := by
  induction history generalizing store with
  | nil => exact ⟨hinvariant, .refl store⟩
  | cons request rest ih =>
    have hchange := transact_change evidence hinvariant request
    obtain ⟨hlast, hcontinues⟩ := ih (hchange.preserves hinvariant)
    exact ⟨hlast, (hchange.continues hinvariant).trans hcontinues⟩

theorem transactAll_append (evidence : LifecycleEvidence) (store : LifecycleStore)
    (history later : List (LifecycleTransaction × Elapsed)) :
    transactAll evidence store (history ++ later)
      = transactAll evidence (transactAll evidence store history) later :=
  List.foldl_append

/-- Whatever transactions have been asked for, in any order, every run has its invariant, and
whatever follows keeps its first cut, its selection and the attempts it has then. -/
theorem run_lifecycle (evidence : LifecycleEvidence) (start : Instant)
    (history later : List (LifecycleTransaction × Elapsed)) :
    LifecycleInvariant (transactAll evidence (.empty start) history) ∧
      Continues (transactAll evidence (.empty start) history)
        (transactAll evidence (.empty start) (history ++ later)) := by
  have hreached := (transactAll_preserves evidence (.empty start) history).1
  refine ⟨hreached, ?_⟩
  rw [transactAll_append]
  exact (transactAll_preserves evidence hreached later).2

end ForensicData.Persistence
