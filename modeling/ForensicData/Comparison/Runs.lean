/-
ForensicData.Comparison.Runs — whole runs of the engine.

When the work loop ends with nothing pending, every check on the way to the
artifact passes: `ensures_completeComparison` says what the artifact holds
(`Completes`). `ensures_comparisonRun` is the run from the first check
to the end. Results about a run instantiate it: with what they know of the
connectors' answers, with what every round of the loop keeps, and with the
causes that may stop the run.
-/
import ForensicData.Comparison.EngineTheorems

namespace ForensicData.Comparison

open ForensicData.Canonical
open ForensicData.Lib
open ForensicData.Lib.Generator
open ForensicData.Result

variable {budgets : ExecutionBudgets} {Body : Type} {inputs : ComparisonInputs Body}
  {sources : Sources budgets} {inv : Progress Body → Prop} {fail : Cause → Prop}
  {world : World budgets} {knowledge : Knowledge} {reference target : KeySummary}
  {state : LoopState Body}

/-! ## The input checks -/

theorem contextStableReadLevel_error (hfail : FailureSet inputs sources fail)
    {context : ReadContext} {active : Bool} {cause : Cause}
    (h : contextStableReadLevel context active = .error cause) : fail cause := by
  unfold contextStableReadLevel at h
  split at h
  · simp at h
  · split at h
    · split at h
      · simp at h
      · rw [← Except.error.inj h]
        exact hfail.protocol _
    · simp at h

theorem validateInputs_error (hfail : FailureSet inputs sources fail) {cause : Cause}
    (h : validateInputs inputs sources = .error cause) : fail cause := by
  unfold validateInputs at h
  obtain hcheck | ⟨_, -, h⟩ := bind_eq_error.mp h
  · exact hfail.checkClosure _ hcheck
  obtain hactive | ⟨_, -, h⟩ := bind_eq_error.mp h
  · rw [causeIf_eq_error hactive]
    exact hfail.protocol _
  obtain hactive | ⟨_, -, h⟩ := bind_eq_error.mp h
  · rw [causeIf_eq_error hactive]
    exact hfail.protocol _
  obtain hlevel | ⟨_, -, h⟩ := bind_eq_error.mp h
  · exact contextStableReadLevel_error hfail hlevel
  obtain hlevel | ⟨_, -, h⟩ := bind_eq_error.mp h
  · exact contextStableReadLevel_error hfail hlevel
  obtain hrelation | ⟨_, -, h⟩ := bind_eq_error.mp h
  · exact hfail.relationClosure _ hrelation
  obtain hids | ⟨_, -, h⟩ := bind_eq_error.mp h
  · rw [causeIf_eq_error hids]
    exact hfail.protocol _
  obtain hdataset | ⟨_, -, h⟩ := bind_eq_error.mp h
  · exact hfail.datasetClosure _ hdataset
  obtain hscans | ⟨_, -, h⟩ := bind_eq_error.mp h
  · rw [causeIf_eq_error hscans]
    exact hfail.budget _
  obtain hscope | ⟨_, -, h⟩ := bind_eq_error.mp h
  · exact hfail.scopeClosure _ hscope
  simp only [comparisonMaxEncodedRowBytes] at h
  split at h
  · rw [← Except.error.inj h]
    exact hfail.budget _
  · simp at h

/-- Once the inputs are accepted, the two contexts are distinct and their
consistency levels are known. -/
structure ContextsAccepted (sources : Sources budgets) : Prop where
  distinct : sources.contextId .reference ≠ sources.contextId .target
  levels : ∀ side active, ∃ level, contextStableReadLevel (sources.context side) active = .ok level

theorem validateInputs_contexts {maxEncodedRowBytes : ℕ}
    (h : validateInputs inputs sources = .ok maxEncodedRowBytes) : ContextsAccepted sources := by
  unfold validateInputs at h
  obtain ⟨-, h⟩ := bind_unit_eq_ok.mp h
  obtain ⟨hreference, h⟩ := bind_unit_eq_ok.mp h
  obtain ⟨htarget, h⟩ := bind_unit_eq_ok.mp h
  obtain ⟨referenceLevel, hrlevel, h⟩ := bind_eq_ok.mp h
  obtain ⟨targetLevel, htlevel, h⟩ := bind_eq_ok.mp h
  obtain ⟨-, h⟩ := bind_unit_eq_ok.mp h
  obtain ⟨hids, -⟩ := bind_unit_eq_ok.mp h
  rw [causeIf_eq_ok, Bool.not_eq_false] at hreference htarget
  rw [hreference] at hrlevel
  rw [htarget] at htlevel
  refine ⟨causeIf_eq_ok.mp hids, fun side active => ?_⟩
  cases active with
  | false => exact ⟨.unknown, by simp [contextStableReadLevel]⟩
  | true =>
    cases side with
    | reference => exact ⟨_, hrlevel⟩
    | target => exact ⟨_, htlevel⟩

/-! ## Stable reads -/

theorem comparisonStableReadLevel_error (hfail : FailureSet inputs sources fail)
    {replyCount : ℕ} {readsEstablished : Bool} {cause : Cause}
    (h : comparisonStableReadLevel sources replyCount readsEstablished = .error cause) :
    fail cause := by
  unfold comparisonStableReadLevel at h
  split at h
  · simp at h
  · obtain hreference | ⟨_, -, h⟩ := bind_eq_error.mp h
    · exact contextStableReadLevel_error hfail hreference
    obtain htarget | ⟨_, -, h⟩ := bind_eq_error.mp h
    · exact contextStableReadLevel_error hfail htarget
    split at h
    · simp [pure, Except.pure] at h
    · split at h <;> simp [pure, Except.pure] at h

/-- A completed comparison has verified or asserted stable reads. -/
theorem ensures_completedStableReadLevel (hfail : FailureSet inputs sources fail)
    {post : ConsistencyLevel → World budgets → Prop}
    (hpost : ∀ level, level = .asserted ∨ level = .verified → post level world) :
    Ensures inv (fun cause _ => fail cause) (@completedStableReadLevel budgets Body sources) world
      post := by
  simp only [completedStableReadLevel, ensures_bind, ensures_pure]
  refine ensures_act.mpr ⟨fun _ _ => ?_, fun cause h => by simp at h⟩
  refine ensures_lift_of (fun cause h => comparisonStableReadLevel_error hfail h) fun level _ => ?_
  refine ensures_refuseWhen (hfail.protocol _) fun hknown => hpost level ?_
  cases level with
  | verified => exact .inr rfl
  | asserted => exact .inl rfl
  | unknown => exact absurd rfl hknown

/-! ## The end of the loop -/

/-- Sorting segments that are numbered without a gap puts them in their places. -/
theorem orderedTopology_sequences {topology : List ComparisonSegmentRecord}
    (hnumbered : (topology.map (·.segmentSequence)).Perm (List.range topology.length)) :
    (orderedTopology topology).map (·.segmentSequence) = List.range topology.length := by
  have hperm := List.perm_insertionSort
    (fun a b : ComparisonSegmentRecord => a.segmentSequence ≤ b.segmentSequence) topology
  refine List.Perm.eq_of_sortedLE ?_ List.pairwise_le_range.sortedLE ((hperm.map _).trans hnumbered)
  refine List.Pairwise.sortedLE (List.pairwise_map.mpr ?_)
  exact List.pairwise_insertionSort
    (fun a b : ComparisonSegmentRecord => a.segmentSequence ≤ b.segmentSequence) topology

/-- A finished loop has no open range. -/
theorem LoopInv.finished (h : LoopInv inputs knowledge reference target state world)
    (hdone : state.pending = []) :
    Frontier (rootSegment reference target) state.progress.topology [] := by
  have hpending := h.pending_perm
  rw [hdone, List.perm_nil] at hpending
  have := h.sound.frontier
  rwa [hpending] at this

theorem LoopInv.sequences (h : LoopInv inputs knowledge reference target state world)
    (hdone : state.pending = []) :
    (orderedTopology state.progress.topology).map (·.segmentSequence)
      = List.range state.progress.topology.length := by
  refine orderedTopology_sequences ?_
  have := (h.finished hdone).numbered
  simpa [places, List.map_map, Function.comp_def] using this

/-- A terminal segment is a match or an exact leaf. -/
theorem terminalRecords_length (topology : List ComparisonSegmentRecord) :
    (terminalRecords topology).length
      = (matchRecords topology).length + (exactRecords topology).length := by
  induction topology with
  | nil => rfl
  | cons record topology ih =>
    have hstate : (if record.state.isTerminal = true then 1 else 0)
        = (if record.state = .fingerprintMatch then 1 else 0)
          + (if record.state.isExact = true then 1 else 0) := by
      cases record.state <;> rfl
    simp only [terminalRecords, matchRecords, exactRecords, ← List.countP_eq_length_filter,
      List.countP_cons, decide_eq_true_eq] at ih ⊢
    omega

/-- Some segment of a finished loop is a match or an exact leaf: the root range
is not empty. -/
theorem LoopInv.resolved_pos (h : LoopInv inputs knowledge reference target state world)
    (hdone : state.pending = []) :
    0 < state.progress.prunedSegments + state.progress.exactSegments := by
  have hfrontier := h.finished hdone
  rw [h.sound.accounts.pruned_segments, h.sound.accounts.exact_segments, ← terminalRecords_length,
    List.length_pos_iff]
  intro hnone
  have hone := hfrontier.tiles (rootSegment reference target).lowerInclusive
  have hself : (rootSegment reference target).covers
      (rootSegment reference target).lowerInclusive = true := by
    refine inRange_eq_true.mpr ⟨le_refl _, fun upper hupper => ?_⟩
    exact ((rootSegment_bounds reference target).upper_int64 upper hupper).2
  rw [hself] at hone
  simp [openPlaces, hnone] at hone

/-! ## The completed artifact -/

/-- What the artifact of a finished loop holds. -/
structure Completes (inputs : ComparisonInputs Body) (sources : Sources budgets)
    (reference target : KeySummary) (state : LoopState Body)
    (artifact : CompletedComparisonArtifact inputs.recordBytes) (now : World budgets) : Prop where
  identity : artifact.checkId = inputs.checkId ∧ artifact.contractDigest = inputs.contractDigest ∧
    artifact.scopeDigest = inputs.scopeDigest ∧ artifact.inputCutDigest = inputs.inputCutDigest
  verdict_eq : artifact.verdict
    = if state.progress.completedCounts.differences = 0 then .match else .mismatch
  consistency : (artifact.consistency.stableReads = .asserted ∨
      artifact.consistency.stableReads = .verified) ∧
    artifact.consistency.cutAlignment = .verified ∧
    artifact.consistency.readContextIds
      = [sources.contextId .reference, sources.contextId .target]
  totals_eq : artifact.totals.matched.value = some state.progress.completedCounts.matched ∧
    artifact.totals.missing.value = some state.progress.completedCounts.missing ∧
    artifact.totals.extra.value = some state.progress.completedCounts.extra ∧
    artifact.totals.modified.value = some state.progress.completedCounts.modified
  guarantee_eq : artifact.guarantee
    = if 0 < state.progress.prunedSegments then .fingerprint else .exact
  totals_of : comparisonTotals state.progress.completedCounts artifact.guarantee
    = .ok artifact.totals
  coverage_eq : ∃ h, artifact.comparisonCoverage
    = .complete state.progress.prunedSegments state.progress.exactSegments h
  evidence_eq : artifact.evidenceCoverage.foundRecords = state.progress.foundRecords ∧
    artifact.evidenceCoverage.retainedRecords = state.progress.anomalies.length ∧
    artifact.evidenceCoverage.foundBytes = state.progress.foundBytes ∧
    artifact.evidenceCoverage.retainedBytes = state.progress.retainedBytes
  metrics_eq : ∃ usage, Usage.Snapshot sources state.usage usage now 0
      state.usage.coordinatorPeakBytes ∧
    artifact.metrics = usage.metrics ∧ artifact.referenceFullScans = usage.referenceFullScans ∧
    artifact.targetFullScans = usage.targetFullScans
  reasons_eq : artifact.reasons = comparisonReasons state.progress.completedCounts
  segments_eq : artifact.segments = orderedTopology state.progress.topology
  anomalies_eq : artifact.anomalies = state.progress.anomalies
  summaries_eq : artifact.referenceKeySummary = reference ∧ artifact.targetKeySummary = target

theorem ensures_completeComparison (hfail : FailureSet inputs sources fail)
    (hinv : ∀ p, Sound budgets inputs.recordBytes knowledge (rootSegment reference target) 0 p →
      inv p)
    (hcontexts : sources.contextId .reference ≠ sources.contextId .target)
    (h : LoopInv inputs knowledge reference target state world) (hdone : state.pending = [])
    {post : CompletedComparisonArtifact inputs.recordBytes → World budgets → Prop}
    (hpost : ∀ artifact now, world.Quiet now →
      Completes inputs sources reference target state artifact now → post artifact now) :
    Ensures inv (fun cause _ => fail cause)
      (completeComparison inputs sources reference target state) world post := by
  simp only [completeComparison, ensures_bind, ensures_yield]
  have hsequences := h.sequences hdone
  have hlength : (orderedTopology state.progress.topology).length
      = state.progress.topology.length := (List.perm_insertionSort _ _).length_eq
  refine ensures_refuseWhen (hfail.protocol _) fun _ => ?_
  obtain ⟨totals, htotals, hvalues⟩ : ∃ totals, comparisonTotals state.progress.completedCounts
      (if 0 < state.progress.prunedSegments then .fingerprint else .exact) = .ok totals ∧
      totals.matched.value = some state.progress.completedCounts.matched ∧
      totals.missing.value = some state.progress.completedCounts.missing ∧
      totals.extra.value = some state.progress.completedCounts.extra ∧
      totals.modified.value = some state.progress.completedCounts.modified := by
    split
    · exact ⟨_, rfl, rfl, rfl, rfl, rfl⟩
    · exact ⟨_, rfl, rfl, rfl, rfl, rfl⟩
  refine ensures_liftRefusal htotals ?_
  refine ensures_requireDeadline hfail fun w1 hq1 => ?_
  refine ensures_consumeSourceUsage fun usage w2 hq2 hsnapshot => ?_
  refine ⟨hinv _ (h.sound.withUsage usage), ?_⟩
  refine ensures_refuseWhen (hfail.protocol _) fun _ => ?_
  refine ensures_completedStableReadLevel hfail fun level hlevel => ?_
  have hids : [sources.contextId .reference, sources.contextId .target].Nodup := by
    simpa using hcontexts
  refine ensures_liftRefusal (ConsistencyStatus.make_of_nodup hids) ?_
  refine ensures_liftRefusal (ComparisonCoverage.make_complete (h.resolved_pos hdone)) ?_
  have hevidence := h.sound.evidence
  refine ensures_liftRefusal
    (EvidenceCoverage.make_of_le hevidence.length_le hevidence.bytes_le) ?_
  have hnonempty : orderedTopology state.progress.topology ≠ [] := by
    intro hnil
    have hpos := h.resolved_pos hdone
    have hroot := (h.finished hdone).root_mem
    rw [hnil, List.length_nil] at hlength
    simp [places, List.eq_nil_of_length_eq_zero hlength.symm] at hroot
  have hmismatch : ∀ anomaly ∈ state.progress.anomalies,
      InExactMismatch (orderedTopology state.progress.topology) anomaly := by
    intro anomaly hanomaly
    obtain ⟨segment, hsegment, hfacts⟩ := hevidence.in_mismatch anomaly hanomaly
    exact ⟨segment, (List.perm_insertionSort _ _).symm.subset hsegment, hfacts⟩
  have hnodes : usage.fingerprintNodes = (orderedTopology state.progress.topology).length := by
    rw [hsnapshot.nodes_eq, Nat.add_zero, h.nodes_eq, hlength]
  have hestablished : (if 0 < state.progress.prunedSegments then Guarantee.fingerprint else .exact)
      = .exact ∨ (if 0 < state.progress.prunedSegments then Guarantee.fingerprint else .exact)
        = .fingerprint := by
    split
    · exact .inr rfl
    · exact .inl rfl
  refine ensures_liftRefusal_exists (CompletedComparisonArtifact.make_of hestablished hnonempty ?_
    ⟨hevidence.numbered, rfl, hevidence.retained_eq⟩ hmismatch hnodes) fun artifact hartifact => ?_
  · rw [hsequences, hlength]
  have hfields := CompletedComparisonArtifact.make_eq_ok hartifact
  rw [CompletedFields.mk.injEq] at hfields
  obtain ⟨hcheck, hcontract, hscope, hcut, hverdict, hconsistency, hguarantee, hcoverage, htotal,
    hevi, hmetrics, hreasons, hsegments, hanomalies, hreference, htarget, hrscans, htscans⟩ := hfields
  refine hpost artifact w2 (hq1.trans hq2) ?_
  exact
    { identity := ⟨hcheck.symm, hcontract.symm, hscope.symm, hcut.symm⟩
      verdict_eq := hverdict.symm
      consistency := by
        rw [← hconsistency]
        exact ⟨hlevel, rfl, rfl⟩
      totals_eq := by
        rw [← htotal]
        exact hvalues
      guarantee_eq := hguarantee.symm
      totals_of := by
        rw [← hguarantee, ← htotal]
        exact htotals
      coverage_eq := ⟨h.resolved_pos hdone, hcoverage.symm⟩
      evidence_eq := by
        rw [← hevi]
        exact ⟨rfl, rfl, rfl, rfl⟩
      metrics_eq := ⟨usage, hsnapshot, hmetrics.symm, hrscans.symm, htscans.symm⟩
      reasons_eq := hreasons.symm
      segments_eq := hsegments.symm
      anomalies_eq := hanomalies.symm
      summaries_eq := ⟨hreference.symm, htarget.symm⟩ }

/-! ## Structural artifacts -/

theorem CompletedStructuralComparisonArtifact.make_of {checkId : NonblankText}
    {contractDigest scopeDigest inputCutDigest : Sha256Hex} {consistency : ConsistencyStatus}
    {metrics : ResultMetrics} {reason : ResultReason} {referenceFullScans targetFullScans : ℕ}
    (stable : consistency.stableReads = .asserted ∨ consistency.stableReads = .verified)
    (aligned : consistency.cutAlignment = .verified)
    (two_contexts : consistency.readContextIds.length = 2)
    (both_summaries : 2 ≤ metrics.queries ∧ 2 ≤ metrics.fetchedRecords ∧
      metrics.fingerprintNodes = 0)
    (reference_mapped : reference.invalidKeyCount = 0) (target_mapped : target.invalidKeyCount = 0)
    (reason_eq : structuralContractViolationReason reference target = some reason) :
    ∃ artifact, CompletedStructuralComparisonArtifact.make checkId contractDigest scopeDigest
      inputCutDigest consistency metrics reason reference target referenceFullScans targetFullScans
        = .ok artifact := by
  rw [CompletedStructuralComparisonArtifact.make, dif_pos stable, dif_pos aligned,
    dif_pos two_contexts, dif_pos both_summaries, dif_pos reference_mapped, dif_pos target_mapped,
    dif_pos reason_eq]
  exact ⟨_, rfl⟩

theorem ensures_completedStructuralArtifact (hfail : FailureSet inputs sources fail)
    (hcontexts : sources.contextId .reference ≠ sources.contextId .target) {usage : Usage}
    {reason : ResultReason}
    (hcharged : (2 ≤ usage.queries ∧ 2 ≤ usage.fetchedRecords) ∨ ∀ cause, fail cause)
    (hnodes : usage.fingerprintNodes = 0)
    (hmapped : reference.invalidKeyCount = 0 ∧ target.invalidKeyCount = 0)
    (hreason : structuralContractViolationReason reference target = some reason)
    {post : CompletedStructuralComparisonArtifact → World budgets → Prop}
    (hpost : ∀ artifact, post artifact world) :
    Ensures inv (fun cause _ => fail cause)
      (completedStructuralArtifact inputs sources reference target usage reason) world post := by
  simp only [completedStructuralArtifact, ensures_bind]
  refine ensures_completedStableReadLevel hfail fun level hlevel => ?_
  have hids : [sources.contextId .reference, sources.contextId .target].Nodup := by
    simpa using hcontexts
  refine ensures_liftRefusal (ConsistencyStatus.make_of_nodup hids) ?_
  cases hcharged with
  | inl hcharged =>
    refine ensures_liftRefusal_exists (CompletedStructuralComparisonArtifact.make_of hlevel rfl rfl
      ⟨hcharged.1, hcharged.2, hnodes⟩ hmapped.1 hmapped.2 hreason) fun artifact _ => ?_
    exact hpost artifact
  | inr hall =>
    exact ensures_lift_of (fun cause _ => hall cause) fun artifact _ => hpost artifact

/-! ## The whole run -/

theorem SummariesRead.quiet {maxEncodedRowBytes : ℕ} {progress : Progress Body}
    {now : World budgets}
    (h : SummariesRead inputs sources knowledge maxEncodedRowBytes reference target progress world)
    (hquiet : world.Quiet now) :
    SummariesRead inputs sources knowledge maxEncodedRowBytes reference target progress now where
  answered := h.answered
  reference_known := h.reference_known
  target_known := h.target_known
  loop :=
    { h.loop with
      received := by
        rw [hquiet.1]
        exact h.loop.received }
  topology_nil := h.topology_nil
  replies_eq := hquiet.2.trans h.replies_eq
  charged := by
    rw [hquiet.1]
    exact h.charged

theorem initialProgress_fresh (sources : Sources budgets) :
    (sources.initialProgress Body).Fresh :=
  ⟨rfl, rfl, rfl, rfl, ⟨rfl, rfl⟩, rfl, rfl, rfl, ⟨rfl, rfl⟩, rfl⟩

/-- Where a comparison stands before its work loop: its key summaries already
break the contract, or its root range is to be drilled down. -/
inductive BeforeLoop (Body : Type) where
  | structural (artifact : CompletedStructuralComparisonArtifact)
  | comparable (maxEncodedRowBytes : ℕ) (reference target : KeySummary) (progress : Progress Body)

/-- `_execute_postgres_integer_key_comparison` up to its work loop. -/
def beforeLoop (inputs : ComparisonInputs Body) (sources : Sources budgets)
    (progress : Progress Body) : Engine budgets Body (BeforeLoop Body) := do
  let maxEncodedRowBytes ← lift (validateInputs inputs sources)
  requireDeadline sources
  let (reference, target, progress) ← readSummaries inputs sources maxEncodedRowBytes progress
  requireDeadline sources
  let contractViolationReason := structuralContractViolationReason reference target
  let usage := progress.usage
  refuseWhen (0 < reference.invalidKeyCount ∨ 0 < target.invalidKeyCount)
    { refusal :=
        { error := .comparisonKeyMappingError
          message := s!"scoped integer-key validation found physical values that cannot map losslessly to logical INT64: reference_invalid={reference.invalidKeyCount}, target_invalid={target.invalidKeyCount}" }
      completion := none
      keyMapping := some
        { referenceSummary := reference, targetSummary := target, metrics := usage.metrics
          referenceFullScans := usage.referenceFullScans
          targetFullScans := usage.targetFullScans, contractViolationReason } }
  match contractViolationReason with
  | some reason => do
    let usage ← consumeSourceUsage sources usage 0 usage.coordinatorPeakBytes
    yield { progress with usage }
    let artifact ← completedStructuralArtifact inputs sources reference target usage reason
    return .structural artifact
  | none => do
    lift (checkComparable inputs reference target)
    return .comparable maxEncodedRowBytes reference target progress

/-- The loop's first state. -/
def rootState (reference target : KeySummary) (progress : Progress Body) : LoopState Body where
  pending := [rootSegment reference target]
  usage := progress.usage
  progress := progress

/-- The rest of a comparison, with a bound on the rounds of its loop. -/
def fromLoop (inputs : ComparisonInputs Body) (sources : Sources budgets) (fuel : ℕ) :
    BeforeLoop Body → Engine budgets Body (ComparisonOutcome inputs.recordBytes)
  | .structural artifact => return .structural artifact
  | .comparable maxEncodedRowBytes reference target progress => do
    let state ← workLoop inputs sources maxEncodedRowBytes reference target fuel
      (rootState reference target progress)
    let artifact ← completeComparison inputs sources reference target state
    return .completed artifact

theorem executePostgresIntegerKeyComparison_eq (progress : Progress Body) :
    executePostgresIntegerKeyComparison inputs sources progress
      = beforeLoop inputs sources progress >>=
          fromLoop inputs sources (budgets.maxFingerprintNodes + 1) := by
  simp only [executePostgresIntegerKeyComparison, beforeLoop, bind_assoc]
  refine bind_congr fun maxEncodedRowBytes => bind_congr fun _ => bind_congr fun read =>
    bind_congr fun _ => bind_congr fun _ => ?_
  obtain ⟨reference, target, progress⟩ := read
  cases hreason : structuralContractViolationReason reference target with
  | some reason => simp only [bind_assoc, pure_bind, fromLoop]
  | none => simp only [bind_assoc, pure_bind, fromLoop, rootState]

/-- How a run came to its completed artifact: `state` and `last` are those at
the end of the work loop. -/
structure CompletedRun (inputs : ComparisonInputs Body) (sources : Sources budgets)
    (knowledge : Knowledge) (kept : KeySummary → KeySummary → LoopState Body → World budgets → Prop)
    (maxEncodedRowBytes : ℕ) (reference target : KeySummary) (state : LoopState Body)
    (last : World budgets) (artifact : CompletedComparisonArtifact inputs.recordBytes)
    (now : World budgets) : Prop where
  answered : SummariesAnswered inputs sources maxEncodedRowBytes reference target
  reference_known : knowledge.summary .reference reference
  target_known : knowledge.summary .target target
  mapped : reference.invalidKeyCount = 0 ∧ target.invalidKeyCount = 0
  unique : reference.uniqueKeys = true ∧ target.uniqueKeys = true
  loop : LoopInv inputs knowledge reference target state last
  done : state.pending = []
  kept_last : kept reference target state last
  quiet : last.Quiet now
  completes : Completes inputs sources reference target state artifact now

/-- What a comparison knows when its work loop starts. -/
structure Comparable (inputs : ComparisonInputs Body) (sources : Sources budgets)
    (knowledge : Knowledge) (maxEncodedRowBytes : ℕ) (reference target : KeySummary)
    (progress : Progress Body) (now : World budgets) : Prop where
  read : SummariesRead inputs sources knowledge maxEncodedRowBytes reference target progress now
  contexts : sources.contextId .reference ≠ sources.contextId .target
  mapped : reference.invalidKeyCount = 0 ∧ target.invalidKeyCount = 0
  unique : reference.uniqueKeys = true ∧ target.uniqueKeys = true

theorem ensures_beforeLoop (hfail : FailureSet inputs sources fail)
    (hanswers : knowledge.Answers sources)
    (hcharges : ChargesSummaries sources ∨ ∀ cause, fail cause)
    (hinv : ∀ maxEncodedRowBytes reference target p,
      SummariesAnswered inputs sources maxEncodedRowBytes reference target →
      Sound budgets inputs.recordBytes knowledge (rootSegment reference target) 0 p → inv p)
    (hfresh : ∀ p : Progress Body, p.Fresh → inv p)
    {post : BeforeLoop Body → World budgets → Prop}
    (hstructural : ∀ artifact now, post (.structural artifact) now)
    (hcomparable : ∀ maxEncodedRowBytes reference target progress now,
      Comparable inputs sources knowledge maxEncodedRowBytes reference target progress now →
      post (.comparable maxEncodedRowBytes reference target progress) now) :
    Ensures inv (fun cause _ => fail cause)
      (beforeLoop inputs sources (sources.initialProgress Body)) (sources.snapshot sources.start).2
      post := by
  simp only [beforeLoop, ensures_bind]
  refine ensures_lift_of (fun cause h => validateInputs_error hfail h)
    fun maxEncodedRowBytes hinputs => ?_
  refine ensures_requireDeadline hfail fun w1 hq1 => ?_
  refine ensures_readSummaries hfail hanswers hinputs (hinv maxEncodedRowBytes) hfresh
    (initialProgress_fresh sources) rfl rfl (hq1.2.trans rfl) (hq1.1.trans rfl)
    fun reference target progress w2 hread2 => ?_
  refine ensures_requireDeadline hfail fun w3 hq3 => ?_
  have hread := hread2.quiet hq3
  have hcontexts := (validateInputs_contexts hinputs).distinct
  refine ensures_refuseWhen (hfail.comparison _ rfl) fun hinvalid => ?_
  have hmapped : reference.invalidKeyCount = 0 ∧ target.invalidKeyCount = 0 := by
    simpa using hinvalid
  cases hreason : structuralContractViolationReason reference target with
  | some reason =>
    simp only [ensures_bind, ensures_yield, ensures_pure]
    refine ensures_consumeSourceUsage fun usage w4 hq4 hsnapshot => ?_
    refine ⟨hinv _ reference target _ hread.answered (hread.loop.sound.withUsage usage), ?_⟩
    refine ensures_completedStructuralArtifact hfail hcontexts ?_ ?_ hmapped hreason
      fun artifact => hstructural artifact w4
    · refine hcharges.imp (fun hcharges => ?_) id
      have hcharged := hread.charged hcharges
      rw [hsnapshot.queries_eq, hsnapshot.records_eq, hq4.1]
      omega
    · have hnodes := hread.loop.nodes_eq
      rw [hread.topology_nil] at hnodes
      rw [hsnapshot.nodes_eq, Nat.add_zero]
      exact hnodes
  | none =>
    simp only [ensures_bind, ensures_pure]
    refine ensures_lift_of (fun cause h => ?_) fun _ _ => ?_
    · obtain hassurance | ⟨_, -, hpath⟩ := bind_eq_error.mp h
      · rw [causeIf_eq_error hassurance]
        exact hfail.unsupported _
      · rw [causeIf_eq_error hpath]
        exact hfail.unsupported _
    refine hcomparable _ _ _ _ _ { read := hread, contexts := hcontexts, mapped := hmapped
                                   unique := ?_ }
    unfold structuralContractViolationReason at hreason
    split at hreason
    · rename_i h
      simpa using h
    · simp at hreason

theorem ensures_comparisonRun (hfail : FailureSet inputs sources fail)
    (hanswers : knowledge.Answers sources)
    (hcharges : ChargesSummaries sources ∨ ∀ cause, fail cause)
    (hinv : ∀ maxEncodedRowBytes reference target p,
      SummariesAnswered inputs sources maxEncodedRowBytes reference target →
      Sound budgets inputs.recordBytes knowledge (rootSegment reference target) 0 p → inv p)
    (hfresh : ∀ p : Progress Body, p.Fresh → inv p)
    (kept : KeySummary → KeySummary → LoopState Body → World budgets → Prop)
    (hstart : ∀ maxEncodedRowBytes reference target progress now,
      SummariesRead inputs sources knowledge maxEncodedRowBytes reference target progress now →
      kept reference target { pending := [rootSegment reference target], usage := progress.usage
                              progress } now)
    (hround : ∀ reference target state after world now referenceRead targetRead,
      LoopInv inputs knowledge reference target state world →
      LoopInv inputs knowledge reference target after now →
      RoundStep state after world now referenceRead targetRead →
      kept reference target state world → kept reference target after now) :
    Ensures inv (fun cause _ => fail cause)
      (executePostgresIntegerKeyComparison inputs sources (sources.initialProgress Body))
      (sources.snapshot sources.start).2 fun outcome now => ∀ artifact, outcome = .completed artifact →
        ∃ maxEncodedRowBytes reference target state last,
          CompletedRun inputs sources knowledge kept maxEncodedRowBytes reference target state last
            artifact now := by
  rw [executePostgresIntegerKeyComparison_eq, ensures_bind]
  refine ensures_beforeLoop hfail hanswers hcharges hinv hfresh (fun artifact now => ?_)
    fun maxEncodedRowBytes reference target progress w1 h => ?_
  · exact ensures_pure.mpr fun artifact' heq => by simp at heq
  · simp only [fromLoop, ensures_bind, ensures_pure]
    refine ensures_workLoop hfail hanswers (hinv _ reference target · h.read.answered)
      (kept reference target) (hround reference target) ?_ h.read.loop (hstart _ _ _ _ _ h.read)
      fun state w2 hloop hdone hkept => ?_
    · omega
    refine ensures_completeComparison hfail (hinv _ reference target · h.read.answered) h.contexts
      hloop hdone fun artifact now hquiet hcompletes artifact' heq => ?_
    rw [ComparisonOutcome.completed.injEq] at heq
    subst heq
    refine ⟨maxEncodedRowBytes, reference, target, state, w2, ?_⟩
    exact
      { answered := h.read.answered
        reference_known := h.read.reference_known
        target_known := h.read.target_known
        mapped := h.mapped
        unique := h.unique
        loop := hloop
        done := hdone
        kept_last := hkept
        quiet := hquiet
        completes := hcompletes }

end ForensicData.Comparison
