/-
ForensicData.Persistence.PublicationTheorems — which artifacts of a run are
published.

The publisher ties every split segment to its two children. The engine never
compares the two: it compares the sides of one level, and each level is read
anew. So a run that is answered differently by two levels of one side completes,
and is refused afterwards. `publication_accepts_iff` says exactly which runs are
accepted, `drifting_run_refused` shows one that is not.
-/
import ForensicData.Comparison.PartialRuns
import ForensicData.Comparison.Totals
import ForensicData.Persistence.Publication
import ForensicData.Persistence.TopologyTheorems

namespace ForensicData.Persistence

open ForensicData.Canonical
open ForensicData.Comparison
open ForensicData.Result

variable {budgets : ExecutionBudgets} {Body : Type} {observationIds : Uuid × Uuid}
  {segments : List ComparisonSegmentRecord} {segment : ComparisonSegmentRecord}
  {rows : List IntegerRangeFingerprintPersistence} {row : IntegerRangeFingerprintPersistence}
  {root : SegmentPlace}

/-! ## Rows of segments -/

/-- A row is its segment, read in the two observations. -/
structure RowOf (observationIds : Uuid × Uuid) (segment : ComparisonSegmentRecord)
    (row : IntegerRangeFingerprintPersistence) : Prop where
  place_eq : row.toSegmentPlace = segment.toSegmentPlace
  state_eq : row.state = segment.state
  reference_eq : row.referenceFingerprint = segment.referenceFingerprint
  target_eq : row.targetFingerprint = segment.targetFingerprint
  reference_observation : row.referenceObservationId = observationIds.1
  target_observation : row.targetObservationId = observationIds.2

/-- A segment has a row when its sequence and its depth fit their columns. -/
theorem segmentRow_eq_ok : segmentRow observationIds segment = .ok row ↔
    (segment.segmentSequence ≤ int64Max ∧ segment.depth ≤ int32Max) ∧
      RowOf observationIds segment row := by
  unfold segmentRow IntegerRangeFingerprintPersistence.make
  constructor
  · intro h
    split at h
    · rename_i hsequence
      split at h
      · simp [raiseValueError] at h
      · split at h
        · simp [raiseValueError] at h
        · split at h
          · rename_i hdepth
            split at h
            · simp at h
            · rw [Except.ok.injEq] at h
              subst h
              exact ⟨⟨hsequence, hdepth⟩, rfl, rfl, rfl, rfl, rfl, rfl⟩
          · simp [raiseValueError] at h
    · simp [raiseValueError] at h
  · rintro ⟨⟨hsequence, hdepth⟩, hrow⟩
    have hparent : ∀ parent, segment.parentSegmentSequence = some parent →
        parent < segment.segmentSequence := segment.placed.parent_lt
    rw [dif_pos hsequence, if_neg, if_neg, dif_pos hdepth]
    · have hok : segment.toSegmentPlace.check persistedSegmentTexts = .ok () :=
        SegmentPlace.check_eq_ok.mpr segment.placed
      split
      · rename_i refusal hcheck
        rw [hok] at hcheck
        simp at hcheck
      · obtain ⟨hplace, hstate, hreference, htarget, hrobs, htobs⟩ := hrow
        obtain ⟨place, state, robs, reference, tobs, target, placed, seq, depth⟩ := row
        simp only at hplace hstate hreference htarget hrobs htobs
        subst hplace hstate hreference htarget hrobs htobs
        rfl
    · cases hcase : segment.parentSegmentSequence with
      | none => simp
      | some parent =>
        have := hparent parent hcase
        simpa using this
    · cases hcase : segment.parentSegmentSequence with
      | none => simp
      | some parent =>
        have := hparent parent hcase
        simp only [Option.any_some, decide_eq_true_eq]
        omega

/-- The rows of a topology, in its order. -/
abbrev RowsOf (observationIds : Uuid × Uuid) (segments : List ComparisonSegmentRecord)
    (rows : List IntegerRangeFingerprintPersistence) : Prop :=
  List.Forall₂ (RowOf observationIds) segments rows

theorem exists_rows (hsequences : ∀ segment ∈ segments, segment.segmentSequence ≤ int64Max)
    (hdepths : ∀ segment ∈ segments, segment.depth ≤ int32Max) (observationIds : Uuid × Uuid) :
    ∃ rows, segments.mapM (segmentRow observationIds) = .ok rows ∧
      RowsOf observationIds segments rows := by
  refine exists_mapM_eq_ok fun segment hsegment => ?_
  let row : IntegerRangeFingerprintPersistence :=
    { segment with
      referenceObservationId := observationIds.1
      targetObservationId := observationIds.2
      sequence_int64 := hsequences segment hsegment
      depth_int32 := hdepths segment hsegment }
  have hrow : RowOf observationIds segment row := ⟨rfl, rfl, rfl, rfl, rfl, rfl⟩
  exact ⟨row, segmentRow_eq_ok.mpr ⟨⟨hsequences segment hsegment, hdepths segment hsegment⟩, hrow⟩,
    hrow⟩

theorem rowsOf_of_mapM (h : segments.mapM (segmentRow observationIds) = .ok rows) :
    RowsOf observationIds segments rows ∧
      ∀ segment ∈ segments, segment.segmentSequence ≤ int64Max := by
  have hall := mapM_eq_ok.mp h
  clear h
  induction hall with
  | nil => exact ⟨.nil, by simp⟩
  | cons hhead _ ih =>
    obtain ⟨hbounds, hrow⟩ := segmentRow_eq_ok.mp hhead
    refine ⟨.cons hrow ih.1, ?_⟩
    rw [List.forall_mem_cons]
    exact ⟨hbounds.1, ih.2⟩

/-- What the rows and the segments agree on, they agree on in order. -/
theorem RowsOf.map_eq {α : Type} (h : RowsOf observationIds segments rows)
    {ofRow : IntegerRangeFingerprintPersistence → α} {ofSegment : ComparisonSegmentRecord → α}
    (hsame : ∀ segment row, RowOf observationIds segment row → ofRow row = ofSegment segment) :
    rows.map ofRow = segments.map ofSegment := by
  induction h with
  | nil => rfl
  | cons hhead _ ih => rw [List.map_cons, List.map_cons, hsame _ _ hhead, ih]

theorem RowsOf.exists_segment (h : RowsOf observationIds segments rows) :
    ∀ row ∈ rows, ∃ segment ∈ segments, RowOf observationIds segment row := by
  induction h with
  | nil => simp
  | @cons segment row _ _ hhead _ ih =>
    intro other hother
    rw [List.mem_cons] at hother
    obtain rfl | hother := hother
    · exact ⟨segment, List.mem_cons_self, hhead⟩
    · obtain ⟨found, hfound, hrow⟩ := ih other hother
      exact ⟨found, List.mem_cons_of_mem _ hfound, hrow⟩

theorem RowsOf.exists_row (h : RowsOf observationIds segments rows) :
    ∀ segment ∈ segments, ∃ row ∈ rows, RowOf observationIds segment row := by
  induction h with
  | nil => simp
  | @cons segment row _ _ hhead _ ih =>
    intro other hother
    rw [List.mem_cons] at hother
    obtain rfl | hother := hother
    · exact ⟨row, List.mem_cons_self, hhead⟩
    · obtain ⟨found, hfound, hrow⟩ := ih other hother
      exact ⟨found, List.mem_cons_of_mem _ hfound, hrow⟩

theorem RowsOf.length_eq (h : RowsOf observationIds segments rows) :
    rows.length = segments.length :=
  (List.Forall₂.length_eq h).symm

/-! ## Children of rows -/

/-- A row: its place and its fingerprints. -/
def rowPair (row : IntegerRangeFingerprintPersistence) : SegmentPlace × FingerprintPair :=
  (row.toSegmentPlace, row.referenceFingerprint, row.targetFingerprint)

theorem RowOf.pair_eq (h : RowOf observationIds segment row) : rowPair row = recordPair segment := by
  rw [rowPair, recordPair, h.place_eq, h.reference_eq, h.target_eq]

/-- The rows below a sequence are the segments below it. -/
theorem RowsOf.filter_map_eq (h : RowsOf observationIds segments rows) (sequence : ℕ) :
    (rows.filter fun row => decide (row.parentSegmentSequence = some sequence)).map rowPair
      = (segments.filter fun segment =>
          decide (segment.parentSegmentSequence = some sequence)).map recordPair := by
  have hmap : rows.map rowPair = segments.map recordPair :=
    RowsOf.map_eq h fun _ _ hrow => hrow.pair_eq
  have hfilter := congrArg (List.filter fun pair : SegmentPlace × FingerprintPair =>
    decide (pair.1.parentSegmentSequence = some sequence)) hmap
  rw [List.filter_map, List.filter_map] at hfilter
  exact hfilter

/-- A split row is accepted when its segment closes. -/
theorem validateSplitSegment_iff_closes (h : RowsOf observationIds segments rows)
    (hfrontier : Frontier root segments []) (hmem : segment ∈ segments)
    (hsplit : segment.state = .split) (hrow : RowOf observationIds segment row) :
    validateSplitSegment row (rows.filter fun other =>
        decide (other.parentSegmentSequence = some segment.segmentSequence)) = .ok () ↔
      SplitCloses segments segment := by
  have hsame := h.filter_map_eq segment.segmentSequence
  generalize rows.filter (fun other =>
    decide (other.parentSegmentSequence = some segment.segmentSequence)) = children at hsame ⊢
  have hweight : SplitCloses segments segment ↔
      (children.map fun child => pairWeight (rowPair child).2).sum = pairWeight (rowPair row).2 := by
    have hsum : childWeight (segments.map recordPair) segment.segmentSequence
        = (children.map fun child => pairWeight (rowPair child).2).sum := by
      have hmap := congrArg (fun pairs => (pairs.map fun pair : SegmentPlace × FingerprintPair =>
        pairWeight pair.2).sum) hsame
      simp only [List.map_map] at hmap
      rw [childWeight, List.filter_map, List.map_map]
      exact hmap.symm
    rw [SplitCloses, hsum, hrow.pair_eq]
  rw [validateSplitSegment_eq_ok, hweight]
  constructor
  · rintro ⟨left, right, hperm, -, hreference, htarget⟩
    rw [(hperm.map _).sum_eq]
    simp [pairWeight, rowPair, hreference, htarget]
  · intro hsum
    obtain ⟨left, right, next, hperm, hhalves⟩ := hfrontier.halves segment hmem hsplit
    have hplaces : (children.map (·.toSegmentPlace)).Perm [left, right] := by
      have hmap := congrArg (List.map Prod.fst) hsame
      rw [List.map_map, List.map_map] at hmap
      rw [childPlaces, places, List.append_nil, List.filter_map] at hperm
      have hsegments : children.map (·.toSegmentPlace)
          = (segments.filter fun other => decide (other.parentSegmentSequence
              = some segment.segmentSequence)).map (·.toSegmentPlace) := hmap
      rw [hsegments]
      exact hperm
    obtain ⟨a, b, rfl⟩ := List.length_eq_two.mp (by simpa using hplaces.length_eq)
    -- the two children, the left one first
    have hordered : ∃ first second, [a, b].Perm [first, second] ∧
        first.toSegmentPlace = left ∧ second.toSegmentPlace = right := by
      have hfirst : a.toSegmentPlace ∈ [left, right] := hplaces.subset (by simp)
      simp only [List.map_cons, List.map_nil] at hplaces
      simp only [List.mem_cons, List.not_mem_nil, or_false] at hfirst
      obtain heq | heq := hfirst
      · rw [heq, List.perm_cons, List.perm_singleton, List.cons.injEq] at hplaces
        exact ⟨a, b, .refl _, heq, hplaces.1⟩
      · rw [heq] at hplaces
        have hswap := hplaces.trans (List.Perm.swap right left [])
        rw [List.perm_cons, List.perm_singleton, List.cons.injEq] at hswap
        exact ⟨b, a, List.Perm.swap _ _ _, hswap.1, heq⟩
    obtain ⟨first, second, hpair, rfl, rfl⟩ := hordered
    refine ⟨first, second, hpair, ?_, ?_⟩
    · rw [hrow.place_eq]
      exact hhalves.bisects
    · rw [(hpair.map _).sum_eq] at hsum
      simpa [pairWeight, rowPair, Prod.ext_iff] using hsum

/-- Nothing hangs below a row that is not split. -/
theorem RowsOf.terminal_children (h : RowsOf observationIds segments rows)
    (hfrontier : Frontier root segments []) (hroot : root.IsRoot) (hmem : segment ∈ segments)
    (hterminal : segment.state ≠ .split) :
    rows.filter (fun other =>
      decide (other.parentSegmentSequence = some segment.segmentSequence)) = [] := by
  refine List.filter_eq_nil_iff.mpr fun other hother hparent => ?_
  rw [decide_eq_true_eq] at hparent
  obtain ⟨child, hchild, hrow⟩ := h.exists_segment other hother
  rw [hrow.place_eq] at hparent
  have hin : child.toSegmentPlace ∈ places segments [] :=
    List.mem_append_left _ (List.mem_map.mpr ⟨child, hchild, rfl⟩)
  obtain heq | ⟨parent, hparentMem, hstate, heq⟩ := hfrontier.rooted _ hin
  · rw [heq, hroot.2.1] at hparent
    simp at hparent
  · rw [hparent, Option.some.injEq] at heq
    have hsame : segment = parent :=
      List.inj_on_of_nodup_map hfrontier.topology_nodup hmem hparentMem heq
    rw [hsame] at hterminal
    exact hterminal hstate

/-! ## What the publisher accepts -/

variable {recordBytes : DifferenceRecord Body → ℕ}
  {artifact : CompletedComparisonArtifact recordBytes} {attempt : RunAttemptRecord}
  {cut : PersistedInputCut} {comparison : CompletedComparisonDefinition}

/-- A result row has the fields of its artifact. -/
structure DefinitionOf (artifact : CompletedComparisonArtifact recordBytes)
    (comparison : CompletedComparisonDefinition) : Prop where
  verdict_eq : comparison.verdict = artifact.verdict
  coverage_eq : comparison.comparisonCoverage = artifact.comparisonCoverage
  totals_eq : comparison.totals = artifact.totals
  evidence_eq : comparison.evidenceCoverage = artifact.evidenceCoverage
  metrics_eq : comparison.metrics = artifact.metrics

theorem ofArtifact_of (h : artifact.verdict ≠ .inconclusive) :
    ∃ comparison, CompletedComparisonDefinition.ofArtifact artifact = .ok comparison ∧
      DefinitionOf artifact comparison := by
  rw [CompletedComparisonDefinition.ofArtifact, dif_pos h, dif_pos artifact.established]
  exact ⟨_, rfl, rfl, rfl, rfl, rfl, rfl⟩

theorem definitionOf_of_ofArtifact
    (h : CompletedComparisonDefinition.ofArtifact artifact = .ok comparison) :
    DefinitionOf artifact comparison := by
  unfold CompletedComparisonDefinition.ofArtifact at h
  split at h
  · split at h
    · rw [Except.ok.injEq] at h
      subst h
      exact ⟨rfl, rfl, rfl, rfl, rfl⟩
    · simp [raiseValueError] at h
  · simp [raiseValueError] at h

/-- The work of a comparison is within the budgets of its attempt. -/
structure WithinBudgets (budgets : ExecutionBudgets) (metrics : ResultMetrics)
    (coverage : EvidenceCoverage) : Prop where
  queries : metrics.queries ≤ budgets.maxQueries
  fetched : metrics.fetchedRecords ≤ budgets.maxFetchedRecords
  bytes : metrics.resultBytes ≤ budgets.maxApplicationResultBytes
  nodes : metrics.fingerprintNodes ≤ budgets.maxFingerprintNodes
  peak : metrics.coordinatorPeakBytes ≤ budgets.maxCoordinatorMemoryBytes
  elapsed : metrics.elapsedMilliseconds ≤ budgets.runTimeoutMilliseconds
  evidence_rows : coverage.retainedRecords ≤ budgets.maxEvidenceRows
  evidence_bytes : coverage.retainedBytes ≤ budgets.maxEvidenceBytes

theorem validateCompletedBudgetUse_eq_ok {u : Unit} :
    validateCompletedBudgetUse budgets comparison rows = .ok u ↔
      WithinBudgets budgets comparison.metrics comparison.evidenceCoverage ∧
        ∀ row ∈ rows, row.depth ≤ budgets.maxDepth := by
  simp only [validateCompletedBudgetUse, bind_unit_eq_ok, forM_eq_ok, refuseIf_eq_ok,
    List.forall_mem_cons, List.not_mem_nil, false_imp_iff, implies_true, and_true, not_lt, gt_iff_lt,
    not_exists, not_and]
  constructor
  · rintro ⟨⟨hqueries, hfetched, hbytes, hnodes, hpeak, helapsed, hrows, hrecordBytes⟩, hdepth⟩
    exact ⟨⟨hqueries, hfetched, hbytes, hnodes, hpeak, helapsed, hrows, hrecordBytes⟩, hdepth⟩
  · rintro ⟨h, hdepth⟩
    exact ⟨⟨h.queries, h.fetched, h.bytes, h.nodes, h.peak, h.elapsed, h.evidence_rows,
      h.evidence_bytes⟩, hdepth⟩

/-- A key summary has one row for each valid key and nothing else. -/
theorem uniqueKeys_closes {summary : KeySummary}
    (hunique : summary.uniqueKeys = true) (hmapped : summary.invalidKeyCount = 0) :
    summary.nullKeyCount = 0 ∧ summary.validKeyCount = summary.rowCount ∧
      summary.distinctKeyCount = summary.rowCount := by
  have hrows := summary.rows_eq
  simp only [KeySummary.uniqueKeys, Bool.and_eq_true, beq_iff_eq] at hunique
  omega

theorem validateArtifactSummaryClosure_of {root : IntegerRangeFingerprintPersistence}
    (hreference : artifact.referenceKeySummary.uniqueKeys = true ∧
      artifact.referenceKeySummary.invalidKeyCount = 0)
    (htarget : artifact.targetKeySummary.uniqueKeys = true ∧
      artifact.targetKeySummary.invalidKeyCount = 0)
    (hreferenceCount : artifact.referenceKeySummary.rowCount = root.referenceFingerprint.count)
    (htargetCount : artifact.targetKeySummary.rowCount = root.targetFingerprint.count) :
    validateArtifactSummaryClosure artifact root = .ok () := by
  obtain ⟨hrnull, hrvalid, hrdistinct⟩ :=
    uniqueKeys_closes hreference.1 hreference.2
  obtain ⟨htnull, htvalid, htdistinct⟩ := uniqueKeys_closes htarget.1 htarget.2
  simp only [validateArtifactSummaryClosure, bind_unit_eq_ok, forM_eq_ok, refuseIf_eq_ok,
    List.forall_mem_cons, List.not_mem_nil, false_imp_iff, implies_true, and_true, not_or, not_not]
  exact ⟨⟨⟨hrnull, hreference.2, hrvalid, hrdistinct⟩, htnull, htarget.2, htvalid, htdistinct⟩,
    hreferenceCount, htargetCount⟩

/-- An artifact's own evidence check is the publisher's. -/
theorem validateAnomalyCoverage_of {coverage : EvidenceCoverage}
    {anomalies : List (DifferenceRecord Body)}
    (h : RetainedEvidence recordBytes coverage anomalies) :
    validateAnomalyCoverage recordBytes coverage anomalies = .ok () := by
  have hok : validateEvidenceCoverage recordBytes coverage anomalies = .ok () :=
    validateEvidenceCoverage_eq_ok.mpr h
  simp only [validateEvidenceCoverage, validateAnomalyCoverage, bind_unit_eq_ok,
    refuseIf_eq_ok] at hok ⊢
  exact hok

/-- Evidence in mismatching segments is evidence in mismatching rows. -/
theorem validateCompletedAnomalySegments_of {anomalies : List (DifferenceRecord Body)}
    (h : RowsOf observationIds segments rows) (hnodup : (segments.map (·.segmentSequence)).Nodup)
    (hmismatch : ∀ anomaly ∈ anomalies, InExactMismatch segments anomaly) :
    validateCompletedAnomalySegments anomalies rows = .ok () := by
  refine forM_eq_ok.mpr fun anomaly hanomaly => ?_
  obtain ⟨segment, hsegment, hsequence, hstate⟩ := hmismatch anomaly hanomaly
  obtain ⟨row, hrow, hrowOf⟩ := h.exists_row segment hsegment
  have hrowSequence : row.segmentSequence = anomaly.segmentSequence := by
    rw [hrowOf.place_eq]
    exact hsequence
  cases hfind : rows.find? fun other =>
      decide (other.segmentSequence = anomaly.segmentSequence) with
  | none =>
    have := List.find?_eq_none.mp hfind row hrow
    simp [hrowSequence] at this
  | some found =>
    have hfound : found.segmentSequence = anomaly.segmentSequence := by
      simpa using List.find?_some hfind
    obtain ⟨other, hother, hotherOf⟩ := h.exists_segment found (List.mem_of_find?_eq_some hfind)
    have hsame : other = segment := by
      refine List.inj_on_of_nodup_map hnodup hother hsegment ?_
      rw [← hotherOf.place_eq, hfound, hsequence]
    simp only [refuseIf_eq_ok, ne_eq, not_not]
    rw [hotherOf.state_eq, hsame]
    exact hstate

/-! ## Completed runs -/

section Runs

variable {inputs : ComparisonInputs Body} {sources : Sources budgets} {reference target : KeySummary}
  {state : LoopState Body} {last now : World budgets} {maxEncodedRowBytes : ℕ}
  {artifact : CompletedComparisonArtifact inputs.recordBytes}

/-- A completed run, with the splits its work loop left open from level to
level. -/
abbrev FollowedRun (inputs : ComparisonInputs Body) (sources : Sources budgets)
    (maxEncodedRowBytes : ℕ) (reference target : KeySummary) (state : LoopState Body)
    (last : World budgets) (artifact : CompletedComparisonArtifact inputs.recordBytes)
    (now : World budgets) : Prop :=
  CompletedRun inputs sources Knowledge.none
    (fun _ _ state world => ∃ splits, OpenSplits splits state world) maxEncodedRowBytes reference
    target state last artifact now

variable (h : FollowedRun inputs sources maxEncodedRowBytes reference target state last artifact now)
include h

/-- The artifact has the recorded segments, in ascending sequence. -/
theorem followed_perm : state.progress.topology.Perm artifact.segments := by
  rw [h.completes.segments_eq]
  exact (List.perm_insertionSort _ _).symm

theorem followed_frontier : Frontier (rootSegment reference target) artifact.segments [] :=
  (h.loop.finished h.done).reorder (followed_perm h)

/-- The splits of the artifact close exactly when the replies' levels do. -/
theorem followed_closes_iff :
    (∀ segment ∈ artifact.segments, segment.state = .split →
      SplitCloses artifact.segments segment) ↔ LevelsClose now.replies := by
  obtain ⟨splits, hsplits⟩ := h.kept_last
  have hperm := followed_perm h
  rw [h.quiet.2, ← hsplits.finished h.done]
  constructor
  · intro hclosed record hrecord hstate
    exact (splitCloses_perm hperm).mpr (hclosed record (hperm.subset hrecord) hstate)
  · intro hclosed segment hsegment hstate
    exact (splitCloses_perm hperm).mp (hclosed segment (hperm.symm.subset hsegment) hstate)

theorem followed_length : artifact.segments.length = rangesRead now.replies := by
  obtain ⟨splits, hsplits⟩ := h.kept_last
  rw [h.quiet.2, ← hsplits.ranges_eq, (followed_perm h).length_eq]

/-- The first segment is the root, with as many rows as the key summaries have. -/
theorem followed_root : ∃ first rest, artifact.segments = first :: rest ∧
    first.toSegmentPlace = rootSegment reference target ∧
    first.referenceFingerprint.count = reference.rowCount ∧
    first.targetFingerprint.count = target.rowCount := by
  have hfrontier := followed_frontier h
  obtain ⟨record, hrecord, hplace⟩ := hfrontier.exists_root
  have hcontiguous := artifact.contiguous
  cases hsegments : artifact.segments with
  | nil => exact absurd hsegments artifact.nonempty
  | cons first rest =>
    rw [hsegments] at hcontiguous hrecord hfrontier
    have hzero : first.segmentSequence = 0 := by
      simp only [List.map_cons, List.length_cons, List.range_succ_eq_map, List.cons.injEq]
        at hcontiguous
      exact hcontiguous.1
    have hsame : first = record := by
      refine List.inj_on_of_nodup_map hfrontier.topology_nodup List.mem_cons_self hrecord ?_
      rw [hzero, hplace]
      rfl
    have hmem : first ∈ state.progress.topology := by
      refine (followed_perm h).symm.subset ?_
      rw [hsegments]
      exact List.mem_cons_self
    refine ⟨first, rest, rfl, ?_, h.loop.root_counts first hmem hzero⟩
    rw [hsame, hplace]

/-- The totals of the artifact close to the key summaries where every split
closes. -/
theorem followed_totals (hclosed : ∀ segment ∈ artifact.segments, segment.state = .split →
    SplitCloses artifact.segments segment) :
    state.progress.completedCounts.matched + state.progress.completedCounts.missing
        + state.progress.completedCounts.modified = reference.rowCount ∧
      state.progress.completedCounts.matched + state.progress.completedCounts.extra
        + state.progress.completedCounts.modified = target.rowCount := by
  obtain ⟨first, rest, hsegments, hplace, hreference, htarget⟩ := followed_root h
  have hfirst : first ∈ artifact.segments := by
    rw [hsegments]
    exact List.mem_cons_self
  have hweight := (followed_frontier h).root_weight (rootSegment_isRoot _ _) hclosed hfirst hplace
  have hterminal : (terminalRecords state.progress.topology).Perm
      (terminalRecords artifact.segments) := (followed_perm h).filter _
  rw [h.loop.sound.accounts.counts_reference, h.loop.sound.accounts.counts_target,
    (hterminal.map _).sum_eq, (hterminal.map _).sum_eq, ← hreference, ← htarget]
  -- the counts are two of the four components of the weights
  have hcount : ∀ (items : List ComparisonSegmentRecord),
      (items.map fun record => pairWeight (recordPair record).2).sum.1.1
          = (items.map fun record => record.referenceFingerprint.count).sum ∧
        (items.map fun record => pairWeight (recordPair record).2).sum.2.1
          = (items.map fun record => record.targetFingerprint.count).sum := by
    intro items
    induction items with
    | nil => exact ⟨rfl, rfl⟩
    | cons record items ih =>
      simp only [List.map_cons, List.sum_cons, Prod.fst_add, Prod.snd_add, ih.1, ih.2]
      exact ⟨rfl, rfl⟩
  have hboth := hcount (terminalRecords artifact.segments)
  rw [hweight] at hboth
  exact ⟨hboth.1.symm, hboth.2.symm⟩

/-- The states of the terminal rows are those of the terminal segments. -/
theorem followed_terminal {rows : List IntegerRangeFingerprintPersistence}
    (hrows : RowsOf observationIds artifact.segments rows) :
    (terminalSegments rows).length
        = state.progress.prunedSegments + state.progress.exactSegments ∧
      (terminalSegments rows).countP (fun row => decide (row.state = .fingerprintMatch))
        = state.progress.prunedSegments := by
  have hstates : rows.map (·.state) = artifact.segments.map (·.state) :=
    RowsOf.map_eq hrows fun _ _ hrow => hrow.state_eq
  have hperm := followed_perm h
  have hcount : ∀ test : ComparisonSegmentState → Bool,
      rows.countP (fun row => test row.state)
        = state.progress.topology.countP fun record => test record.state := by
    intro test
    have := congrArg (List.countP test) hstates
    rw [List.countP_map, List.countP_map] at this
    exact this.trans (hperm.symm.countP_eq _)
  constructor
  · rw [terminalSegments, ← List.countP_eq_length_filter, hcount fun s => s.isTerminal,
      List.countP_eq_length_filter, h.loop.sound.accounts.pruned_segments,
      h.loop.sound.accounts.exact_segments, ← terminalRecords_length]
    rfl
  · rw [terminalSegments, List.countP_filter,
      hcount fun s => decide (s = .fingerprintMatch) && s.isTerminal,
      h.loop.sound.accounts.pruned_segments, matchRecords, ← List.countP_eq_length_filter]
    refine List.countP_congr fun record _ => ?_
    cases record.state <;> simp [ComparisonSegmentState.isTerminal]

/-- Where every split closes the rows pass the publisher's topology check. -/
theorem followed_topology {rows : List IntegerRangeFingerprintPersistence}
    {comparison : CompletedComparisonDefinition} (hids : observationIds.1 ≠ observationIds.2)
    (hrows : RowsOf observationIds artifact.segments rows)
    (hdefinition : DefinitionOf artifact comparison)
    (hclosed : ∀ segment ∈ artifact.segments, segment.state = .split →
      SplitCloses artifact.segments segment) :
    ∃ root rest, rows = root :: rest ∧ CompletedTopology comparison rows root ∧
      artifact.referenceKeySummary.rowCount = root.referenceFingerprint.count ∧
      artifact.targetKeySummary.rowCount = root.targetFingerprint.count := by
  have hfrontier := followed_frontier h
  obtain ⟨first, rest, hsegments, hplace, hreference, htarget⟩ := followed_root h
  obtain ⟨root, rowsRest, rfl, hroot, -⟩ : ∃ root rowsRest, rows = root :: rowsRest ∧
      RowOf observationIds first root ∧ RowsOf observationIds rest rowsRest := by
    rw [hsegments] at hrows
    cases hrows with
    | cons hhead htail => exact ⟨_, _, rfl, hhead, htail⟩
  have hsequences : (root :: rowsRest).map (·.segmentSequence)
      = List.range (root :: rowsRest).length := by
    have hmap : (root :: rowsRest).map (·.segmentSequence)
        = artifact.segments.map (·.segmentSequence) :=
      RowsOf.map_eq hrows fun _ _ hrow => by rw [hrow.place_eq]
    rw [hmap, artifact.contiguous, hrows.length_eq]
  have hrootParent : root.parentSegmentSequence = none := by
    rw [hroot.place_eq, hplace]
    rfl
  have hchildren : ∀ sequence, completedChildren (root :: rowsRest) sequence
      = (root :: rowsRest).filter fun row =>
          decide (row.parentSegmentSequence = some sequence) := by
    intro sequence
    simp [completedChildren, hrootParent]
  have hpair : ∀ row ∈ root :: rowsRest, row.referenceObservationId = observationIds.1 ∧
      row.targetObservationId = observationIds.2 := by
    intro row hrow
    obtain ⟨segment, -, hrowOf⟩ := hrows.exists_segment row hrow
    exact ⟨hrowOf.reference_observation, hrowOf.target_observation⟩
  obtain ⟨hpos, hcoverage⟩ := h.completes.coverage_eq
  obtain ⟨hterminal, hpruned⟩ := followed_terminal h hrows
  obtain ⟨hreferenceTotal, htargetTotal⟩ := followed_totals h hclosed
  obtain ⟨hmatched, hmissing, hextra, hmodified⟩ := h.completes.totals_eq
  refine ⟨root, rowsRest, rfl, ?_, ?_, ?_⟩
  · exact
      { root_first := rfl
        sequences := hsequences
        observations_distinct := by
          rw [hroot.reference_observation, hroot.target_observation]
          exact hids
        one_pair := by
          intro row hrow
          rw [hroot.reference_observation, hroot.target_observation]
          exact hpair row hrow
        totals := by
          rw [hdefinition.totals_eq, hroot.reference_eq, hroot.target_eq, hreference, htarget]
          exact ⟨_, _, _, _, hmatched, hmissing, hextra, hmodified, hreferenceTotal, htargetTotal⟩
        parents := by
          intro row hrow hnone
          have hnodup : ((root :: rowsRest).map (·.segmentSequence)).Nodup := by
            rw [hsequences]
            exact List.nodup_range
          obtain ⟨segment, hsegment, hrowOf⟩ :=
            hrows.exists_segment row (List.mem_cons_of_mem _ hrow)
          have hin : segment.toSegmentPlace ∈ places artifact.segments [] :=
            List.mem_append_left _ (List.mem_map.mpr ⟨segment, hsegment, rfl⟩)
          obtain heq | ⟨parent, -, -, heq⟩ := hfrontier.rooted _ hin
          · -- the root's row comes first, and no other has its sequence
            rw [List.map_cons, List.nodup_cons] at hnodup
            refine hnodup.1 (List.mem_map.mpr ⟨row, hrow, ?_⟩)
            rw [hrowOf.place_eq, heq, hroot.place_eq, hplace]
          · rw [← hrowOf.place_eq, hnone] at heq
            simp at heq
        segments_ok := by
          intro row hrow
          obtain ⟨segment, hsegment, hrowOf⟩ := hrows.exists_segment row hrow
          rw [hchildren, validateCompletedSegment_eq_ok, hrowOf.state_eq, hrowOf.place_eq,
            hrowOf.reference_eq, hrowOf.target_eq]
          refine ⟨fun hsplit => ?_, fun hnot => ?_, fun hmatch => segment.agrees.mp hmatch⟩
          · exact (validateSplitSegment_iff_closes hrows hfrontier hsegment hsplit hrowOf).mpr
              (hclosed segment hsegment hsplit)
          · exact hrows.terminal_children hfrontier (rootSegment_isRoot _ _) hsegment hnot
        partitions := by
          rw [hdefinition.coverage_eq, hcoverage]
          exact ⟨rfl, rfl⟩
        resolved := by
          rw [hdefinition.coverage_eq, hcoverage, hterminal]
          rfl
        pruned := by
          rw [hdefinition.coverage_eq, hcoverage, hpruned]
          rfl
        unresolved := by
          rw [hdefinition.coverage_eq, hcoverage]
          rfl
        nodes := by
          rw [hdefinition.metrics_eq, artifact.nodes_eq, hrows.length_eq]
        verdict := by
          have hdifferences := h.loop.sound.accounts.differences_pos_iff
          have hmismatch : (∃ row ∈ terminalSegments (root :: rowsRest),
              row.state = .exactMismatch) ↔
                ∃ record ∈ state.progress.topology, record.state = .exactMismatch := by
            constructor
            · rintro ⟨row, hrow, hstate⟩
              obtain ⟨segment, hsegment, hrowOf⟩ :=
                hrows.exists_segment row (List.mem_of_mem_filter hrow)
              exact ⟨segment, (followed_perm h).symm.subset hsegment,
                hrowOf.state_eq.symm.trans hstate⟩
            · rintro ⟨record, hrecord, hstate⟩
              obtain ⟨row, hrow, hrowOf⟩ :=
                hrows.exists_row record ((followed_perm h).subset hrecord)
              have hrowState := hrowOf.state_eq.trans hstate
              refine ⟨row, List.mem_filter.mpr ⟨hrow, ?_⟩, hrowState⟩
              rw [hrowState]
              rfl
          rw [hmismatch, ← hdifferences, hdefinition.verdict_eq, h.completes.verdict_eq]
          split <;> simp <;> omega }
  · rw [h.completes.summaries_eq.1, hroot.reference_eq, hreference]
  · rw [h.completes.summaries_eq.2, hroot.target_eq, htarget]

/-- The publisher's topology check passes only where every split closes. -/
theorem followed_closed {rows : List IntegerRangeFingerprintPersistence}
    {comparison : CompletedComparisonDefinition} {root : IntegerRangeFingerprintPersistence}
    (hrows : RowsOf observationIds artifact.segments rows)
    (htopology : CompletedTopology comparison rows root) :
    ∀ segment ∈ artifact.segments, segment.state = .split →
      SplitCloses artifact.segments segment := by
  intro segment hsegment hsplit
  obtain ⟨row, hrow, hrowOf⟩ := hrows.exists_row segment hsegment
  have hok := (validateCompletedSegment_eq_ok.mp (htopology.segments_ok row hrow)).1
    (hrowOf.state_eq.trans hsplit)
  rw [htopology.children_eq row] at hok
  refine (validateSplitSegment_iff_closes hrows (followed_frontier h) hsegment hsplit hrowOf).mp ?_
  have hsequence : row.segmentSequence = segment.segmentSequence := by rw [hrowOf.place_eq]
  rw [childSegments, Lib.childrenOf, hsequence] at hok
  exact hok

/-- The run's work is within its budgets, but for the clock. -/
theorem followed_within {comparison : CompletedComparisonDefinition}
    (hdefinition : DefinitionOf artifact comparison) :
    WithinBudgets budgets comparison.metrics comparison.evidenceCoverage ↔
      elapsedMillisecondsSince sources.attemptStartedNanoseconds
        (sources.clock (now.clockReadings - 1)) ≤ budgets.runTimeoutMilliseconds := by
  obtain ⟨usage, hsnapshot, hmetrics, -, -⟩ := h.completes.metrics_eq
  obtain ⟨-, hretained, -, hretainedBytes⟩ := h.completes.evidence_eq
  have hevidence := h.loop.sound.evidence
  have hreceived := h.loop.received
  rw [← h.quiet.1] at hreceived
  rw [hdefinition.metrics_eq, hdefinition.evidence_eq, hmetrics, ← hsnapshot.elapsed_eq]
  refine ⟨fun hwithin => hwithin.elapsed, fun helapsed => ?_⟩
  exact
    { queries := hsnapshot.queries_le
      fetched := hsnapshot.records_le.trans hreceived.1
      bytes := hsnapshot.bytes_le.trans hreceived.2
      nodes := by
        have hnodes := h.loop.nodes_le
        rw [Usage.metrics, hsnapshot.nodes_eq]
        exact hnodes
      peak := by
        have hpeak := h.loop.peak_le
        rw [Usage.metrics, hsnapshot.peak_eq]
        exact Nat.max_le.mpr ⟨hpeak, hpeak⟩
      elapsed := helapsed
      evidence_rows := by
        rw [hretained]
        exact hevidence.rows_limit
      evidence_bytes := by
        rw [hretainedBytes]
        exact hevidence.bytes_limit }

/-- No segment lies deeper than the budgets and the domain allow. -/
theorem followed_depth : ∀ segment ∈ artifact.segments,
    segment.depth ≤ budgets.maxDepth ∧ segment.depth ≤ int32Max := by
  intro segment hsegment
  have hmem : segment ∈ state.progress.topology := (followed_perm h).symm.subset hsegment
  have hplace : segment.toSegmentPlace
      ∈ places state.progress.topology state.progress.pending :=
    List.mem_append_left _ (List.mem_map.mpr ⟨segment, hmem, rfl⟩)
  refine ⟨h.loop.sound.depth_le _ hplace, ?_⟩
  have := (h.loop.sound.frontier.narrow _ hplace).1
  unfold int32Max
  omega

end Runs

/-! ## Which runs are published -/

/-- The attempt and its persisted cut belong to the comparison. -/
structure CutOfAttempt (inputs : ComparisonInputs Body) (budgets : ExecutionBudgets)
    (attempt : RunAttemptRecord) (cut : PersistedInputCut) : Prop where
  run_eq : cut.runId = attempt.run.runId
  attempt_eq : cut.attemptId = attempt.attemptId
  cut_eq : inputs.inputCutDigest = cut.inputCutDigest
  bound_eq : ∀ bound ∈ [attempt.run.boundInputCutDigest, attempt.inputCutDigest],
    bound = none ∨ bound = some cut.inputCutDigest
  scope_eq : inputs.scopeDigest = cut.referenceScopeDigest
  budgets_eq : attempt.executionBudgets = budgets
  observations : cut.observationIds.1 ≠ cut.observationIds.2

/-- The replies of the run fit each other level by level, the last reading of
its clock is in time, and it fingerprinted no more ranges than there are
sequence numbers. -/
structure Closes (sources : Sources budgets) (now : World budgets) : Prop where
  levels : LevelsClose now.replies
  in_time : elapsedMillisecondsSince sources.attemptStartedNanoseconds
    (sources.clock (now.clockReadings - 1)) ≤ budgets.runTimeoutMilliseconds
  numbered : rangesRead now.replies ≤ int64Max + 1

/-- What a published topology guarantees. -/
structure PublishedTopology (comparison : CompletedComparisonDefinition)
    (rows : List IntegerRangeFingerprintPersistence) : Prop where
  splits : ∀ row ∈ rows, row.state = .split → ∃ left right,
    (completedChildren rows row.segmentSequence).Perm [left, right] ∧
    PartitionsRange row.toSegmentPlace [left.toSegmentPlace, right.toSegmentPlace] ∧
    combineFingerprints [left.referenceFingerprint, right.referenceFingerprint]
      = .ok row.referenceFingerprint ∧
    combineFingerprints [left.targetFingerprint, right.targetFingerprint]
      = .ok row.targetFingerprint
  totals : ∃ root matched missing extra modified, rows.head? = some root ∧
    comparison.totals.matched.value = some matched ∧
    comparison.totals.missing.value = some missing ∧
    comparison.totals.extra.value = some extra ∧
    comparison.totals.modified.value = some modified ∧
    matched + missing + modified = root.referenceFingerprint.count ∧
    matched + extra + modified = root.targetFingerprint.count
  coverage : comparison.comparisonCoverage.resolvedSegments = (terminalSegments rows).length ∧
    comparison.comparisonCoverage.prunedSegments
      = (terminalSegments rows).countP (fun row => decide (row.state = .fingerprintMatch)) ∧
    comparison.comparisonCoverage.exactSegments
      = (terminalSegments rows).countP (fun row => decide (row.state ≠ .fingerprintMatch)) ∧
    comparison.comparisonCoverage.unresolvedSegments = 0
  verdict : comparison.verdict = .mismatch ↔ ∃ row ∈ rows, row.state = .exactMismatch

theorem CompletedTopology.published {root : IntegerRangeFingerprintPersistence}
    (h : CompletedTopology comparison rows root) : PublishedTopology comparison rows where
  splits := by
    intro row hrow hsplit
    have hok := (validateCompletedSegment_eq_ok.mp (h.segments_ok row hrow)).1 hsplit
    obtain ⟨left, right, hperm, hbisects, hreference, htarget⟩ :=
      validateSplitSegment_eq_ok.mp hok
    refine ⟨left, right, hperm, partitionsRange_iff_tiles.mpr hbisects.tiles, ?_, ?_⟩
    · rw [combineFingerprints_eq_ok]
      simp [hreference]
    · rw [combineFingerprints_eq_ok]
      simp [htarget]
  totals := by
    obtain ⟨matched, missing, extra, modified, hfacts⟩ := h.totals
    exact ⟨root, matched, missing, extra, modified, h.root_first, hfacts⟩
  coverage := by
    refine ⟨h.resolved, h.pruned, ?_, h.unresolved⟩
    have hresolved := comparison.comparisonCoverage.resolved_eq
    have hlength := List.length_eq_countP_add_countP
      (fun row => decide (row.state = ComparisonSegmentState.fingerprintMatch))
      (l := terminalSegments rows)
    rw [h.resolved, h.pruned, hlength] at hresolved
    have hnot : (terminalSegments rows).countP
          (fun row => decide (row.state ≠ .fingerprintMatch))
        = (terminalSegments rows).countP
          (fun row => decide (¬decide (row.state = .fingerprintMatch) = true)) :=
      List.countP_congr fun row _ => by simp
    rw [hnot]
    omega
  verdict := by
    rw [h.verdict]
    constructor
    · rintro ⟨row, hrow, hstate⟩
      exact ⟨row, List.mem_of_mem_filter hrow, hstate⟩
    · rintro ⟨row, hrow, hstate⟩
      refine ⟨row, List.mem_filter.mpr ⟨hrow, ?_⟩, hstate⟩
      rw [hstate]
      rfl

theorem completedRun_followed {inputs : ComparisonInputs Body} {sources : Sources budgets}
    {artifact : CompletedComparisonArtifact inputs.recordBytes}
    (hrun : (comparisonRun inputs sources).result = .ok (.completed artifact)) :
    ∃ maxEncodedRowBytes reference target state last,
      FollowedRun inputs sources maxEncodedRowBytes reference target state last artifact
        (comparisonRun inputs sources).world := by
  have hensures := ensures_comparisonRun (FailureSet.all inputs sources)
    (Knowledge.none_answers sources) (.inr fun _ => trivial) (fun _ _ _ _ _ _ => trivial)
    (fun _ _ => trivial) (fun _ _ state world => ∃ splits, OpenSplits splits state world)
    (fun _ _ _ _ _ hread => ⟨[], hread.openSplits⟩)
    fun _ _ _ _ _ _ _ _ hstate _ hstep hopen => by
      obtain ⟨splits, hsplits⟩ := hopen
      exact hsplits.round hstate hstep
  exact hensures.of_result hrun artifact rfl

/-- A run that returned a completed artifact is published, with everything the
published topology guarantees, exactly when its replies fit each other level by
level, its clock is in time and its ranges can be numbered. -/
theorem publication_accepts_iff {inputs : ComparisonInputs Body} {sources : Sources budgets}
    {attempt : RunAttemptRecord} {cut : PersistedInputCut}
    (hcut : CutOfAttempt inputs budgets attempt cut)
    {artifact : CompletedComparisonArtifact inputs.recordBytes}
    (hrun : (comparisonRun inputs sources).result = .ok (.completed artifact)) :
    (∃ comparison rows anomalies,
      completedComparisonPersistenceFromArtifact attempt cut artifact
        = .ok (comparison, rows, anomalies) ∧ PublishedTopology comparison rows) ↔
      Closes sources (comparisonRun inputs sources).world := by
  obtain ⟨maxEncodedRowBytes, reference, target, state, last, h⟩ := completedRun_followed hrun
  obtain ⟨hcheck, hcontract, hscope, hcutDigest⟩ := h.completes.identity
  obtain ⟨usage, hsnapshot, -, hreferenceScans, htargetScans⟩ := h.completes.metrics_eq
  constructor
  · rintro ⟨comparison, rows, anomalies, hok, -⟩
    simp only [completedComparisonPersistenceFromArtifact, bind_unit_eq_ok,
      @bind_eq_ok _ CompletedComparisonDefinition,
      @bind_eq_ok _ (List IntegerRangeFingerprintPersistence)] at hok
    obtain ⟨-, -, -, -, -, -, definition, hdefinition, rows', hrows, htopology, hbudgets, -⟩ := hok
    obtain ⟨root, htopology⟩ := validateCompletedSegments_eq_ok.mp htopology
    obtain ⟨hrowsOf, hsequences⟩ := rowsOf_of_mapM hrows
    rw [hcut.budgets_eq, validateCompletedBudgetUse_eq_ok] at hbudgets
    exact
      { levels := (followed_closes_iff h).mp (followed_closed h hrowsOf htopology)
        in_time := (followed_within h (definitionOf_of_ofArtifact hdefinition)).mp hbudgets.1
        numbered := by
          rw [← followed_length h]
          by_contra hmany
          have hmem : int64Max + 1 ∈ artifact.segments.map (·.segmentSequence) := by
            rw [artifact.contiguous, List.mem_range]
            omega
          obtain ⟨segment, hsegment, hsequence⟩ := List.mem_map.mp hmem
          have := hsequences segment hsegment
          omega }
  · rintro ⟨hlevels, htime, hnumbered⟩
    have hclosed := (followed_closes_iff h).mpr hlevels
    have hverdict : artifact.verdict ≠ .inconclusive := by
      rw [h.completes.verdict_eq]
      split <;> simp
    obtain ⟨comparison, hofArtifact, hdefinition⟩ := ofArtifact_of hverdict
    have hsequences : ∀ segment ∈ artifact.segments, segment.segmentSequence ≤ int64Max := by
      intro segment hsegment
      have hmem : segment.segmentSequence ∈ artifact.segments.map (·.segmentSequence) :=
        List.mem_map.mpr ⟨segment, hsegment, rfl⟩
      rw [artifact.contiguous, List.mem_range, followed_length h] at hmem
      omega
    obtain ⟨rows, hmapM, hrows⟩ := exists_rows hsequences
      (fun segment hsegment => (followed_depth h segment hsegment).2) cut.observationIds
    obtain ⟨root, rest, rfl, htopology, hreferenceCount, htargetCount⟩ :=
      followed_topology h hcut.observations hrows hdefinition hclosed
    refine ⟨comparison, root :: rest, artifact.anomalies, ?_, htopology.published⟩
    have hdepth : ∀ row ∈ root :: rest, row.depth ≤ budgets.maxDepth := by
      intro row hrow
      obtain ⟨segment, hsegment, hrowOf⟩ := hrows.exists_segment row hrow
      rw [hrowOf.place_eq]
      exact (followed_depth h segment hsegment).1
    simp only [completedComparisonPersistenceFromArtifact, bind_unit_eq_ok, refuseIf_eq_ok,
      forM_eq_ok, @bind_eq_ok _ CompletedComparisonDefinition,
      @bind_eq_ok _ (List IntegerRangeFingerprintPersistence)]
    refine ⟨?_, ?_, ?_, ?_, ?_, ?_, comparison, hofArtifact, root :: rest, hmapM, ?_, ?_, ?_⟩
    · simp [hcut.run_eq, hcut.attempt_eq]
    · rw [not_not, hcutDigest]
      exact hcut.cut_eq
    · intro bound hbound
      have := hcut.bound_eq bound hbound
      tauto
    · rw [not_not, hscope]
      exact hcut.scope_eq
    · rw [hcut.budgets_eq, hreferenceScans, gt_iff_lt, not_lt]
      exact hsnapshot.reference_le
    · rw [hcut.budgets_eq, htargetScans, gt_iff_lt, not_lt]
      exact hsnapshot.target_le
    · exact validateCompletedSegments_eq_ok.mpr ⟨root, htopology⟩
    · rw [hcut.budgets_eq]
      exact validateCompletedBudgetUse_eq_ok.mpr
        ⟨(followed_within h hdefinition).mpr htime, hdepth⟩
    · simp only [bind_unit_eq_ok, pure_eq_ok, and_true]
      refine ⟨?_, ?_, ?_⟩
      · refine validateArtifactSummaryClosure_of ?_ ?_ hreferenceCount htargetCount
        · rw [h.completes.summaries_eq.1]
          exact ⟨h.unique.1, h.mapped.1⟩
        · rw [h.completes.summaries_eq.2]
          exact ⟨h.unique.2, h.mapped.2⟩
      · rw [hdefinition.evidence_eq]
        exact validateAnomalyCoverage_of artifact.retained
      · exact validateCompletedAnomalySegments_of hrows (followed_frontier h).topology_nodup
          artifact.in_mismatch

/-! ### A source that changes between two levels -/

def sampleAttempt : RunAttemptRecord where
  attemptId := 11
  run :=
    { runId := 10, creationOperationId := 20, createdAt := 0, boundInputCutDigest := none
      cutBindingOperationId := none, selectedTerminalAttemptId := none, terminalOperationId := none }
  ordinal := 1
  startOperationId := 21
  status := .running
  executionBudgets := sampleBudgets
  ownerToken := 22
  leaseRevision := 0
  leaseOperationId := none
  initialLeaseExpiresAt := 5
  leaseExpiresAt := 5
  startedAt := 0
  inputCutDigest := none
  endOperationId := none
  ordinal_pos := Nat.le_add_right 1 0
  lease_operation_iff := by decide
  lease_le := by decide

def sampleCut : PersistedInputCut where
  runId := 10
  attemptId := 11
  inputCutDigest := sampleInputs.inputCutDigest
  referenceScopeDigest := sampleInputs.scopeDigest
  observationIds := (30, 31)

theorem sampleCut_ofAttempt : CutOfAttempt sampleInputs sampleBudgets sampleAttempt sampleCut where
  run_eq := rfl
  attempt_eq := rfl
  cut_eq := rfl
  bound_eq := by simp [sampleAttempt]
  scope_eq := rfl
  budgets_eq := rfl
  observations := by decide

/-- What the publisher says of a completed run. -/
def publicationOf {budgets : ExecutionBudgets} (inputs : ComparisonInputs Body)
    (sources : Sources budgets) (attempt : RunAttemptRecord) (cut : PersistedInputCut) :
    Option (Except Refusal Unit) :=
  (completedArtifact? inputs sources).map fun artifact =>
    (completedComparisonPersistenceFromArtifact attempt cut artifact).map fun _ => ()

/-- The run completes: its level of halves agrees. The publisher then finds that
the halves do not add up to the root. -/
theorem drifting_run_refused :
    CutOfAttempt sampleInputs sampleBudgets sampleAttempt sampleCut ∧
    ∃ artifact, (comparisonRun sampleInputs (sampleSources 1)).result = .ok (.completed artifact) ∧
      completedComparisonPersistenceFromArtifact sampleAttempt sampleCut artifact
        = .error { error := .valueError
                   message := "reference child fingerprints must combine to their split parent" } := by
  have hpublication : publicationOf sampleInputs (sampleSources 1) sampleAttempt sampleCut
      = some (.error { error := .valueError
                       message := "reference child fingerprints must combine to their split parent" }) := by
    decide +kernel
  obtain ⟨artifact, hartifact, hrefused⟩ := Option.map_eq_some_iff.mp hpublication
  refine ⟨sampleCut_ofAttempt, artifact, completedArtifact?_eq_some hartifact, ?_⟩
  cases hresult : completedComparisonPersistenceFromArtifact sampleAttempt sampleCut artifact with
  | error refusal =>
    rw [hresult] at hrefused
    simpa [Except.map] using hrefused
  | ok result =>
    rw [hresult] at hrefused
    simp [Except.map] at hrefused

/-- A source that stays as it is: its root agrees, and the run is published. -/
theorem settled_run_published :
    ∃ artifact, (comparisonRun sampleInputs (sampleSources 0)).result = .ok (.completed artifact) ∧
      ∃ comparison rows anomalies,
        completedComparisonPersistenceFromArtifact sampleAttempt sampleCut artifact
          = .ok (comparison, rows, anomalies) ∧ PublishedTopology comparison rows := by
  have hsome : (completedArtifact? sampleInputs (sampleSources 0)).isSome = true := by
    decide +kernel
  obtain ⟨artifact, hartifact⟩ := Option.isSome_iff_exists.mp hsome
  have hrun := completedArtifact?_eq_some hartifact
  have hlength : (replyLevels (comparisonRun sampleInputs (sampleSources 0)).world.replies).length
      = 1 := by decide +kernel
  refine ⟨artifact, hrun, (publication_accepts_iff sampleCut_ofAttempt hrun).mpr ⟨?_, ?_, ?_⟩⟩
  · obtain ⟨level, hlevel⟩ := List.length_eq_one_iff.mp hlength
    rw [LevelsClose, hlevel]
    exact List.isChain_singleton _
  · decide +kernel
  · decide +kernel

end ForensicData.Persistence
