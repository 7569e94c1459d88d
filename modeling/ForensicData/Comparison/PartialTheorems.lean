/-
ForensicData.Comparison.PartialTheorems — interrupted runs leave no gap.

Every progress a run yields is `Reportable`: its recorded and its pending
segments are a frontier of some root. From such a progress the partial artifact
can always be built, and what it reports as recorded and as unresolved is that
frontier. `frontier_partitions_root` puts this together with the engine's run.
-/
import ForensicData.Comparison.Partial
import ForensicData.Comparison.Runs

namespace ForensicData.Comparison

open ForensicData.Canonical
open ForensicData.Lib
open ForensicData.Lib.Generator
open ForensicData.Result

variable {budgets : ExecutionBudgets} {Body : Type} {inputs : ComparisonInputs Body}
  {sources : Sources budgets} {inv : Progress Body → Prop} {fail : Cause → Prop}
  {world : World budgets} {knowledge : Knowledge} {root : SegmentPlace} {progress : Progress Body}

/-! ## Reportable progress -/

/-- What the partial artifact needs of a progress. -/
structure Reportable (budgets : ExecutionBudgets) (recordBytes : DifferenceRecord Body → ℕ)
    (root : SegmentPlace) (progress : Progress Body) : Prop where
  frontier : Frontier root progress.topology progress.pending
  witnesses : ∀ witness ∈ progress.mismatchWitnesses, witness.agrees = false
  evidence : Evidence budgets recordBytes progress

theorem Sound.reportable {recordBytes : DifferenceRecord Body → ℕ} {owed : ℕ}
    (h : Sound budgets recordBytes knowledge root owed progress) :
    Reportable budgets recordBytes root progress where
  frontier := h.frontier
  witnesses := fun witness hwitness => (h.witnesses witness hwitness).1
  evidence := h.evidence

theorem wholeDomain_wellPlaced : wholeDomain.WellPlaced where
  parent_lt := by simp [wholeDomain]
  root_iff := by simp [wholeDomain]
  lower_int64 := by decide
  upper_int64 := by simp [wholeDomain]

/-- Before anything is read the whole domain is pending. -/
theorem Progress.Fresh.reportable {recordBytes : DifferenceRecord Body → ℕ} (h : progress.Fresh) :
    Reportable budgets recordBytes wholeDomain progress where
  frontier := by
    rw [h.topology, h.pending]
    exact .start ⟨rfl, rfl, rfl⟩ wholeDomain_wellPlaced
      (SegmentPlace.IsRoot.narrow ⟨rfl, rfl, rfl⟩ wholeDomain_wellPlaced)
  witnesses := by simp [h.witnesses]
  evidence :=
    { numbered := by simp [h.anomalies]
      open_eq := by simp [h.anomalies, h.found.1]
      length_le := by simp [h.anomalies]
      retained_eq := by simp [h.anomalies, h.retained]
      bytes_le := by simp [h.retained]
      rows_limit := by simp [h.anomalies]
      bytes_limit := by simp [h.retained]
      in_mismatch := by simp [h.anomalies] }

/-! ## The frontier of a partial artifact -/

/-- No pending segment is recorded, so all of them are unresolved. -/
theorem unresolvedPending_perm (h : Frontier root progress.topology progress.pending) :
    (unresolvedPending progress).Perm progress.pending := by
  have hall : progress.pending.filter (fun item =>
      decide (item.segmentSequence ∉ progress.topology.map (·.segmentSequence)))
        = progress.pending := by
    rw [List.filter_eq_self]
    intro item hitem
    rw [decide_eq_true_eq]
    intro hrecorded
    have hnodup := h.sequences_nodup
    rw [places, List.map_append, List.map_map, List.nodup_append] at hnodup
    exact hnodup.2.2 _ hrecorded _ (List.mem_map.mpr ⟨item, hitem, rfl⟩) rfl
  rw [unresolvedPending, hall]
  exact List.perm_insertionSort _ _

/-- Sorting segments of distinct sequences puts them in strictly ascending order. -/
theorem insertionSort_ascending {α : Type} (sequence : α → ℕ) {items : List α}
    (hnodup : (items.map sequence).Nodup) :
    ((items.insertionSort fun a b => sequence a ≤ sequence b).map sequence).Pairwise (· < ·) := by
  have hperm := List.perm_insertionSort (fun a b => sequence a ≤ sequence b) items
  have hsorted : ((items.insertionSort fun a b => sequence a ≤ sequence b).map sequence).SortedLE := by
    refine List.Pairwise.sortedLE (List.pairwise_map.mpr ?_)
    exact List.pairwise_insertionSort (fun a b => sequence a ≤ sequence b) items
  exact (hsorted.sortedLT_of_nodup ((hperm.map _).nodup_iff.mpr hnodup)).pairwise

/-- An unresolved segment is the pending one with its witness. -/
theorem unresolvedSegment_eq_ok {reason : ReasonCode} {item : PendingSegment}
    (hplaced : item.WellPlaced)
    (hwitnesses : ∀ witness ∈ progress.mismatchWitnesses, witness.agrees = false) :
    ∃ unresolved, unresolvedSegment progress reason item = .ok unresolved ∧
      unresolved.toSegmentPlace = item ∧ unresolved.reason = reason ∧
      unresolved.referenceFingerprint.isSome = (progress.witness item.segmentSequence).isSome := by
  have hdiffers : ((progress.witness item.segmentSequence).map (·.reference.fingerprint)).isSome
      = true → (progress.witness item.segmentSequence).map (·.reference.fingerprint)
        ≠ (progress.witness item.segmentSequence).map (·.target.fingerprint) := by
    cases hwitness : progress.witness item.segmentSequence with
    | none => simp
    | some witness =>
      have hmem : witness ∈ progress.mismatchWitnesses := by
        have := List.mem_of_find?_eq_some hwitness
        simpa using this
      have := hwitnesses witness hmem
      simpa [FingerprintNode.agrees] using this
  unfold unresolvedSegment UnresolvedComparisonSegment.make
  split
  · rename_i refusal hrefusal
    have hok : item.check unresolvedSegmentTexts = .ok () := SegmentPlace.check_eq_ok.mpr hplaced
    simp [hok] at hrefusal
  · rw [dif_pos (by cases progress.witness item.segmentSequence <;> rfl), dif_pos hdiffers]
    exact ⟨_, rfl, rfl, rfl, Option.isSome_map ..⟩

/-- What the artifact of a reportable progress reports of its segments. -/
structure Reports (progress : Progress Body) (reason : ReasonCode)
    (frontier : PartialComparisonFrontier) : Prop where
  topology_eq : frontier.topology = orderedTopology progress.topology
  unresolved_eq : frontier.unresolved.map (·.toSegmentPlace) = unresolvedPending progress
  reasons_eq : ∀ item ∈ frontier.unresolved, item.reason = reason

theorem partialFrontier_make (h : Frontier root progress.topology progress.pending)
    {reason : ReasonCode} {unresolved : List UnresolvedComparisonSegment}
    (hunresolved : unresolved.map (·.toSegmentPlace) = unresolvedPending progress)
    (hreasons : ∀ item ∈ unresolved, item.reason = reason) :
    ∃ frontier, PartialComparisonFrontier.make (orderedTopology progress.topology) unresolved
      = .ok frontier ∧ Reports progress reason frontier ∧ frontier.unresolved = unresolved := by
  have hnodup := h.sequences_nodup
  rw [places, List.map_append, List.map_map, List.nodup_append] at hnodup
  obtain ⟨htopology, hpending, hdisjoint⟩ := hnodup
  have hsequences : unresolved.map (·.segmentSequence)
      = (unresolvedPending progress).map (·.segmentSequence) := by
    rw [← hunresolved, List.map_map]
    rfl
  have hsorted : ((orderedTopology progress.topology).map (·.segmentSequence)).Pairwise (· < ·) :=
    insertionSort_ascending (fun segment : ComparisonSegmentRecord => segment.segmentSequence)
      htopology
  have hopen : (unresolved.map (·.segmentSequence)).Pairwise (· < ·) := by
    rw [hsequences]
    refine insertionSort_ascending (fun item : PendingSegment => item.segmentSequence) ?_
    exact hpending.sublist (List.filter_sublist.map _)
  have hapart : ∀ recorded ∈ orderedTopology progress.topology, ∀ left ∈ unresolved,
      recorded.segmentSequence ≠ left.segmentSequence := by
    intro recorded hrecorded left hleft
    refine hdisjoint _ (List.mem_map.mpr ⟨recorded, ?_, rfl⟩) _ ?_
    · exact (List.perm_insertionSort _ _).subset hrecorded
    · have hmem : left.segmentSequence ∈ (unresolvedPending progress).map (·.segmentSequence) := by
        rw [← hsequences]
        exact List.mem_map.mpr ⟨left, hleft, rfl⟩
      exact ((unresolvedPending_perm h).map _).subset hmem
  refine ⟨{ topology := orderedTopology progress.topology, unresolved, topology_sorted := hsorted
            unresolved_sorted := hopen, disjoint := hapart }, ?_, ⟨rfl, hunresolved, hreasons⟩, rfl⟩
  have hlt : ∀ {sequences : List ℕ}, sequences.Pairwise (· < ·) → sequences.Nodup :=
    fun hpairwise => hpairwise.imp fun hab => Nat.ne_of_lt hab
  rw [PartialComparisonFrontier.make, if_neg (not_not.mpr (hlt hsorted)),
    if_neg (not_not.mpr (hlt hopen)), dif_pos hapart, dif_pos hsorted, dif_pos hopen]

/-- One reason for all unresolved segments is listed once. -/
theorem unresolvedReasons_eq {reason : ReasonCode} {unresolved : List UnresolvedComparisonSegment}
    (hreasons : ∀ item ∈ unresolved, item.reason = reason) :
    (unresolved.map (·.reason)).reverse.dedup.reverse
      = if unresolved = [] then [] else [reason] := by
  have hmap : unresolved.map (·.reason) = List.replicate unresolved.length reason :=
    List.eq_replicate_iff.mpr ⟨List.length_map _, by simpa using hreasons⟩
  rw [hmap, List.reverse_replicate]
  split
  · rename_i hnil
    simp [hnil]
  · rename_i hne
    rw [List.replicate_dedup (List.length_pos_of_ne_nil hne).ne']
    rfl

/-! ## Building the artifact -/

theorem partialVerdict_ne_match {counts : ExactCounts} {frontierMismatch : Bool}
    {contractViolation : Option ResultReason} :
    partialVerdict counts frontierMismatch contractViolation ≠ .match := by
  unfold partialVerdict
  split <;> simp

theorem partialVerdict_mismatch {counts : ExactCounts} {frontierMismatch : Bool}
    {contractViolation : Option ResultReason}
    (h : counts.differences ≠ 0 ∨ frontierMismatch = true) :
    partialVerdict counts frontierMismatch contractViolation = .mismatch :=
  if_pos (h.imp_right .inl)

/-- Lower bounds come with an exact segment, and a positive one with a mismatch. -/
theorem validatePartialTotals_of {fields : PartialFields Body} {counts : ExactCounts}
    {reason : ReasonCode} (hverdict : counts.differences ≠ 0 → fields.verdict = .mismatch)
    (htotals : fields.totals
      = partialTotals counts fields.comparisonCoverage.exactSegments reason) :
    validatePartialTotals fields = .ok () := by
  simp only [validatePartialTotals, bind_unit_eq_ok, refuseIf_eq_ok, htotals]
  unfold partialTotals
  split
  · rename_i hexact
    refine ⟨by simp [ComparisonTotals.values, Total.isExact, Total.isInferred], by omega, ?_⟩
    intro h
    refine h.2 (hverdict fun hzero => ?_)
    simp only [ExactCounts.differences] at hzero
    obtain ⟨hmissing, hextra, hmodified⟩ : counts.missing = 0 ∧ counts.extra = 0 ∧
        counts.modified = 0 := by omega
    simp [ComparisonTotals.differences, Total.isLowerBound, Total.value, hmissing, hextra,
      hmodified] at h
  · simp [ComparisonTotals.values, ComparisonTotals.differences, ComparisonTotals.uniform,
      Total.isExact, Total.isInferred, Total.isLowerBound]

/-- The coverage `_partial_comparison_artifact` gives to a frontier. -/
structure CoversFrontier (coverage : ComparisonCoverage) (frontier : PartialComparisonFrontier) :
    Prop where
  pruned_eq : coverage.prunedSegments = prunedSegmentCount frontier.topology
  exact_eq : coverage.exactSegments = exactSegmentCount frontier.topology
  unresolved_eq : coverage.unresolvedSegments = frontier.unresolved.length
  reasons_eq : coverage.unresolvedReasons
    = (frontier.unresolved.map (·.reason)).reverse.dedup.reverse
  total_eq : coverage.totalPartitions = 1
  covered_eq : coverage.coveredPartitions
    = if frontier.unresolved.isEmpty ∧ 0 < coverage.resolvedSegments then 1 else 0

theorem validatePartialFrontierCoverage_of {fields : PartialFields Body}
    (hcoverage : CoversFrontier fields.comparisonCoverage fields.frontier)
    (hverdict : fields.frontier.hasFingerprintMismatch = true → fields.verdict = .mismatch)
    (hmismatch : ∀ anomaly ∈ fields.anomalies, InExactMismatch fields.frontier.topology anomaly) :
    validatePartialFrontierCoverage fields = .ok () := by
  have hresolved := fields.comparisonCoverage.resolved_eq
  rw [hcoverage.pruned_eq, hcoverage.exact_eq] at hresolved
  simp only [validatePartialFrontierCoverage, bind_unit_eq_ok, refuseIf_eq_ok]
  refine ⟨fun h => ?_, fun h => h hcoverage.unresolved_eq, fun h => h hcoverage.reasons_eq,
    fun h => ?_, fun h => h.2 (hverdict h.1), fun h => h hmismatch⟩
  · obtain h | h | h := h.2
    · exact h hcoverage.pruned_eq
    · exact h hcoverage.exact_eq
    · exact h hresolved
  · obtain h | h := h
    · exact h hcoverage.total_eq
    · exact h hcoverage.covered_eq

/-- Fields pass the checks if whatever was found to differ makes the verdict. -/
theorem PartialFields.validate_of {recordBytes : DifferenceRecord Body → ℕ}
    {fields : PartialFields Body} {counts : ExactCounts} {reason : ReasonCode}
    (hmatch : fields.verdict ≠ .match)
    (hverdict : counts.differences ≠ 0 ∨ fields.frontier.hasFingerprintMismatch = true →
      fields.verdict = .mismatch)
    (hcontexts : fields.consistency.readContextIds.length = 2)
    (haligned : fields.consistency.cutAlignment = .verified)
    (hguarantee : fields.guarantee = .notEstablished)
    (hretained : RetainedEvidence recordBytes fields.evidenceCoverage fields.anomalies)
    (hcoverage : CoversFrontier fields.comparisonCoverage fields.frontier)
    (hmismatch : ∀ anomaly ∈ fields.anomalies, InExactMismatch fields.frontier.topology anomaly)
    (htotals : fields.totals
      = partialTotals counts fields.comparisonCoverage.exactSegments reason) :
    fields.validate recordBytes = .ok () := by
  simp only [PartialFields.validate, bind_unit_eq_ok, refuseIf_eq_ok, hcontexts, haligned,
    hguarantee]
  exact ⟨hmatch, by simp, by simp, by simp, by simp, validateEvidenceCoverage_eq_ok.mpr hretained,
    validatePartialFrontierCoverage_of hcoverage (fun h => hverdict (.inr h)) hmismatch,
    validatePartialTotals_of (fun h => hverdict (.inl h)) htotals⟩

/-- Every pending segment can be reported, with its fingerprints if it has a
witness. -/
theorem unresolvedSegments_eq_ok {recordBytes : DifferenceRecord Body → ℕ}
    (h : Reportable budgets recordBytes root progress) (reason : ReasonCode) :
    ∃ unresolved, (unresolvedPending progress).mapM (unresolvedSegment progress reason)
        = .ok unresolved ∧
      unresolved.map (·.toSegmentPlace) = unresolvedPending progress ∧
        (∀ item ∈ unresolved, item.reason = reason) ∧
        unresolved.any (·.referenceFingerprint.isSome)
          = (unresolvedPending progress).any fun item =>
              (progress.witness item.segmentSequence).isSome := by
  have hitems : ∀ item ∈ unresolvedPending progress, ∃ unresolved,
      unresolvedSegment progress reason item = .ok unresolved ∧
        (unresolved.toSegmentPlace = item ∧ unresolved.reason = reason ∧
          unresolved.referenceFingerprint.isSome
            = (progress.witness item.segmentSequence).isSome) := by
    intro item hitem
    refine unresolvedSegment_eq_ok (h.frontier.placed item (List.mem_append_right _ ?_)) h.witnesses
    exact (unresolvedPending_perm h.frontier).subset hitem
  obtain ⟨unresolved, hok, hall⟩ := exists_mapM_eq_ok hitems
  refine ⟨unresolved, hok, ?_⟩
  clear hok hitems
  generalize unresolvedPending progress = items at hall ⊢
  induction hall with
  | nil => simp
  | cons hhead _ ih =>
    rw [List.map_cons, hhead.1, ih.1, List.forall_mem_cons, List.any_cons, List.any_cons,
      hhead.2.2, ih.2.2]
    exact ⟨rfl, ⟨hhead.2.1, ih.2.1⟩, rfl⟩

/-- The two contexts make a consistency status unless they are the same. -/
theorem ensures_contextConsistency
    (hids : sources.contextId .reference ≠ sources.contextId .target ∨ ∀ raised, fail raised)
    {stableReads : ConsistencyLevel} {post : ConsistencyStatus → World budgets → Prop}
    (hpost : ∀ consistency : ConsistencyStatus, consistency.cutAlignment = .verified →
      consistency.readContextIds = [sources.contextId .reference, sources.contextId .target] →
      post consistency world) :
    Ensures inv (fun raised _ => fail raised) (liftRefusal (contextConsistency sources stableReads))
      world post := by
  by_cases hdistinct : sources.contextId .reference = sources.contextId .target
  · refine ensures_lift_of (fun raised _ => ?_) fun consistency hok => ?_
    · exact hids.elim (absurd hdistinct) fun hall => hall raised
    · simp [contextConsistency, ConsistencyStatus.make, raiseValueError, hdistinct,
        Except.mapError] at hok
  · have hnodup : [sources.contextId .reference, sources.contextId .target].Nodup := by
      simpa using hdistinct
    refine ensures_liftRefusal (ConsistencyStatus.make_of_nodup hnodup) ?_
    exact hpost _ rfl rfl

/-- What the artifact of an interrupted progress says of it. -/
structure ReportsInterruption (progress : Progress Body) (cause : Cause) (reason : ReasonCode)
    (artifact : PartialFields Body) : Prop where
  segments : Reports progress reason artifact.frontier
  witnessed : (artifact.frontier.unresolved.any fun item => item.referenceFingerprint.isSome)
    = (unresolvedPending progress).any fun item =>
        (progress.witness item.segmentSequence).isSome
  verdict_eq : artifact.verdict = partialVerdict progress.exactCounts
    artifact.frontier.hasFingerprintMismatch (cause.keyMapping.bind (·.contractViolationReason))
  totals_eq : artifact.totals = partialTotals progress.exactCounts
    (exactSegmentCount (orderedTopology progress.topology)) reason

/-- The artifact of a reportable progress can always be built: only the cause or
the contexts can stand in the way. -/
theorem ensures_partialComparisonArtifact {cause : Cause}
    (hreason : ∀ raised, interruptionReasonCode cause = .error raised → fail raised)
    (hlevel : ∀ replyCount raised, comparisonStableReadLevel sources replyCount
      progress.summariesVerified = .error raised → fail raised)
    (hids : sources.contextId .reference ≠ sources.contextId .target ∨ ∀ raised, fail raised)
    (h : Reportable budgets inputs.recordBytes root progress)
    {post : PartialComparisonArtifact inputs.recordBytes → World budgets → Prop}
    (hpost : ∀ artifact after reason, interruptionReasonCode cause = .ok reason →
      ReportsInterruption progress cause reason artifact.toPartialFields → post artifact after) :
    Ensures inv (fun raised _ => fail raised)
      (partialComparisonArtifact inputs sources progress cause) world post := by
  simp only [partialComparisonArtifact, ensures_bind]
  refine ensures_lift_of hreason fun reason hreason => ?_
  obtain ⟨unresolved, hunresolved, hplaces, hreasons, hwitnessed⟩ :=
    unresolvedSegments_eq_ok h reason
  refine ensures_liftRefusal hunresolved ?_
  refine ensures_consumeSourceUsage fun usage w1 _ _ => ?_
  refine ensures_act.mpr ⟨fun replyCount _ => ?_, fun raised h => by simp at h⟩
  refine ensures_lift_of (hlevel replyCount) fun stableReads _ => ?_
  have hevidence := h.evidence
  obtain ⟨frontier, hfrontier, hreports, hsame⟩ := partialFrontier_make h.frontier hplaces hreasons
  have hmismatch : ∀ anomaly ∈ progress.anomalies,
      InExactMismatch (orderedTopology progress.topology) anomaly := by
    intro anomaly hanomaly
    obtain ⟨segment, hsegment, hfacts⟩ := hevidence.in_mismatch anomaly hanomaly
    exact ⟨segment, (List.perm_insertionSort _ _).symm.subset hsegment, hfacts⟩
  refine ensures_contextConsistency hids fun consistency haligned hcontexts => ?_
  subst hsame
  have hcovered : (if frontier.unresolved = [] ∧
      0 < prunedSegmentCount (orderedTopology progress.topology)
      + exactSegmentCount (orderedTopology progress.topology) then 1 else 0) ≤ 1 := by
    split <;> omega
  refine ensures_liftRefusal (ComparisonCoverage.make_of hcovered rfl ?_ ?_ ?_) ?_
  · split <;> omega
  · intro hpos
    rw [if_neg fun h => by simp [h.1] at hpos]
    exact Nat.zero_ne_one
  · rw [List.length_eq_zero_iff]
    split <;> simp [*]
  refine ensures_liftRefusal
    (EvidenceCoverage.make_of_le hevidence.length_le hevidence.bytes_le) ?_
  refine ensures_liftRefusal hfrontier ?_
  refine ensures_liftRefusal (PartialComparisonArtifact.make_of ?_) ?_
  · refine PartialFields.validate_of partialVerdict_ne_match partialVerdict_mismatch
      (by rw [hcontexts]; rfl) haligned rfl
      ⟨hevidence.numbered, rfl, hevidence.retained_eq⟩ ?_ ?_ rfl
    · exact
        { pruned_eq := by rw [hreports.topology_eq]
          exact_eq := by rw [hreports.topology_eq]
          unresolved_eq := rfl
          reasons_eq := (unresolvedReasons_eq hreasons).symm
          total_eq := rfl
          covered_eq := by simp only [List.isEmpty_iff] }
    · simp only [hreports.topology_eq]
      exact hmismatch
  · exact hpost _ _ reason hreason ⟨hreports, hwitnessed, rfl, rfl⟩

/-! ## Every yield of a run -/

/-- The root of a progress: the whole domain until the summaries are verified,
then the range of their keys. -/
def RootOf (inputs : ComparisonInputs Body) (sources : Sources budgets) (progress : Progress Body)
    (root : SegmentPlace) : Prop :=
  if progress.summariesVerified = true then
    ∃ maxEncodedRowBytes reference target,
      SummariesAnswered inputs sources maxEncodedRowBytes reference target ∧
        root = rootSegment reference target
  else root = wholeDomain

/-- A yielded progress has read nothing yet, or it is sound for the range of the
keys of the answered summaries. -/
theorem comparisonRun_yielded (inputs : ComparisonInputs Body) (sources : Sources budgets)
    (hanswers : knowledge.Answers sources) :
    ∀ progress ∈ (comparisonRun inputs sources).yielded, progress.Fresh ∨
      ∃ maxEncodedRowBytes reference target,
        SummariesAnswered inputs sources maxEncodedRowBytes reference target ∧
        Sound budgets inputs.recordBytes knowledge (rootSegment reference target) 0 progress :=
  (ensures_comparisonRun (FailureSet.all inputs sources) hanswers (.inr fun _ => trivial)
    (fun maxEncodedRowBytes reference target _ hanswered hsound =>
      .inr ⟨maxEncodedRowBytes, reference, target, hanswered, hsound⟩)
    (fun _ hfresh => .inl hfresh) (fun _ _ _ _ => True) (fun _ _ _ _ _ _ => trivial)
    fun _ _ _ _ _ _ _ _ _ _ _ _ => trivial).1

/-- Every yielded progress is reportable. -/
theorem comparisonRun_reportable (inputs : ComparisonInputs Body) (sources : Sources budgets) :
    ∀ progress ∈ (comparisonRun inputs sources).yielded, ∃ root,
      RootOf inputs sources progress root ∧
        Reportable budgets inputs.recordBytes root progress := by
  intro progress hmem
  obtain hfresh | ⟨maxEncodedRowBytes, reference, target, hanswered, hsound⟩ :=
    comparisonRun_yielded inputs sources (Knowledge.none_answers sources) progress hmem
  · refine ⟨wholeDomain, ?_, hfresh.reportable⟩
    rw [RootOf, if_neg (by simp [hfresh.unverified])]
  · refine ⟨rootSegment reference target, ?_, hsound.reportable⟩
    rw [RootOf, if_pos hsound.verified]
    exact ⟨maxEncodedRowBytes, reference, target, hanswered, rfl⟩

/-- So is the last one, whether or not the run yielded any. -/
theorem lastProgress_reportable (inputs : ComparisonInputs Body) (sources : Sources budgets) :
    ∃ root, RootOf inputs sources (lastProgress inputs sources) root ∧
      Reportable budgets inputs.recordBytes root (lastProgress inputs sources) := by
  unfold lastProgress
  cases hlast : (comparisonRun inputs sources).yielded.getLast? with
  | none =>
    refine ⟨wholeDomain, ?_, (initialProgress_fresh sources).reportable⟩
    rw [Option.getD_none, RootOf, if_neg (by simp [(initialProgress_fresh sources).unverified])]
  | some progress =>
    exact comparisonRun_reportable inputs sources progress (List.mem_of_getLast? hlast)

/-- The recorded segments that are not split and the pending ones cut the root
range without gap or overlap, only the root has no split above it, and no
sequence is used twice. -/
structure FrontierPartitions (root : SegmentPlace) (topology : List ComparisonSegmentRecord)
    (pending : List PendingSegment) : Prop where
  partitions : PartitionsRange root (openPlaces topology pending)
  below_split : ∀ place ∈ places topology pending, place ≠ root →
    ∃ parent ∈ topology, parent.state = .split ∧
      place.parentSegmentSequence = some parent.segmentSequence
  distinct : ((places topology pending).map (·.segmentSequence)).Nodup

theorem Frontier.frontierPartitions {topology : List ComparisonSegmentRecord}
    {pending : List PendingSegment} (h : Frontier root topology pending) :
    FrontierPartitions root topology pending where
  partitions := partitionsRange_iff_tiles.mpr h.tiles
  below_split := fun place hplace hne => (h.rooted place hplace).resolve_left hne
  distinct := h.sequences_nodup

/-- What a partial artifact reports is the frontier of its progress. -/
theorem Reports.tiles {reason : ReasonCode} {frontier : PartialComparisonFrontier}
    (hreports : Reports progress reason frontier)
    (h : Frontier root progress.topology progress.pending) :
    Tiles SegmentPlace.covers ((terminalRecords frontier.topology).map (·.toSegmentPlace)
      ++ frontier.unresolved.map (·.toSegmentPlace)) root.covers := by
  refine h.tiles.perm (List.Perm.append ?_ ?_)
  · rw [hreports.topology_eq]
    exact ((List.perm_insertionSort _ _).symm.filter _).map _
  · rw [hreports.unresolved_eq]
    exact (unresolvedPending_perm h).symm

/-- At every yield after the summaries are verified the frontier partitions the
root range, and whatever interrupts the run, so does the frontier of the partial
artifact. -/
theorem frontier_partitions_root (inputs : ComparisonInputs Body) (sources : Sources budgets) :
    (∀ progress ∈ (comparisonRun inputs sources).yielded, progress.summariesVerified = true →
      ∃ maxEncodedRowBytes reference target,
        SummariesAnswered inputs sources maxEncodedRowBytes reference target ∧
          FrontierPartitions (rootSegment reference target) progress.topology progress.pending) ∧
    ∀ cause artifact, executeIntegerKeyComparison inputs sources = .interrupted cause artifact →
      ∃ root, RootOf inputs sources (lastProgress inputs sources) root ∧
        PartitionsRange root ((terminalRecords artifact.frontier.topology).map (·.toSegmentPlace)
          ++ artifact.frontier.unresolved.map (·.toSegmentPlace)) := by
  constructor
  · intro progress hmem hverified
    obtain ⟨root, hroot, hreportable⟩ := comparisonRun_reportable inputs sources progress hmem
    rw [RootOf, if_pos hverified] at hroot
    obtain ⟨maxEncodedRowBytes, reference, target, hanswered, rfl⟩ := hroot
    exact ⟨maxEncodedRowBytes, reference, target, hanswered,
      hreportable.frontier.frontierPartitions⟩
  · intro cause artifact h
    obtain ⟨root, hroot, hreportable⟩ := lastProgress_reportable inputs sources
    refine ⟨root, hroot, ?_⟩
    simp only [executeIntegerKeyComparison] at h
    split at h
    · simp at h
    · rename_i cause' hcause
      split at h
      · split at h
        · rename_i artifact' hartifact
          simp only [ComparisonEnd.interrupted.injEq] at h
          obtain ⟨-, rfl⟩ := h
          have hensures : Ensures (fun _ => True) (fun _ _ => True)
              (partialComparisonArtifact inputs sources (lastProgress inputs sources) cause')
              (comparisonRun inputs sources).world fun artifact _ =>
                ∃ reason, Reports (lastProgress inputs sources) reason artifact.frontier :=
            ensures_partialComparisonArtifact (fun _ _ => trivial) (fun _ _ _ => trivial)
              (.inr fun _ => trivial) hreportable
              fun artifact after reason _ hreports => ⟨reason, hreports.segments⟩
          obtain ⟨reason, hreports⟩ := hensures.of_result hartifact
          exact partitionsRange_iff_tiles.mpr (hreports.tiles hreportable.frontier)
        · simp at h
      · simp at h

end ForensicData.Comparison