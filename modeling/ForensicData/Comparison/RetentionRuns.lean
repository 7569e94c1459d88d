/-
ForensicData.Comparison.RetentionRuns — the evidence of a whole run.

Every step of a run either leaves the exact segments and the evidence alone or
records the leaves of an exact frontier, so every yielded progress keeps
`EvidenceKept`. A run reads one exact frontier only, and its ranges ascend as
those of every level do (`AscendingLevel`); so where the rows of a range ascend,
the differences do over the whole run. `evidence_is_longest_prefix` puts this
together for every yield and for the artifacts a run ends with.
-/
import ForensicData.Comparison.ExactLeaves
import ForensicData.Comparison.Retention

namespace ForensicData.Comparison

open ForensicData.Canonical
open ForensicData.Lib
open ForensicData.Lib.Generator
open ForensicData.Result

variable {budgets : ExecutionBudgets} {Body : Type} {inputs : ComparisonInputs Body}
  {sources : Sources budgets} {knowledge : Knowledge} {progress : Progress Body}
  {inv : Progress Body → Prop} {world : World budgets}

/-! ## A round -/

/-- Only the usage changed. -/
theorem EvidenceKept.withUsage (h : EvidenceKept budgets inputs knowledge progress)
    (usage : Usage) : EvidenceKept budgets inputs knowledge { progress with usage } :=
  h.congr rfl rfl rfl ⟨rfl, rfl⟩ ⟨rfl, rfl⟩

/-- A level is read: its nodes are those of the pending ranges. -/
theorem kept_fingerprintLevel (hinv : ∀ p, EvidenceKept budgets inputs knowledge p → inv p)
    (hanswers : knowledge.Answers sources) {maxEncodedRowBytes : ℕ} {reference target : KeySummary}
    {state : LoopState Body} (hkept : EvidenceKept budgets inputs knowledge state.progress)
    {post : List FingerprintNode × LoopState Body → World budgets → Prop}
    (hpost : ∀ nodes usage now, nodes.map (·.segment) = state.pending →
      post (nodes, { pending := state.pending, usage, progress := { state.progress with usage } })
        now) :
    Ensures inv (fun _ _ => True)
      (fingerprintLevel inputs sources maxEncodedRowBytes reference target state) world post := by
  have hfail := FailureSet.all inputs sources
  simp only [fingerprintLevel, ensures_bind, ensures_yield, ensures_pure]
  refine ensures_lift_of (fun _ _ => trivial) fun _ _ => ?_
  refine ensures_lift_of (fun _ _ => trivial) fun plan _ => ?_
  refine ⟨hinv _ (hkept.withUsage _), ?_⟩
  refine ensures_readFingerprintLevel hfail hanswers fun reference target usage w1 _ _ => ?_
  refine ⟨hinv _ (hkept.withUsage _), ?_⟩
  refine ensures_fingerprintNodes hfail fun w2 _ hreference htarget => ?_
  refine ensures_lift_of (fun _ _ => trivial) fun _ _ => ?_
  exact hpost _ usage w2 (levelNodes_map hreference htarget).1

/-- What is kept, with the exact segments of an earlier progress. -/
structure KeptSince (budgets : ExecutionBudgets) (inputs : ComparisonInputs Body)
    (knowledge : Knowledge) (before after : Progress Body) : Prop where
  kept : EvidenceKept budgets inputs knowledge after
  exact_eq : exactRecords after.topology = exactRecords before.topology

theorem kept_announceMismatches (hinv : ∀ p, EvidenceKept budgets inputs knowledge p → inv p)
    {mismatching : List FingerprintNode} (hkept : EvidenceKept budgets inputs knowledge progress)
    {post : Progress Body → World budgets → Prop}
    (hpost : ∀ after, KeptSince budgets inputs knowledge progress after → post after world) :
    Ensures inv (fun _ _ => True) (announceMismatches progress mismatching) world post := by
  unfold announceMismatches
  split
  · exact ensures_pure.mpr (hpost progress ⟨hkept, rfl⟩)
  · have hafter : EvidenceKept budgets inputs knowledge
        (progress.withMismatchWitnesses mismatching) :=
      hkept.congr rfl rfl rfl ⟨rfl, rfl⟩ ⟨rfl, rfl⟩
    simp only [ensures_bind, ensures_yield, ensures_pure]
    exact ⟨hinv _ hafter, hpost _ ⟨hafter, rfl⟩⟩

theorem kept_recordMatching (hinv : ∀ p, EvidenceKept budgets inputs knowledge p → inv p)
    {matching : List FingerprintNode} (hkept : EvidenceKept budgets inputs knowledge progress)
    {post : Progress Body → World budgets → Prop}
    (hpost : ∀ after now, KeptSince budgets inputs knowledge progress after → post after now) :
    Ensures inv (fun _ _ => True) (recordMatching sources progress matching) world post := by
  have hfail := FailureSet.all inputs sources
  refine Ensures.mono (ensures_fold (fun _ after _ =>
    KeptSince budgets inputs knowledge progress after) ?_ ⟨hkept, rfl⟩) fun after now h =>
      hpost after now h
  intro item rest current now hcurrent
  simp only [ensures_bind, ensures_yield, ensures_pure]
  refine ensures_requireDeadlineEvery hfail fun w1 _ => ?_
  refine ensures_lift_of (fun _ _ => trivial) fun record hrecord => ?_
  cases hmake : segmentRecord item.1 .fingerprintMatch with
  | error refusal =>
    rw [hmake] at hrecord
    cases hrecord
  | ok made =>
    rw [hmake] at hrecord
    cases hrecord
    obtain ⟨-, hstate, -, -⟩ := segmentRecord_eq_ok.mp hmake
    have hexact : exactRecords (current.topology ++ [record]) = exactRecords current.topology :=
      exactRecords_append_of_not (by rw [hstate]; rfl)
    have hnext : EvidenceKept budgets inputs knowledge
        { current with
          topology := current.topology ++ [record]
          pending := withoutPendingSequence current.pending item.1.segment.segmentSequence
          prunedMatched := current.prunedMatched + item.1.reference.fingerprint.count
          prunedSegments := current.prunedSegments + 1 } :=
      hcurrent.kept.congr hexact rfl rfl ⟨rfl, rfl⟩ ⟨rfl, rfl⟩
    exact ⟨hinv _ hnext, hnext, hexact.trans hcurrent.exact_eq⟩

theorem kept_recordSplits (hinv : ∀ p, EvidenceKept budgets inputs knowledge p → inv p)
    {splits : List SplitNode} {processed : List PendingSegment}
    (hkept : EvidenceKept budgets inputs knowledge progress)
    {post : Progress Body → World budgets → Prop}
    (hpost : ∀ after now, KeptSince budgets inputs knowledge progress after → post after now) :
    Ensures inv (fun _ _ => True) (recordSplits progress processed splits) world post := by
  induction splits generalizing progress processed with
  | nil => exact ensures_pure.mpr (hpost progress world ⟨hkept, rfl⟩)
  | cons item rest ih =>
    simp only [recordSplits, ensures_bind, ensures_yield]
    refine ensures_lift_of (fun _ _ => trivial) fun record hrecord => ?_
    cases hmake : segmentRecord item.1 .split with
    | error refusal =>
      rw [hmake] at hrecord
      cases hrecord
    | ok made =>
      rw [hmake] at hrecord
      cases hrecord
      obtain ⟨-, hstate, -, -⟩ := segmentRecord_eq_ok.mp hmake
      have hexact : exactRecords (progress.topology ++ [record]) = exactRecords progress.topology :=
        exactRecords_append_of_not (by rw [hstate]; rfl)
      have hnext : EvidenceKept budgets inputs knowledge
          { progress with
            topology := progress.topology ++ [record]
            pending := processed ++ item.children ++ rest.map fun node => node.1.segment
            mismatchWitnesses := withoutMismatchWitness progress.mismatchWitnesses
              item.1.segment.segmentSequence } :=
        hkept.congr hexact rfl rfl ⟨rfl, rfl⟩ ⟨rfl, rfl⟩
      refine ⟨hinv _ hnext, ih hnext fun after now hafter => hpost after now ?_⟩
      exact ⟨hafter.kept, hafter.exact_eq.trans hexact⟩

/-- The exact frontier is read and its leaves are recorded. -/
theorem kept_resolveExactFrontier (hinv : ∀ p, EvidenceKept budgets inputs knowledge p → inv p)
    (hanswers : knowledge.Answers sources) {maxEncodedRowBytes : ℕ}
    {reservation : ExactFrontierReservation} {mismatching : List FingerprintNode}
    {state : LoopState Body} (hkept : EvidenceKept budgets inputs knowledge state.progress)
    (hblank : exactRecords state.progress.topology = [])
    (hordered : mismatching.Pairwise fun first second => first.segment.Before second.segment)
    {post : LoopState Body → World budgets → Prop}
    (hpost : ∀ after now, EvidenceKept budgets inputs knowledge after.progress → post after now) :
    Ensures inv (fun _ _ => True)
      (resolveExactFrontier inputs sources maxEncodedRowBytes reservation mismatching state) world
      post := by
  have hfail := FailureSet.all inputs sources
  simp only [resolveExactFrontier, ensures_bind, ensures_yield, ensures_pure]
  refine ⟨hinv _ (hkept.withUsage _), ?_⟩
  refine ensures_readExactFrontier hfail hanswers fun referenceRows targetRows usage w1 _ hread => ?_
  have hread' := hkept.withUsage usage
  refine ⟨hinv _ hread', ?_⟩
  refine ensures_groupExactFrontierRows hfail fun w2 _ => ?_
  exact kept_recordExactLeaves hinv hread' hblank hordered hread.reference_known
    hread.target_known fun after now hafter =>
      hpost { pending := after.pending, usage, progress := after } now hafter

/-- A round keeps the evidence; `state` has no exact segment yet, and its ranges
ascend. -/
theorem kept_workRound (hinv : ∀ p, EvidenceKept budgets inputs knowledge p → inv p)
    (hanswers : knowledge.Answers sources) {maxEncodedRowBytes : ℕ} {reference target : KeySummary}
    {state : LoopState Body} (hkept : EvidenceKept budgets inputs knowledge state.progress)
    (hblank : exactRecords state.progress.topology = [])
    (hordered : state.pending.Pairwise SegmentPlace.Before)
    {post : LoopState Body → World budgets → Prop}
    (hpost : ∀ after now, EvidenceKept budgets inputs knowledge after.progress → post after now) :
    Ensures inv (fun _ _ => True)
      (workRound inputs sources maxEncodedRowBytes reference target state) world post := by
  have hfail := FailureSet.all inputs sources
  simp only [workRound, ensures_bind]
  refine kept_fingerprintLevel hinv hanswers hkept fun nodes usage w1 hnodes => ?_
  refine ensures_partitionFingerprintNodes hfail fun w2 _ => ?_
  refine kept_announceMismatches hinv (hkept.withUsage usage) fun announced hannounced => ?_
  refine ensures_requireDeadline hfail fun w3 _ => ?_
  refine kept_recordMatching hinv hannounced.kept fun matched w4 hmatched => ?_
  have hsorted : (nodes.filter fun node => !node.agrees).Pairwise
      fun first second => first.segment.Before second.segment := by
    refine List.Pairwise.filter _ ?_
    rw [← hnodes, List.pairwise_map] at hordered
    exact hordered
  have hnone : exactRecords matched.topology = [] :=
    hmatched.exact_eq.trans (hannounced.exact_eq.trans hblank)
  split
  · exact ensures_pure.mpr (hpost _ w4 hmatched.kept)
  · simp only [ensures_bind]
    refine ensures_lift_of (fun _ _ => trivial) fun reservation _ => ?_
    refine ensures_act.mpr ⟨fun fits _ => ?_, fun _ _ => trivial⟩
    split
    · exact kept_resolveExactFrontier hinv hanswers hmatched.kept hnone hsorted
        fun after now hafter => hpost after now hafter
    · simp only [subdivideFrontier, ensures_bind, ensures_pure]
      refine ensures_splitNodes hfail fun splits w5 _ _ _ => ?_
      refine ensures_refuseWhen trivial fun _ => ?_
      refine ensures_refuseWhen trivial fun _ => ?_
      exact kept_recordSplits hinv hmatched.kept fun after now hafter => hpost _ now hafter.kept

/-! ## Levels in order -/

/-- The ranges of a level ascend, and no exact segment is recorded while there
are any. -/
structure AscendingLevel (state : LoopState Body) : Prop where
  ordered : state.pending.Pairwise SegmentPlace.Before
  blank : exactRecords state.progress.topology = [] ∨ state.pending = []

/-- A child of a split lies inside its parent. -/
theorem NumberedSplits.inside {nextSequence : ℕ} {splits : List SplitNode}
    (h : NumberedSplits nextSequence splits) :
    ∀ item ∈ splits, item.2.1.Before item.2.2 ∧ ∀ child ∈ item.children,
      item.1.segment.lowerInclusive ≤ child.lowerInclusive ∧
      ∀ upper, item.1.segment.upperExclusive = some upper →
        ∃ bound, child.upperExclusive = some bound ∧ bound ≤ upper := by
  induction splits generalizing nextSequence with
  | nil => simp
  | cons first rest ih =>
    intro item hitem
    rw [List.mem_cons] at hitem
    cases hitem with
    | inr hmem => exact ih h.2 item hmem
    | inl heq =>
      subst heq
      obtain ⟨hsplit, -⟩ := h
      obtain ⟨_, _, hlower, hcut, hupper, hlt, hbound⟩ := (splitSegment_eq_some hsplit).bisects
      refine ⟨⟨_, hcut, le_refl _⟩, fun child hchild => ?_⟩
      rw [SplitNode.children, List.mem_cons, List.mem_singleton] at hchild
      cases hchild with
      | inl hleft =>
        rw [hleft]
        refine ⟨hlower.ge, fun upper hparent => ⟨_, hcut, ?_⟩⟩
        rw [hparent] at hupper
        exact le_of_lt (hbound upper hupper)
      | inr hright =>
        rw [hright]
        refine ⟨?_, fun upper hparent => ⟨upper, hupper.trans hparent, le_refl _⟩⟩
        rw [← hlower]
        exact le_of_lt hlt

/-- The halves of ascending ranges ascend. -/
theorem NumberedSplits.ordered {nextSequence : ℕ} {splits : List SplitNode}
    (h : NumberedSplits nextSequence splits)
    (hordered : (splits.map Prod.fst).Pairwise fun first second =>
      first.segment.Before second.segment) :
    (splits.flatMap SplitNode.children).Pairwise SegmentPlace.Before := by
  rw [List.pairwise_map] at hordered
  rw [List.pairwise_flatMap]
  refine ⟨fun item hitem => ?_, hordered.imp_of_mem fun {a b} ha hb hab child hchild other hother => ?_⟩
  · rw [SplitNode.children, List.pairwise_cons]
    refine ⟨fun child hchild => ?_, List.pairwise_singleton _ _⟩
    rw [List.mem_singleton] at hchild
    rw [hchild]
    exact (h.inside item hitem).1
  · obtain ⟨upper, hupper, hle⟩ := hab
    obtain ⟨bound, hbound, hlast⟩ := ((h.inside a ha).2 child hchild).2 upper hupper
    have hfirst := ((h.inside b hb).2 other hother).1
    exact ⟨bound, hbound, hlast.trans (hle.trans hfirst)⟩

theorem RecordsNodes.exactRecords_eq {before after : List ComparisonSegmentRecord}
    {state : ComparisonSegmentState} {nodes : List FingerprintNode}
    (h : RecordsNodes before after state nodes) (hstate : state.isExact = false) :
    exactRecords after = exactRecords before := by
  obtain ⟨records, rfl, hall⟩ := h
  have hnone : exactRecords records = [] := by
    induction hall with
    | nil => rfl
    | cons hhead _ ih =>
      have hstate' := (segmentRecord_eq_ok.mp hhead).2.1
      rw [exactRecords, List.filter_cons_of_neg (by simp [hstate', hstate])]
      exact ih
  rw [exactRecords, List.filter_append]
  change exactRecords before ++ exactRecords records = exactRecords before
  rw [hnone, List.append_nil]

/-- A round leads from one ascending level to the next. -/
theorem RoundStep.ascendingLevel {state after : LoopState Body} {now : World budgets}
    {referenceRead targetRead : RangeFingerprintRead}
    (h : RoundStep state after world now referenceRead targetRead) (hlevel : AscendingLevel state) :
    AscendingLevel after := by
  obtain ⟨middle, splits, hmatched, hresolved, hpending⟩ := h.resolved
  have hblank : exactRecords middle = [] := by
    rw [hmatched.exactRecords_eq rfl]
    exact hlevel.blank.resolve_right h.nonempty
  cases hresolved with
  | exact hrecords => exact ⟨by rw [hpending]; exact .nil, .inr hpending⟩
  | split hnodes hnumbered hrecords =>
    refine ⟨?_, .inl ((hrecords.exactRecords_eq rfl).trans hblank)⟩
    rw [hpending]
    refine hnumbered.ordered ?_
    rw [hnodes]
    refine List.Pairwise.filter _ ?_
    have hordered := hlevel.ordered
    rw [← (levelNodes_map h.reference_length h.target_length).1, List.pairwise_map] at hordered
    exact hordered

/-! ## The run -/

theorem kept_workLoop (hinv : ∀ p, EvidenceKept budgets inputs knowledge p → inv p)
    (hanswers : knowledge.Answers sources) {maxEncodedRowBytes fuel : ℕ}
    {reference target : KeySummary} {state : LoopState Body}
    (hstate : LoopInv inputs knowledge reference target state world)
    (hlevel : AscendingLevel state) (hkept : EvidenceKept budgets inputs knowledge state.progress)
    {post : LoopState Body → World budgets → Prop}
    (hpost : ∀ after now, EvidenceKept budgets inputs knowledge after.progress → post after now) :
    Ensures inv (fun _ _ => True)
      (workLoop inputs sources maxEncodedRowBytes reference target fuel state) world post := by
  induction fuel generalizing state world with
  | zero => exact ensures_pure.mpr (hpost state world hkept)
  | succ fuel ih =>
    rw [workLoop]
    split
    · exact ensures_pure.mpr (hpost state world hkept)
    · rename_i hnonempty
      rw [ensures_bind]
      have hround : Ensures (fun _ => True) (fun _ _ => True)
          (workRound inputs sources maxEncodedRowBytes reference target state) world
          fun after now => LoopInv inputs knowledge reference target after now ∧
            AscendingLevel after :=
        ensures_workRound (FailureSet.all inputs sources) hanswers (fun _ _ => trivial) hstate
          hnonempty fun after now _ _ hloop hstep => ⟨hloop, hstep.ascendingLevel hlevel⟩
      have hevidence : Ensures inv (fun _ _ => True)
          (workRound inputs sources maxEncodedRowBytes reference target state) world
          fun after _ => EvidenceKept budgets inputs knowledge after.progress :=
        kept_workRound hinv hanswers hkept (hlevel.blank.resolve_right hnonempty) hlevel.ordered
          fun after now hafter => hafter
      refine ((hround.and hevidence).weaken (fun event h => h.2) fun _ _ _ => trivial).mono
        fun after now h => ?_
      obtain ⟨⟨hloop, hnext⟩, hafter⟩ := h
      exact ih hloop hnext hafter

/-- Before the loop nothing is found. -/
theorem kept_beforeLoop (hinv : ∀ p, EvidenceKept budgets inputs knowledge p → inv p)
    (hkept : EvidenceKept budgets inputs knowledge progress)
    {post : BeforeLoop Body → World budgets → Prop}
    (hstructural : ∀ artifact now, post (.structural artifact) now)
    (hcomparable : ∀ maxEncodedRowBytes reference target after now,
      EvidenceKept budgets inputs knowledge after →
      post (.comparable maxEncodedRowBytes reference target after) now) :
    Ensures inv (fun _ _ => True) (beforeLoop inputs sources progress) world post := by
  have hfail := FailureSet.all inputs sources
  simp only [beforeLoop, readSummaries, ensures_bind, ensures_yield, ensures_pure]
  refine ensures_lift_of (fun _ _ => trivial) fun maxEncodedRowBytes _ => ?_
  refine ensures_requireDeadline hfail fun w1 _ => ?_
  refine ⟨hinv _ (hkept.withUsage _), ?_⟩
  refine ensures_requireFullScanCapacity hfail ?_
  refine ensures_requireBudgetCapacity hfail fun _ _ => ?_
  refine ensures_readIntegerKeySummary hfail fun reference w2 _ _ => ?_
  refine ensures_requireDeadline hfail fun w3 _ => ?_
  refine ensures_readIntegerKeySummary hfail fun target w4 _ _ => ?_
  refine ensures_consumeSourceUsage fun usage w5 _ _ => ?_
  have hread : EvidenceKept budgets inputs knowledge
      { progress with
        pending := [rootSegment reference target], summariesVerified := true, usage } :=
    hkept.congr rfl rfl rfl ⟨rfl, rfl⟩ ⟨rfl, rfl⟩
  refine ⟨hinv _ hread, ?_⟩
  refine ensures_requireDeadline hfail fun w6 _ => ?_
  refine ensures_refuseWhen trivial fun _ => ?_
  cases structuralContractViolationReason reference target with
  | some reason =>
    simp only [completedStructuralArtifact, ensures_bind, ensures_yield, ensures_pure]
    refine ensures_consumeSourceUsage fun usage w7 _ _ => ?_
    refine ⟨hinv _ (hread.withUsage usage), ?_⟩
    refine ensures_completedStableReadLevel hfail fun level _ => ?_
    refine ensures_lift_of (fun _ _ => trivial) fun consistency _ => ?_
    exact ensures_lift_of (fun _ _ => trivial) fun artifact _ => hstructural artifact w7
  | none =>
    simp only [ensures_bind, ensures_pure]
    exact ensures_lift_of (fun _ _ => trivial) fun _ _ => hcomparable _ _ _ _ w6 hread

/-- The artifact reports the evidence of the progress. -/
structure ReportsEvidence (progress : Progress Body) (anomalies : List (DifferenceRecord Body))
    (coverage : EvidenceCoverage) : Prop where
  anomalies_eq : anomalies = progress.anomalies
  found_records : coverage.foundRecords = progress.foundRecords
  retained_records : coverage.retainedRecords = progress.anomalies.length
  found_bytes : coverage.foundBytes = progress.foundBytes
  retained_bytes : coverage.retainedBytes = progress.retainedBytes

theorem EvidenceCoverage.make_eq_ok {foundRecords retainedRecords foundBytes retainedBytes : ℕ}
    {coverage : EvidenceCoverage}
    (h : EvidenceCoverage.make foundRecords retainedRecords foundBytes retainedBytes = .ok coverage) :
    coverage.foundRecords = foundRecords ∧ coverage.retainedRecords = retainedRecords ∧
      coverage.foundBytes = foundBytes ∧ coverage.retainedBytes = retainedBytes := by
  unfold EvidenceCoverage.make at h
  split at h
  · split at h
    · cases h
      exact ⟨rfl, rfl, rfl, rfl⟩
    · cases h
  · cases h

/-- A completed comparison reports what it kept. -/
theorem kept_completeComparison (hinv : ∀ p, EvidenceKept budgets inputs knowledge p → inv p)
    {reference target : KeySummary} {state : LoopState Body}
    (hkept : EvidenceKept budgets inputs knowledge state.progress)
    {post : CompletedComparisonArtifact inputs.recordBytes → World budgets → Prop}
    (hpost : ∀ artifact now, artifact.segments = orderedTopology state.progress.topology →
      ReportsEvidence state.progress artifact.anomalies artifact.evidenceCoverage →
      post artifact now) :
    Ensures inv (fun _ _ => True) (completeComparison inputs sources reference target state) world
      post := by
  have hfail := FailureSet.all inputs sources
  simp only [completeComparison, ensures_bind, ensures_yield]
  refine ensures_refuseWhen trivial fun _ => ?_
  refine ensures_lift_of (fun _ _ => trivial) fun totals _ => ?_
  refine ensures_requireDeadline hfail fun w1 _ => ?_
  refine ensures_consumeSourceUsage fun usage w2 _ _ => ?_
  refine ⟨hinv _ (hkept.withUsage usage), ?_⟩
  refine ensures_refuseWhen trivial fun _ => ?_
  refine ensures_completedStableReadLevel hfail fun level _ => ?_
  refine ensures_lift_of (fun _ _ => trivial) fun consistency _ => ?_
  refine ensures_lift_of (fun _ _ => trivial) fun comparisonCoverage _ => ?_
  refine ensures_liftRefusal_of (fun _ _ => trivial) fun coverage hcoverage => ?_
  refine ensures_liftRefusal_of (fun _ _ => trivial) fun artifact hartifact => ?_
  have hfields := CompletedComparisonArtifact.make_eq_ok hartifact
  rw [CompletedFields.mk.injEq] at hfields
  obtain ⟨-, -, -, -, -, -, -, -, -, hevidence, -, -, hsegments, hanomalies, -⟩ := hfields
  obtain ⟨hfound, hretained, hfoundBytes, hretainedBytes⟩ :=
    EvidenceCoverage.make_eq_ok hcoverage
  refine hpost artifact w2 hsegments.symm ⟨hanomalies.symm, ?_, ?_, ?_, ?_⟩
  · rw [← hevidence, hfound]
  · rw [← hevidence, hretained]
  · rw [← hevidence, hfoundBytes]
  · rw [← hevidence, hretainedBytes]

/-- So does the partial artifact of an interrupted comparison. -/
theorem kept_partialComparisonArtifact {cause : Cause}
    {post : PartialComparisonArtifact inputs.recordBytes → World budgets → Prop}
    (hpost : ∀ artifact now, ReportsEvidence progress artifact.anomalies artifact.evidenceCoverage →
      post artifact now) :
    Ensures inv (fun _ _ => True) (partialComparisonArtifact inputs sources progress cause) world
      post := by
  simp only [partialComparisonArtifact, ensures_bind]
  refine ensures_lift_of (fun _ _ => trivial) fun reason _ => ?_
  refine ensures_liftRefusal_of (fun _ _ => trivial) fun unresolved _ => ?_
  refine ensures_consumeSourceUsage fun usage w1 _ _ => ?_
  refine ensures_act.mpr ⟨fun replyCount _ => ?_, fun _ _ => trivial⟩
  refine ensures_lift_of (fun _ _ => trivial) fun stableReads _ => ?_
  refine ensures_liftRefusal_of (fun _ _ => trivial) fun consistency _ => ?_
  refine ensures_liftRefusal_of (fun _ _ => trivial) fun comparisonCoverage _ => ?_
  refine ensures_liftRefusal_of (fun _ _ => trivial) fun coverage hcoverage => ?_
  refine ensures_liftRefusal_of (fun _ _ => trivial) fun frontier _ => ?_
  refine ensures_liftRefusal_of (fun _ _ => trivial) fun artifact hartifact => ?_
  obtain ⟨hfound, hretained, hfoundBytes, hretainedBytes⟩ :=
    EvidenceCoverage.make_eq_ok hcoverage
  have hfields := PartialComparisonArtifact.make_eq_ok hartifact
  refine hpost artifact _ ⟨?_, ?_, ?_, ?_, ?_⟩
  · rw [hfields]
  · rw [hfields]
    exact hfound
  · rw [hfields]
    exact hretained
  · rw [hfields]
    exact hfoundBytes
  · rw [hfields]
    exact hretainedBytes

/-- A run keeps its evidence at every yield and reports it in the artifact it
completes with. -/
theorem kept_comparisonRun (hanswers : knowledge.Answers sources) :
    Ensures (EvidenceKept budgets inputs knowledge) (fun _ _ => True)
      (executePostgresIntegerKeyComparison inputs sources (sources.initialProgress Body))
      (sources.snapshot sources.start).2 fun outcome _ => ∀ artifact, outcome = .completed artifact →
        ∃ progress, EvidenceKept budgets inputs knowledge progress ∧
          artifact.segments = orderedTopology progress.topology ∧
          ReportsEvidence progress artifact.anomalies artifact.evidenceCoverage := by
  rw [executePostgresIntegerKeyComparison_eq, ensures_bind]
  have hread : Ensures (fun _ => True) (fun _ _ => True)
      (beforeLoop inputs sources (sources.initialProgress Body)) (sources.snapshot sources.start).2
      fun found now => ∀ maxEncodedRowBytes reference target progress,
        found = .comparable maxEncodedRowBytes reference target progress →
          Comparable inputs sources knowledge maxEncodedRowBytes reference target progress now := by
    refine ensures_beforeLoop (FailureSet.all inputs sources) hanswers (.inr fun _ => trivial)
      (fun _ _ _ _ _ _ => trivial) (fun _ _ => trivial) (fun artifact now => ?_)
      fun maxEncodedRowBytes reference target progress now h => ?_
    · intro maxEncodedRowBytes reference target progress heq
      cases heq
    · intro maxEncodedRowBytes' reference' target' progress' heq
      cases heq
      exact h
  have hevidence : Ensures (EvidenceKept budgets inputs knowledge) (fun _ _ => True)
      (beforeLoop inputs sources (sources.initialProgress Body)) (sources.snapshot sources.start).2
      fun found _ => ∀ maxEncodedRowBytes reference target progress,
        found = .comparable maxEncodedRowBytes reference target progress →
          EvidenceKept budgets inputs knowledge progress := by
    refine kept_beforeLoop (fun _ h => h)
      (evidenceKept_of_blank rfl rfl rfl ⟨rfl, rfl⟩ ⟨rfl, rfl⟩) (fun artifact now => ?_)
      fun maxEncodedRowBytes reference target progress now h => ?_
    · intro maxEncodedRowBytes reference target progress heq
      cases heq
    · intro maxEncodedRowBytes' reference' target' progress' heq
      cases heq
      exact h
  refine ((hread.and hevidence).weaken (fun event h => h.2) fun _ _ _ => trivial).mono
    fun found w1 h => ?_
  cases found with
  | structural artifact => exact ensures_pure.mpr fun artifact' heq => by cases heq
  | comparable maxEncodedRowBytes reference target progress =>
    have hcomparable := h.1 _ _ _ _ rfl
    have hkept := h.2 _ _ _ _ rfl
    have hlevel : AscendingLevel (rootState reference target progress) := by
      refine ⟨List.pairwise_singleton _ _, .inl ?_⟩
      change exactRecords progress.topology = []
      rw [hcomparable.read.topology_nil]
      rfl
    simp only [fromLoop, ensures_bind, ensures_pure]
    refine kept_workLoop (fun _ h => h) hanswers hcomparable.read.loop hlevel hkept
      fun state w2 hstate => ?_
    refine kept_completeComparison (fun _ h => h) hstate fun artifact now hsegments hreports => ?_
    intro artifact' heq
    cases heq
    exact ⟨state.progress, hstate, hsegments, hreports⟩

/-! ## Key order -/

/-- What every row decoder checks of the rows it answers: the keys of a range
strictly increase and lie inside it. -/
def Sources.KeepsRowOrder (sources : Sources budgets) : Prop :=
  ∀ index side request read, (sources.rows index side request).answer = .ok read →
    ∀ range ∈ request.ranges, Ascending (rowsOf read.rows range.segmentId) ∧
      ∀ row ∈ rowsOf read.rows range.segmentId, range.covers row.keyValue = true

/-- A difference stands at the key of a row of its leaf. -/
theorem Leaf.exists_row {leaf : Leaf} {difference : ExactDifference}
    (h : difference ∈ leaf.differences) :
    difference.keyRow ∈ leaf.referenceRows ∨ difference.keyRow ∈ leaf.targetRows := by
  obtain ⟨pair, hpair, hdifference⟩ := List.mem_filterMap.mp h
  cases pair with
  | missing row =>
    cases hdifference
    exact .inl (mem_reference_of_mem_align hpair rfl)
  | extra row =>
    cases hdifference
    exact .inr (mem_target_of_mem_align hpair rfl)
  | both row other =>
    simp only [Pairing.difference] at hdifference
    split at hdifference
    · cases hdifference
    · cases hdifference
      exact .inl (mem_reference_of_mem_align hpair rfl)

/-- The differences of leaves with ascending rows, inside their ranges, are in
ascending key order. -/
theorem LeavesOf.differences_ascending_of {leaves : List Leaf}
    (h : LeavesOf knowledge progress leaves)
    (hreference : ∀ leaf ∈ leaves, Ascending leaf.referenceRows ∧
      ∀ row ∈ leaf.referenceRows, leaf.record.covers row.keyValue = true)
    (htarget : ∀ leaf ∈ leaves, Ascending leaf.targetRows ∧
      ∀ row ∈ leaf.targetRows, leaf.record.covers row.keyValue = true) :
    (leaves.flatMap Leaf.differences).Pairwise fun first second =>
      first.keyRow.keyValue < second.keyRow.keyValue := by
  have hinside : ∀ leaf ∈ leaves, ∀ difference ∈ leaf.differences,
      leaf.record.covers difference.keyRow.keyValue = true := by
    intro leaf hleaf difference hdifference
    rcases Leaf.exists_row hdifference with hrow | hrow
    · exact (hreference leaf hleaf).2 _ hrow
    · exact (htarget leaf hleaf).2 _ hrow
  rw [List.pairwise_flatMap]
  constructor
  · intro leaf hleaf
    exact (classifies_leafOf (hreference leaf hleaf).1 (htarget leaf hleaf).1
      leaf.record.segmentSequence).ascending
  · refine h.ordered.imp_of_mem ?_
    intro a b ha hb hbefore first hfirst second hsecond
    obtain ⟨upper, hupper, hle⟩ := hbefore
    have hbelow := (inRange_eq_true.mp (hinside a ha first hfirst)).2 upper hupper
    have habove := (inRange_eq_true.mp (hinside b hb second hsecond)).1
    exact lt_of_lt_of_le hbelow (le_trans hle habove)

/-- The differences of all leaves together are in ascending key order. -/
theorem LeavesOf.differences_ascending {leaves : List Leaf}
    (h : LeavesOf sources.answered progress leaves) (horder : sources.KeepsRowOrder) :
    (leaves.flatMap Leaf.differences).Pairwise fun first second =>
      first.keyRow.keyValue < second.keyRow.keyValue := by
  refine h.differences_ascending_of (fun leaf hleaf => ?_) fun leaf hleaf => ?_
  · obtain ⟨index, request, read, hanswer, hrange, hrows⟩ := h.reference_known leaf hleaf
    rw [hrows]
    exact horder index _ request read hanswer _ hrange
  · obtain ⟨index, request, read, hanswer, hrange, hrows⟩ := h.target_known leaf hleaf
    rw [hrows]
    exact horder index _ request read hanswer _ hrange

/-! ## The evidence of a run -/

/-- The evidence of a progress is the longest prefix of `found`, the records of
the differences of its exact leaves, that fits both limits. -/
structure KeepsLongestPrefix (inputs : ComparisonInputs Body) (sources : Sources budgets)
    (progress : Progress Body) (leaves : List Leaf) (found : List (DifferenceRecord Body)) :
    Prop where
  leaves_eq : leaves.map (·.record) = exactRecords progress.topology
  answered : ∀ leaf ∈ leaves,
    sources.answered.rows .reference (rangeRequest leaf.record.toSegmentPlace) leaf.referenceRows ∧
    sources.answered.rows .target (rangeRequest leaf.record.toSegmentPlace) leaf.targetRows
  recorded : RecordedAs inputs (leaves.flatMap Leaf.differences) found
  ascending : sources.KeepsRowOrder → (leaves.flatMap Leaf.differences).Pairwise
    fun first second => first.keyRow.keyValue < second.keyRow.keyValue
  longest : LongestAffordable inputs.recordBytes budgets.maxEvidenceRows budgets.maxEvidenceBytes
    found progress.anomalies
  numbered : progress.anomalies.map (·.sequence) = List.range progress.anomalies.length
  retained_bytes : progress.retainedBytes = (progress.anomalies.map inputs.recordBytes).sum
  found_records : progress.foundRecords = found.length ∧
    progress.foundRecords
      = (leaves.map fun leaf => leaf.counts.missing + leaf.counts.extra + leaf.counts.modified).sum
  found_bytes : progress.foundBytes = (found.map inputs.recordBytes).sum
  counts_eq : progress.exactCounts = totalCounts leaves

/-- A leaf has as many differences as its counts say. -/
theorem Leaf.length_differences (leaf : Leaf) :
    leaf.differences.length = leaf.counts.missing + leaf.counts.extra + leaf.counts.modified :=
  (pairingCounts_closes _ _).2.2.symm

theorem EvidenceKept.keepsLongestPrefix
    (h : EvidenceKept budgets inputs sources.answered progress) :
    ∃ leaves found, KeepsLongestPrefix inputs sources progress leaves found := by
  obtain ⟨leaves, found, hleaves, hretains⟩ := h
  have hcount : found.length
      = (leaves.map fun leaf => leaf.counts.missing + leaf.counts.extra + leaf.counts.modified).sum := by
    rw [← hretains.recorded.length_eq, List.length_flatMap]
    simp only [Leaf.length_differences]
  have hnumbered : progress.anomalies.map (·.sequence) = List.range progress.anomalies.length := by
    obtain ⟨rest, hrest⟩ := hretains.kept.isPrefix
    have hall := hretains.recorded.sequences
    rw [← hrest, List.map_append, List.length_append, List.range_add] at hall
    exact (List.append_inj hall (by simp)).1
  exact ⟨leaves, found,
    { leaves_eq := hleaves.records_eq
      answered := fun leaf hleaf =>
        ⟨hleaves.reference_known leaf hleaf, hleaves.target_known leaf hleaf⟩
      recorded := hretains.recorded
      ascending := hleaves.differences_ascending
      longest := hretains.kept
      numbered := hnumbered
      retained_bytes := hretains.retained_bytes
      found_records := ⟨hretains.found_records, hretains.found_records.trans hcount⟩
      found_bytes := hretains.found_bytes
      counts_eq := hleaves.counts_eq }⟩

/-- At every yield the evidence is the longest prefix of all differences found
so far, in ascending key order, that fits both limits, and the artifact a
comparison completes or is interrupted with reports such a progress. -/
theorem evidence_is_longest_prefix (inputs : ComparisonInputs Body) (sources : Sources budgets) :
    (∀ progress ∈ (comparisonRun inputs sources).yielded,
      ∃ leaves found, KeepsLongestPrefix inputs sources progress leaves found) ∧
    (∀ artifact, (comparisonRun inputs sources).result = .ok (.completed artifact) →
      ∃ progress leaves found, KeepsLongestPrefix inputs sources progress leaves found ∧
        artifact.segments = orderedTopology progress.topology ∧
        ReportsEvidence progress artifact.anomalies artifact.evidenceCoverage) ∧
    ∀ cause artifact, executeIntegerKeyComparison inputs sources = .interrupted cause artifact →
      (∃ leaves found, KeepsLongestPrefix inputs sources (lastProgress inputs sources) leaves found) ∧
      ReportsEvidence (lastProgress inputs sources) artifact.anomalies artifact.evidenceCoverage := by
  have hrun := @kept_comparisonRun budgets Body inputs sources _ sources.answered_answers
  refine ⟨fun progress hmem => (hrun.1 progress hmem).keepsLongestPrefix, ?_, ?_⟩
  · intro artifact hresult
    obtain ⟨progress, hkept, hsegments, hreports⟩ := hrun.of_result hresult artifact rfl
    obtain ⟨leaves, found, hlongest⟩ := hkept.keepsLongestPrefix
    exact ⟨progress, leaves, found, hlongest, hsegments, hreports⟩
  · intro cause artifact h
    have hlast : EvidenceKept budgets inputs sources.answered (lastProgress inputs sources) := by
      rcases lastProgress_mem inputs sources with hmem | hinitial
      · exact hrun.1 _ hmem
      · rw [hinitial]
        exact evidenceKept_of_blank rfl rfl rfl ⟨rfl, rfl⟩ ⟨rfl, rfl⟩
    refine ⟨hlast.keepsLongestPrefix, ?_⟩
    simp only [executeIntegerKeyComparison] at h
    split at h
    · cases h
    · split at h
      · split at h
        · rename_i artifact' hartifact
          cases h
          have hpartial : Ensures (fun _ => True) (fun _ _ => True)
              (partialComparisonArtifact inputs sources (lastProgress inputs sources) cause)
              (comparisonRun inputs sources).world fun artifact _ =>
                ReportsEvidence (lastProgress inputs sources) artifact.anomalies
                  artifact.evidenceCoverage :=
            kept_partialComparisonArtifact fun _ _ hreports => hreports
          exact hpartial.of_result hartifact
        · cases h
      · cases h

/-! Two rows differ, and the bytes of one of their records fit. -/

def wideInputs : ComparisonInputs Unit := { sampleInputs with recordBytes := fun _ => 600 }

/-- The row of a key, as the side has it. -/
def sidedRow (side : Side) (segmentId : String) (key : Fin 2) : ExactRow where
  segmentId
  keyValue := key
  keyEnvelope := [0]
  rowEnvelope := if side = .reference then [0] else [1]
  values := []
  key_int64 := by unfold IsInt64 int64Min int64Max; omega

def sidedRows (side : Side) (range : RangeRequest) : List ExactRow :=
  (([0, 1] : List (Fin 2)).map (sidedRow side range.segmentId)).filter fun row =>
    range.covers row.keyValue

def differingSources : Sources sampleBudgets :=
  { agreeingSources with
    fingerprints := fun _ side request =>
      { charges := [.query 1, .records (request.ranges.map fun _ => 10)]
        answer := .ok
          { ranges := request.ranges.map fun range =>
              { segmentId := range.segmentId
                fingerprint := sidedFingerprint side
                rowEnvelopeBytes := 2
                keyEnvelopeBytes := 2 }
            metrics := { fetchedRecords := 0, resultBytes := 0 } } }
    rows := fun _ side request =>
      { charges := [.query 1]
        answer := match request.ranges with
          | [range] => .ok
            { rows := sidedRows side range, metrics := { fetchedRecords := 2, resultBytes := 12 } }
          | _ => .error (protocolViolation "one range is answered at a time") } }

theorem differingSources_keepsRowOrder : differingSources.KeepsRowOrder := by
  intro index side request read hanswer range hrange
  obtain ⟨only, honly⟩ : ∃ only, request.ranges = [only] := by
    by_contra hmany
    simp only [differingSources] at hanswer
    split at hanswer
    · rename_i only honly
      exact hmany ⟨only, honly⟩
    · cases hanswer
  simp only [differingSources, honly, Except.ok.injEq] at hanswer
  rw [honly, List.mem_singleton] at hrange
  subst hrange hanswer
  have hsorted : Ascending (([0, 1] : List (Fin 2)).map (sidedRow side range.segmentId)) := by
    simp [Ascending, sidedRow]
  constructor
  · show Ascending (rowsOf (sidedRows side range) range.segmentId)
    unfold rowsOf sidedRows
    exact (hsorted.filter _).filter _
  · intro row hrow
    simp only [rowsOf, sidedRows, List.mem_filter] at hrow
    exact hrow.1.2

theorem one_of_two_retained :
    ∃ artifact, (comparisonRun wideInputs differingSources).result = .ok (.completed artifact) ∧
      artifact.anomalies.map (·.sequence) = [0] ∧ artifact.evidenceCoverage.foundRecords = 2 ∧
      ∃ progress leaves found, KeepsLongestPrefix wideInputs differingSources progress leaves found ∧
        ReportsEvidence progress artifact.anomalies artifact.evidenceCoverage ∧
        (leaves.flatMap Leaf.differences).Pairwise fun first second =>
          first.keyRow.keyValue < second.keyRow.keyValue := by
  have hevidence : ((completedArtifact? wideInputs differingSources).map fun artifact =>
      (artifact.anomalies.map (·.sequence), artifact.evidenceCoverage.foundRecords))
        = some ([0], 2) := by
    decide +kernel
  obtain ⟨artifact, hartifact, hretained⟩ := Option.map_eq_some_iff.mp hevidence
  rw [Prod.mk.injEq] at hretained
  have hrun := completedArtifact?_eq_some hartifact
  have hlaw := evidence_is_longest_prefix wideInputs differingSources
  obtain ⟨progress, leaves, found, hlongest, -, hreports⟩ := hlaw.2.1 artifact hrun
  exact ⟨artifact, hrun, hretained.1, hretained.2, progress, leaves, found, hlongest, hreports,
    hlongest.ascending differingSources_keepsRowOrder⟩

end ForensicData.Comparison
