/-
ForensicData.Comparison.EngineTheorems — what a run of the engine does.

A round of the work loop reads one level and then does one of three things;
`RoundStep` is all of it that later results need. `ensures_workLoop` carries
`LoopInv` through the rounds: with more fuel than fingerprint nodes it ends
with nothing pending. `ensures_readSummaries` is what comes before the loop.
-/
import ForensicData.Comparison.Recording

namespace ForensicData.Comparison

open ForensicData.Canonical
open ForensicData.Lib
open ForensicData.Lib.Generator
open ForensicData.Result

variable {budgets : ExecutionBudgets} {Body : Type} {inputs : ComparisonInputs Body}
  {sources : Sources budgets} {inv : Progress Body → Prop} {fail : Cause → Prop}
  {world : World budgets} {knowledge : Knowledge}

/-! ## A round -/

/-- The nodes of a level that agree, and those that do not. -/
def matchingNodes (nodes : List FingerprintNode) : List FingerprintNode :=
  nodes.filter (·.agrees)

def mismatchingNodes (nodes : List FingerprintNode) : List FingerprintNode :=
  nodes.filter fun node => !node.agrees

/-- The mismatching nodes of a level were read row by row, or split into the
next level. -/
inductive Resolved (middle after : List ComparisonSegmentRecord)
    (mismatching : List FingerprintNode) (nextSequence : ℕ) : List SplitNode → Prop
  | exact (hrecords : RecordsNodes middle after .exactMismatch mismatching) :
      Resolved middle after mismatching nextSequence []
  | split {splits : List SplitNode} (hnodes : splits.map Prod.fst = mismatching)
      (hnumbered : NumberedSplits nextSequence splits)
      (hrecords : RecordsNodes middle after .split mismatching) :
      Resolved middle after mismatching nextSequence splits

/-- A reply of an exact-row read. -/
def Reply.IsRows : Reply → Prop
  | .rows _ _ _ => True
  | _ => False

/-- What one round of the work loop does: it reads a level, records the nodes
that agree as matches, and resolves the others. -/
structure RoundStep (state after : LoopState Body) (world now : World budgets)
    (reference target : RangeFingerprintRead) : Prop where
  nonempty : state.pending ≠ []
  reference_length : reference.ranges.length = state.pending.length
  target_length : target.ranges.length = state.pending.length
  replies : ∃ rows, (∀ reply ∈ rows, reply.IsRows) ∧ now.replies = world.replies ++
    [.fingerprints .reference (state.pending.map rangeRequest) reference,
      .fingerprints .target (state.pending.map rangeRequest) target] ++ rows
  resolved : ∃ middle splits,
    RecordsNodes state.progress.topology middle .fingerprintMatch
      (matchingNodes (levelNodes state.pending reference.ranges target.ranges)) ∧
    Resolved middle after.progress.topology
      (mismatchingNodes (levelNodes state.pending reference.ranges target.ranges))
      (state.progress.topology.length + state.pending.length) splits ∧
    after.pending = splits.flatMap SplitNode.children

/-- What the work loop keeps from round to round. -/
structure LoopInv (inputs : ComparisonInputs Body) (knowledge : Knowledge)
    (reference target : KeySummary) (state : LoopState Body) (world : World budgets) : Prop where
  sound : Sound budgets inputs.recordBytes knowledge (rootSegment reference target) 0
    state.progress
  pending_perm : state.progress.pending.Perm state.pending
  witnesses_nil : state.progress.mismatchWitnesses = []
  usage_eq : state.progress.usage = state.usage
  nodes_eq : state.usage.fingerprintNodes = state.progress.topology.length
  nodes_le : state.usage.fingerprintNodes ≤ budgets.maxFingerprintNodes
  peak_le : state.usage.coordinatorPeakBytes ≤ budgets.maxCoordinatorMemoryBytes
  received : world.usage.ReceivedWithin
  first_round : (state.progress.topology = [] ∧ state.pending = [rootSegment reference target]) ∨
    ∀ place ∈ state.pending, place.segmentSequence ≠ 0
  root_counts : ∀ record ∈ state.progress.topology, record.segmentSequence = 0 →
    record.referenceFingerprint.count = reference.rowCount ∧
      record.targetFingerprint.count = target.rowCount

/-- A level that was read: its nodes and the state after the reads. -/
structure LevelState (knowledge : Knowledge) (reference target : KeySummary)
    (state after : LoopState Body) (world now : World budgets)
    (referenceRead targetRead : RangeFingerprintRead) : Prop where
  reference_length : referenceRead.ranges.length = state.pending.length
  target_length : targetRead.ranges.length = state.pending.length
  replies_eq : now.replies = world.replies ++
    [.fingerprints .reference (state.pending.map rangeRequest) referenceRead,
      .fingerprints .target (state.pending.map rangeRequest) targetRead]
  known : ∀ node ∈ levelNodes state.pending referenceRead.ranges targetRead.ranges,
    node.Known knowledge
  pending_eq : after.pending = state.pending
  progress_eq : after.progress = { state.progress with usage := after.usage }
  nodes_eq : after.usage.fingerprintNodes = state.progress.topology.length + state.pending.length
  nodes_le : after.usage.fingerprintNodes ≤ budgets.maxFingerprintNodes
  peak_le : after.usage.coordinatorPeakBytes ≤ budgets.maxCoordinatorMemoryBytes
  received : now.usage.ReceivedWithin
  root_counts : ∀ node ∈ levelNodes state.pending referenceRead.ranges targetRead.ranges,
    node.segment.segmentSequence = 0 → node.reference.fingerprint.count = reference.rowCount ∧
      node.target.fingerprint.count = target.rowCount

/-- The root level is the only one with the root, and it was checked. -/
theorem checkRootCounts_eq_ok {reference target : KeySummary} {pending : List PendingSegment}
    {nodes : List FingerprintNode} (hnodes : nodes.map (·.segment) = pending)
    (hfirst : pending = [rootSegment reference target] ∨
      ∀ place ∈ pending, place.segmentSequence ≠ 0)
    (h : checkRootCounts reference target pending nodes = .ok ()) :
    ∀ node ∈ nodes, node.segment.segmentSequence = 0 →
      node.reference.fingerprint.count = reference.rowCount ∧
        node.target.fingerprint.count = target.rowCount := by
  intro node hnode hzero
  cases hfirst with
  | inr hnone =>
    refine absurd hzero (hnone _ ?_)
    rw [← hnodes]
    exact List.mem_map_of_mem hnode
  | inl hroot =>
    subst hnodes
    cases nodes with
    | nil => simp at hnode
    | cons first rest =>
      rw [List.map_cons, List.cons.injEq] at hroot
      have hrest : rest = [] := List.map_eq_nil_iff.mp hroot.2
      subst hrest
      rw [List.mem_singleton] at hnode
      subst hnode
      simp only [checkRootCounts, List.map_cons, if_pos hzero] at h
      rw [bind_unit_eq_ok, causeIf_eq_ok, causeIf_eq_ok, not_not, not_not] at h
      exact h

/-- A root level that does not have the rows of the key summaries is refused. -/
theorem checkRootCounts_error (hfail : FailureSet inputs sources fail)
    {reference target : KeySummary} {pending : List PendingSegment} {nodes : List FingerprintNode}
    {cause : Cause} (h : checkRootCounts reference target pending nodes = .error cause) :
    fail cause := by
  unfold checkRootCounts at h
  split at h
  · split at h
    · obtain hreference | ⟨_, _, htarget⟩ := bind_eq_error.mp h
      · rw [causeIf_eq_error hreference]
        exact hfail.protocol _
      · rw [causeIf_eq_error htarget]
        exact hfail.protocol _
    · simp at h
  · simp at h

theorem ensures_fingerprintLevel (hfail : FailureSet inputs sources fail)
    (hanswers : knowledge.Answers sources) {maxEncodedRowBytes : ℕ} {reference target : KeySummary}
    (hinv : ∀ p, Sound budgets inputs.recordBytes knowledge (rootSegment reference target) 0 p →
      inv p) {state : LoopState Body} (hstate : LoopInv inputs knowledge reference target state world)
    {post : List FingerprintNode × LoopState Body → World budgets → Prop}
    (hpost : ∀ after now referenceRead targetRead,
      LevelState knowledge reference target state after world now referenceRead targetRead →
      post (levelNodes state.pending referenceRead.ranges targetRead.ranges, after) now) :
    Ensures inv (fun cause _ => fail cause)
      (fingerprintLevel inputs sources maxEncodedRowBytes reference target state) world post := by
  simp only [fingerprintLevel, ensures_bind, ensures_yield, ensures_pure]
  refine ensures_lift_of (fun cause h => ?_) fun _ _ => ?_
  · rw [requireMssqlRangeBatchCapacity] at h
    rw [causeIf_eq_error h]
    exact hfail.budget _
  refine ensures_lift_of (fun cause h => ?_) fun plan hplan => ?_
  · unfold planFingerprintLevel at h
    split at h
    · rw [← Except.error.inj h]
      exact hfail.budget _
    · simp at h
  obtain ⟨hrequests, hnodes⟩ := planFingerprintLevel_eq_ok hplan
  refine ⟨hinv _ (hstate.sound.withUsage _), ?_⟩
  refine ensures_readFingerprintLevel hfail hanswers
    fun referenceRead targetRead usage now hpeak hread => ?_
  refine ⟨hinv _ (hstate.sound.withUsage _), ?_⟩
  refine ensures_fingerprintNodes hfail fun after hquiet hrlength htlength => ?_
  obtain ⟨hsegments, -, -⟩ := levelNodes_map hrlength htlength
  rw [hrequests] at hread
  refine ensures_lift_of (fun cause h => ?_) fun _ hcheck => ?_
  · exact checkRootCounts_error hfail h
  · refine hpost _ _ referenceRead targetRead ?_
    have hcount : usage.fingerprintNodes
        = state.progress.topology.length + state.pending.length := by
      rw [hread.nodes_eq, List.length_map, ← hstate.nodes_eq]
      rfl
    exact
      { reference_length := hrlength
        target_length := htlength
        replies_eq := by rw [hquiet.2, hread.replies_eq]
        known := levelNodes_known hread.reference_known hread.target_known
        pending_eq := rfl
        progress_eq := rfl
        nodes_eq := hcount
        nodes_le := by
          have := hstate.nodes_eq
          simp only [hcount]
          omega
        peak_le := hread.peak_le (Nat.max_le.mpr ⟨hstate.peak_le, hpeak⟩)
        received := by
          rw [hquiet.1]
          exact hread.received hstate.received
        root_counts := checkRootCounts_eq_ok hsegments
          (hstate.first_round.imp (fun h => h.2) id) hcheck }

/-- The appended records are records of the nodes. -/
theorem RecordsNodes.node_of_mem {before after : List ComparisonSegmentRecord}
    {state : ComparisonSegmentState} {nodes : List FingerprintNode}
    (h : RecordsNodes before after state nodes) :
    ∀ record ∈ after, record ∈ before ∨ ∃ node ∈ nodes, segmentRecord node state = .ok record := by
  obtain ⟨records, rfl, hall⟩ := h
  intro record hrecord
  rw [List.mem_append] at hrecord
  refine hrecord.imp id fun hnew => ?_
  clear hrecord
  induction hall with
  | nil => simp at hnew
  | cons hhead htail ih =>
    rw [List.mem_cons] at hnew
    obtain rfl | hnew := hnew
    · exact ⟨_, List.mem_cons_self, hhead⟩
    · obtain ⟨node, hnode, hok⟩ := ih hnew
      exact ⟨node, List.mem_cons_of_mem _ hnode, hok⟩

/-- Every node agrees or does not. -/
theorem matchingNodes_append_perm (nodes : List FingerprintNode) :
    (matchingNodes nodes ++ mismatchingNodes nodes).Perm nodes :=
  List.filter_append_perm _ _

theorem agrees_of_mem_mismatchingNodes {nodes : List FingerprintNode} {node : FingerprintNode}
    (h : node ∈ mismatchingNodes nodes) : node.agrees = false := by
  simpa using List.of_mem_filter h

/-- Root counts of the nodes carry over to their records. -/
theorem RecordsNodes.root_counts {before after : List ComparisonSegmentRecord}
    {state : ComparisonSegmentState} {nodes : List FingerprintNode} {reference target : KeySummary}
    (h : RecordsNodes before after state nodes)
    (hbefore : ∀ record ∈ before, record.segmentSequence = 0 →
      record.referenceFingerprint.count = reference.rowCount ∧
        record.targetFingerprint.count = target.rowCount)
    (hnodes : ∀ node ∈ nodes, node.segment.segmentSequence = 0 →
      node.reference.fingerprint.count = reference.rowCount ∧
        node.target.fingerprint.count = target.rowCount) :
    ∀ record ∈ after, record.segmentSequence = 0 →
      record.referenceFingerprint.count = reference.rowCount ∧
        record.targetFingerprint.count = target.rowCount := by
  intro record hrecord hzero
  obtain hold | ⟨node, hnode, hok⟩ := h.node_of_mem record hrecord
  · exact hbefore record hold hzero
  · obtain ⟨hplace, -, hreference, htarget⟩ := segmentRecord_eq_ok.mp hok
    rw [hreference, htarget]
    refine hnodes node hnode ?_
    rw [← hplace]
    exact hzero

/-! ## The three ways a round ends -/

/-- A level with its matches recorded: only its mismatching nodes are pending. -/
structure Matched (inputs : ComparisonInputs Body) (knowledge : Knowledge)
    (reference target : KeySummary) (state level : LoopState Body) (world now : World budgets)
    (referenceRead targetRead : RangeFingerprintRead) (progress : Progress Body) : Prop where
  read : LevelState knowledge reference target state level world now referenceRead targetRead
  sound : Sound budgets inputs.recordBytes knowledge (rootSegment reference target) 0 progress
  pending_perm : progress.pending.Perm
    ((mismatchingNodes (levelNodes state.pending referenceRead.ranges targetRead.ranges)).map
      (·.segment))
  witnesses : ∀ witness ∈ progress.mismatchWitnesses,
    witness ∈ mismatchingNodes (levelNodes state.pending referenceRead.ranges targetRead.ranges)
  usage_eq : progress.usage = level.usage
  matched : RecordsNodes state.progress.topology progress.topology .fingerprintMatch
    (matchingNodes (levelNodes state.pending referenceRead.ranges targetRead.ranges))

variable {reference target : KeySummary} {state level after : LoopState Body}
  {now : World budgets} {referenceRead targetRead : RangeFingerprintRead}
  {progress : Progress Body}

/-- Every pending range has a node, and every node agrees or does not. -/
theorem LevelState.nodes_length
    (h : LevelState knowledge reference target state level world now referenceRead targetRead) :
    (matchingNodes (levelNodes state.pending referenceRead.ranges targetRead.ranges)).length
      + (mismatchingNodes (levelNodes state.pending referenceRead.ranges targetRead.ranges)).length
        = state.pending.length := by
  obtain ⟨hsegments, -, -⟩ := levelNodes_map h.reference_length h.target_length
  have hperm := matchingNodes_append_perm
    (levelNodes state.pending referenceRead.ranges targetRead.ranges)
  have hlength := congrArg List.length hsegments
  rw [List.length_map, ← hperm.length_eq, List.length_append] at hlength
  exact hlength

/-- Reading the clock does not change a level. -/
theorem LevelState.quiet {final : World budgets}
    (h : LevelState knowledge reference target state level world now referenceRead targetRead)
    (hquiet : now.Quiet final) :
    LevelState knowledge reference target state level world final referenceRead targetRead where
  reference_length := h.reference_length
  target_length := h.target_length
  replies_eq := hquiet.2.trans h.replies_eq
  known := h.known
  pending_eq := h.pending_eq
  progress_eq := h.progress_eq
  nodes_eq := h.nodes_eq
  nodes_le := h.nodes_le
  peak_le := h.peak_le
  received := by
    rw [hquiet.1]
    exact h.received
  root_counts := h.root_counts

/-- The recorded and the pending places after the matches are as many as the
fingerprinted nodes. -/
theorem Matched.places_length
    (h : Matched inputs knowledge reference target state level world now referenceRead targetRead
      progress) :
    (places progress.topology progress.pending).length = level.usage.fingerprintNodes := by
  have hnodes := h.read.nodes_length
  rw [places, List.length_append, List.length_map, h.pending_perm.length_eq, List.length_map,
    h.matched.length_eq, h.read.nodes_eq]
  omega

theorem Matched.root_counts
    (hstate : LoopInv inputs knowledge reference target state world)
    (h : Matched inputs knowledge reference target state level world now referenceRead targetRead
      progress) :
    ∀ record ∈ progress.topology, record.segmentSequence = 0 →
      record.referenceFingerprint.count = reference.rowCount ∧
        record.targetFingerprint.count = target.rowCount :=
  h.matched.root_counts hstate.root_counts fun node hnode =>
    h.read.root_counts node (List.mem_of_mem_filter hnode)

/-- However the mismatching nodes are recorded, the loop goes on as before. -/
theorem Matched.loopInv {final : World budgets} (recorded : ComparisonSegmentState)
    (hstate : LoopInv inputs knowledge reference target state world)
    (h : Matched inputs knowledge reference target state level world now referenceRead targetRead
      progress)
    (hsound : Sound budgets inputs.recordBytes knowledge (rootSegment reference target) 0
      after.progress)
    (hpending : after.progress.pending.Perm after.pending)
    (hwitnesses : after.progress.mismatchWitnesses = [])
    (husage : after.progress.usage = after.usage)
    (hnodes : after.usage.fingerprintNodes = level.usage.fingerprintNodes)
    (hpeak : after.usage.coordinatorPeakBytes ≤ budgets.maxCoordinatorMemoryBytes)
    (hreceived : final.usage.ReceivedWithin)
    (hrecords : RecordsNodes progress.topology after.progress.topology recorded
      (mismatchingNodes (levelNodes state.pending referenceRead.ranges targetRead.ranges)))
    (hfirst : ∀ place ∈ after.pending, place.segmentSequence ≠ 0) :
    LoopInv inputs knowledge reference target after final where
  sound := hsound
  pending_perm := hpending
  witnesses_nil := hwitnesses
  usage_eq := husage
  nodes_eq := by
    have hlength := h.read.nodes_length
    rw [hnodes, h.read.nodes_eq, hrecords.length_eq, h.matched.length_eq]
    omega
  nodes_le := by
    rw [hnodes]
    exact h.read.nodes_le
  peak_le := hpeak
  received := hreceived
  first_round := .inr hfirst
  root_counts := hrecords.root_counts (h.root_counts hstate) fun node hnode =>
    h.read.root_counts node (List.mem_of_mem_filter hnode)

/-- A level without mismatching nodes is the last one. -/
theorem Matched.finished (hstate : LoopInv inputs knowledge reference target state world)
    (hnonempty : state.pending ≠ [])
    (h : Matched inputs knowledge reference target state level world now referenceRead targetRead
      progress)
    (hnone : mismatchingNodes (levelNodes state.pending referenceRead.ranges targetRead.ranges)
      = []) :
    LoopInv inputs knowledge reference target { level with pending := [], progress } now ∧
      RoundStep state { level with pending := [], progress } world now referenceRead targetRead := by
  have hdone : progress.pending = [] := by
    have := h.pending_perm
    rw [hnone] at this
    exact List.perm_nil.mp this
  have hwitnesses : progress.mismatchWitnesses = [] :=
    List.eq_nil_iff_forall_not_mem.mpr fun witness hwitness => by
      simpa [hnone] using h.witnesses witness hwitness
  constructor
  · refine h.loopInv .exactMismatch hstate h.sound (by rw [hdone]) hwitnesses h.usage_eq rfl
      h.read.peak_le h.read.received ?_ (by simp)
    rw [hnone]
    exact .nil _ _
  · exact
      { nonempty := hnonempty
        reference_length := h.read.reference_length
        target_length := h.read.target_length
        replies := ⟨[], by simp, by rw [List.append_nil, h.read.replies_eq]⟩
        resolved := by
          refine ⟨progress.topology, [], h.matched, ?_, rfl⟩
          rw [hnone]
          exact .exact (.nil _ _) }

theorem ensures_announceMismatches {mismatching : List FingerprintNode}
    (hwitnesses : progress.mismatchWitnesses = [])
    (hinv : inv (progress.withMismatchWitnesses mismatching))
    {post : Progress Body → World budgets → Prop}
    (hpost : ∀ witnesses, (∀ witness ∈ witnesses, witness ∈ mismatching) →
      post { progress with mismatchWitnesses := witnesses } world) :
    Ensures inv (fun cause _ => fail cause) (announceMismatches progress mismatching) world
      post := by
  unfold announceMismatches
  split
  · refine ensures_pure.mpr ?_
    have := hpost [] (by simp)
    rwa [← hwitnesses] at this
  · simp only [ensures_bind, ensures_yield, ensures_pure]
    refine ⟨hinv, hpost _ fun witness hwitness => ?_⟩
    rw [(List.perm_insertionSort _ _).mem_iff, hwitnesses] at hwitness
    simpa using hwitness

/-- The mismatching nodes are read row by row. -/
theorem ensures_resolveExactFrontier (hfail : FailureSet inputs sources fail)
    (hanswers : knowledge.Answers sources) {maxEncodedRowBytes : ℕ}
    {reservation : ExactFrontierReservation}
    (hinv : ∀ p, Sound budgets inputs.recordBytes knowledge (rootSegment reference target) 0 p →
      inv p)
    (hstate : LoopInv inputs knowledge reference target state world)
    (hnonempty : state.pending ≠ [])
    (h : Matched inputs knowledge reference target state level world now referenceRead
      targetRead progress)
    {post : LoopState Body → World budgets → Prop}
    (hpost : ∀ after final, LoopInv inputs knowledge reference target after final →
      RoundStep state after world final referenceRead targetRead → post after final) :
    Ensures inv (fun cause _ => fail cause)
      (resolveExactFrontier inputs sources maxEncodedRowBytes reservation
        (mismatchingNodes (levelNodes state.pending referenceRead.ranges targetRead.ranges))
        { level with progress }) now post := by
  simp only [resolveExactFrontier, ensures_bind, ensures_yield, ensures_pure]
  refine ⟨hinv _ (h.sound.withUsage _), ?_⟩
  refine ensures_readExactFrontier hfail hanswers
    fun referenceRows targetRows usage w1 hmemory hread => ?_
  refine ⟨hinv _ (h.sound.withUsage _), ?_⟩
  refine ensures_groupExactFrontierRows hfail fun w2 hq2 => ?_
  refine ensures_recordExactLeaves hfail hinv (h.sound.withUsage usage) h.pending_perm h.witnesses
    (fun node hnode => agrees_of_mem_mismatchingNodes hnode)
    (fun node hnode => h.read.known node (List.mem_of_mem_filter hnode))
    hread.reference_known hread.target_known fun final w3 hsound hpending hwitnesses hrecorded => ?_
  refine hpost _ w3 ?_ ?_
  · refine h.loopInv .exactMismatch hstate hsound (.refl _) hwitnesses hrecorded.usage_eq hread.nodes_eq
      (hread.peak_le (Nat.max_le.mpr ⟨h.read.peak_le, hmemory⟩)) ?_ hrecorded.records ?_
    · rw [hrecorded.quiet.1, hq2.1]
      exact hread.received h.read.received
    · rw [hpending]
      simp
  · exact
      { nonempty := hnonempty
        reference_length := h.read.reference_length
        target_length := h.read.target_length
        replies := by
          refine ⟨[_, _], ?_, by rw [hrecorded.quiet.2, hq2.2, hread.replies_eq,
            h.read.replies_eq]⟩
          simp [Reply.IsRows]
        resolved := ⟨progress.topology, [], h.matched, .exact hrecorded.records, hpending⟩ }

/-- The halves of numbered splits have later numbers. -/
theorem NumberedSplits.le_sequence {nextSequence : ℕ} {items : List SplitNode}
    (h : NumberedSplits nextSequence items) :
    ∀ child ∈ items.flatMap SplitNode.children, nextSequence ≤ child.segmentSequence := by
  induction items generalizing nextSequence with
  | nil => simp
  | cons item rest ih =>
    intro child hchild
    have hsplit := splitSegment_eq_some h.1
    rw [List.flatMap_cons, List.mem_append] at hchild
    obtain hhead | hrest := hchild
    · simp only [SplitNode.children, List.mem_cons, List.not_mem_nil, or_false] at hhead
      obtain rfl | rfl := hhead
      · rw [hsplit.left_sequence]
      · rw [hsplit.right_sequence]
        omega
    · have := ih h.2 child hrest
      omega

/-- The mismatching nodes are cut into the next level. -/
theorem ensures_subdivideFrontier (hfail : FailureSet inputs sources fail)
    (hinv : ∀ p, Sound budgets inputs.recordBytes knowledge (rootSegment reference target) 0 p →
      inv p)
    (hstate : LoopInv inputs knowledge reference target state world)
    (hnonempty : state.pending ≠ [])
    (h : Matched inputs knowledge reference target state level world now referenceRead
      targetRead progress)
    {post : LoopState Body → World budgets → Prop}
    (hpost : ∀ after final, LoopInv inputs knowledge reference target after final →
      RoundStep state after world final referenceRead targetRead → post after final) :
    Ensures inv (fun cause _ => fail cause)
      (subdivideFrontier sources
        (mismatchingNodes (levelNodes state.pending referenceRead.ranges targetRead.ranges))
        { level with progress }) now post := by
  simp only [subdivideFrontier, ensures_bind, ensures_pure]
  refine ensures_splitNodes hfail fun splits w1 hq1 hnodes hnumbered => ?_
  refine ensures_refuseWhen (hfail.budget _) fun hdepth => ?_
  refine ensures_refuseWhen (hfail.budget _) fun _ => ?_
  rw [Bool.not_eq_true, List.any_eq_false] at hdepth
  have hmem : ∀ item ∈ splits, item.1 ∈ mismatchingNodes
      (levelNodes state.pending referenceRead.ranges targetRead.ranges) := by
    intro item hitem
    rw [← hnodes]
    exact List.mem_map.mpr ⟨item, hitem, rfl⟩
  have hsegments : splits.map (fun item => item.1.segment)
      = (mismatchingNodes (levelNodes state.pending referenceRead.ranges targetRead.ranges)).map
        (·.segment) := by
    rw [← hnodes, List.map_map]
    rfl
  refine ensures_recordSplits hinv h.sound ?_ ?_ ?_ ?_ ?_ ?_
    fun final w2 hsound hpending hwitnesses hrecorded => ?_
  · rw [List.nil_append, hsegments]
    exact h.pending_perm
  · rw [h.places_length]
    exact hnumbered
  · intro item hitem child hchild
    have := hdepth child (List.mem_flatMap.mpr ⟨item, hitem, hchild⟩)
    simpa using this
  · intro witness hwitness
    have := h.witnesses witness hwitness
    rw [← hnodes, List.mem_map] at this
    obtain ⟨item, hitem, heq⟩ := this
    exact ⟨item, hitem, heq.symm⟩
  · exact fun item hitem => agrees_of_mem_mismatchingNodes (hmem item hitem)
  · exact fun item hitem => h.read.known _ (List.mem_of_mem_filter (hmem item hitem))
  · rw [hnodes] at hrecorded
    rw [List.nil_append] at hpending
    refine hpost _ w2 ?_ ?_
    · refine h.loopInv .split hstate hsound hpending hwitnesses
        (hrecorded.usage_eq.trans h.usage_eq) rfl h.read.peak_le ?_ hrecorded.records ?_
      · rw [hrecorded.quiet.1, hq1.1]
        exact h.read.received
      · intro place hplace
        have hnext := hnumbered.le_sequence place hplace
        have hpos := List.length_pos_of_ne_nil hnonempty
        have hcount := h.read.nodes_eq
        omega
    · exact
        { nonempty := hnonempty
          reference_length := h.read.reference_length
          target_length := h.read.target_length
          replies := by
            refine ⟨[], by simp, ?_⟩
            rw [List.append_nil, hrecorded.quiet.2, hq1.2, h.read.replies_eq]
          resolved := by
            refine ⟨progress.topology, splits, h.matched, .split hnodes ?_ hrecorded.records, rfl⟩
            rw [← h.read.nodes_eq]
            exact hnumbered }

theorem adjustExactReservation_error (hfail : FailureSet inputs sources fail)
    {context : ReadContext} {relation : Relation} {side : Side} {items : List RangeFingerprint}
    {reservation : ExactSideReservation} {cause : Cause}
    (h : adjustExactReservation context relation side items reservation = .error cause) :
    fail cause := by
  unfold adjustExactReservation at h
  split at h
  · simp at h
  · split at h
    · simp at h
    · rw [← Except.error.inj h]
      exact hfail.protocol _
  all_goals simp at h

theorem exactFrontierReservation_error (hfail : FailureSet inputs sources fail)
    {fingerprintNodes maxEncodedRowBytes schemaFieldCount : ℕ} {nodes : List FingerprintNode}
    {cause : Cause} (h : exactFrontierReservation inputs.sizes sources fingerprintNodes
      maxEncodedRowBytes schemaFieldCount nodes = .error cause) : fail cause := by
  obtain hreference | ⟨_, _, h⟩ := bind_eq_error.mp h
  · exact adjustExactReservation_error hfail hreference
  · obtain htarget | ⟨_, _, h⟩ := bind_eq_error.mp h
    · exact adjustExactReservation_error hfail htarget
    · simp [pure, Except.pure] at h

/-- One round. -/
theorem ensures_workRound (hfail : FailureSet inputs sources fail)
    (hanswers : knowledge.Answers sources) {maxEncodedRowBytes : ℕ}
    (hinv : ∀ p, Sound budgets inputs.recordBytes knowledge (rootSegment reference target) 0 p →
      inv p)
    (hstate : LoopInv inputs knowledge reference target state world)
    (hnonempty : state.pending ≠ []) {post : LoopState Body → World budgets → Prop}
    (hpost : ∀ after final referenceRead targetRead,
      LoopInv inputs knowledge reference target after final →
      RoundStep state after world final referenceRead targetRead → post after final) :
    Ensures inv (fun cause _ => fail cause)
      (workRound inputs sources maxEncodedRowBytes reference target state) world post := by
  simp only [workRound, ensures_bind]
  refine ensures_fingerprintLevel hfail hanswers hinv hstate
    fun level w1 referenceRead targetRead hread => ?_
  refine ensures_partitionFingerprintNodes hfail fun w2 hq2 => ?_
  obtain ⟨hsegments, -, -⟩ := levelNodes_map hread.reference_length hread.target_length
  have hread2 := hread.quiet hq2
  have hlevel : Sound budgets inputs.recordBytes knowledge (rootSegment reference target) 0
      level.progress := by
    rw [hread.progress_eq]
    exact hstate.sound.withUsage _
  have hpending : level.progress.pending.Perm
      ((matchingNodes (levelNodes state.pending referenceRead.ranges targetRead.ranges)
        ++ mismatchingNodes (levelNodes state.pending referenceRead.ranges targetRead.ranges)).map
          (·.segment)) := by
    rw [hread.progress_eq]
    have hnodes := (matchingNodes_append_perm
      (levelNodes state.pending referenceRead.ranges targetRead.ranges)).map (·.segment)
    rw [hsegments] at hnodes
    exact hstate.pending_perm.trans hnodes.symm
  refine ensures_announceMismatches ?_ ?_ fun witnesses hwitnesses => ?_
  · rw [hread.progress_eq]
    exact hstate.witnesses_nil
  · refine hinv _ (hlevel.withMismatchWitnesses fun node hnode => ?_)
    refine ⟨agrees_of_mem_mismatchingNodes hnode, hpending.symm.subset ?_⟩
    exact List.mem_map_of_mem (List.mem_append_right _ hnode)
  refine ensures_requireDeadline hfail fun w3 hq3 => ?_
  refine ensures_recordMatching hfail hinv (hlevel.withWitnesses witnesses fun witness hwitness =>
      ⟨agrees_of_mem_mismatchingNodes (hwitnesses witness hwitness), hpending.symm.subset
        (List.mem_map_of_mem (List.mem_append_right _ (hwitnesses witness hwitness)))⟩)
    hpending hwitnesses (fun node hnode => List.of_mem_filter hnode)
    (fun node hnode => agrees_of_mem_mismatchingNodes hnode)
    (fun node hnode => hread.known node (List.mem_of_mem_filter hnode))
    fun progress w4 hsound hleft hwits hrecorded => ?_
  have hmatched : Matched inputs knowledge reference target state level world w4 referenceRead
      targetRead progress :=
    { read := hread.quiet ((hq2.trans hq3).trans hrecorded.quiet)
      sound := hsound
      pending_perm := hleft
      witnesses := by
        rw [hwits]
        exact hwitnesses
      usage_eq := by
        rw [hrecorded.usage_eq, hread.progress_eq]
      matched := by
        have := hrecorded.records
        rw [hread.progress_eq] at this
        exact this }
  split
  · rename_i hnone
    obtain ⟨hloop, hstep⟩ := hmatched.finished hstate hnonempty hnone
    exact ensures_pure.mpr (hpost _ w4 _ _ hloop hstep)
  · rw [ensures_bind]
    refine ensures_lift_of (fun cause h => ?_) fun reservation _ => ?_
    · exact exactFrontierReservation_error hfail h
    · simp only [ensures_bind, exactFrontierFits]
      refine ensures_act.mpr ⟨fun fits _ => ?_, fun cause h => by simp at h⟩
      split
      · exact ensures_resolveExactFrontier hfail hanswers hinv hstate hnonempty hmatched
          fun after final hloop hround => hpost after final _ _ hloop hround
      · exact ensures_subdivideFrontier hfail hinv hstate hnonempty hmatched
          fun after final hloop hround => hpost after final _ _ hloop hround

/-! ## The work loop -/

/-- A level adds a record for each of its ranges. -/
theorem RoundStep.topology_length (h : RoundStep state after world now referenceRead targetRead) :
    after.progress.topology.length = state.progress.topology.length + state.pending.length := by
  obtain ⟨middle, splits, hmatched, hresolved, -⟩ := h.resolved
  obtain ⟨hsegments, -, -⟩ := levelNodes_map h.reference_length h.target_length
  have hlength := congrArg List.length hsegments
  rw [List.length_map, ← (matchingNodes_append_perm _).length_eq, List.length_append] at hlength
  have hlast : after.progress.topology.length = middle.length
      + (mismatchingNodes (levelNodes state.pending referenceRead.ranges targetRead.ranges)).length := by
    cases hresolved with
    | exact hrecords => exact hrecords.length_eq
    | split _ _ hrecords => exact hrecords.length_eq
  rw [hlast, hmatched.length_eq]
  omega

/-- What a round preserves holds when the loop has ended: nothing is pending. -/
theorem ensures_workLoop (hfail : FailureSet inputs sources fail)
    (hanswers : knowledge.Answers sources) {maxEncodedRowBytes : ℕ}
    (hinv : ∀ p, Sound budgets inputs.recordBytes knowledge (rootSegment reference target) 0 p →
      inv p)
    (kept : LoopState Body → World budgets → Prop)
    (hround : ∀ state after world now referenceRead targetRead,
      LoopInv inputs knowledge reference target state world →
      LoopInv inputs knowledge reference target after now →
      RoundStep state after world now referenceRead targetRead → kept state world → kept after now)
    {fuel : ℕ} (hfuel : budgets.maxFingerprintNodes < fuel + state.progress.topology.length)
    (hstate : LoopInv inputs knowledge reference target state world) (hkept : kept state world)
    {post : LoopState Body → World budgets → Prop}
    (hpost : ∀ after now, LoopInv inputs knowledge reference target after now →
      after.pending = [] → kept after now → post after now) :
    Ensures inv (fun cause _ => fail cause)
      (workLoop inputs sources maxEncodedRowBytes reference target fuel state) world post := by
  induction fuel generalizing state world with
  | zero =>
    have := hstate.nodes_le
    have := hstate.nodes_eq
    omega
  | succ fuel ih =>
    rw [workLoop]
    split
    · rename_i hempty
      exact ensures_pure.mpr (hpost state world hstate hempty hkept)
    · rename_i hnonempty
      rw [ensures_bind]
      refine ensures_workRound hfail hanswers hinv hstate hnonempty
        fun after now referenceRead targetRead hloop hstep => ?_
      refine ih ?_ hloop (hround _ _ _ _ _ _ hstate hloop hstep hkept)
      have hgrown := hstep.topology_length
      have hpos := List.length_pos_of_ne_nil hnonempty
      omega

/-! ## Before the loop -/

/-- Nothing is read yet: `_initial_comparison_progress`, whatever its usage. -/
structure Progress.Fresh (progress : Progress Body) : Prop where
  unverified : progress.summariesVerified = false
  pending : progress.pending = [wholeDomain]
  topology : progress.topology = []
  exactCounts : progress.exactCounts = .zero
  pruned : progress.prunedMatched = 0 ∧ progress.prunedSegments = 0
  exactSegments : progress.exactSegments = 0
  witnesses : progress.mismatchWitnesses = []
  anomalies : progress.anomalies = []
  found : progress.foundRecords = 0 ∧ progress.foundBytes = 0
  retained : progress.retainedBytes = 0

theorem Progress.Fresh.withUsage {progress : Progress Body} (h : progress.Fresh) (usage : Usage) :
    Progress.Fresh { progress with usage } :=
  ⟨h.unverified, h.pending, h.topology, h.exactCounts, h.pruned, h.exactSegments, h.witnesses,
    h.anomalies, h.found, h.retained⟩

/-- The root alone is a sound progress. -/
theorem Progress.Fresh.sound {usage : Usage} (h : progress.Fresh) :
    Sound budgets inputs.recordBytes knowledge (rootSegment reference target) 0
      { progress with
        pending := [rootSegment reference target], summariesVerified := true, usage } where
  verified := rfl
  frontier := by
    rw [h.topology]
    exact .start (rootSegment_isRoot _ _) (rootSegment_wellPlaced _ _)
      ((rootSegment_isRoot _ _).narrow (rootSegment_wellPlaced _ _))
  depth_le := by
    simp only [h.topology, places, List.map_nil, List.nil_append, List.mem_singleton]
    intro place hplace
    rw [hplace]
    exact Nat.zero_le _
  witnesses := by simp [h.witnesses]
  accounts :=
    { known := by simp [h.topology]
      pruned_segments := by simp [h.pruned.2, h.topology, matchRecords]
      pruned_matched := by simp [h.pruned.1, h.topology, matchRecords]
      exact_segments := by simp [h.exactSegments, h.topology, exactRecords]
      leaves := ⟨[], by simp [h.topology, exactRecords], by simp, h.exactCounts⟩ }
  evidence :=
    { numbered := by simp [h.anomalies]
      open_eq := by simp [h.anomalies, h.found.1]
      length_le := by simp [h.anomalies]
      retained_eq := by simp [h.anomalies, h.retained]
      bytes_le := by simp [h.retained]
      rows_limit := by simp [h.anomalies]
      bytes_limit := by simp [h.retained]
      in_mismatch := by simp [h.anomalies] }
  found_eq := by simp [h.found.1, h.exactCounts, ExactCounts.zero, ExactCounts.differences]

/-- The summaries are the connectors' answers to the first two reads of a run. -/
structure SummariesAnswered (inputs : ComparisonInputs Body) (sources : Sources budgets)
    (maxEncodedRowBytes : ℕ) (reference target : KeySummary) : Prop where
  inputs_ok : validateInputs inputs sources = .ok maxEncodedRowBytes
  reference_answer : (sources.summary 0 .reference
    (summaryRequest inputs sources .reference maxEncodedRowBytes)).answer = .ok reference
  target_answer : (sources.summary 1 .target
    (summaryRequest inputs sources .target maxEncodedRowBytes)).answer = .ok target

/-- Every summary read of the connectors asks at least one query and receives a
record. -/
def ChargesSummaries (sources : Sources budgets) : Prop :=
  ∀ index side request answer, (sources.summary index side request).answer = .ok answer →
    1 ≤ ((sources.summary index side request).charges.map Charge.queryCount).sum ∧
      1 ≤ ((sources.summary index side request).charges.map Charge.recordCount).sum

theorem ensures_readIntegerKeySummary (hfail : FailureSet inputs sources fail) {side : Side}
    {maxEncodedRowBytes : ℕ} {post : KeySummary → World budgets → Prop}
    (hpost : ∀ summary after, (sources.summary world.replies.length side
        (summaryRequest inputs sources side maxEncodedRowBytes)).answer = .ok summary →
      Received (sources.summary world.replies.length side
        (summaryRequest inputs sources side maxEncodedRowBytes)).charges (.summary side summary)
        world after → post summary after) :
    Ensures inv (fun cause _ => fail cause)
      (readIntegerKeySummary inputs sources side maxEncodedRowBytes) world post := by
  simp only [readIntegerKeySummary, ensures_bind]
  refine ensures_lift_of (fun cause h => requireSameEngine_error hfail h) fun _ _ => ?_
  exact ensures_readSource hfail (fun index cause h => hfail.summary _ _ _ _ h) hpost

theorem ReadContext.sessionSetupRecordBytes_pos (context : ReadContext) :
    0 < context.sessionSetupRecordBytes := by
  cases context <;> simp [ReadContext.sessionSetupRecordBytes]

/-- The state in which the work loop starts. -/
structure SummariesRead (inputs : ComparisonInputs Body) (sources : Sources budgets)
    (knowledge : Knowledge) (maxEncodedRowBytes : ℕ) (reference target : KeySummary)
    (after : Progress Body) (now : World budgets) : Prop where
  answered : SummariesAnswered inputs sources maxEncodedRowBytes reference target
  reference_known : knowledge.summary .reference reference
  target_known : knowledge.summary .target target
  loop : LoopInv inputs knowledge reference target
    { pending := [rootSegment reference target], usage := after.usage, progress := after } now
  topology_nil : after.topology = []
  replies_eq : now.replies = [.summary .reference reference, .summary .target target]
  charged : ChargesSummaries sources → sources.baseline.queries + 2 ≤ now.usage.queries ∧
    sources.baseline.fetchedRecords + 2 ≤ now.usage.fetchedRecords

theorem ensures_readSummaries (hfail : FailureSet inputs sources fail)
    (hanswers : knowledge.Answers sources) {maxEncodedRowBytes : ℕ}
    (hinputs : validateInputs inputs sources = .ok maxEncodedRowBytes)
    (hinv : ∀ reference target p,
      SummariesAnswered inputs sources maxEncodedRowBytes reference target →
      Sound budgets inputs.recordBytes knowledge (rootSegment reference target) 0 p → inv p)
    (hfresh : ∀ p : Progress Body, p.Fresh → inv p) (hprogress : progress.Fresh)
    (hnodes : progress.usage.fingerprintNodes = 0)
    (hpeak : progress.usage.coordinatorPeakBytes = 0) (hreplies : world.replies = [])
    (husage : world.usage = sources.baseline)
    {post : KeySummary × KeySummary × Progress Body → World budgets → Prop}
    (hpost : ∀ reference target after now,
      SummariesRead inputs sources knowledge maxEncodedRowBytes reference target after now →
      post (reference, target, after) now) :
    Ensures inv (fun cause _ => fail cause)
      (readSummaries inputs sources maxEncodedRowBytes progress) world post := by
  simp only [readSummaries, ensures_bind, ensures_yield, ensures_pure]
  refine ⟨hfresh _ (hprogress.withUsage _), ?_⟩
  refine ensures_requireFullScanCapacity hfail ?_
  refine ensures_requireBudgetCapacity hfail fun hreceived hmemory => ?_
  refine ensures_readIntegerKeySummary hfail fun reference w1 hreference hr1 => ?_
  refine ensures_requireDeadline hfail fun w2 hq2 => ?_
  refine ensures_readIntegerKeySummary hfail fun target w3 htarget hr3 => ?_
  refine ensures_consumeSourceUsage fun usage now hq4 hsnapshot => ?_
  rw [hreplies] at hreference
  rw [hq2.2, hr1.replies_eq, hreplies] at htarget
  have hanswered : SummariesAnswered inputs sources maxEncodedRowBytes reference target :=
    ⟨hinputs, hreference, htarget⟩
  have hsound := @Progress.Fresh.sound budgets Body inputs knowledge reference target progress
    usage hprogress
  refine ⟨hinv reference target _ hanswered hsound, hpost reference target _ now ?_⟩
  exact
    { answered := hanswered
      reference_known := hanswers.summary _ _ _ _ hreference
      target_known := hanswers.summary _ _ _ _ htarget
      loop :=
        { sound := hsound
          pending_perm := .refl _
          witnesses_nil := hprogress.witnesses
          usage_eq := rfl
          nodes_eq := by
            rw [hsnapshot.nodes_eq]
            simp [Usage.withCoordinatorPeak, hnodes, hprogress.topology]
          nodes_le := by
            rw [hsnapshot.nodes_eq]
            simp [Usage.withCoordinatorPeak, hnodes]
          peak_le := by
            rw [hsnapshot.peak_eq]
            simp only [Usage.withCoordinatorPeak, hpeak]
            omega
          received := by
            rw [hq4.1]
            refine hr3.received ?_
            rw [hq2.1]
            refine hr1.received (hreceived (by omega) ?_)
            have := (sources.context .reference).sessionSetupRecordBytes_pos
            omega
          first_round := .inl ⟨hprogress.topology, rfl⟩
          root_counts := by simp [hprogress.topology] }
      topology_nil := hprogress.topology
      replies_eq := by
        rw [hq4.2, hr3.replies_eq, hq2.2, hr1.replies_eq, hreplies]
        rfl
      charged := fun hcharges => by
        have hfirst := hcharges _ _ _ _ hreference
        have hsecond := hcharges _ _ _ _ htarget
        have hqueries := hr3.queries_eq
        have hrecords := hr3.records_eq
        rw [hq2.1, hr1.queries_eq, husage, hq2.2, hr1.replies_eq, hreplies] at hqueries
        rw [hq2.1, hr1.records_eq, husage, hq2.2, hr1.replies_eq, hreplies] at hrecords
        rw [hq4.1, hqueries, hrecords]
        simp only [List.length_nil, List.nil_append] at hfirst hsecond ⊢
        omega }

end ForensicData.Comparison
