/-
ForensicData.Comparison.Levels — whether the answers of one level fit those of
the level above.

The engine compares the two sides of a range with each other. It does not
compare a range with its halves: that the fingerprints of a range it cut are
those of its halves together rests on the connectors alone. `LevelsClose` says
it of the replies of a run, `SplitCloses` of a recorded segment.

`OpenSplits` is what the work loop keeps of the two: as long as the ranges of a
level are pending, the segments above them are cut but not closed
(`OpenSplits.round`). At the end nothing is pending, and every split closes
exactly when all levels do (`OpenSplits.finished`).
-/
import ForensicData.Comparison.Runs

namespace ForensicData.Comparison

open ForensicData.Canonical
open ForensicData.Lib
open ForensicData.Result

variable {budgets : ExecutionBudgets} {Body : Type} {inputs : ComparisonInputs Body}
  {knowledge : Knowledge} {reference target : KeySummary} {state after : LoopState Body}
  {world now : World budgets} {referenceRead targetRead : RangeFingerprintRead}

/-! ## Levels of replies -/

/-- The fingerprints of both sides for one range. -/
abbrev FingerprintPair := Fingerprint × Fingerprint

/-- The fingerprint levels that one side answered. -/
def sideLevels (side : Side) (replies : List Reply) : List (List Fingerprint) :=
  replies.filterMap fun reply =>
    match reply with
    | .fingerprints answered _ read =>
      if answered = side then some (read.ranges.map (·.fingerprint)) else none
    | _ => none

/-- The levels of both sides, range by range. -/
def replyLevels (replies : List Reply) : List (List FingerprintPair) :=
  (sideLevels .reference replies).zipWith List.zip (sideLevels .target replies)

/-- The ranges of a level whose sides differ: the next level holds their halves. -/
def differing (level : List FingerprintPair) : List FingerprintPair :=
  level.filter fun pair => decide (pair.1 ≠ pair.2)

/-- On both sides the fingerprint of a range is that of its halves together. -/
def HalvesCombine (parent left right : FingerprintPair) : Prop :=
  combineFingerprints [left.1, right.1] = .ok parent.1 ∧
    combineFingerprints [left.2, right.2] = .ok parent.2

/-- Two by two, the halves combine to their parents. -/
def LevelCloses : List FingerprintPair → List FingerprintPair → Prop
  | parent :: parents, left :: right :: halves =>
    HalvesCombine parent left right ∧ LevelCloses parents halves
  | [], [] => True
  | _, _ => False

/-- Every level fits the one above it. -/
def LevelsClose (replies : List Reply) : Prop :=
  (replyLevels replies).IsChain fun level next => LevelCloses (differing level) next

/-- The number of ranges that were fingerprinted. -/
def rangesRead (replies : List Reply) : ℕ := ((replyLevels replies).map List.length).sum

theorem sideLevels_append (side : Side) (a b : List Reply) :
    sideLevels side (a ++ b) = sideLevels side a ++ sideLevels side b :=
  List.filterMap_append

theorem sideLevels_rows (side : Side) {rows : List Reply} (h : ∀ reply ∈ rows, reply.IsRows) :
    sideLevels side rows = [] := by
  refine List.filterMap_eq_nil_iff.mpr fun reply hreply => ?_
  have hrows := h reply hreply
  cases reply with
  | rows _ _ _ => rfl
  | summary _ _ => exact hrows.elim
  | fingerprints _ _ _ => exact hrows.elim

/-! ## Weights -/

/-- The weights of both fingerprints. -/
def pairWeight (pair : FingerprintPair) : (ℕ × Sha256Limbs) × (ℕ × Sha256Limbs) :=
  (pair.1.weight, pair.2.weight)

theorem halvesCombine_iff {parent left right : FingerprintPair} :
    HalvesCombine parent left right ↔
      pairWeight left + pairWeight right = pairWeight parent := by
  simp only [HalvesCombine, combineFingerprints_eq_ok, List.map_cons, List.map_nil, List.sum_cons,
    List.sum_nil, add_zero, pairWeight, Prod.mk_add_mk, Prod.mk.injEq]
  exact and_congr eq_comm eq_comm

/-- A recorded segment: its place and its fingerprints. -/
def recordPair (record : ComparisonSegmentRecord) : SegmentPlace × FingerprintPair :=
  (record.toSegmentPlace, record.referenceFingerprint, record.targetFingerprint)

/-- So for a node. -/
def nodePair (node : FingerprintNode) : SegmentPlace × FingerprintPair :=
  (node.segment, node.reference.fingerprint, node.target.fingerprint)

/-- The weights of the segments directly below a segment, added up. -/
def childWeight (segments : List (SegmentPlace × FingerprintPair)) (sequence : ℕ) :
    (ℕ × Sha256Limbs) × (ℕ × Sha256Limbs) :=
  ((segments.filter fun segment =>
    decide (segment.1.parentSegmentSequence = some sequence)).map fun segment =>
      pairWeight segment.2).sum

theorem childWeight_append (a b : List (SegmentPlace × FingerprintPair)) (sequence : ℕ) :
    childWeight (a ++ b) sequence = childWeight a sequence + childWeight b sequence := by
  simp [childWeight]

theorem childWeight_perm {a b : List (SegmentPlace × FingerprintPair)} (h : a.Perm b)
    (sequence : ℕ) : childWeight a sequence = childWeight b sequence :=
  ((h.filter _).map _).sum_eq

theorem childWeight_eq_zero {segments : List (SegmentPlace × FingerprintPair)} {sequence : ℕ}
    (h : ∀ segment ∈ segments, segment.1.parentSegmentSequence ≠ some sequence) :
    childWeight segments sequence = 0 := by
  have hnone : segments.filter (fun segment =>
      decide (segment.1.parentSegmentSequence = some sequence)) = [] := by
    refine List.filter_eq_nil_iff.mpr fun segment hsegment => ?_
    simpa using h segment hsegment
  rw [childWeight, hnone, List.map_nil, List.sum_nil]

/-- A recorded segment has the fingerprints of the segments directly below it
together. -/
def SplitCloses (topology : List ComparisonSegmentRecord) (record : ComparisonSegmentRecord) :
    Prop :=
  childWeight (topology.map recordPair) record.segmentSequence = pairWeight (recordPair record).2

theorem splitCloses_perm {topology topology' : List ComparisonSegmentRecord}
    (hperm : topology.Perm topology') {record : ComparisonSegmentRecord} :
    SplitCloses topology record ↔ SplitCloses topology' record := by
  rw [SplitCloses, SplitCloses, childWeight_perm (hperm.map _)]

/-- Every split that is not among the given ones closes. -/
def ClosedBut (splits : List SplitNode) (topology : List ComparisonSegmentRecord) : Prop :=
  ∀ record ∈ topology, record.state = .split →
    (∀ item ∈ splits, item.1.segment.segmentSequence ≠ record.segmentSequence) →
    SplitCloses topology record

/-! ## A level and its nodes -/

/-- The pairs of a level are those of its nodes. -/
theorem zip_fingerprints_eq {pending : List PendingSegment}
    {referenceRanges targetRanges : List RangeFingerprint}
    (hreference : referenceRanges.length = pending.length)
    (htarget : targetRanges.length = pending.length) :
    (referenceRanges.map (·.fingerprint)).zip (targetRanges.map (·.fingerprint))
      = (levelNodes pending referenceRanges targetRanges).map fun node => (nodePair node).2 := by
  obtain ⟨-, hr, ht⟩ := levelNodes_map hreference htarget
  generalize levelNodes pending referenceRanges targetRanges = nodes at hr ht
  subst hr ht
  rw [List.map_map, List.map_map]
  exact List.zip_map' ..

theorem differing_map (nodes : List FingerprintNode) :
    differing (nodes.map fun node => (nodePair node).2)
      = (mismatchingNodes nodes).map fun node => (nodePair node).2 := by
  rw [differing, mismatchingNodes, List.filter_map]
  congr 2
  funext node
  simp [nodePair, FingerprintNode.agrees]

/-- The appended records are the nodes. -/
theorem RecordsNodes.map_recordPair {before records : List ComparisonSegmentRecord}
    {recorded : ComparisonSegmentState} {nodes : List FingerprintNode}
    (h : RecordsNodes before records recorded nodes) :
    records.map recordPair = before.map recordPair ++ nodes.map nodePair := by
  obtain ⟨new, rfl, hall⟩ := h
  rw [List.map_append]
  congr 1
  induction hall with
  | nil => rfl
  | cons hhead _ ih =>
    obtain ⟨hplace, -, hreference, htarget⟩ := segmentRecord_eq_ok.mp hhead
    rw [List.map_cons, List.map_cons, ih, recordPair, nodePair, hplace, hreference, htarget]

/-- A node that was recorded has a record. -/
theorem RecordsNodes.exists_record {before records : List ComparisonSegmentRecord}
    {recorded : ComparisonSegmentState} {nodes : List FingerprintNode}
    (h : RecordsNodes before records recorded nodes) :
    ∀ node ∈ nodes, ∃ record ∈ records, record.state = recorded ∧
      recordPair record = nodePair node := by
  obtain ⟨new, rfl, hall⟩ := h
  intro node hnode
  induction hall with
  | nil => simp at hnode
  | @cons first record _ _ hhead _ ih =>
    obtain ⟨hplace, hstate, hreference, htarget⟩ := segmentRecord_eq_ok.mp hhead
    rw [List.mem_cons] at hnode
    obtain rfl | hnode := hnode
    · refine ⟨record, by simp, hstate, ?_⟩
      rw [recordPair, nodePair, hplace, hreference, htarget]
    · obtain ⟨other, hother, hfacts⟩ := ih hnode
      refine ⟨other, ?_, hfacts⟩
      rw [List.mem_append, List.mem_cons]
      exact (List.mem_append.mp hother).imp id .inr

/-- Halves of distinct ranges close level by level exactly when they do range
by range. -/
theorem levelCloses_iff {splits : List SplitNode} {nodes : List FingerprintNode}
    (hnodes : nodes.map (·.segment) = splits.flatMap SplitNode.children)
    (hbelow : ∀ item ∈ splits, ∀ child ∈ item.children,
      child.parentSegmentSequence = some item.1.segment.segmentSequence)
    (hdistinct : (splits.map fun item => item.1.segment.segmentSequence).Nodup) :
    LevelCloses (splits.map fun item => (nodePair item.1).2)
        (nodes.map fun node => (nodePair node).2) ↔
      ∀ item ∈ splits, childWeight (nodes.map nodePair) item.1.segment.segmentSequence
        = pairWeight (nodePair item.1).2 := by
  induction splits generalizing nodes with
  | nil =>
    rw [List.flatMap_nil, List.map_eq_nil_iff] at hnodes
    simp [hnodes, LevelCloses]
  | cons item rest ih =>
    rw [List.flatMap_cons, SplitNode.children, List.cons_append, List.cons_append,
      List.nil_append] at hnodes
    -- the two halves of the first range, and the halves of the others
    obtain ⟨left, nodes, rfl, hleft, hnodes⟩ := List.map_eq_cons_iff.mp hnodes
    obtain ⟨right, nodes, rfl, hright, hnodes⟩ := List.map_eq_cons_iff.mp hnodes
    rw [List.forall_mem_cons] at hbelow
    rw [List.map_cons, List.nodup_cons] at hdistinct
    obtain ⟨hhead, hbelow⟩ := hbelow
    obtain ⟨hfresh, hdistinct⟩ := hdistinct
    have hleftParent : left.segment.parentSegmentSequence
        = some item.1.segment.segmentSequence := by
      rw [hleft]
      exact hhead _ (by simp [SplitNode.children])
    have hrightParent : right.segment.parentSegmentSequence
        = some item.1.segment.segmentSequence := by
      rw [hright]
      exact hhead _ (by simp [SplitNode.children])
    have hothers : ∀ node ∈ nodes, ∃ other ∈ rest,
        node.segment.parentSegmentSequence = some other.1.segment.segmentSequence := by
      intro node hnode
      have hmem : node.segment ∈ nodes.map (·.segment) := List.mem_map.mpr ⟨node, hnode, rfl⟩
      rw [hnodes, List.mem_flatMap] at hmem
      obtain ⟨other, hother, hchild⟩ := hmem
      exact ⟨other, hother, hbelow other hother _ hchild⟩
    have hfirst : childWeight ((left :: right :: nodes).map nodePair)
        item.1.segment.segmentSequence
          = pairWeight (nodePair left).2 + pairWeight (nodePair right).2 := by
      have hnone : childWeight (nodes.map nodePair) item.1.segment.segmentSequence = 0 := by
        refine childWeight_eq_zero fun segment hsegment hparent => ?_
        obtain ⟨node, hnode, rfl⟩ := List.mem_map.mp hsegment
        obtain ⟨other, hother, hnode'⟩ := hothers node hnode
        rw [nodePair, hnode', Option.some.injEq] at hparent
        exact hfresh (List.mem_map.mpr ⟨other, hother, hparent⟩)
      have hpair : childWeight [nodePair left, nodePair right] item.1.segment.segmentSequence
          = pairWeight (nodePair left).2 + pairWeight (nodePair right).2 := by
        simp [childWeight, nodePair, hleftParent, hrightParent]
      have := childWeight_append [nodePair left, nodePair right] (nodes.map nodePair)
        item.1.segment.segmentSequence
      rw [hnone, hpair, add_zero] at this
      exact this
    have hrest : ∀ other ∈ rest, childWeight ((left :: right :: nodes).map nodePair)
        other.1.segment.segmentSequence
          = childWeight (nodes.map nodePair) other.1.segment.segmentSequence := by
      intro other hother
      have hne : item.1.segment.segmentSequence ≠ other.1.segment.segmentSequence := by
        intro heq
        exact hfresh (List.mem_map.mpr ⟨other, hother, heq.symm⟩)
      have hnone : childWeight [nodePair left, nodePair right] other.1.segment.segmentSequence
          = 0 := by
        refine childWeight_eq_zero fun segment hsegment hparent => ?_
        simp only [List.mem_cons, List.not_mem_nil, or_false] at hsegment
        obtain rfl | rfl := hsegment
        · exact hne (Option.some.inj (hleftParent.symm.trans hparent))
        · exact hne (Option.some.inj (hrightParent.symm.trans hparent))
      have := childWeight_append [nodePair left, nodePair right] (nodes.map nodePair)
        other.1.segment.segmentSequence
      rw [hnone, zero_add] at this
      exact this
    rw [List.map_cons, List.map_cons, List.map_cons, LevelCloses, halvesCombine_iff,
      ih hnodes hbelow hdistinct, List.forall_mem_cons, ← hfirst]
    refine and_congr Iff.rfl (forall₂_congr fun other hother => ?_)
    rw [hrest other hother]

/-! ## The invariant -/

/-- What the work loop keeps: `splits` are the ranges cut last, whose halves are
pending. -/
structure OpenSplits (splits : List SplitNode) (state : LoopState Body) (world : World budgets) :
    Prop where
  paired : (sideLevels .reference world.replies).length
    = (sideLevels .target world.replies).length
  ranges_eq : state.progress.topology.length = rangesRead world.replies
  pending_eq : (state.progress.topology = [] ∧ replyLevels world.replies = []) ∨
    (state.pending = splits.flatMap SplitNode.children ∧
      (state.pending ≠ [] → ∃ last ∈ (replyLevels world.replies).getLast?,
        differing last = splits.map fun item => (nodePair item.1).2))
  below : ∀ item ∈ splits, ∀ child ∈ item.children,
    child.parentSegmentSequence = some item.1.segment.segmentSequence
  distinct : (splits.map fun item => item.1.segment.segmentSequence).Nodup
  recorded : ∀ item ∈ splits, ∃ record ∈ state.progress.topology,
    record.state = .split ∧ recordPair record = nodePair item.1
  childless : ∀ record ∈ state.progress.topology, ∀ item ∈ splits,
    record.parentSegmentSequence ≠ some item.1.segment.segmentSequence
  closed_iff : ClosedBut splits state.progress.topology ↔ LevelsClose world.replies

/-- The replies of a round are a level and rows. -/
theorem RoundStep.sideLevels_eq
    (h : RoundStep state after world now referenceRead targetRead) :
    sideLevels .reference now.replies = sideLevels .reference world.replies
        ++ [referenceRead.ranges.map (·.fingerprint)] ∧
      sideLevels .target now.replies = sideLevels .target world.replies
        ++ [targetRead.ranges.map (·.fingerprint)] := by
  obtain ⟨rows, hrows, hreplies⟩ := h.replies
  rw [hreplies]
  simp only [sideLevels_append, sideLevels_rows _ hrows, List.append_nil]
  constructor <;> simp [sideLevels]

/-- A round adds the level of its nodes. -/
theorem RoundStep.replyLevels_eq
    (h : RoundStep state after world now referenceRead targetRead)
    (hpaired : (sideLevels .reference world.replies).length
      = (sideLevels .target world.replies).length) :
    replyLevels now.replies = replyLevels world.replies ++
      [(levelNodes state.pending referenceRead.ranges targetRead.ranges).map fun node =>
        (nodePair node).2] := by
  obtain ⟨hreference, htarget⟩ := h.sideLevels_eq
  rw [replyLevels, hreference, htarget, List.zipWith_append hpaired, replyLevels,
    List.zipWith_cons_cons, List.zipWith_nil_left,
    zip_fingerprints_eq h.reference_length h.target_length]

/-- The records of a round are the nodes of its level, in some order. -/
theorem RoundStep.topology_perm
    (h : RoundStep state after world now referenceRead targetRead) :
    (after.progress.topology.map recordPair).Perm
      (state.progress.topology.map recordPair ++
        (levelNodes state.pending referenceRead.ranges targetRead.ranges).map nodePair) := by
  obtain ⟨middle, splits, hmatched, hresolved, -⟩ := h.resolved
  have hlast : after.progress.topology.map recordPair = middle.map recordPair ++
      (mismatchingNodes (levelNodes state.pending referenceRead.ranges targetRead.ranges)).map
        nodePair := by
    cases hresolved with
    | exact hrecords => exact hrecords.map_recordPair
    | split _ _ hrecords => exact hrecords.map_recordPair
  rw [hlast, hmatched.map_recordPair, List.append_assoc, ← List.map_append]
  exact ((matchingNodes_append_perm _).map nodePair).append_left _

/-- The halves of numbered splits hang below the ranges they were cut from. -/
theorem NumberedSplits.below {nextSequence : ℕ} {items : List SplitNode}
    (h : NumberedSplits nextSequence items) :
    ∀ item ∈ items, ∀ child ∈ item.children,
      child.parentSegmentSequence = some item.1.segment.segmentSequence := by
  induction items generalizing nextSequence with
  | nil => simp
  | cons first rest ih =>
    have hsplit := splitSegment_eq_some h.1
    intro item hitem
    rw [List.mem_cons] at hitem
    obtain rfl | hitem := hitem
    · intro child hchild
      simp only [SplitNode.children, List.mem_cons, List.not_mem_nil, or_false] at hchild
      obtain rfl | rfl := hchild
      · exact hsplit.left_parent
      · exact hsplit.right_parent
    · exact ih h.2 item hitem

/-- What a round cut: all mismatching ranges of its level or none. -/
structure CutRanges (state after : LoopState Body) (mismatching : List FingerprintNode)
    (next : List SplitNode) : Prop where
  pending_eq : after.pending = next.flatMap SplitNode.children
  cut : next = [] ∨ next.map Prod.fst = mismatching
  below : ∀ item ∈ next, ∀ child ∈ item.children,
    child.parentSegmentSequence = some item.1.segment.segmentSequence
  recorded : ∀ item ∈ next, ∃ record ∈ after.progress.topology,
    record.state = .split ∧ recordPair record = nodePair item.1
  kept : ∀ record ∈ state.progress.topology, record ∈ after.progress.topology
  only : ∀ record ∈ after.progress.topology, record.state = .split →
    record ∈ state.progress.topology ∨
      ∃ item ∈ next, item.1.segment.segmentSequence = record.segmentSequence

theorem RoundStep.exists_cut (h : RoundStep state after world now referenceRead targetRead) :
    ∃ next, CutRanges state after
      (mismatchingNodes (levelNodes state.pending referenceRead.ranges targetRead.ranges)) next := by
  obtain ⟨middle, splits, hmatched, hresolved, hpending⟩ := h.resolved
  have hmiddle : ∀ record ∈ middle, record.state = .split → record ∈ state.progress.topology := by
    intro record hrecord hsplit
    obtain hold | ⟨node, -, hok⟩ := hmatched.node_of_mem record hrecord
    · exact hold
    · rw [(segmentRecord_eq_ok.mp hok).2.1] at hsplit
      simp at hsplit
  have hfirst : ∀ record ∈ state.progress.topology, record ∈ middle := by
    obtain ⟨new, rfl, -⟩ := hmatched
    exact fun record hrecord => List.mem_append_left _ hrecord
  refine ⟨splits, ?_⟩
  cases hresolved with
  | exact hrecords =>
    exact
      { pending_eq := hpending
        cut := .inl rfl
        below := by simp
        recorded := by simp
        kept := by
          obtain ⟨new, hnew, -⟩ := hrecords
          rw [hnew]
          exact fun record hrecord => List.mem_append_left _ (hfirst record hrecord)
        only := by
          intro record hrecord hsplit
          obtain hold | ⟨node, -, hok⟩ := hrecords.node_of_mem record hrecord
          · exact .inl (hmiddle record hold hsplit)
          · rw [(segmentRecord_eq_ok.mp hok).2.1] at hsplit
            simp at hsplit }
  | split hnodes hnumbered hrecords =>
    exact
      { pending_eq := hpending
        cut := .inr hnodes
        below := hnumbered.below
        recorded := by
          intro item hitem
          refine hrecords.exists_record _ ?_
          rw [← hnodes]
          exact List.mem_map.mpr ⟨item, hitem, rfl⟩
        kept := by
          obtain ⟨new, hnew, -⟩ := hrecords
          rw [hnew]
          exact fun record hrecord => List.mem_append_left _ (hfirst record hrecord)
        only := by
          intro record hrecord hsplit
          obtain hold | ⟨node, hnode, hok⟩ := hrecords.node_of_mem record hrecord
          · exact .inl (hmiddle record hold hsplit)
          · rw [← hnodes, List.mem_map] at hnode
            obtain ⟨item, hitem, rfl⟩ := hnode
            refine .inr ⟨item, hitem, ?_⟩
            rw [← (segmentRecord_eq_ok.mp hok).1] }

/-- The frontier of a round, with the ranges it reads in their order. -/
theorem LoopInv.frontier (h : LoopInv inputs knowledge reference target state world) :
    Frontier (rootSegment reference target) state.progress.topology state.pending :=
  h.sound.frontier.perm h.pending_perm

/-- A pending range is not recorded. -/
theorem Frontier.sequence_ne {root place : SegmentPlace}
    {topology : List ComparisonSegmentRecord} {pending : List PendingSegment}
    (h : Frontier root topology pending) {record : ComparisonSegmentRecord}
    (hrecord : record ∈ topology) (hplace : place ∈ pending) :
    record.segmentSequence ≠ place.segmentSequence := by
  have hnodup := h.sequences_nodup
  rw [places, List.map_append, List.map_map, List.nodup_append] at hnodup
  exact hnodup.2.2 _ (List.mem_map.mpr ⟨record, hrecord, rfl⟩) _
    (List.mem_map.mpr ⟨place, hplace, rfl⟩)

/-- Nothing hangs below a pending range. -/
theorem Frontier.parent_ne {root place other : SegmentPlace}
    {topology : List ComparisonSegmentRecord} {pending : List PendingSegment}
    (h : Frontier root topology pending) (hroot : root.IsRoot)
    (hplace : place ∈ places topology pending) (hother : other ∈ pending) :
    place.parentSegmentSequence ≠ some other.segmentSequence := by
  cases h.rooted place hplace with
  | inl heq =>
    rw [heq, hroot.2.1]
    simp
  | inr hparent =>
    obtain ⟨parent, hmem, -, heq⟩ := hparent
    rw [heq, ne_eq, Option.some.injEq]
    exact h.sequence_ne hmem hother

/-- A segment that is neither pending nor above a pending one closes or not
before and after a round alike; one whose halves are pending closes when they
do. -/
theorem RoundStep.splitCloses_iff {splits : List SplitNode}
    (h : RoundStep state after world now referenceRead targetRead)
    (hpending : state.pending = splits.flatMap SplitNode.children)
    (hsplits : OpenSplits splits state world)
    (hfrontier : Frontier (rootSegment reference target) state.progress.topology state.pending) :
    (∀ record ∈ state.progress.topology, record.state = .split →
        SplitCloses after.progress.topology record) ↔
      ClosedBut splits state.progress.topology ∧
        ∀ item ∈ splits, childWeight
          ((levelNodes state.pending referenceRead.ranges targetRead.ranges).map nodePair)
            item.1.segment.segmentSequence = pairWeight (nodePair item.1).2 := by
  obtain ⟨hsegments, -, -⟩ := levelNodes_map h.reference_length h.target_length
  have hsum : ∀ record, SplitCloses after.progress.topology record ↔
      childWeight (state.progress.topology.map recordPair) record.segmentSequence
        + childWeight
            ((levelNodes state.pending referenceRead.ranges targetRead.ranges).map nodePair)
            record.segmentSequence = pairWeight (recordPair record).2 := by
    intro record
    rw [SplitCloses, childWeight_perm h.topology_perm, childWeight_append]
  -- the nodes of the level hang below the open splits
  have hbelow : ∀ sequence, (∀ item ∈ splits, item.1.segment.segmentSequence ≠ sequence) →
      childWeight ((levelNodes state.pending referenceRead.ranges targetRead.ranges).map nodePair)
        sequence = 0 := by
    intro sequence hnot
    refine childWeight_eq_zero fun segment hsegment hparent => ?_
    obtain ⟨node, hnode, rfl⟩ := List.mem_map.mp hsegment
    have hmem : node.segment ∈ state.pending := by
      rw [← hsegments]
      exact List.mem_map.mpr ⟨node, hnode, rfl⟩
    rw [hpending, List.mem_flatMap] at hmem
    obtain ⟨item, hitem, hchild⟩ := hmem
    rw [nodePair, hsplits.below item hitem _ hchild, Option.some.injEq] at hparent
    exact hnot item hitem hparent
  have hnone : ∀ item ∈ splits, childWeight (state.progress.topology.map recordPair)
      item.1.segment.segmentSequence = 0 := by
    intro item hitem
    refine childWeight_eq_zero fun segment hsegment => ?_
    obtain ⟨record, hrecord, rfl⟩ := List.mem_map.mp hsegment
    exact hsplits.childless record hrecord item hitem
  constructor
  · intro hall
    constructor
    · intro record hrecord hsplit hnot
      have hcloses := (hsum record).mp (hall record hrecord hsplit)
      rwa [hbelow _ hnot, add_zero] at hcloses
    · intro item hitem
      obtain ⟨record, hrecord, hsplit, hpair⟩ := hsplits.recorded item hitem
      have hcloses := (hsum record).mp (hall record hrecord hsplit)
      have hsequence : record.segmentSequence = item.1.segment.segmentSequence :=
        congrArg (fun segment => segment.1.segmentSequence) hpair
      rwa [hsequence, hnone item hitem, zero_add, hpair] at hcloses
  · intro hboth record hrecord hsplit
    obtain ⟨hclosed, hhalves⟩ := hboth
    rw [hsum]
    by_cases hopen : ∀ item ∈ splits, item.1.segment.segmentSequence ≠ record.segmentSequence
    · rw [hbelow _ hopen, add_zero]
      exact hclosed record hrecord hsplit hopen
    · simp only [ne_eq, not_forall, not_not] at hopen
      obtain ⟨item, hitem, hsequence⟩ := hopen
      obtain ⟨other, hother, -, hpair⟩ := hsplits.recorded item hitem
      have hsame : recordPair record = recordPair other := by
        have hsequence' : other.segmentSequence = item.1.segment.segmentSequence :=
          congrArg (fun segment => segment.1.segmentSequence) hpair
        rw [List.inj_on_of_nodup_map hfrontier.topology_nodup hrecord hother
          (hsequence.symm.trans hsequence'.symm)]
      rw [← hsequence, hnone item hitem, zero_add, hsame, hpair]
      exact hhalves item hitem

/-- A round cuts the ranges of its own level: they were pending, so nothing hangs
below them yet. -/
theorem CutRanges.mem_pending {next : List SplitNode}
    (h : RoundStep state after world now referenceRead targetRead)
    (hcut : CutRanges state after
      (mismatchingNodes (levelNodes state.pending referenceRead.ranges targetRead.ranges)) next) :
    ∀ item ∈ next, item.1.segment ∈ state.pending := by
  obtain ⟨hsegments, -, -⟩ := levelNodes_map h.reference_length h.target_length
  intro item hitem
  cases hcut.cut with
  | inl hnil => simp [hnil] at hitem
  | inr hnodes =>
    have hmem : item.1 ∈ next.map Prod.fst := List.mem_map.mpr ⟨item, hitem, rfl⟩
    rw [hnodes] at hmem
    rw [← hsegments]
    exact List.mem_map.mpr ⟨item.1, List.mem_of_mem_filter hmem, rfl⟩

/-- After a round the splits that are not open close exactly when they did before
and the level read fits the last one. -/
theorem OpenSplits.closed_round {splits next : List SplitNode}
    (h : OpenSplits splits state world)
    (hstate : LoopInv inputs knowledge reference target state world)
    (hstep : RoundStep state after world now referenceRead targetRead)
    (hcut : CutRanges state after
      (mismatchingNodes (levelNodes state.pending referenceRead.ranges targetRead.ranges)) next) :
    ClosedBut next after.progress.topology ↔ LevelsClose now.replies := by
  have hlevels := hstep.replyLevels_eq h.paired
  have hrecorded : ClosedBut next after.progress.topology ↔
      ∀ record ∈ state.progress.topology, record.state = .split →
        SplitCloses after.progress.topology record := by
    constructor
    · intro hclosed record hrecord hsplit
      refine hclosed record (hcut.kept record hrecord) hsplit fun item hitem => ?_
      exact (hstate.frontier.sequence_ne hrecord (hcut.mem_pending hstep item hitem)).symm
    · intro hall record hrecord hsplit hnot
      obtain hold | ⟨item, hitem, hsame⟩ := hcut.only record hrecord hsplit
      · exact hall record hold hsplit
      · exact absurd hsame (hnot item hitem)
  rw [hrecorded]
  cases h.pending_eq with
  | inl hstart =>
    rw [LevelsClose, hlevels, hstart.1, hstart.2]
    simp
  | inr hopen =>
    obtain ⟨hpending, hlast⟩ := hopen
    obtain ⟨last, hlast, hdiffering⟩ := hlast hstep.nonempty
    obtain ⟨hsegments, -, -⟩ := levelNodes_map hstep.reference_length hstep.target_length
    rw [hstep.splitCloses_iff hpending h hstate.frontier, h.closed_iff,
      ← levelCloses_iff (hsegments.trans hpending) h.below h.distinct, LevelsClose, LevelsClose,
      hlevels, List.isChain_append]
    refine and_congr Iff.rfl ?_
    simp only [List.isChain_singleton, true_and, List.head?_cons, Option.mem_def,
      Option.some.injEq]
    rw [Option.mem_def] at hlast
    refine ⟨fun hfits level hlevel next hnext => ?_, fun hfits => ?_⟩
    · rw [hlast, Option.some.injEq] at hlevel
      rw [← hlevel, ← hnext, hdiffering]
      exact hfits
    · rw [← hdiffering]
      exact hfits last hlast _ rfl

/-- The invariant is kept by a round. -/
theorem OpenSplits.round {splits : List SplitNode} (h : OpenSplits splits state world)
    (hstate : LoopInv inputs knowledge reference target state world)
    (hstep : RoundStep state after world now referenceRead targetRead) :
    ∃ next, OpenSplits next after now := by
  obtain ⟨next, hcut⟩ := hstep.exists_cut
  obtain ⟨hsegments, -, -⟩ := levelNodes_map hstep.reference_length hstep.target_length
  have hlevels := hstep.replyLevels_eq h.paired
  have hfrontier := hstate.frontier
  refine ⟨next, ?_⟩
  exact
    { paired := by
        obtain ⟨hreference, htarget⟩ := hstep.sideLevels_eq
        rw [hreference, htarget, List.length_append, List.length_append, h.paired]
        rfl
      ranges_eq := by
        have hlength := congrArg List.length hsegments
        rw [List.length_map] at hlength
        rw [hstep.topology_length, h.ranges_eq, rangesRead, rangesRead, hlevels]
        simp [hlength]
      pending_eq := by
        refine .inr ⟨hcut.pending_eq, fun hpending => ?_⟩
        refine ⟨_, by rw [hlevels, List.getLast?_concat, Option.mem_def], ?_⟩
        rw [differing_map]
        cases hcut.cut with
        | inl hnil =>
          rw [hcut.pending_eq, hnil] at hpending
          exact absurd rfl hpending
        | inr hnodes => rw [← hnodes, List.map_map]; rfl
      below := hcut.below
      distinct := by
        cases hcut.cut with
        | inl hnil => simp [hnil]
        | inr hnodes =>
          have hnodup : (state.pending.map (·.segmentSequence)).Nodup := by
            have hall := hfrontier.sequences_nodup
            rw [places, List.map_append, List.nodup_append] at hall
            exact hall.2.1
          have hsequences : (next.map fun item => item.1.segment.segmentSequence)
              = (mismatchingNodes (levelNodes state.pending referenceRead.ranges
                  targetRead.ranges)).map fun node => node.segment.segmentSequence := by
            rw [← hnodes, List.map_map]
            rfl
          rw [← hsegments, List.map_map] at hnodup
          rw [hsequences]
          exact hnodup.sublist (List.filter_sublist.map _)
      recorded := hcut.recorded
      childless := by
        intro record hrecord item hitem
        have hsame : recordPair record ∈ after.progress.topology.map recordPair :=
          List.mem_map.mpr ⟨record, hrecord, rfl⟩
        have hplace : record.toSegmentPlace ∈ places state.progress.topology state.pending := by
          have hmem := hstep.topology_perm.subset hsame
          rw [List.mem_append, List.mem_map, List.mem_map] at hmem
          obtain ⟨other, hother, hpair⟩ | ⟨node, hnode, hpair⟩ := hmem
          · have hsegment : other.toSegmentPlace = record.toSegmentPlace := congrArg Prod.fst hpair
            rw [← hsegment]
            exact List.mem_append_left _ (List.mem_map.mpr ⟨other, hother, rfl⟩)
          · have hsegment : node.segment = record.toSegmentPlace := congrArg Prod.fst hpair
            rw [← hsegment, ← hsegments]
            exact List.mem_append_right _ (List.mem_map.mpr ⟨node, hnode, rfl⟩)
        exact hfrontier.parent_ne (rootSegment_isRoot _ _) hplace
          (hcut.mem_pending hstep item hitem)
      closed_iff := h.closed_round hstate hstep hcut }

/-- Nothing is open before the first level. -/
theorem SummariesRead.openSplits {sources : Sources budgets} {maxEncodedRowBytes : ℕ}
    {progress : Progress Body}
    (h : SummariesRead inputs sources knowledge maxEncodedRowBytes reference target progress world) :
    OpenSplits []
      { pending := [rootSegment reference target], usage := progress.usage, progress } world := by
  have hnone : replyLevels world.replies = [] := by
    rw [h.replies_eq]
    rfl
  exact
    { paired := by
        rw [h.replies_eq]
        rfl
      ranges_eq := by
        rw [rangesRead, hnone]
        exact congrArg List.length h.topology_nil
      pending_eq := .inl ⟨h.topology_nil, hnone⟩
      below := by simp
      distinct := by simp
      recorded := by simp
      childless := by simp
      closed_iff := by
        rw [LevelsClose, hnone, h.topology_nil]
        simp [ClosedBut] }

/-- Nothing is open when nothing is pending. -/
theorem OpenSplits.finished {splits : List SplitNode} (h : OpenSplits splits state world)
    (hdone : state.pending = []) :
    (∀ record ∈ state.progress.topology, record.state = .split →
      SplitCloses state.progress.topology record) ↔ LevelsClose world.replies := by
  cases h.pending_eq with
  | inl hstart =>
    rw [LevelsClose, hstart.1, hstart.2]
    simp
  | inr hopen =>
    have hnil : splits = [] := by
      cases splits with
      | nil => rfl
      | cons item rest =>
        rw [hdone, List.flatMap_cons] at hopen
        simp [SplitNode.children] at hopen
    subst hnil
    rw [← h.closed_iff]
    simp [ClosedBut]

end ForensicData.Comparison
