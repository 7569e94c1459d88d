/-
ForensicData.Persistence.TopologyTheorems — what the local topology checks
establish for the whole list.

Both validators reduce to one picture, `SegmentForest`: segments with distinct
sequences, every parent a split segment, every split segment bisected by the
two segments that name it. From it, by `Lib.sum_terminal_eq_sum_root`,

* the segments that are not split tile the root (`SegmentForest.tiles`), with
  the indicator of a key as the summed value, and
* any value that splits along bisections adds up to the root's
  (`SegmentForest.sum_eq`), with the fingerprints' weights as the value.

The two main results are `completed_topology_sound` and
`partial_frontier_tiles_root`.
-/
import ForensicData.Comparison.PartialRuns
import ForensicData.Lib.ParentSum
import ForensicData.Persistence.Topology

namespace ForensicData.Persistence

open ForensicData.Canonical
open ForensicData.Comparison
open ForensicData.Result

/-! ## Forests of segments -/

section Forest

variable {ν : Type} (place : ν → SegmentPlace) (isSplit : ν → Bool)

/-- The segments of the list that name `parent` as theirs. -/
abbrev childSegments (nodes : List ν) (parent : ν) : List ν :=
  Lib.childrenOf (fun n => (place n).segmentSequence) (fun n => (place n).parentSegmentSequence)
    nodes parent

/-- A flat list of segments in which every parent is a split segment and every
split segment has exactly two children, which bisect it. -/
structure SegmentForest (nodes : List ν) : Prop where
  sequences_nodup : (nodes.map fun n => (place n).segmentSequence).Nodup
  parent_split : ∀ n ∈ nodes, ∀ p, (place n).parentSegmentSequence = some p →
    ∃ s ∈ nodes, (place s).segmentSequence = p ∧ isSplit s = true
  split_bisected : ∀ s ∈ nodes, isSplit s = true →
    ∃ left right, (childSegments place nodes s).Perm [left, right] ∧
      (place s).Bisects (place left) (place right)

variable {place isSplit}

/-- The roots of a forest: the segments without a parent. -/
abbrev rootSegments (place : ν → SegmentPlace) (nodes : List ν) : List ν :=
  nodes.filter fun n => (place n).parentSegmentSequence.isNone

/-- A value that every bisection splits adds up, over the segments that are not
split, to its sum over the roots. -/
theorem SegmentForest.sum_eq {M : Type} [AddCancelCommMonoid M] {nodes : List ν}
    (h : SegmentForest place isSplit nodes) (value : ν → M)
    (hvalue : ∀ s ∈ nodes, isSplit s = true → ∀ left right,
      (childSegments place nodes s).Perm [left, right] → value left + value right = value s) :
    ((nodes.filter fun n => !isSplit n).map value).sum
      = ((rootSegments place nodes).map value).sum := by
  refine Lib.sum_terminal_eq_sum_root h.sequences_nodup h.parent_split ?_
  intro s hs hsplit
  obtain ⟨left, right, hperm, -⟩ := h.split_bisected s hs hsplit
  rw [(hperm.map value).sum_eq]
  simpa using hvalue s hs hsplit left right hperm

/-- In a forest with one root the segments that are not split tile it. -/
theorem SegmentForest.tiles {nodes : List ν} (h : SegmentForest place isSplit nodes) {root : ν}
    (hroot : rootSegments place nodes = [root]) :
    Lib.Tiles (fun n => (place n).covers) (nodes.filter fun n => !isSplit n)
      (place root).covers := by
  intro key
  have hsum := h.sum_eq (fun n => if (place n).covers key = true then 1 else 0) (by
    intro s hs hsplit left right hperm
    obtain ⟨left', right', hperm', hbisects⟩ := h.split_bisected s hs hsplit
    have htile := hbisects.tiles key
    have hsame := (((hperm.symm.trans hperm').map
      fun n => if (place n).covers key = true then 1 else 0)).sum_eq
    simp only [Lib.multiplicity_cons, Lib.multiplicity_nil, Nat.add_zero] at htile
    simp only [List.map_cons, List.map_nil, List.sum_cons, List.sum_nil, Nat.add_zero] at hsame
    rw [hsame, htile])
  rw [Lib.sum_indicator (fun n => (place n).covers)] at hsum
  rw [hsum, hroot]
  simp

end Forest

/-! ## Split validation -/

/-- What `splitChildren` accepts: the two children, in some order, bisecting
the parent. -/
theorem splitChildren_eq_ok {ν : Type} {texts : SplitTexts} {place : ν → SegmentPlace}
    {parent : SegmentPlace} {children : List ν} {halves : ν × ν}
    (hplaced : ∀ child ∈ children, (place child).WellPlaced)
    (h : splitChildren texts place parent children = .ok halves) :
    children.Perm [halves.1, halves.2] ∧ parent.Bisects (place halves.1) (place halves.2) := by
  unfold splitChildren at h
  have hsorted := children.perm_insertionSort
    fun a b => (place a).lowerInclusive ≤ (place b).lowerInclusive
  split at h
  · rename_i left right hlr
    rw [hlr] at hsorted
    simp only [bind_unit_eq_ok, refuseIf_eq_ok, pure_eq_ok, not_or, not_not] at h
    obtain ⟨⟨hdl, hdr⟩, ⟨hlower, hsome, hcut, hupper⟩, rfl⟩ := h
    have hleft : (place left).WellPlaced := hplaced left (hsorted.mem_iff.mp (by simp))
    have hright : (place right).WellPlaced := hplaced right (hsorted.mem_iff.mp (by simp))
    refine ⟨hsorted.symm, hdl, hdr, hlower, hcut.symm, hupper, ?_, ?_⟩
    · exact (hleft.upper_int64 _ hcut.symm).2
    · exact fun upper hu => (hright.upper_int64 upper hu).2
  · simp [raiseValueError] at h

/-- Bisecting children are accepted, in key order. -/
theorem splitChildren_of_bisects {ν : Type} {texts : SplitTexts} {place : ν → SegmentPlace}
    {parent : SegmentPlace} {children : List ν} {left right : ν}
    (hperm : children.Perm [left, right]) (h : parent.Bisects (place left) (place right)) :
    splitChildren texts place parent children = .ok (left, right) := by
  have hsorted := List.pairwise_insertionSort
    (fun a b : ν => (place a).lowerInclusive ≤ (place b).lowerInclusive) children
  have hpair : children.insertionSort (fun a b => (place a).lowerInclusive ≤ (place b).lowerInclusive)
      = [left, right] := by
    have hsame := (children.perm_insertionSort
      fun a b => (place a).lowerInclusive ≤ (place b).lowerInclusive).trans hperm
    generalize children.insertionSort
      (fun a b => (place a).lowerInclusive ≤ (place b).lowerInclusive) = sorted at hsame hsorted
    obtain ⟨a, b, rfl⟩ := List.length_eq_two.mp hsame.length_eq
    have hle : (place a).lowerInclusive ≤ (place b).lowerInclusive := by simpa using hsorted
    have hmem := hsame.subset (List.mem_cons_self (a := a))
    simp only [List.mem_cons, List.not_mem_nil, or_false] at hmem
    obtain rfl | rfl := hmem
    · rw [List.perm_cons, List.perm_singleton] at hsame
      rw [hsame]
    · -- the right half does not start before the left one
      have hswap := hsame.trans (List.Perm.swap a left [])
      rw [List.perm_cons, List.perm_singleton, List.cons.injEq] at hswap
      rw [hswap.1] at hle
      have := h.lower_lt
      omega
  unfold splitChildren
  rw [hpair]
  simp only [bind_unit_eq_ok, refuseIf_eq_ok, pure_eq_ok, not_or, not_not, and_true]
  exact ⟨⟨h.left_depth, h.right_depth⟩, h.lower_eq, by simp [h.cut_eq], h.cut_eq.symm, h.upper_eq⟩

theorem requireCombined_eq_ok {text : String} {left right parent : Fingerprint} {u : Unit} :
    requireCombined text left right parent = .ok u ↔
      left.weight + right.weight = parent.weight := by
  have hsum : ([left, right].map Fingerprint.weight).sum = left.weight + right.weight := by simp
  simp only [requireCombined, bind_eq_ok, refuseIf_eq_ok, ne_eq, not_not,
    combineFingerprints_eq_ok, hsum]
  refine ⟨fun h => ?_, fun h => ⟨parent, h.symm, rfl⟩⟩
  obtain ⟨combined, hc, rfl⟩ := h
  exact hc.symm

/-- What `_validate_split_segment` accepts. -/
theorem validateSplitSegment_eq_ok {parent : IntegerRangeFingerprintPersistence}
    {children : List IntegerRangeFingerprintPersistence} {u : Unit} :
    validateSplitSegment parent children = .ok u ↔
      ∃ left right, children.Perm [left, right] ∧
        parent.toSegmentPlace.Bisects left.toSegmentPlace right.toSegmentPlace ∧
        left.referenceFingerprint.weight + right.referenceFingerprint.weight
          = parent.referenceFingerprint.weight ∧
        left.targetFingerprint.weight + right.targetFingerprint.weight
          = parent.targetFingerprint.weight := by
  simp only [validateSplitSegment, bind_eq_ok, requireCombined_eq_ok]
  constructor
  · rintro ⟨⟨left, right⟩, hsplit, -, hreference, htarget⟩
    obtain ⟨hperm, hbisects⟩ := splitChildren_eq_ok (fun child _ => child.placed) hsplit
    exact ⟨left, right, hperm, hbisects, hreference, htarget⟩
  · rintro ⟨left, right, hperm, hbisects, hreference, htarget⟩
    exact ⟨(left, right), splitChildren_of_bisects hperm hbisects, (), hreference, htarget⟩

/-! ## Completed topologies -/

/-- What `validateCompletedSegment` accepts. -/
theorem validateCompletedSegment_eq_ok {children : List IntegerRangeFingerprintPersistence}
    {segment : IntegerRangeFingerprintPersistence} {u : Unit} :
    validateCompletedSegment children segment = .ok u ↔
      (segment.state = .split → validateSplitSegment segment children = .ok ()) ∧
      (segment.state ≠ .split → children = []) ∧
      (segment.state.isMatched = true →
        segment.referenceFingerprint = segment.targetFingerprint) := by
  unfold validateCompletedSegment
  cases hs : segment.state <;> simp [ComparisonSegmentState.isMatched]

/-- What `_validate_completed_segments` demands of a row comparison and its
segments, the first of which is `root`. -/
structure CompletedTopology (comparison : CompletedComparisonDefinition)
    (segments : List IntegerRangeFingerprintPersistence)
    (root : IntegerRangeFingerprintPersistence) : Prop where
  root_first : segments.head? = some root
  sequences : segments.map (·.segmentSequence) = List.range segments.length
  observations_distinct : root.referenceObservationId ≠ root.targetObservationId
  one_pair : ∀ s ∈ segments, s.referenceObservationId = root.referenceObservationId ∧
    s.targetObservationId = root.targetObservationId
  totals : ∃ matched missing extra modified,
    comparison.totals.matched.value = some matched ∧
    comparison.totals.missing.value = some missing ∧
    comparison.totals.extra.value = some extra ∧
    comparison.totals.modified.value = some modified ∧
    matched + missing + modified = root.referenceFingerprint.count ∧
    matched + extra + modified = root.targetFingerprint.count
  parents : ∀ s ∈ segments.tail, s.parentSegmentSequence ≠ none
  segments_ok : ∀ s ∈ segments,
    validateCompletedSegment (completedChildren segments s.segmentSequence) s = .ok ()
  partitions : comparison.comparisonCoverage.totalPartitions = 1 ∧
    comparison.comparisonCoverage.coveredPartitions = 1
  resolved : comparison.comparisonCoverage.resolvedSegments = (terminalSegments segments).length
  pruned : comparison.comparisonCoverage.prunedSegments
    = (terminalSegments segments).countP fun s => decide (s.state = .fingerprintMatch)
  unresolved : comparison.comparisonCoverage.unresolvedSegments = 0
  nodes : comparison.metrics.fingerprintNodes = segments.length
  verdict : comparison.verdict = .mismatch ↔
    ∃ s ∈ terminalSegments segments, s.state = .exactMismatch

theorem availableTotalInteger_bind_eq_ok {β : Type} {total : Total} {context : String}
    {f : ℕ → Except Refusal β} {b : β} :
    (availableTotalInteger total context >>= f) = .ok b ↔
      ∃ value, total.value = some value ∧ f value = .ok b := by
  unfold availableTotalInteger
  cases total.value <;> simp [raiseValueError, bind_eq_ok]

theorem validateCompletedSegments_eq_ok {comparison : CompletedComparisonDefinition}
    {segments : List IntegerRangeFingerprintPersistence} {u : Unit} :
    validateCompletedSegments comparison segments = .ok u ↔
      ∃ root, CompletedTopology comparison segments root := by
  cases segments with
  | nil =>
    simp only [validateCompletedSegments, raiseValueError, reduceCtorEq, false_iff, not_exists]
    intro root h
    simpa using h.root_first
  | cons root rest =>
    have hcoverage := comparison.comparisonCoverage.resolved_eq
    have hreasons := comparison.comparisonCoverage.reasons_iff
    simp only [validateCompletedSegments, bind_unit_eq_ok, refuseIf_eq_ok,
      availableTotalInteger_bind_eq_ok, forM_eq_ok, not_or, not_not, ne_eq]
    refine ⟨fun h => ?_, fun h => ?_⟩
    · obtain ⟨hseq, hobs, hpair, matched, hm, missing, hmi, extra, he, modified, hmo, href, htgt,
        hparents, hsegments, ⟨htotal, hcovered, hresolved, hpruned, -, hunresolved, -⟩, hnodes,
        hverdict⟩ := h
      refine ⟨root, rfl, hseq, hobs, ?_, ⟨matched, missing, extra, modified, hm, hmi, he, hmo, href,
        htgt⟩, ?_, hsegments, ⟨htotal, hcovered⟩, hresolved, hpruned, hunresolved, hnodes, ?_⟩
      · intro s hs
        simp only [List.any_eq_true, not_exists, not_and] at hpair
        have := hpair s hs
        simpa using this
      · intro s hs hnone
        simp only [List.any_eq_true, not_exists, not_and] at hparents
        exact hparents s hs (by simp [hnone])
      · rw [← @decide_eq_true_eq (comparison.verdict = .mismatch), hverdict]
        simp
    · obtain ⟨root', h⟩ := h
      obtain ⟨hroot, hseq, hobs, hpair, ⟨matched, missing, extra, modified, hm, hmi, he, hmo, href,
        htgt⟩, hparents, hsegments, ⟨htotal, hcovered⟩, hresolved, hpruned, hunresolved, hnodes,
        hverdict⟩ := h
      obtain rfl : root = root' := by simpa using hroot
      refine ⟨hseq, hobs, ?_, matched, hm, missing, hmi, extra, he, modified, hmo, href, htgt, ?_,
        hsegments, ⟨htotal, hcovered, hresolved, hpruned, ?_, hunresolved, ?_⟩, hnodes, ?_⟩
      · simp only [List.any_eq_true, not_exists, not_and]
        intro s hs
        simpa using hpair s hs
      · simp only [List.any_eq_true, not_exists, not_and]
        intro s hs
        simpa using hparents s hs
      · rw [← hpruned, ← hresolved, hcoverage]
        omega
      · exact hreasons.mpr hunresolved
      · rw [Bool.eq_iff_iff, decide_eq_true_eq, hverdict]
        simp

/-! ### The forest of a completed topology -/

/-- The place of a persisted segment. -/
abbrev persistedPlace (s : IntegerRangeFingerprintPersistence) : SegmentPlace := s.toSegmentPlace

/-- A persisted segment is subdivided. -/
abbrev persistedSplit (s : IntegerRangeFingerprintPersistence) : Bool := !s.state.isTerminal

theorem persistedSplit_eq_true {s : IntegerRangeFingerprintPersistence} :
    persistedSplit s = true ↔ s.state = .split := by
  cases h : s.state <;> simp [persistedSplit, h, ComparisonSegmentState.isTerminal]

section Completed

variable {comparison : CompletedComparisonDefinition}
  {segments : List IntegerRangeFingerprintPersistence} {root : IntegerRangeFingerprintPersistence}

/-- The first segment carries sequence zero, so it has no parent. -/
theorem CompletedTopology.root_parent (h : CompletedTopology comparison segments root) :
    root.segmentSequence = 0 ∧ root.parentSegmentSequence = none := by
  obtain ⟨rest, rfl⟩ : ∃ rest, segments = root :: rest := by
    cases segments with
    | nil => simpa using h.root_first
    | cons first rest => exact ⟨rest, by simpa using h.root_first⟩
  have hseq : root.segmentSequence = 0 := by
    have := h.sequences
    simp only [List.map_cons, List.length_cons, List.range_succ_eq_map, List.cons.injEq] at this
    exact this.1
  refine ⟨hseq, ?_⟩
  cases hp : root.parentSegmentSequence with
  | none => rfl
  | some p =>
    have := root.placed.parent_lt p hp
    omega

/-- The validator's child index is the forest's. -/
theorem CompletedTopology.children_eq (h : CompletedTopology comparison segments root)
    (s : IntegerRangeFingerprintPersistence) :
    completedChildren segments s.segmentSequence = childSegments persistedPlace segments s := by
  have hroot := h.root_parent.2
  have hfirst := h.root_first
  cases segments with
  | nil => simp at hfirst
  | cons first rest =>
    obtain rfl : first = root := by simpa using hfirst
    simp [completedChildren, Lib.childrenOf, hroot]

/-- The validator accepts only forests. -/
theorem CompletedTopology.forest (h : CompletedTopology comparison segments root) :
    SegmentForest persistedPlace persistedSplit segments := by
  have hnodup : (segments.map (·.segmentSequence)).Nodup := h.sequences ▸ List.nodup_range
  refine ⟨hnodup, ?_, ?_⟩
  · intro n hn p hp
    -- a parent precedes its child, so its sequence is one of `0 .. n - 1`
    have hlt : p < segments.length := by
      have hmem : n.segmentSequence ∈ segments.map (·.segmentSequence) := List.mem_map_of_mem hn
      rw [h.sequences, List.mem_range] at hmem
      have := n.placed.parent_lt p hp
      omega
    have hmem : p ∈ segments.map (·.segmentSequence) := by
      rw [h.sequences]
      exact List.mem_range.mpr hlt
    obtain ⟨s, hs, rfl⟩ := List.mem_map.mp hmem
    refine ⟨s, hs, rfl, ?_⟩
    rw [persistedSplit_eq_true]
    by_contra hstate
    have hnone := (validateCompletedSegment_eq_ok.mp (h.segments_ok s hs)).2.1 hstate
    rw [h.children_eq s] at hnone
    have : n ∈ childSegments persistedPlace segments s :=
      List.mem_filter.mpr ⟨hn, by simpa using hp⟩
    simp [hnone] at this
  · intro s hs hsplit
    have hok := (validateCompletedSegment_eq_ok.mp (h.segments_ok s hs)).1
      (persistedSplit_eq_true.mp hsplit)
    obtain ⟨left, right, hperm, hbisects, -⟩ := validateSplitSegment_eq_ok.mp hok
    rw [h.children_eq s] at hperm
    exact ⟨left, right, hperm, hbisects⟩

/-- The first segment is the only one without a parent. -/
theorem CompletedTopology.roots (h : CompletedTopology comparison segments root) :
    rootSegments persistedPlace segments = [root] := by
  have hroot := h.root_parent.2
  have hparents := h.parents
  have hfirst := h.root_first
  cases segments with
  | nil => simp at hfirst
  | cons first rest =>
    obtain rfl : first = root := by simpa using hfirst
    have hrest : rest.filter (fun s => s.parentSegmentSequence.isNone) = [] := by
      rw [List.filter_eq_nil_iff]
      intro s hs
      simpa using hparents s hs
    simp [rootSegments, hroot, hrest]

theorem terminalSegments_eq (segments : List IntegerRangeFingerprintPersistence) :
    segments.filter (fun s => !persistedSplit s) = terminalSegments segments := by
  simp [persistedSplit, terminalSegments]

/-- A fingerprint that the validator checks at every split adds up to the
root's over the terminal segments. -/
theorem CompletedTopology.weights (h : CompletedTopology comparison segments root)
    (side : IntegerRangeFingerprintPersistence → Fingerprint)
    (hside : ∀ s ∈ segments, s.state = .split → ∀ left right,
      (completedChildren segments s.segmentSequence).Perm [left, right] →
      (side left).weight + (side right).weight = (side s).weight) :
    combineFingerprints ((terminalSegments segments).map side) = .ok (side root) := by
  rw [combineFingerprints_eq_ok, List.map_map]
  have hsum := h.forest.sum_eq (fun s => (side s).weight) (by
    intro s hs hsplit left right hperm
    rw [← h.children_eq s] at hperm
    exact hside s hs (persistedSplit_eq_true.mp hsplit) left right hperm)
  rw [terminalSegments_eq, h.roots] at hsum
  simpa [Function.comp_def] using hsum.symm

end Completed

/-- Two children found in some order carry the sum of the two. -/
theorem add_eq_of_perm_pair {ν M : Type} [AddCommMonoid M] {children : List ν}
    {a b left right : ν} (hab : children.Perm [a, b]) (hlr : children.Perm [left, right])
    (value : ν → M) : value a + value b = value left + value right := by
  simpa using ((hab.symm.trans hlr).map value).sum_eq

/-- The global shape of a completed topology: below its root every segment
hangs under a split one, the terminal segments partition the root's key range,
and the root's fingerprints are theirs combined. -/
structure CompletedTopologySound (comparison : CompletedComparisonDefinition)
    (segments : List IntegerRangeFingerprintPersistence)
    (root : IntegerRangeFingerprintPersistence) : Prop where
  root_first : segments.head? = some root
  root_parent : root.parentSegmentSequence = none
  below_split : ∀ s ∈ segments.tail, ∃ parent ∈ segments,
    s.parentSegmentSequence = some parent.segmentSequence ∧ parent.state = .split
  partition : PartitionsRange root.toSegmentPlace
    ((terminalSegments segments).map (·.toSegmentPlace))
  reference_sum : combineFingerprints ((terminalSegments segments).map (·.referenceFingerprint))
    = .ok root.referenceFingerprint
  target_sum : combineFingerprints ((terminalSegments segments).map (·.targetFingerprint))
    = .ok root.targetFingerprint
  match_equal : comparison.verdict = .match → root.referenceFingerprint = root.targetFingerprint

section Completed

variable {comparison : CompletedComparisonDefinition}
  {segments : List IntegerRangeFingerprintPersistence} {root : IntegerRangeFingerprintPersistence}

theorem CompletedTopology.tail_parent (h : CompletedTopology comparison segments root)
    {s : IntegerRangeFingerprintPersistence} (hs : s ∈ segments.tail) :
    ∃ parent ∈ segments,
      s.parentSegmentSequence = some parent.segmentSequence ∧ parent.state = .split := by
  obtain ⟨p, hp⟩ := Option.ne_none_iff_exists'.mp (h.parents s hs)
  obtain ⟨parent, hmem, rfl, hparent⟩ := h.forest.parent_split s (List.mem_of_mem_tail hs) p hp
  exact ⟨parent, hmem, hp, persistedSplit_eq_true.mp hparent⟩

/-- The two fingerprints of a split segment's children combine to its own. -/
theorem CompletedTopology.split_weights (h : CompletedTopology comparison segments root)
    {s : IntegerRangeFingerprintPersistence} (hs : s ∈ segments) (hstate : s.state = .split)
    {left right : IntegerRangeFingerprintPersistence}
    (hperm : (completedChildren segments s.segmentSequence).Perm [left, right]) :
    left.referenceFingerprint.weight + right.referenceFingerprint.weight
        = s.referenceFingerprint.weight ∧
      left.targetFingerprint.weight + right.targetFingerprint.weight
        = s.targetFingerprint.weight := by
  have hok := (validateCompletedSegment_eq_ok.mp (h.segments_ok s hs)).1 hstate
  obtain ⟨a, b, hab, -, hreference, htarget⟩ := validateSplitSegment_eq_ok.mp hok
  rw [← hreference, ← htarget]
  exact ⟨add_eq_of_perm_pair hperm hab fun n => n.referenceFingerprint.weight,
    add_eq_of_perm_pair hperm hab fun n => n.targetFingerprint.weight⟩

/-- Without an exact mismatch every terminal segment has equal fingerprints. -/
theorem CompletedTopology.terminal_equal (h : CompletedTopology comparison segments root)
    (hmatch : comparison.verdict = .match) :
    (terminalSegments segments).map (·.referenceFingerprint)
      = (terminalSegments segments).map (·.targetFingerprint) := by
  have hnone : ¬ ∃ s ∈ terminalSegments segments, s.state = .exactMismatch := by
    rw [← h.verdict, hmatch]
    simp
  refine List.map_congr_left fun s hs => ?_
  obtain ⟨hmem, hterminal⟩ := List.mem_filter.mp hs
  refine (validateCompletedSegment_eq_ok.mp (h.segments_ok s hmem)).2.2 ?_
  cases hstate : s.state with
  | split => simp [hstate, ComparisonSegmentState.isTerminal] at hterminal
  | exactMismatch => exact absurd ⟨s, hs, hstate⟩ hnone
  | fingerprintMatch => rfl
  | exactMatch => rfl

end Completed

/-- Whatever tree the completed validator accepts has the global shape. -/
theorem completed_topology_sound {comparison : CompletedComparisonDefinition}
    {segments : List IntegerRangeFingerprintPersistence}
    (h : validateCompletedSegments comparison segments = .ok ()) :
    ∃ root, CompletedTopologySound comparison segments root := by
  obtain ⟨root, h⟩ := validateCompletedSegments_eq_ok.mp h
  have htiles := h.forest.tiles h.roots
  rw [terminalSegments_eq] at htiles
  have hreference := h.weights (·.referenceFingerprint) fun s hs hstate left right hperm =>
    (h.split_weights hs hstate hperm).1
  have htarget := h.weights (·.targetFingerprint) fun s hs hstate left right hperm =>
    (h.split_weights hs hstate hperm).2
  refine ⟨root, h.root_first, h.root_parent.2, fun s hs => h.tail_parent hs, ?_, hreference,
    htarget, ?_⟩
  · exact partitionsRange_iff_tiles.mpr (Lib.tiles_map_iff.mpr htiles)
  · intro hmatch
    rw [h.terminal_equal hmatch, htarget, Except.ok.injEq] at hreference
    exact hreference.symm

/-! ## Partial frontiers -/

/-- The nodes of a frontier that no other node replaces: the recorded segments
that are not split, and the unresolved ones. -/
def leafNodes (frontier : PartialComparisonFrontier) : List FrontierNode :=
  (frontierNodes frontier).filter fun node => !node.isSplit

/-- What `_validate_partial_frontier_tree` demands of a frontier whose node in
sequence zero is `root`. -/
structure PartialTopology (frontier : PartialComparisonFrontier) (root : FrontierNode) : Prop where
  root_first : (orderedNodes frontier).head? = some root
  sequences : (orderedNodes frontier).map (·.place.segmentSequence)
    = List.range (orderedNodes frontier).length
  root_parent : root.place.parentSegmentSequence = none
  known_parents : ∀ node ∈ (orderedNodes frontier).tail, ∃ parent ∈ orderedNodes frontier,
    node.place.parentSegmentSequence = some parent.place.segmentSequence
  split_ok : ∀ segment ∈ frontier.topology, segment.state = .split →
    validatePartialSplitSegment segment (partialChildren frontier segment.segmentSequence) = .ok ()
  terminal_ok : ∀ segment ∈ frontier.topology, segment.state ≠ .split →
    partialChildren frontier segment.segmentSequence = []
  unresolved_ok : ∀ segment ∈ frontier.unresolved,
    partialChildren frontier segment.segmentSequence = []

theorem validatePartialTopologySegment_eq_ok {children : List FrontierNode}
    {segment : ComparisonSegmentRecord} {u : Unit}
    (h : validatePartialTopologySegment children segment = .ok u) :
    (segment.state = .split → validatePartialSplitSegment segment children = .ok ()) ∧
      (segment.state ≠ .split → children = []) := by
  unfold validatePartialTopologySegment at h
  by_cases hs : segment.state = .split <;> simp_all

theorem validatePartialFrontierTree_topology {frontier : PartialComparisonFrontier} {u : Unit}
    (h : validatePartialFrontierTree frontier = .ok u) :
    ∃ root, PartialTopology frontier root := by
  unfold validatePartialFrontierTree at h
  cases hnodes : orderedNodes frontier with
  | nil => simp [hnodes] at h
  | cons root rest =>
    simp only [hnodes, bind_unit_eq_ok, refuseIf_eq_ok, forM_eq_ok, not_or, not_not, ne_eq] at h
    obtain ⟨hseq, ⟨hparent, -⟩, hknown, htopology, hunresolved⟩ := h
    refine ⟨root, by simp [hnodes], by rw [hnodes]; exact hseq, hparent, ?_, ?_, ?_, ?_⟩
    · intro node hnode
      rw [hnodes] at hnode ⊢
      simp only [List.any_eq_true, not_exists, not_and] at hknown
      have := hknown node hnode
      simp only [Bool.not_eq_true', Bool.not_eq_false] at this
      cases hp : node.place.parentSegmentSequence with
      | none => simp [hp] at this
      | some p =>
        rw [hp, Option.any_some, List.contains_iff_mem] at this
        obtain ⟨parent, hparent, rfl⟩ := List.mem_map.mp this
        exact ⟨parent, hparent, rfl⟩
    · exact fun segment hs => (validatePartialTopologySegment_eq_ok (htopology segment hs)).1
    · exact fun segment hs => (validatePartialTopologySegment_eq_ok (htopology segment hs)).2
    · intro segment hs
      have := hunresolved segment hs
      simp only [validatePartialUnresolvedSegment, bind_unit_eq_ok, refuseIf_eq_ok, ne_eq,
        not_not] at this
      exact this.1

theorem orderedNodes_perm (frontier : PartialComparisonFrontier) :
    (orderedNodes frontier).Perm (frontierNodes frontier) :=
  List.perm_insertionSort _ _

theorem mem_orderedNodes {frontier : PartialComparisonFrontier} {node : FrontierNode}
    (h : node ∈ orderedNodes frontier) :
    (∃ segment ∈ frontier.topology, node = .recorded segment) ∨
      ∃ segment ∈ frontier.unresolved, node = .unresolved segment := by
  have hmem := (orderedNodes_perm frontier).mem_iff.mp h
  simpa [frontierNodes, eq_comm] using hmem

section Partial

variable {frontier : PartialComparisonFrontier} {root : FrontierNode}

theorem FrontierNode.wellPlaced (node : FrontierNode) : node.place.WellPlaced := by
  cases node with
  | recorded segment => exact segment.placed
  | unresolved segment => exact segment.placed

/-- The validator's child index is the forest's. -/
theorem PartialTopology.children_eq (h : PartialTopology frontier root) (node : FrontierNode) :
    partialChildren frontier node.place.segmentSequence
      = childSegments FrontierNode.place (orderedNodes frontier) node := by
  have hroot := h.root_parent
  have hfirst := h.root_first
  unfold partialChildren
  cases hnodes : orderedNodes frontier with
  | nil => simp [hnodes] at hfirst
  | cons first rest =>
    obtain rfl : first = root := by simpa [hnodes] using hfirst
    simp [Lib.childrenOf, hroot]

/-- A node with children is a split segment. -/
theorem PartialTopology.split_of_child (h : PartialTopology frontier root) {parent node : FrontierNode}
    (hparent : parent ∈ orderedNodes frontier)
    (hnode : node ∈ childSegments FrontierNode.place (orderedNodes frontier) parent) :
    parent.isSplit = true := by
  rw [← h.children_eq parent] at hnode
  rcases mem_orderedNodes hparent with ⟨segment, hs, rfl⟩ | ⟨segment, hs, rfl⟩
  · by_contra hsplit
    have hterminal : segment.state ≠ .split := by simpa [FrontierNode.isSplit] using hsplit
    have : partialChildren frontier segment.segmentSequence = [] := h.terminal_ok segment hs hterminal
    simp [FrontierNode.place, this] at hnode
  · have : partialChildren frontier segment.segmentSequence = [] := h.unresolved_ok segment hs
    simp [FrontierNode.place, this] at hnode

/-- The validator accepts only forests. -/
theorem PartialTopology.forest (h : PartialTopology frontier root) :
    SegmentForest FrontierNode.place FrontierNode.isSplit (orderedNodes frontier) := by
  refine ⟨h.sequences ▸ List.nodup_range, ?_, ?_⟩
  · intro node hnode p hp
    obtain ⟨parent, hmem, hparent⟩ : ∃ parent ∈ orderedNodes frontier,
        node.place.parentSegmentSequence = some parent.place.segmentSequence := by
      have hfirst := h.root_first
      cases hnodes : orderedNodes frontier with
      | nil => simp [hnodes] at hfirst
      | cons first rest =>
        obtain rfl : first = root := by simpa [hnodes] using hfirst
        rcases List.mem_cons.mp (hnodes ▸ hnode) with rfl | hrest
        · simp [h.root_parent] at hp
        · exact hnodes ▸ h.known_parents node (by rw [hnodes]; exact hrest)
    obtain rfl : parent.place.segmentSequence = p := by simpa [hparent] using hp
    have hchild : node ∈ childSegments FrontierNode.place (orderedNodes frontier) parent :=
      List.mem_filter.mpr ⟨hnode, by simpa using hparent⟩
    exact ⟨parent, hmem, rfl, h.split_of_child hmem hchild⟩
  · intro node hnode hsplit
    rcases mem_orderedNodes hnode with ⟨segment, hs, rfl⟩ | ⟨segment, hs, rfl⟩
    · have hstate : segment.state = .split := by simpa [FrontierNode.isSplit] using hsplit
      have hok := h.split_ok segment hs hstate
      rw [show segment.segmentSequence = (FrontierNode.recorded segment).place.segmentSequence
        from rfl, h.children_eq] at hok
      unfold validatePartialSplitSegment at hok
      rw [bind_eq_ok] at hok
      obtain ⟨⟨left, right⟩, hchildren, -⟩ := hok
      obtain ⟨hperm, hbisects⟩ := splitChildren_eq_ok (fun child _ => child.wellPlaced) hchildren
      exact ⟨left, right, hperm, hbisects⟩
    · simp [FrontierNode.isSplit] at hsplit

theorem PartialTopology.roots (h : PartialTopology frontier root) :
    rootSegments FrontierNode.place (orderedNodes frontier) = [root] := by
  have hroot := h.root_parent
  have hparents := h.known_parents
  have hfirst := h.root_first
  cases hnodes : orderedNodes frontier with
  | nil => simp [hnodes] at hfirst
  | cons first rest =>
    obtain rfl : first = root := by simpa [hnodes] using hfirst
    have hrest : rest.filter (fun node => node.place.parentSegmentSequence.isNone) = [] := by
      rw [List.filter_eq_nil_iff]
      intro node hnode
      obtain ⟨parent, -, hp⟩ := hparents node (by rw [hnodes]; exact hnode)
      simp [hp]
    simp [rootSegments, hroot, hrest]

end Partial

/-- The global shape of a partial frontier: below its root every node hangs
under a recorded split segment, and the recorded segments that are not split
together with the unresolved ones partition the root's key range. -/
structure PartialFrontierSound (frontier : PartialComparisonFrontier) (root : FrontierNode) :
    Prop where
  root_mem : root ∈ frontierNodes frontier
  root_parent : root.place.parentSegmentSequence = none
  below_split : ∀ node ∈ frontierNodes frontier,
    node.place.segmentSequence ≠ root.place.segmentSequence →
    ∃ parent ∈ frontier.topology, parent.state = .split ∧
      node.place.parentSegmentSequence = some parent.segmentSequence
  partition : PartitionsRange root.place ((leafNodes frontier).map (·.place))

/-- A node of an accepted frontier is its root or hangs below a split one. -/
theorem PartialTopology.below_split {frontier : PartialComparisonFrontier} {root node : FrontierNode}
    (h : PartialTopology frontier root) (hnode : node ∈ orderedNodes frontier)
    (hne : node.place.segmentSequence ≠ root.place.segmentSequence) :
    ∃ parent ∈ frontier.topology, parent.state = .split ∧
      node.place.parentSegmentSequence = some parent.segmentSequence := by
  cases hp : node.place.parentSegmentSequence with
  | none =>
    have hmem : node ∈ rootSegments FrontierNode.place (orderedNodes frontier) :=
      List.mem_filter.mpr ⟨hnode, by simp [hp]⟩
    rw [h.roots, List.mem_singleton] at hmem
    exact absurd (hmem ▸ rfl) hne
  | some p =>
    obtain ⟨parent, hmem, rfl, hsplit⟩ := h.forest.parent_split node hnode p hp
    rcases mem_orderedNodes hmem with ⟨segment, hs, rfl⟩ | ⟨segment, hs, rfl⟩
    · exact ⟨segment, hs, by simpa [FrontierNode.isSplit] using hsplit, rfl⟩
    · simp [FrontierNode.isSplit] at hsplit

/-- Whatever frontier the partial validator accepts has the global shape. -/
theorem partial_frontier_sound {frontier : PartialComparisonFrontier}
    (h : validatePartialFrontierTree frontier = .ok ()) :
    ∃ root, PartialFrontierSound frontier root := by
  obtain ⟨root, h⟩ := validatePartialFrontierTree_topology h
  have htiles := (h.forest.tiles h.roots).perm ((orderedNodes_perm frontier).filter _)
  have hroot : root ∈ orderedNodes frontier := List.mem_of_mem_head? h.root_first
  refine ⟨root, (orderedNodes_perm frontier).mem_iff.mp hroot, h.root_parent, ?_, ?_⟩
  · intro node hnode hne
    exact h.below_split ((orderedNodes_perm frontier).mem_iff.mpr hnode) hne
  · exact partitionsRange_iff_tiles.mpr (Lib.tiles_map_iff.mpr htiles)

/-- **Soundness of the published topologies.** The local checks of both
validators force the global shape, for any tree of any depth. -/
theorem published_topologies_sound :
    (∀ comparison segments, validateCompletedSegments comparison segments = .ok () →
      ∃ root, CompletedTopologySound comparison segments root) ∧
    ∀ frontier, validatePartialFrontierTree frontier = .ok () →
      ∃ root, PartialFrontierSound frontier root :=
  ⟨fun _ _ h => completed_topology_sound h, fun _ h => partial_frontier_sound h⟩

/-! ### A bisected range with one differing row

The root range `[0, 10)` is split at 5; its left half matches by fingerprint
and its right half holds a row that only the reference has. -/

/-- A fingerprint of `n` rows whose limbs are all one. -/
def sampleFingerprint (n : Fin 4) : Fingerprint where
  count := n
  limbSums := fun _ => n
  count_le := by unfold int64Max; omega
  limb_le := fun _ => by unfold decimal38Max; omega
  limb_le_count := fun _ => by unfold uint32Max; omega

def samplePlace (sequence depth : ℕ) (parent : Option ℕ) (lower upper : Int) : SegmentPlace where
  segmentSequence := sequence
  parentSegmentSequence := parent
  depth := depth
  lowerInclusive := lower
  upperExclusive := some upper

def sampleSegments : List IntegerRangeFingerprintPersistence :=
  let observed (place : SegmentPlace) (state : ComparisonSegmentState) (reference target : Fin 4) :=
    IntegerRangeFingerprintPersistence.make place state 1 (sampleFingerprint reference) 2
      (sampleFingerprint target)
  [observed (samplePlace 0 0 none 0 10) .split 2 1,
    observed (samplePlace 1 1 (some 0) 0 5) .fingerprintMatch 1 1,
    observed (samplePlace 2 1 (some 0) 5 10) .exactMismatch 1 0].filterMap Except.toOption

def sampleComparison : CompletedComparisonDefinition where
  checkId := sampleInputs.checkId
  contractDigest := sampleInputs.contractDigest
  scopeDigest := sampleInputs.scopeDigest
  verdict := .mismatch
  consistency :=
    { stableReads := .verified, cutAlignment := .verified, readContextIds := [7, 8],
      contexts_nodup := by decide }
  guarantee := .fingerprint
  comparisonCoverage := ComparisonCoverage.complete 1 1 (by decide)
  totals :=
    { matched := .inferred 1, missing := .inferred 1, extra := .inferred 0,
      modified := .inferred 0 }
  evidenceCoverage :=
    { foundRecords := 1, retainedRecords := 0, foundBytes := 9, retainedBytes := 0,
      records_le := by decide, bytes_le := Nat.le_add_left 0 9 }
  metrics :=
    { queries := 8, fetchedRecords := 9, resultBytes := 100, fingerprintNodes := 3,
      coordinatorPeakBytes := 100, elapsedMilliseconds := 1 }
  reasons := []
  verdict_known := by decide
  guarantee_established := Or.inr rfl

/-- The same tree interrupted before the right half was read. -/
def sampleFrontier : PartialComparisonFrontier where
  topology :=
    [ComparisonSegmentRecord.make (samplePlace 0 0 none 0 10) .split
        (sampleFingerprint 2) (sampleFingerprint 1),
      ComparisonSegmentRecord.make (samplePlace 1 1 (some 0) 0 5) .fingerprintMatch
        (sampleFingerprint 1) (sampleFingerprint 1)].filterMap Except.toOption
  unresolved :=
    [UnresolvedComparisonSegment.make (samplePlace 2 1 (some 0) 5 10) .budgetExhausted
      none none].filterMap Except.toOption
  topology_sorted := by decide
  unresolved_sorted := by decide
  disjoint := by decide

theorem published_topologies_sound_sample :
    (∃ root, CompletedTopologySound sampleComparison sampleSegments root) ∧
      ∃ root, PartialFrontierSound sampleFrontier root :=
  ⟨published_topologies_sound.1 sampleComparison sampleSegments (by decide),
    published_topologies_sound.2 sampleFrontier (by decide)⟩

end ForensicData.Persistence
