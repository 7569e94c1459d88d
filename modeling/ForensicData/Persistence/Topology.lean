/-
ForensicData.Persistence.Topology — the publisher's checks on a segment
topology.

Two validators accept a flat list of segments: `validateCompletedSegments`
before a completed comparison is published and `validatePartialFrontierTree`
before a partial one is. Both look only at a segment and the segments naming
it as parent. `Persistence.TopologyTheorems` shows what that amounts to for
the whole list.

A dictionary of the source that is keyed by segment sequence is, here, a
search through the list: both validators have checked by then that the
sequences are `0 .. n - 1`.
-/
import Mathlib.Data.List.Sort
import ForensicData.Comparison.Segment
import ForensicData.Text

namespace ForensicData.Persistence

open ForensicData.Canonical
open ForensicData.Comparison
open ForensicData.Result

/-! ## Persisted rows -/

/-- `2^31 - 1`, the bound of `_require_nonnegative_int32`. -/
def int32Max : ℕ := 2 ^ 31 - 1

def persistedSegmentTexts : PlaceTexts where
  parentPrecedes := "parent segment sequence must precede its child"
  rootOnly := "only a depth-zero segment can have no parent"
  lowerBound := "segment lower bound must be an exact signed int64 integer"
  upperBound := "segment upper bound must be an exact signed int64 integer"
  upperExceeds := "bounded segment upper bound must exceed its lower bound"

/-- One persisted segment: a place with the fingerprints of both sides and the
observations they were read in. -/
structure IntegerRangeFingerprintPersistence extends SegmentPlace where
  state : ComparisonSegmentState
  referenceObservationId : Uuid
  referenceFingerprint : Fingerprint
  targetObservationId : Uuid
  targetFingerprint : Fingerprint
  placed : toSegmentPlace.WellPlaced
  sequence_int64 : segmentSequence ≤ int64Max
  depth_int32 : depth ≤ int32Max

instance : DecidableEq IntegerRangeFingerprintPersistence := fun a b =>
  decidable_of_iff (a.toSegmentPlace = b.toSegmentPlace ∧ a.state = b.state ∧
      a.referenceObservationId = b.referenceObservationId ∧
      a.referenceFingerprint = b.referenceFingerprint ∧
      a.targetObservationId = b.targetObservationId ∧
      a.targetFingerprint = b.targetFingerprint)
    (by cases a; cases b; simp)

/-- `IntegerRangeFingerprintPersistence(...)`. -/
def IntegerRangeFingerprintPersistence.make (place : SegmentPlace) (state : ComparisonSegmentState)
    (referenceObservationId : Uuid) (referenceFingerprint : Fingerprint)
    (targetObservationId : Uuid) (targetFingerprint : Fingerprint) :
    Except Refusal IntegerRangeFingerprintPersistence :=
  if sequence_int64 : place.segmentSequence ≤ int64Max then
    if place.parentSegmentSequence.any (· > int64Max) = true then
      raiseValueError "parent segment sequence must be an exact signed int64 integer"
    else if place.parentSegmentSequence.any (· ≥ place.segmentSequence) = true then
      raiseValueError persistedSegmentTexts.parentPrecedes
    else if depth_int32 : place.depth ≤ int32Max then
      match hplace : place.check persistedSegmentTexts with
      | .error refusal => .error refusal
      | .ok _ =>
        .ok { place with state, referenceObservationId, referenceFingerprint, targetObservationId,
                         targetFingerprint, placed := SegmentPlace.check_eq_ok.mp hplace,
                         sequence_int64, depth_int32 }
    else raiseValueError "segment depth must be a non-negative exact signed int32 integer"
  else raiseValueError "segment sequence must be an exact signed int64 integer"

/-- `CompletedComparisonDefinition`: the result row of a completed row
comparison. -/
structure CompletedComparisonDefinition where
  checkId : NonblankText
  contractDigest : Sha256Hex
  scopeDigest : Sha256Hex
  verdict : Verdict
  consistency : ConsistencyStatus
  guarantee : Guarantee
  comparisonCoverage : ComparisonCoverage
  totals : ComparisonTotals
  evidenceCoverage : EvidenceCoverage
  metrics : ResultMetrics
  reasons : List ResultReason
  verdict_known : verdict ≠ .inconclusive
  guarantee_established : guarantee = .exact ∨ guarantee = .fingerprint

/-! ## Splitting -/

/-- The texts of one of the two split validators. -/
structure SplitTexts where
  twoChildren : String
  depthByOne : String
  coverParent : String
  referenceCombine : String
  targetCombine : String

/-- The two children of a split segment in key order, after the checks that
they are one level deeper and cover their parent. -/
def splitChildren {ν : Type} (texts : SplitTexts) (place : ν → SegmentPlace)
    (parent : SegmentPlace) (children : List ν) : Except Refusal (ν × ν) := do
  match children.insertionSort fun a b => (place a).lowerInclusive ≤ (place b).lowerInclusive with
  | [left, right] => do
    refuseIf ((place left).depth ≠ parent.depth + 1 ∨ (place right).depth ≠ parent.depth + 1)
      { error := .valueError, message := texts.depthByOne }
    refuseIf ((place left).lowerInclusive ≠ parent.lowerInclusive ∨
        (place left).upperExclusive = none ∨
        some (place right).lowerInclusive ≠ (place left).upperExclusive ∨
        (place right).upperExclusive ≠ parent.upperExclusive)
      { error := .valueError, message := texts.coverParent }
    return (left, right)
  | _ => raiseValueError texts.twoChildren

/-- `if combine_fingerprints((left, right)) != parent: raise ValueError(text)`. -/
def requireCombined (text : String) (left right parent : Fingerprint) : Except Refusal Unit := do
  let combined ← combineFingerprints [left, right]
  refuseIf (combined ≠ parent) { error := .valueError, message := text }

/-! ## Completed comparisons -/

def completedSplitTexts : SplitTexts where
  twoChildren := "split completed comparison segment must have exactly two children"
  depthByOne := "split completed comparison children must advance depth by one"
  coverParent := "split completed comparison children must exactly cover their parent"
  referenceCombine := "reference child fingerprints must combine to their split parent"
  targetCombine := "target child fingerprints must combine to their split parent"

/-- `_validate_split_segment`. -/
def validateSplitSegment (parent : IntegerRangeFingerprintPersistence)
    (children : List IntegerRangeFingerprintPersistence) : Except Refusal Unit := do
  let (left, right) ← splitChildren completedSplitTexts
    (·.toSegmentPlace) parent.toSegmentPlace children
  requireCombined completedSplitTexts.referenceCombine
    left.referenceFingerprint right.referenceFingerprint parent.referenceFingerprint
  requireCombined completedSplitTexts.targetCombine
    left.targetFingerprint right.targetFingerprint parent.targetFingerprint

/-- `_available_total_integer`. -/
def availableTotalInteger (total : Total) (context : String) : Except Refusal ℕ :=
  match total.value with
  | some value => .ok value
  | none => raiseValueError s!"{context} must be available for a completed row comparison"

/-- The body of the loop over all segments. -/
def validateCompletedSegment (children : List IntegerRangeFingerprintPersistence)
    (segment : IntegerRangeFingerprintPersistence) : Except Refusal Unit := do
  match segment.state with
  | .split => validateSplitSegment segment children
  | .fingerprintMatch | .exactMatch | .exactMismatch =>
    refuseIf (children ≠ [])
      { error := .valueError, message := "terminal completed comparison segment cannot have children" }
  refuseIf (segment.state = .fingerprintMatch ∧
      segment.referenceFingerprint ≠ segment.targetFingerprint)
    { error := .valueError, message := "fingerprint-match segment requires equal side fingerprints" }
  refuseIf (segment.state = .exactMatch ∧ segment.referenceFingerprint ≠ segment.targetFingerprint)
    { error := .valueError, message := "exact-match segment requires equal side fingerprints" }

/-- `children_by_parent[parent]` for the segments after the first. -/
def completedChildren (segments : List IntegerRangeFingerprintPersistence) (parent : ℕ) :
    List IntegerRangeFingerprintPersistence :=
  segments.tail.filter fun segment => decide (segment.parentSegmentSequence = some parent)

def terminalSegments (segments : List IntegerRangeFingerprintPersistence) :
    List IntegerRangeFingerprintPersistence :=
  segments.filter fun segment => segment.state.isTerminal

/-- `_validate_completed_segments` for a row comparison. -/
def validateCompletedSegments (comparison : CompletedComparisonDefinition)
    (segments : List IntegerRangeFingerprintPersistence) : Except Refusal Unit := do
  match segments with
  | [] =>
    raiseValueError "completed comparison requires a nonempty immutable segment topology"
  | root :: rest => do
    refuseIf (segments.map (·.segmentSequence) ≠ List.range segments.length)
      { error := .valueError
        message := "completed comparison segment sequences must be contiguous from zero in order" }
    refuseIf (root.referenceObservationId = root.targetObservationId)
      { error := .valueError, message := "completed comparison observations must be distinct" }
    refuseIf (segments.any (fun segment =>
          decide (segment.referenceObservationId ≠ root.referenceObservationId) ||
            decide (segment.targetObservationId ≠ root.targetObservationId)) = true)
      { error := .valueError
        message := "all completed comparison segments must use one observation pair" }
    let matched ← availableTotalInteger comparison.totals.matched
      "completed comparison matched total"
    let missing ← availableTotalInteger comparison.totals.missing
      "completed comparison missing total"
    let extra ← availableTotalInteger comparison.totals.extra "completed comparison extra total"
    let modified ← availableTotalInteger comparison.totals.modified
      "completed comparison modified total"
    refuseIf (matched + missing + modified ≠ root.referenceFingerprint.count)
      { error := .valueError
        message := "completed comparison totals do not close to the reference root row count" }
    refuseIf (matched + extra + modified ≠ root.targetFingerprint.count)
      { error := .valueError
        message := "completed comparison totals do not close to the target root row count" }
    refuseIf (rest.any (·.parentSegmentSequence.isNone) = true)
      { error := .valueError
        message := "non-root completed comparison segment must have a parent" }
    segments.forM fun segment =>
      validateCompletedSegment (completedChildren segments segment.segmentSequence) segment
    let terminal := terminalSegments segments
    let pruned := terminal.countP fun segment => decide (segment.state = .fingerprintMatch)
    let coverage := comparison.comparisonCoverage
    refuseIf (coverage.totalPartitions ≠ 1 ∨ coverage.coveredPartitions ≠ 1 ∨
        coverage.resolvedSegments ≠ terminal.length ∨ coverage.prunedSegments ≠ pruned ∨
        coverage.exactSegments ≠ terminal.length - pruned ∨ coverage.unresolvedSegments ≠ 0 ∨
        coverage.unresolvedReasons ≠ [])
      { error := .valueError
        message := "completed comparison coverage must exactly describe its terminal range frontier" }
    refuseIf (comparison.metrics.fingerprintNodes ≠ segments.length)
      { error := .valueError
        message := "completed comparison fingerprint_nodes must equal the persisted logical nodes" }
    refuseIf (decide (comparison.verdict = .mismatch) ≠
        terminal.any fun segment => decide (segment.state = .exactMismatch))
      { error := .valueError
        message := "completed comparison verdict must match the exact-mismatch terminal frontier" }

/-! ## Partial frontiers -/

/-- A node of a partial frontier: recorded or still open. -/
inductive FrontierNode where
  | recorded (segment : ComparisonSegmentRecord)
  | unresolved (segment : UnresolvedComparisonSegment)
  deriving DecidableEq

def FrontierNode.place : FrontierNode → SegmentPlace
  | .recorded segment => segment.toSegmentPlace
  | .unresolved segment => segment.toSegmentPlace

/-- A recorded split segment. -/
def FrontierNode.isSplit : FrontierNode → Bool
  | .recorded segment => decide (segment.state = .split)
  | .unresolved _ => false

/-- `_partial_frontier_fingerprints`. -/
def FrontierNode.fingerprints : FrontierNode → Option (Fingerprint × Fingerprint)
  | .recorded segment => some (segment.referenceFingerprint, segment.targetFingerprint)
  | .unresolved segment =>
    match segment.referenceFingerprint, segment.targetFingerprint with
    | some reference, some target => some (reference, target)
    | _, _ => none

/-- `(*frontier.topology, *frontier.unresolved)`. -/
def frontierNodes (frontier : PartialComparisonFrontier) : List FrontierNode :=
  frontier.topology.map .recorded ++ frontier.unresolved.map .unresolved

/-- The nodes in ascending sequence. -/
def orderedNodes (frontier : PartialComparisonFrontier) : List FrontierNode :=
  (frontierNodes frontier).insertionSort fun a b => a.place.segmentSequence ≤ b.place.segmentSequence

def partialSplitTexts : SplitTexts where
  twoChildren := "split partial topology segment must have exactly two children"
  depthByOne := "split partial topology children must advance depth by one"
  coverParent := "split partial topology children must exactly cover their parent"
  referenceCombine := "known reference child fingerprints must combine to their split parent"
  targetCombine := "known target child fingerprints must combine to their split parent"

/-- `_validate_partial_split_segment`. -/
def validatePartialSplitSegment (parent : ComparisonSegmentRecord) (children : List FrontierNode) :
    Except Refusal Unit := do
  let (left, right) ← splitChildren partialSplitTexts FrontierNode.place parent.toSegmentPlace children
  match left.fingerprints, right.fingerprints with
  | some (leftReference, leftTarget), some (rightReference, rightTarget) => do
    requireCombined partialSplitTexts.referenceCombine
      leftReference rightReference parent.referenceFingerprint
    requireCombined partialSplitTexts.targetCombine leftTarget rightTarget parent.targetFingerprint
  | _, _ => return ()

/-- `children_by_parent[parent]`. -/
def partialChildren (frontier : PartialComparisonFrontier) (parent : ℕ) : List FrontierNode :=
  (orderedNodes frontier).tail.filter fun node =>
    decide (node.place.parentSegmentSequence = some parent)

/-- The body of the loop over the recorded topology. -/
def validatePartialTopologySegment (children : List FrontierNode)
    (segment : ComparisonSegmentRecord) : Except Refusal Unit := do
  if segment.state = .split then validatePartialSplitSegment segment children
  else
    refuseIf (children ≠ [])
      { error := .valueError, message := "terminal partial topology segment cannot have children" }
  refuseIf (segment.state.isMatched = true ∧
      segment.referenceFingerprint ≠ segment.targetFingerprint)
    { error := .valueError
      message := "matched partial topology segment requires equal fingerprints" }
  refuseIf (segment.state.isMatched = false ∧
      segment.referenceFingerprint = segment.targetFingerprint)
    { error := .valueError
      message := "mismatched partial topology segment requires unequal fingerprints" }

/-- The body of the loop over the unresolved segments. -/
def validatePartialUnresolvedSegment (topologySequences : List ℕ) (children : List FrontierNode)
    (segment : UnresolvedComparisonSegment) : Except Refusal Unit := do
  refuseIf (children ≠ [])
    { error := .valueError, message := "unresolved partial frontier segment cannot have children" }
  refuseIf (segment.parentSegmentSequence.any (fun parent => !topologySequences.contains parent)
      = true)
    { error := .valueError
      message := "unresolved partial frontier parent must be persisted topology" }

/-- `_validate_partial_frontier_tree`. -/
def validatePartialFrontierTree (frontier : PartialComparisonFrontier) : Except Refusal Unit := do
  let nodes := orderedNodes frontier
  let sequences := nodes.map (·.place.segmentSequence)
  refuseIf (sequences ≠ List.range nodes.length)
    { error := .valueError, message := "partial frontier sequences must be contiguous from zero" }
  match nodes with
  | [] => .error { error := .keyError, message := "0" }
  | root :: rest => do
    refuseIf (root.place.parentSegmentSequence ≠ none ∨ root.place.depth ≠ 0)
      { error := .valueError
        message := "partial frontier root must be the depth-zero segment" }
    refuseIf (rest.any (fun node => !node.place.parentSegmentSequence.any sequences.contains) = true)
      { error := .valueError
        message := "non-root partial frontier segment requires a known parent" }
    frontier.topology.forM fun segment =>
      validatePartialTopologySegment (partialChildren frontier segment.segmentSequence) segment
    frontier.unresolved.forM fun segment =>
      validatePartialUnresolvedSegment (frontier.topology.map (·.segmentSequence))
        (partialChildren frontier segment.segmentSequence) segment

end ForensicData.Persistence
