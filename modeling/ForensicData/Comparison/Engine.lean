/-
ForensicData.Comparison.Engine — the integer-key drill-down.

`executePostgresIntegerKeyComparison` reads a key summary of both sides, and
then fingerprints a list of key ranges level by level. Ranges with equal
fingerprints are recorded as matched. If the rows of all others fit the
remaining budgets they are read and compared, otherwise each of the others is
cut in two and the halves are the next level. The generator yields its progress
after every change, so that a caller it stops on has the last state.

The work loop takes a fuel; a level always uses up fingerprint nodes, and
`workLoop` is started with more fuel than there are nodes. `validateInputs`
checks contract, relations and scope: the outcomes of those checks are inputs,
and what it computes from budgets and relations is modelled.
-/
import Mathlib.Data.List.Sort
import ForensicData.Comparison.Artifact
import ForensicData.Comparison.Planning

namespace ForensicData.Comparison

open ForensicData.Canonical
open ForensicData.Lib
open ForensicData.Lib.Generator
open ForensicData.Result

/-! ## Progress -/

/-- `_Usage`. -/
structure Usage where
  queries : ℕ
  fetchedRecords : ℕ
  resultBytes : ℕ
  fingerprintNodes : ℕ
  coordinatorPeakBytes : ℕ
  referenceFullScans : ℕ
  targetFullScans : ℕ
  elapsedMilliseconds : ℕ
  deriving DecidableEq, Repr

/-- `_ComparisonProgress`. -/
structure Progress (Body : Type) where
  pending : List PendingSegment
  topology : List ComparisonSegmentRecord
  exactCounts : ExactCounts
  prunedMatched : ℕ
  prunedSegments : ℕ
  exactSegments : ℕ
  summariesVerified : Bool
  mismatchWitnesses : List FingerprintNode
  usage : Usage
  anomalies : List (DifferenceRecord Body)
  foundRecords : ℕ
  foundBytes : ℕ
  retainedBytes : ℕ
  retentionOpen : Bool

inductive AssurancePolicy where
  | fingerprintAllowed
  | exactRequired
  deriving DecidableEq, Repr

/-- The check, scope, cut and evidence policy of a comparison: their identities,
what the engine reads of them, the outcomes of the input checks that look at
nothing else, and how evidence is rendered and measured. -/
structure ComparisonInputs (Body : Type) where
  checkId : NonblankText
  contractDigest : Sha256Hex
  scopeDigest : Sha256Hex
  inputCutDigest : Sha256Hex
  assurancePolicy : AssurancePolicy
  schemaFieldCount : ℕ
  keyFieldIndex : ℕ
  checkClosure : Except Cause Unit
  relationClosure : Except Cause Unit
  datasetClosure : Except Cause Unit
  scopeClosure : Except Cause Unit
  sizes : ObjectSizes
  evidenceBody : ExactDifference → Except Cause Body
  recordBytes : DifferenceRecord Body → ℕ

variable {budgets : ExecutionBudgets} {Body : Type}

/-- The generator's type: it changes the world, yields its progress and raises
causes. -/
abbrev Engine (budgets : ExecutionBudgets) (Body : Type) (α : Type) : Type :=
  Generator (World budgets) (Progress Body) Cause α

/-- `if condition: raise cause`. -/
def causeIf (condition : Prop) [Decidable condition] (cause : Cause) : Except Cause Unit :=
  if condition then .error cause else .ok ()

def refuseWhen (condition : Prop) [Decidable condition] (cause : Cause) : Engine budgets Body Unit :=
  lift (causeIf condition cause)

/-- A step that may raise only plain refusals. -/
def liftRefusal {α : Type} (r : Except Refusal α) : Engine budgets Body α :=
  lift (r.mapError Cause.ofRefusal)

/-! ## Clock and ledger -/

/-- `_require_deadline`. -/
def requireDeadline (sources : Sources budgets) : Engine budgets Body Unit :=
  act fun world =>
    (if sources.deadlineNanoseconds ≤ sources.clock world.clockReadings then
        .error (comparisonBudgetExceeded "integer comparison exceeded run_timeout_milliseconds")
      else .ok (),
     { world with clockReadings := world.clockReadings + 1 })

/-- The deadline check of a loop body: every `_DEADLINE_CHECK_RECORDS` rounds. -/
def requireDeadlineEvery (sources : Sources budgets) (index : ℕ) : Engine budgets Body Unit :=
  if index % 64 = 0 then requireDeadline sources else pure ()

/-- One step for each item, with its index. -/
def visit {α : Type} (step : ℕ → α → Engine budgets Body Unit) (items : List α) :
    Engine budgets Body Unit :=
  fold (fun _ item => step item.2 item.1) () items.zipIdx

/-- The clock reading with which the ledger checks its own deadline. -/
def requireSourceDeadline (sources : Sources budgets) (message : String) :
    Engine budgets Body Unit :=
  act fun world =>
    (if sources.deadlineNanoseconds ≤ sources.clock world.clockReadings then
        .error (Cause.of .postgresReadDeadlineExceededError message)
      else .ok (),
     { world with clockReadings := world.clockReadings + 1 })

/-- One operation of a read on the ledger. -/
def applyCharge (sources : Sources budgets) (side : Side) (charge : Charge) :
    Engine budgets Body Unit :=
  match charge with
  | .query fullScans => do
    requireSourceDeadline sources
      "PostgreSQL source query dispatch exceeded the immutable whole-run source deadline"
    act fun world =>
      match world.usage.dispatchQuery side fullScans with
      | .error refusal => (.error (Cause.ofRefusal refusal), world)
      | .ok usage => (.ok (), { world with usage })
  | .records recordBytes => do
    act fun world =>
      (.ok (), { world with usage := world.usage.receive recordBytes.length recordBytes.sum })
    requireSourceDeadline sources
      "PostgreSQL source work exceeded the immutable whole-run deadline while receiving a result"
    act fun world => ((world.usage.checkReceived true).mapError Cause.ofRefusal, world)
  | .observedBytes resultBytes => do
    act fun world => (.ok (), { world with usage := world.usage.receive 0 resultBytes })
    requireSourceDeadline sources
      "PostgreSQL source work exceeded the immutable whole-run deadline while receiving an unmaterialized result"
    act fun world => ((world.usage.checkReceived false).mapError Cause.ofRefusal, world)

/-- One read: its work is charged, then its answer is received. -/
def readSource {α : Type} (sources : Sources budgets) (side : Side) (reading : ℕ → Reading α)
    (reply : α → Reply) : Engine budgets Body α := do
  let index ← act fun world => (.ok world.replies.length, world)
  fold (fun _ charge => applyCharge sources side charge) () (reading index).charges
  let answer ← lift (reading index).answer
  act fun world => (.ok (), { world with replies := world.replies ++ [reply answer] })
  return answer

/-- `_require_full_scan_capacity`. -/
def requireFullScanCapacity (referenceFullScans targetFullScans : ℕ) : Engine budgets Body Unit := do
  let remaining ← act fun world => (.ok world.usage.remaining, world)
  refuseWhen (referenceFullScans > remaining.referenceFullScans)
    (comparisonBudgetExceeded "next reference read exceeds max_full_scans_per_side")
  refuseWhen (targetFullScans > remaining.targetFullScans)
    (comparisonBudgetExceeded "next target read exceeds max_full_scans_per_side")

/-- `_require_budget_capacity`. -/
def requireBudgetCapacity (additionalQueries additionalRecords additionalResultBytes
    coordinatorBytes : ℕ) : Engine budgets Body Unit := do
  let remaining ← act fun world => (.ok world.usage.remaining, world)
  refuseWhen (additionalQueries > remaining.queries)
    (comparisonBudgetExceeded "next comparison read exceeds max_queries")
  refuseWhen (additionalRecords > remaining.fetchedRecords)
    (comparisonBudgetExceeded "next comparison read exceeds max_fetched_records")
  refuseWhen (additionalResultBytes > remaining.resultBytes)
    (comparisonBudgetExceeded "next comparison read exceeds max_application_result_bytes")
  refuseWhen (coordinatorBytes > budgets.maxCoordinatorMemoryBytes)
    (comparisonBudgetExceeded "next comparison read exceeds max_coordinator_memory_bytes")

/-- `PostgresSourceBudgetAttempt.snapshot`: the clock is read for the ledger and
again for the attempt. -/
def Sources.snapshot (sources : Sources budgets) (world : World budgets) :
    SourceUsageSnapshot × World budgets :=
  (sources.baseline.since world.usage
    (elapsedMillisecondsSince sources.attemptStartedNanoseconds
      (sources.clock (world.clockReadings + 1))),
   { world with clockReadings := world.clockReadings + 2 })

def attemptSnapshot (sources : Sources budgets) : Engine budgets Body SourceUsageSnapshot :=
  act fun world => (.ok (sources.snapshot world).1, (sources.snapshot world).2)

/-- `_consume_source_usage`. -/
def consumeSourceUsage (sources : Sources budgets) (usage : Usage)
    (fingerprintNodes coordinatorPeakBytes : ℕ) : Engine budgets Body Usage := do
  let snapshot ← attemptSnapshot sources
  return { queries := snapshot.queries
           fetchedRecords := snapshot.fetchedRecords
           resultBytes := snapshot.resultBytes
           fingerprintNodes := usage.fingerprintNodes + fingerprintNodes
           coordinatorPeakBytes := max usage.coordinatorPeakBytes coordinatorPeakBytes
           referenceFullScans := snapshot.referenceFullScans
           targetFullScans := snapshot.targetFullScans
           elapsedMilliseconds := snapshot.elapsedMilliseconds }

/-- `_usage_with_coordinator_peak`. -/
def Usage.withCoordinatorPeak (usage : Usage) (coordinatorPeakBytes : ℕ) : Usage :=
  { usage with coordinatorPeakBytes := max usage.coordinatorPeakBytes coordinatorPeakBytes }

/-- `_result_metrics`. -/
def Usage.metrics (usage : Usage) : ResultMetrics where
  queries := usage.queries
  fetchedRecords := usage.fetchedRecords
  resultBytes := usage.resultBytes
  fingerprintNodes := usage.fingerprintNodes
  coordinatorPeakBytes := usage.coordinatorPeakBytes
  elapsedMilliseconds := usage.elapsedMilliseconds

/-! ## Inputs -/

/-- The engine check the three readers share: a context reads a relation of its
own engine. -/
def requireSameEngine (context : ReadContext) (relation : Relation) : Except Cause Unit :=
  match context, relation with
  | .clickHouse _, .clickHouse _ => .ok ()
  | .clickHouse _, _ => .error (protocolViolation
      "ClickHouse comparison context received a relation from another engine")
  | .postgres, .postgres _ _ => .ok ()
  | .postgres, _ => .error (protocolViolation
      "PostgreSQL comparison context received a SQL Server relation")
  | .greengage _, .greengage _ => .ok ()
  | .greengage _, _ => .error (protocolViolation
      "Greengage comparison context received a relation from another engine")
  | .originalGreenplum _, .originalGreenplum _ => .ok ()
  | .originalGreenplum _, _ => .error (protocolViolation
      "original Greenplum comparison context received a relation from another engine")
  | .mssql _, .mssql _ _ _ _ => .ok ()
  | .mssql _, _ => .error (protocolViolation
      "SQL Server comparison context received a PostgreSQL relation")

/-- `_context_stable_read_level`, for a context that is active or not. -/
def contextStableReadLevel (context : ReadContext) (active : Bool) :
    Except Cause ConsistencyLevel :=
  if active = false then .ok .unknown
  else
    match context with
    | .clickHouse level =>
      if level = .asserted then .ok level
      else .error (protocolViolation
        "ClickHouse immutable named-version evidence must remain explicitly asserted")
    | _ => .ok .verified

/-- `_validate_inputs`, down to the one value the engine still needs of it:
`max_encoded_row_bytes`. -/
def validateInputs (inputs : ComparisonInputs Body) (sources : Sources budgets) :
    Except Cause ℕ := do
  inputs.checkClosure
  causeIf (sources.contextActive 0 .reference = false)
    (protocolViolation "reference protected read context must be active")
  causeIf (sources.contextActive 0 .target = false)
    (protocolViolation "target protected read context must be active")
  let _ ← contextStableReadLevel (sources.context .reference) (sources.contextActive 0 .reference)
  let _ ← contextStableReadLevel (sources.context .target) (sources.contextActive 0 .target)
  inputs.relationClosure
  causeIf (sources.contextId .reference = sources.contextId .target)
    (protocolViolation
      "reference and target comparisons require two distinct protected context IDs")
  inputs.datasetClosure
  let requiredSummaryScans := max (sources.relation .reference).physicalScanCount
    (sources.relation .target).physicalScanCount
  causeIf (budgets.maxFullScansPerSide < requiredSummaryScans)
    (comparisonBudgetExceeded
      s!"integer-key summary cannot reserve every contributing physical member scan: required_per_side={requiredSummaryScans}, max_full_scans_per_side={budgets.maxFullScansPerSide}")
  inputs.scopeClosure
  comparisonMaxEncodedRowBytes budgets
    (max (sources.relation .reference).memberCount (sources.relation .target).memberCount)

/-- `_comparison_stable_read_level`. -/
def comparisonStableReadLevel (sources : Sources budgets) (replyCount : ℕ)
    (readsEstablished : Bool) : Except Cause ConsistencyLevel :=
  if readsEstablished = false then .ok .unknown
  else do
    let reference ← contextStableReadLevel (sources.context .reference)
      (sources.contextActive replyCount .reference)
    let target ← contextStableReadLevel (sources.context .target)
      (sources.contextActive replyCount .target)
    if reference = .unknown ∨ target = .unknown then return .unknown
    else if reference = .asserted ∨ target = .asserted then return .asserted
    else return .verified

/-- `_completed_stable_read_level`. -/
def completedStableReadLevel (sources : Sources budgets) : Engine budgets Body ConsistencyLevel := do
  let replyCount ← act fun world => (.ok world.replies.length, world)
  let level ← lift (comparisonStableReadLevel sources replyCount true)
  refuseWhen (level = .unknown) (protocolViolation
    "completed comparison cannot publish after protected read context evidence was lost")
  return level

/-! ## Reading a level -/

/-- `_root_segment`. -/
def rootSegment (reference target : KeySummary) : PendingSegment :=
  let minimums := [reference.minimumKey, target.minimumKey].filterMap id
  let maximums := [reference.maximumKey, target.maximumKey].filterMap id
  let lower := (minimums.min?).getD int64Min
  let upper := match maximums.max? with
    | none => none
    | some maximum => if maximum = (int64Max : Int) then none else some (maximum + 1)
  { segmentSequence := 0, parentSegmentSequence := none, depth := 0
    lowerInclusive := lower, upperExclusive := upper }

/-- `_require_mssql_range_batch_capacity`. -/
def requireMssqlRangeBatchCapacity (sources : Sources budgets) (pending : List PendingSegment) :
    Except Cause Unit :=
  let isMssql := fun side =>
    match sources.relation side with
    | .mssql _ _ _ _ => true
    | _ => false
  causeIf (524 < pending.length ∧ (isMssql .reference || isMssql .target) = true)
    (comparisonBudgetExceeded
      s!"SQL Server fingerprint level exceeds the safe 2,100-parameter batch bound: observed_ranges={pending.length}, maximum_ranges=524")

/-- The arguments of a key-summary read of the side. -/
def summaryRequest (inputs : ComparisonInputs Body) (sources : Sources budgets) (side : Side)
    (maxEncodedRowBytes : ℕ) : SummaryRequest where
  keyFieldIndex := inputs.keyFieldIndex
  maxEncodedEnvelopeBytes := maxEncodedRowBytes
  maxRecordBytes := 136
  maxTotalBytes := 136
  fullScans := (sources.relation side).physicalScanCount

/-- `_read_integer_key_summary`. -/
def readIntegerKeySummary (inputs : ComparisonInputs Body) (sources : Sources budgets)
    (side : Side) (maxEncodedRowBytes : ℕ) : Engine budgets Body KeySummary := do
  lift (requireSameEngine (sources.context side) (sources.relation side))
  readSource sources side
    (fun index => sources.summary index side (summaryRequest inputs sources side maxEncodedRowBytes))
    (Reply.summary side)

/-- `_read_integer_range_fingerprints`. -/
def readIntegerRangeFingerprints (inputs : ComparisonInputs Body) (sources : Sources budgets)
    (side : Side) (maxEncodedRowBytes : ℕ) (plan : FingerprintLevelPlan) :
    Engine budgets Body RangeFingerprintRead := do
  lift (requireSameEngine (sources.context side) (sources.relation side))
  readSource sources side
    (fun index => sources.fingerprints index side
      { keyFieldIndex := inputs.keyFieldIndex, maxEncodedEnvelopeBytes := maxEncodedRowBytes
        maxRecordBytes := plan.payloadRecordBytes, maxTotalBytes := plan.payloadResultBytes
        fullScans := plan.fullScans side, ranges := plan.requests })
    (Reply.fingerprints side plan.requests)

/-- `_read_fingerprint_level`. -/
def readFingerprintLevel (inputs : ComparisonInputs Body) (sources : Sources budgets)
    (maxEncodedRowBytes : ℕ) (usage : Usage) (plan : FingerprintLevelPlan) :
    Engine budgets Body (RangeFingerprintRead × RangeFingerprintRead × Usage) := do
  let reference := (sources.context .reference).fingerprintPlanBudget plan.requests.length
  let target := (sources.context .target).fingerprintPlanBudget plan.requests.length
  let planCoordinatorPeakBytes := plan.coordinatorPeakBytes
    + max reference.maxCoordinatorBytes target.maxCoordinatorBytes
  requireFullScanCapacity (plan.fullScans .reference) (plan.fullScans .target)
  requireBudgetCapacity (4 + reference.additionalQueries + target.additionalQueries)
    (2 * plan.requests.length + 2 + reference.maxFetchedRecords + target.maxFetchedRecords)
    (plan.resultBytes .reference + plan.resultBytes .target
      + (sources.context .reference).sessionSetupRecordBytes
      + (sources.context .target).sessionSetupRecordBytes
      + reference.maxResultBytes + target.maxResultBytes)
    planCoordinatorPeakBytes
  requireDeadline sources
  let referenceRead ← readIntegerRangeFingerprints inputs sources .reference maxEncodedRowBytes plan
  requireDeadline sources
  let targetRead ← readIntegerRangeFingerprints inputs sources .target maxEncodedRowBytes plan
  let usage ← consumeSourceUsage sources usage plan.requests.length planCoordinatorPeakBytes
  return (referenceRead, targetRead, usage)

/-- The nodes of a level: its ranges with the answers of both sides. -/
def levelNodes : List PendingSegment → List RangeFingerprint → List RangeFingerprint →
    List FingerprintNode
  | segment :: pending, reference :: references, target :: targets =>
    { segment, reference, target } :: levelNodes pending references targets
  | _, _, _ => []

/-- `_fingerprint_nodes`. -/
def fingerprintNodes (sources : Sources budgets) (pending : List PendingSegment)
    (reference target : RangeFingerprintRead) : Engine budgets Body (List FingerprintNode) := do
  refuseWhen (reference.ranges.length ≠ pending.length ∨ target.ranges.length ≠ pending.length)
    (protocolViolation
      "fingerprint connector receipts do not cover the requested range level")
  let nodes := levelNodes pending reference.ranges target.ranges
  visit (fun index node => do
    requireDeadlineEvery sources index
    refuseWhen (node.reference.segmentId ≠ segmentId node.segment.segmentSequence ∨
        node.target.segmentId ≠ segmentId node.segment.segmentSequence)
      (protocolViolation "fingerprint connector receipts do not preserve segment identity")) nodes
  requireDeadline sources
  return nodes

/-- The two fingerprints of a node agree. -/
def FingerprintNode.agrees (node : FingerprintNode) : Bool :=
  decide (node.reference.fingerprint = node.target.fingerprint)

/-- `_partition_fingerprint_nodes`. -/
def partitionFingerprintNodes (sources : Sources budgets) (nodes : List FingerprintNode) :
    Engine budgets Body (List FingerprintNode × List FingerprintNode) := do
  visit (fun index _ => requireDeadlineEvery sources index) nodes
  requireDeadline sources
  return (nodes.filter (·.agrees), nodes.filter fun node => !node.agrees)

/-! ## Recording -/

/-- `_without_pending_sequence`. -/
def withoutPendingSequence (pending : List PendingSegment) (sequence : ℕ) : List PendingSegment :=
  pending.filter fun item => decide (item.segmentSequence ≠ sequence)

/-- `_without_mismatch_witness`. -/
def withoutMismatchWitness (witnesses : List FingerprintNode) (sequence : ℕ) :
    List FingerprintNode :=
  witnesses.filter fun item => decide (item.segment.segmentSequence ≠ sequence)

/-- `_progress_with_mismatch_witnesses`: a new node replaces an older one of its
sequence, and the witnesses are kept in ascending sequence. -/
def Progress.withMismatchWitnesses (progress : Progress Body) (nodes : List FingerprintNode) :
    Progress Body :=
  let kept := progress.mismatchWitnesses.filter fun item =>
    decide (∀ node ∈ nodes, node.segment.segmentSequence ≠ item.segment.segmentSequence)
  { progress with
    mismatchWitnesses := (kept ++ nodes).insertionSort fun a b =>
      a.segment.segmentSequence ≤ b.segment.segmentSequence }

/-- `_segment_record`. -/
def segmentRecord (node : FingerprintNode) (state : ComparisonSegmentState) :
    Except Refusal ComparisonSegmentRecord :=
  ComparisonSegmentRecord.make node.segment state node.reference.fingerprint node.target.fingerprint

/-- The loop over the matching nodes of a level. -/
def recordMatching (sources : Sources budgets) (progress : Progress Body)
    (matching : List FingerprintNode) : Engine budgets Body (Progress Body) :=
  fold (fun progress item => do
    requireDeadlineEvery sources item.2
    let record ← liftRefusal (segmentRecord item.1 .fingerprintMatch)
    let progress := { progress with
      topology := progress.topology ++ [record]
      pending := withoutPendingSequence progress.pending item.1.segment.segmentSequence
      prunedMatched := progress.prunedMatched + item.1.reference.fingerprint.count
      prunedSegments := progress.prunedSegments + 1 }
    yield progress
    return progress) progress matching.zipIdx

/-! ## Exact leaves -/

/-- `_exact_frontier_fits`. -/
def exactFrontierFits (reservation : ExactFrontierReservation) : Engine budgets Body Bool :=
  act fun world =>
    let remaining := world.usage.remaining
    (.ok (decide (4 ≤ remaining.queries ∧
        reservation.reference.rawRecords + reservation.target.rawRecords + 2
          ≤ remaining.fetchedRecords ∧
        reservation.reference.rawResultBytes + reservation.target.rawResultBytes
          + reservation.setupResultBytes ≤ remaining.resultBytes ∧
        reservation.coordinatorPeakBytes ≤ budgets.maxCoordinatorMemoryBytes ∧
        reservation.reference.fullScans ≤ remaining.referenceFullScans ∧
        reservation.target.fullScans ≤ remaining.targetFullScans)),
     world)

/-- `_read_integer_range_rows`. -/
def readIntegerRangeRows (inputs : ComparisonInputs Body) (sources : Sources budgets) (side : Side)
    (maxEncodedRowBytes : ℕ) (requests : List RangeRequest) (reservation : ExactSideReservation) :
    Engine budgets Body ExactRowsRead := do
  let payloadLimit := max 1 reservation.resultBytes
  let maximumPayloadRecordBytes := maxEncodedRowBytes + 136
    + (requests.map fun item => item.segmentId.length).foldr max 0 + 2
  lift (requireSameEngine (sources.context side) (sources.relation side))
  readSource sources side
    (fun index => sources.rows index side
      { keyFieldIndex := inputs.keyFieldIndex, maxEncodedEnvelopeBytes := maxEncodedRowBytes
        maxRecordBytes := min maximumPayloadRecordBytes payloadLimit
        maxTotalBytes := payloadLimit, fullScans := reservation.fullScans
        ranges := requests, maxRecords := reservation.rawRecords })
    (Reply.rows side requests)

/-- `_read_exact_frontier`. -/
def readExactFrontier (inputs : ComparisonInputs Body) (sources : Sources budgets)
    (maxEncodedRowBytes : ℕ) (nodes : List FingerprintNode)
    (reservation : ExactFrontierReservation) (usage : Usage) :
    Engine budgets Body (ExactRowsRead × ExactRowsRead × Usage) := do
  let requests := nodes.map fun node => rangeRequest node.segment
  requireFullScanCapacity reservation.reference.fullScans reservation.target.fullScans
  requireBudgetCapacity 4
    (reservation.reference.rawRecords + reservation.target.rawRecords + 2)
    (reservation.reference.rawResultBytes + reservation.target.rawResultBytes
      + reservation.setupResultBytes)
    reservation.coordinatorPeakBytes
  requireDeadline sources
  let referenceRead ← readIntegerRangeRows inputs sources .reference maxEncodedRowBytes requests
    reservation.reference
  requireDeadline sources
  let targetRead ← readIntegerRangeRows inputs sources .target maxEncodedRowBytes requests
    reservation.target
  requireDeadline sources
  refuseWhen (referenceRead.metrics.fetchedRecords ≠ reservation.reference.records)
    (protocolViolation "reference exact frontier row count differs from its fingerprints")
  refuseWhen (targetRead.metrics.fetchedRecords ≠ reservation.target.records)
    (protocolViolation "target exact frontier row count differs from its fingerprints")
  refuseWhen (referenceRead.metrics.resultBytes ≠ reservation.reference.resultBytes)
    (protocolViolation
      "reference exact frontier byte count differs from its fingerprint preflight")
  refuseWhen (targetRead.metrics.resultBytes ≠ reservation.target.resultBytes)
    (protocolViolation "target exact frontier byte count differs from its fingerprint preflight")
  let usage ← consumeSourceUsage sources usage 0 reservation.coordinatorPeakBytes
  return (referenceRead, targetRead, usage)

/-- The rows of one segment, in the order of the read. -/
def rowsOf (rows : List ExactRow) (segmentId : String) : List ExactRow :=
  rows.filter fun row => decide (row.segmentId = segmentId)

/-- `_group_exact_rows`; `rowsOf` is the dictionary it returns. -/
def groupExactRows (sources : Sources budgets) (rows : List ExactRow) (segmentIds : List String) :
    Engine budgets Body Unit := do
  visit (fun index row => do
    requireDeadlineEvery sources index
    refuseWhen (row.segmentId ∉ segmentIds)
      (protocolViolation "exact frontier receipt contains an unrequested segment ID")) rows
  visit (fun index _ => requireDeadlineEvery sources index) segmentIds
  requireDeadline sources

/-- `_group_exact_frontier_rows`. -/
def groupExactFrontierRows (sources : Sources budgets) (nodes : List FingerprintNode)
    (reference target : ExactRowsRead) : Engine budgets Body Unit := do
  requireDeadline sources
  let segmentIds := nodes.map fun node => segmentId node.segment.segmentSequence
  groupExactRows sources reference.rows segmentIds
  groupExactRows sources target.rows segmentIds
  requireDeadline sources

/-- The counters and the list the merge of a leaf carries. -/
structure LeafComparison where
  counts : ExactCounts
  differences : List ExactDifference
  deriving DecidableEq

def LeafComparison.empty : LeafComparison := { counts := .zero, differences := [] }

def LeafComparison.addMissing (leaf : LeafComparison) (sequence : ℕ) (row : ExactRow) :
    LeafComparison where
  counts := { leaf.counts with missing := leaf.counts.missing + 1 }
  differences := leaf.differences ++
    [{ segmentSequence := sequence, kind := .missing, keyRow := row
       referenceRow := some row, targetRow := none }]

def LeafComparison.addExtra (leaf : LeafComparison) (sequence : ℕ) (row : ExactRow) :
    LeafComparison where
  counts := { leaf.counts with extra := leaf.counts.extra + 1 }
  differences := leaf.differences ++
    [{ segmentSequence := sequence, kind := .extra, keyRow := row
       referenceRow := none, targetRow := some row }]

/-- Two rows of one key: matched or modified. -/
def LeafComparison.addBoth (leaf : LeafComparison) (sequence : ℕ) (reference target : ExactRow) :
    LeafComparison :=
  if reference.rowEnvelope = target.rowEnvelope then
    { leaf with counts := { leaf.counts with matched := leaf.counts.matched + 1 } }
  else
    { counts := { leaf.counts with modified := leaf.counts.modified + 1 }
      differences := leaf.differences ++
        [{ segmentSequence := sequence, kind := .modified, keyRow := reference
           referenceRow := some reference, targetRow := some target }] }

/-- The loops of `_compare_exact_rows`, with a round for every row at most. -/
def compareExactRowsLoop (sources : Sources budgets) (sequence : ℕ) :
    (rounds classified : ℕ) → (reference target : List ExactRow) → LeafComparison →
      Engine budgets Body LeafComparison
  | 0, _, _, _, leaf => return leaf
  | _ + 1, _, [], [], leaf => return leaf
  | rounds + 1, classified, row :: reference, [], leaf => do
    requireDeadlineEvery sources classified
    compareExactRowsLoop sources sequence rounds (classified + 1) reference []
      (leaf.addMissing sequence row)
  | rounds + 1, classified, [], row :: target, leaf => do
    requireDeadlineEvery sources classified
    compareExactRowsLoop sources sequence rounds (classified + 1) [] target
      (leaf.addExtra sequence row)
  | rounds + 1, classified, referenceRow :: reference, targetRow :: target, leaf => do
    requireDeadlineEvery sources classified
    if referenceRow.keyValue < targetRow.keyValue then
      compareExactRowsLoop sources sequence rounds (classified + 1) reference (targetRow :: target)
        (leaf.addMissing sequence referenceRow)
    else if referenceRow.keyValue > targetRow.keyValue then
      compareExactRowsLoop sources sequence rounds (classified + 1) (referenceRow :: reference) target
        (leaf.addExtra sequence targetRow)
    else do
      refuseWhen (referenceRow.keyEnvelope ≠ targetRow.keyEnvelope)
        (protocolViolation
          "equal logical integer keys produced different canonical key envelopes")
      compareExactRowsLoop sources sequence rounds (classified + 1) reference target
        (leaf.addBoth sequence referenceRow targetRow)

/-- `_compare_exact_rows`. -/
def compareExactRows (sources : Sources budgets) (reference target : List ExactRow)
    (segmentSequence : ℕ) : Engine budgets Body LeafComparison := do
  let leaf ← compareExactRowsLoop sources segmentSequence (reference.length + target.length) 0
    reference target .empty
  requireDeadline sources
  return leaf

/-- `_classify_exact_leaf`. -/
def classifyExactLeaf (sources : Sources budgets) (node : FingerprintNode)
    (referenceRows targetRows : List ExactRow) :
    Engine budgets Body (LeafComparison × ComparisonSegmentRecord) := do
  requireDeadline sources
  refuseWhen (referenceRows.length ≠ node.reference.fingerprint.count)
    (protocolViolation "reference exact segment count differs from its fingerprint")
  refuseWhen (targetRows.length ≠ node.target.fingerprint.count)
    (protocolViolation "target exact segment count differs from its fingerprint")
  let leaf ← compareExactRows sources referenceRows targetRows node.segment.segmentSequence
  let counts := leaf.counts
  refuseWhen (counts.matched + counts.missing + counts.modified ≠ node.reference.fingerprint.count)
    (protocolViolation
      "reference exact classifications do not close to the segment fingerprint")
  refuseWhen (counts.matched + counts.extra + counts.modified ≠ node.target.fingerprint.count)
    (protocolViolation "target exact classifications do not close to the segment fingerprint")
  refuseWhen (counts.differences = 0 ∧ node.reference.fingerprint ≠ node.target.fingerprint)
    (protocolViolation "unequal segment fingerprints resolved to equal exact rows")
  let record ← liftRefusal (segmentRecord node
    (if counts.differences = 0 then .exactMatch else .exactMismatch))
  return (leaf, record)

/-- `_difference_record`. -/
def differenceRecord (inputs : ComparisonInputs Body) (sequence : ℕ)
    (difference : ExactDifference) : Except Cause (DifferenceRecord Body) := do
  let body ← inputs.evidenceBody difference
  return { sequence, segmentSequence := difference.segmentSequence, kind := difference.kind, body }

/-- A difference is counted, and kept while retention is open and it fits. -/
def Progress.retain (budgets : ExecutionBudgets) (progress : Progress Body)
    (record : DifferenceRecord Body) (recordBytes : ℕ) : Progress Body :=
  let found := { progress with
    foundRecords := progress.foundRecords + 1
    foundBytes := progress.foundBytes + recordBytes }
  if progress.retentionOpen = false then found
  else if budgets.maxEvidenceRows ≤ progress.anomalies.length then
    { found with retentionOpen := false }
  else if budgets.maxEvidenceBytes < progress.retainedBytes + recordBytes then
    { found with retentionOpen := false }
  else
    { found with anomalies := progress.anomalies ++ [record]
                 retainedBytes := progress.retainedBytes + recordBytes }

/-- `_retain_exact_differences`. -/
def retainExactDifferences (inputs : ComparisonInputs Body) (sources : Sources budgets)
    (progress : Progress Body) (differences : List ExactDifference) :
    Engine budgets Body (Progress Body) := do
  let progress ← fold (fun (progress : Progress Body) item => do
    requireDeadlineEvery sources item.2
    let record ← lift (differenceRecord inputs progress.foundRecords item.1)
    return progress.retain budgets record (inputs.recordBytes record)) progress differences.zipIdx
  requireDeadline sources
  return progress

/-- The loop over the nodes of an exact frontier. -/
def recordExactLeaves (inputs : ComparisonInputs Body) (sources : Sources budgets)
    (progress : Progress Body) (reference target : ExactRowsRead) (nodes : List FingerprintNode) :
    Engine budgets Body (Progress Body) :=
  fold (fun progress node => do
    let sequence := node.segment.segmentSequence
    let (leaf, record) ← classifyExactLeaf sources node (rowsOf reference.rows (segmentId sequence))
      (rowsOf target.rows (segmentId sequence))
    let progress ← retainExactDifferences inputs sources
      { progress with
        exactCounts := progress.exactCounts.add leaf.counts
        exactSegments := progress.exactSegments + 1
        topology := progress.topology ++ [record]
        pending := withoutPendingSequence progress.pending sequence
        mismatchWitnesses := withoutMismatchWitness progress.mismatchWitnesses sequence }
      leaf.differences
    yield progress
    return progress) progress nodes

/-! ## Splitting -/

/-- `_split_segment`. -/
def splitSegment (segment : PendingSegment) (nextSequence : ℕ) :
    Option (PendingSegment × PendingSegment) :=
  let mathematicalUpper := segment.upperExclusive.getD ((int64Max : Int) + 1)
  let width := mathematicalUpper - segment.lowerInclusive
  if width ≤ 1 then none
  else
    let midpoint := segment.lowerInclusive + width / 2
    some
      ({ segmentSequence := nextSequence
         parentSegmentSequence := some segment.segmentSequence
         depth := segment.depth + 1
         lowerInclusive := segment.lowerInclusive
         upperExclusive := some midpoint },
       { segmentSequence := nextSequence + 1
         parentSegmentSequence := some segment.segmentSequence
         depth := segment.depth + 1
         lowerInclusive := midpoint
         upperExclusive := segment.upperExclusive })

/-- A node with its two halves. -/
abbrev SplitNode := FingerprintNode × PendingSegment × PendingSegment

def SplitNode.children (item : SplitNode) : List PendingSegment := [item.2.1, item.2.2]

/-- The loop that cuts every mismatching node; its halves are numbered from
`nextSequence`. -/
def splitNodes (sources : Sources budgets) (nextSequence : ℕ) (mismatching : List FingerprintNode) :
    Engine budgets Body (List SplitNode) :=
  fold (fun (done : List SplitNode) item => do
    requireDeadlineEvery sources item.2
    match splitSegment item.1.segment (nextSequence + 2 * item.2) with
    | none => raise (comparisonBudgetExceeded
        "mismatched single-key range does not fit the remaining exact-fetch budgets")
    | some split => return done ++ [(item.1, split)]) [] mismatching.zipIdx

/-- The loop over the cut nodes: each is recorded as split, and its halves take
its place before the nodes that are still to come. -/
def recordSplits (progress : Progress Body) (processedChildren : List PendingSegment) :
    List SplitNode → Engine budgets Body (Progress Body)
  | [] => return progress
  | item :: rest => do
    let record ← liftRefusal (segmentRecord item.1 .split)
    let processed := processedChildren ++ item.children
    let progress := { progress with
      topology := progress.topology ++ [record]
      pending := processed ++ rest.map fun node => node.1.segment
      mismatchWitnesses :=
        withoutMismatchWitness progress.mismatchWitnesses item.1.segment.segmentSequence }
    yield progress
    recordSplits progress processed rest

/-! ## The work loop -/

/-- What the work loop carries from level to level. -/
structure LoopState (Body : Type) where
  pending : List PendingSegment
  usage : Usage
  progress : Progress Body

/-- The checks of the root level against the key summaries. -/
def checkRootCounts (reference target : KeySummary) (pending : List PendingSegment)
    (nodes : List FingerprintNode) : Except Cause Unit :=
  match pending, nodes with
  | first :: _, root :: _ =>
    if first.segmentSequence = 0 then do
      causeIf (root.reference.fingerprint.count ≠ reference.rowCount)
        (protocolViolation "reference root fingerprint count does not match its key summary")
      causeIf (root.target.fingerprint.count ≠ target.rowCount)
        (protocolViolation "target root fingerprint count does not match its key summary")
    else .ok ()
  | _, _ => .ok ()

/-- Fingerprint the pending ranges of both sides: the level's nodes, with the
progress and usage after the reads. -/
def fingerprintLevel (inputs : ComparisonInputs Body) (sources : Sources budgets)
    (maxEncodedRowBytes : ℕ) (reference target : KeySummary) (state : LoopState Body) :
    Engine budgets Body (List FingerprintNode × LoopState Body) := do
  lift (requireMssqlRangeBatchCapacity sources state.pending)
  let plan ← lift (planFingerprintLevel inputs.sizes sources state.usage.fingerprintNodes
    state.pending)
  let usage := state.usage.withCoordinatorPeak plan.coordinatorPeakBytes
  let progress := { state.progress with usage }
  yield progress
  let (referenceRead, targetRead, usage) ←
    readFingerprintLevel inputs sources maxEncodedRowBytes usage plan
  let progress := { progress with usage }
  yield progress
  let nodes ← fingerprintNodes sources state.pending referenceRead targetRead
  lift (checkRootCounts reference target state.pending nodes)
  return (nodes, { pending := state.pending, usage, progress })

/-- Read the mismatching nodes row by row and classify them. -/
def resolveExactFrontier (inputs : ComparisonInputs Body) (sources : Sources budgets)
    (maxEncodedRowBytes : ℕ) (reservation : ExactFrontierReservation)
    (mismatching : List FingerprintNode) (state : LoopState Body) :
    Engine budgets Body (LoopState Body) := do
  let usage := state.usage.withCoordinatorPeak reservation.coordinatorPeakBytes
  let progress := { state.progress with usage }
  yield progress
  let (referenceRead, targetRead, usage) ←
    readExactFrontier inputs sources maxEncodedRowBytes mismatching reservation usage
  let progress := { progress with usage }
  yield progress
  groupExactFrontierRows sources mismatching referenceRead targetRead
  let progress ← recordExactLeaves inputs sources progress referenceRead targetRead mismatching
  return { pending := progress.pending, usage, progress }

/-- Cut the mismatching nodes into the next level. -/
def subdivideFrontier (sources : Sources budgets) (mismatching : List FingerprintNode)
    (state : LoopState Body) : Engine budgets Body (LoopState Body) := do
  let splits ← splitNodes sources state.usage.fingerprintNodes mismatching
  let children := splits.flatMap SplitNode.children
  refuseWhen (children.any (fun child => decide (child.depth > budgets.maxDepth)) = true)
    (comparisonBudgetExceeded "integer-range subdivision would exceed execution max_depth")
  refuseWhen (state.usage.fingerprintNodes + children.length > budgets.maxFingerprintNodes)
    (comparisonBudgetExceeded
      "integer-range subdivision would exceed execution max_fingerprint_nodes")
  let progress ← recordSplits state.progress [] splits
  return { pending := children, usage := state.usage, progress }

/-- Yield the mismatching nodes of a level as witnesses, if there are any. -/
def announceMismatches (progress : Progress Body) (mismatching : List FingerprintNode) :
    Engine budgets Body (Progress Body) :=
  if mismatching = [] then return progress
  else do
    yield (progress.withMismatchWitnesses mismatching)
    return progress.withMismatchWitnesses mismatching

/-- One round of the work loop. -/
def workRound (inputs : ComparisonInputs Body) (sources : Sources budgets)
    (maxEncodedRowBytes : ℕ) (reference target : KeySummary) (state : LoopState Body) :
    Engine budgets Body (LoopState Body) := do
  let (nodes, state) ← fingerprintLevel inputs sources maxEncodedRowBytes reference target state
  let (matching, mismatching) ← partitionFingerprintNodes sources nodes
  let progress ← announceMismatches state.progress mismatching
  requireDeadline sources
  let progress ← recordMatching sources progress matching
  if mismatching = [] then
    return { state with pending := [], progress }
  else do
    let reservation ← lift (exactFrontierReservation inputs.sizes sources
      state.usage.fingerprintNodes maxEncodedRowBytes inputs.schemaFieldCount mismatching)
    let fits ← exactFrontierFits reservation
    if fits = true then
      resolveExactFrontier inputs sources maxEncodedRowBytes reservation mismatching
        { state with progress }
    else subdivideFrontier sources mismatching { state with progress }

/-- `while pending`. -/
def workLoop (inputs : ComparisonInputs Body) (sources : Sources budgets)
    (maxEncodedRowBytes : ℕ) (reference target : KeySummary) :
    ℕ → LoopState Body → Engine budgets Body (LoopState Body)
  | 0, state => return state
  | fuel + 1, state =>
    if state.pending = [] then return state
    else do
      let state ← workRound inputs sources maxEncodedRowBytes reference target state
      workLoop inputs sources maxEncodedRowBytes reference target fuel state

/-! ## The comparison -/

/-- The value a comparison returns. -/
inductive ComparisonOutcome (recordBytes : DifferenceRecord Body → ℕ) where
  | completed (artifact : CompletedComparisonArtifact recordBytes)
  | structural (artifact : CompletedStructuralComparisonArtifact)

/-- The root before the keys are known. -/
def wholeDomain : PendingSegment where
  segmentSequence := 0
  parentSegmentSequence := none
  depth := 0
  lowerInclusive := int64Min
  upperExclusive := none

/-- `_initial_comparison_progress`. -/
def initialComparisonProgress (Body : Type) (snapshot : SourceUsageSnapshot) : Progress Body where
  pending := [wholeDomain]
  topology := []
  exactCounts := .zero
  prunedMatched := 0
  prunedSegments := 0
  exactSegments := 0
  summariesVerified := false
  mismatchWitnesses := []
  usage :=
    { queries := snapshot.queries
      fetchedRecords := snapshot.fetchedRecords
      resultBytes := snapshot.resultBytes
      fingerprintNodes := 0
      coordinatorPeakBytes := 0
      referenceFullScans := snapshot.referenceFullScans
      targetFullScans := snapshot.targetFullScans
      elapsedMilliseconds := snapshot.elapsedMilliseconds }
  anomalies := []
  foundRecords := 0
  foundBytes := 0
  retainedBytes := 0
  retentionOpen := true

/-- `ConsistencyStatus` of the two contexts of the comparison. -/
def contextConsistency (sources : Sources budgets) (stableReads : ConsistencyLevel) :
    Except Refusal ConsistencyStatus :=
  ConsistencyStatus.make stableReads .verified
    [sources.contextId .reference, sources.contextId .target]

/-- `_completed_structural_artifact`. -/
def completedStructuralArtifact (inputs : ComparisonInputs Body) (sources : Sources budgets)
    (reference target : KeySummary) (usage : Usage) (reason : ResultReason) :
    Engine budgets Body CompletedStructuralComparisonArtifact := do
  let stableReads ← completedStableReadLevel sources
  let consistency ← liftRefusal (contextConsistency sources stableReads)
  liftRefusal (CompletedStructuralComparisonArtifact.make inputs.checkId inputs.contractDigest
    inputs.scopeDigest inputs.inputCutDigest consistency usage.metrics reason reference target
    usage.referenceFullScans usage.targetFullScans)

/-- Everything up to the verified key summaries. -/
def readSummaries (inputs : ComparisonInputs Body) (sources : Sources budgets)
    (maxEncodedRowBytes : ℕ) (progress : Progress Body) :
    Engine budgets Body (KeySummary × KeySummary × Progress Body) := do
  let referenceBytes := summaryBytes (sources.relation .reference)
  let targetBytes := summaryBytes (sources.relation .target)
  let summaryCoordinatorPeak := summaryPhaseMemoryBytes inputs.sizes budgets
    (sources.relation .reference) (sources.relation .target) referenceBytes targetBytes
  let usage := progress.usage.withCoordinatorPeak summaryCoordinatorPeak
  let progress := { progress with usage }
  yield progress
  requireFullScanCapacity (sources.relation .reference).physicalScanCount
    (sources.relation .target).physicalScanCount
  requireBudgetCapacity 4 4
    (referenceBytes + targetBytes + (sources.context .reference).sessionSetupRecordBytes
      + (sources.context .target).sessionSetupRecordBytes)
    summaryCoordinatorPeak
  let reference ← readIntegerKeySummary inputs sources .reference maxEncodedRowBytes
  requireDeadline sources
  let target ← readIntegerKeySummary inputs sources .target maxEncodedRowBytes
  let usage ← consumeSourceUsage sources usage 0 summaryCoordinatorPeak
  let progress := { progress with
    pending := [rootSegment reference target], summariesVerified := true, usage }
  yield progress
  return (reference, target, progress)

/-- The checks between the summaries and the work loop. -/
def checkComparable (inputs : ComparisonInputs Body) (reference target : KeySummary) :
    Except Cause Unit := do
  causeIf (inputs.assurancePolicy = .exactRequired)
    (unsupportedComparison
      "integer-range fingerprint comparison does not implement exact_required assurance")
  causeIf (¬ (reference.usableAccessPath = true ∧ target.usableAccessPath = true))
    (unsupportedComparison "integer-range comparison requires a confirmed leading, non-partial B-tree access path on both protected relations")

/-- The recorded segments in ascending sequence. -/
def orderedTopology (topology : List ComparisonSegmentRecord) : List ComparisonSegmentRecord :=
  topology.insertionSort fun a b => a.segmentSequence ≤ b.segmentSequence

/-- The counts of a finished loop: pruned rows are matched ones. -/
def Progress.completedCounts (progress : Progress Body) : ExactCounts where
  matched := progress.prunedMatched + progress.exactCounts.matched
  missing := progress.exactCounts.missing
  extra := progress.exactCounts.extra
  modified := progress.exactCounts.modified

/-- From the end of the work loop to the completed artifact. -/
def completeComparison (inputs : ComparisonInputs Body) (sources : Sources budgets)
    (reference target : KeySummary) (state : LoopState Body) :
    Engine budgets Body (CompletedComparisonArtifact inputs.recordBytes) := do
  let progress := state.progress
  let segments := orderedTopology progress.topology
  refuseWhen (segments.map (·.segmentSequence) ≠ List.range segments.length)
    (protocolViolation "comparison segment topology is not contiguous")
  let counts := progress.completedCounts
  let guarantee : Guarantee := if 0 < progress.prunedSegments then .fingerprint else .exact
  let totals ← liftRefusal (comparisonTotals counts guarantee)
  requireDeadline sources
  let usage ← consumeSourceUsage sources state.usage 0 state.usage.coordinatorPeakBytes
  let progress := { progress with usage }
  yield progress
  refuseWhen (progress.foundRecords ≠ counts.differences)
    (protocolViolation "retained evidence accounting differs from exact difference totals")
  let stableReads ← completedStableReadLevel sources
  let consistency ← liftRefusal (contextConsistency sources stableReads)
  let comparisonCoverage ← liftRefusal (ComparisonCoverage.make 1 1
    (progress.prunedSegments + progress.exactSegments) progress.prunedSegments
    progress.exactSegments 0 [])
  let evidenceCoverage ← liftRefusal (EvidenceCoverage.make progress.foundRecords
    progress.anomalies.length progress.foundBytes progress.retainedBytes)
  liftRefusal (CompletedComparisonArtifact.make inputs.recordBytes
    { checkId := inputs.checkId
      contractDigest := inputs.contractDigest
      scopeDigest := inputs.scopeDigest
      inputCutDigest := inputs.inputCutDigest
      verdict := if counts.differences = 0 then .match else .mismatch
      consistency
      guarantee
      comparisonCoverage
      totals
      evidenceCoverage
      metrics := usage.metrics
      reasons := comparisonReasons counts
      segments
      anomalies := progress.anomalies
      referenceKeySummary := reference
      targetKeySummary := target
      referenceFullScans := usage.referenceFullScans
      targetFullScans := usage.targetFullScans })

/-- `_execute_postgres_integer_key_comparison`. -/
def executePostgresIntegerKeyComparison (inputs : ComparisonInputs Body) (sources : Sources budgets)
    (progress : Progress Body) : Engine budgets Body (ComparisonOutcome inputs.recordBytes) := do
  let maxEncodedRowBytes ← lift (validateInputs inputs sources)
  requireDeadline sources
  let (reference, target, progress) ← readSummaries inputs sources maxEncodedRowBytes progress
  requireDeadline sources
  let contractViolationReason := structuralContractViolationReason reference target
  let usage := progress.usage
  refuseWhen (0 < reference.invalidKeyCount ∨ 0 < target.invalidKeyCount)
    { refusal :=
        { error := .comparisonKeyMappingError
          message := s!"scoped integer-key validation found physical values that cannot map losslessly to logical INT64: reference_invalid={reference.invalidKeyCount}, target_invalid={target.invalidKeyCount}" }
      completion := none
      keyMapping := some
        { referenceSummary := reference, targetSummary := target, metrics := usage.metrics
          referenceFullScans := usage.referenceFullScans
          targetFullScans := usage.targetFullScans, contractViolationReason } }
  match contractViolationReason with
  | some reason => do
    let usage ← consumeSourceUsage sources usage 0 usage.coordinatorPeakBytes
    yield { progress with usage }
    let artifact ← completedStructuralArtifact inputs sources reference target usage reason
    return .structural artifact
  | none => do
    lift (checkComparable inputs reference target)
    let state ← workLoop inputs sources maxEncodedRowBytes reference target
      (budgets.maxFingerprintNodes + 1)
      { pending := [rootSegment reference target], usage, progress }
    let artifact ← completeComparison inputs sources reference target state
    return .completed artifact

/-- The progress an attempt starts with. -/
def Sources.initialProgress (sources : Sources budgets) (Body : Type) : Progress Body :=
  initialComparisonProgress Body (sources.snapshot sources.start).1

/-- The generator's run as `execute_integer_key_comparison` starts it. -/
def comparisonRun (inputs : ComparisonInputs Body) (sources : Sources budgets) :
    Run (World budgets) (Progress Body) Cause (ComparisonOutcome inputs.recordBytes) :=
  executePostgresIntegerKeyComparison inputs sources (sources.initialProgress Body)
    (sources.snapshot sources.start).2

end ForensicData.Comparison
