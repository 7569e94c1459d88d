/-
ForensicData.Comparison.Planning — what the next read of a comparison may cost.

Before a level of ranges is fingerprinted, and before a frontier is read row by
row, the engine computes the records and bytes both sides may return and the
memory the coordinator needs meanwhile. The sizes `sys.getsizeof` reports
depend on the interpreter; they are the parameter `ObjectSizes`, and the
formulas over them are the source's.
-/
import Mathlib.Algebra.BigOperators.Group.List.Basic
import ForensicData.Comparison.Connectors

namespace ForensicData.Comparison

open ForensicData.Canonical
open ForensicData.Result

/-- `sys.getsizeof` of what the formulas count: a slotted object by its class, an
integer by its absolute value, and the empty containers. -/
structure ObjectSizes where
  pendingSegment : ℕ
  rangeRequest : ℕ
  fingerprintNode : ℕ
  segmentRecord : ℕ
  fingerprint : ℕ
  readMetrics : ℕ
  keySummary : ℕ
  keySummaryRead : ℕ
  rangeFingerprint : ℕ
  rangeFingerprintRead : ℕ
  exactRow : ℕ
  exactRowsRead : ℕ
  segmentState : ℕ
  boolean : ℕ
  decimalZero : ℕ
  integer : ℕ → ℕ
  pointer : ℕ
  emptyTuple : ℕ
  emptyList : ℕ
  emptyDict : ℕ
  dictEntry : ℕ
  asciiHeader : ℕ
  bytesHeader : ℕ

/-! ## Object memory -/

section Memory

variable (sizes : ObjectSizes) (budgets : ExecutionBudgets)

/-- `_tuple_storage_bytes`. -/
def tupleStorageBytes (itemCount : ℕ) : ℕ := sizes.emptyTuple + itemCount * sizes.pointer

/-- `_list_storage_bytes`. -/
def listStorageBytes (itemCount : ℕ) : ℕ :=
  if itemCount = 0 then sizes.emptyList
  else sizes.emptyList + (itemCount + itemCount / 8 + 6) * sizes.pointer

/-- `_dict_storage_bytes`. -/
def dictStorageBytes (itemCount : ℕ) : ℕ := sizes.emptyDict + itemCount * sizes.dictEntry

/-- `_maximum_integer_object_bytes`. -/
def maximumIntegerObjectBytes : ℕ :=
  [sizes.integer (2 ^ 63), sizes.integer int64Max, sizes.integer decimal38Max,
    sizes.integer budgets.maxApplicationResultBytes,
    sizes.integer budgets.maxCoordinatorMemoryBytes,
    sizes.integer budgets.maxFingerprintNodes].foldr max 0

/-- `_fingerprint_value_memory_bytes`. -/
def fingerprintValueMemoryBytes : ℕ :=
  sizes.fingerprint + tupleStorageBytes sizes 8 + sizes.integer int64Max
    + 8 * sizes.integer (int64Max * uint32Max)

/-- `_read_metrics_memory_bytes`. -/
def readMetricsMemoryBytes : ℕ :=
  sizes.readMetrics + 2 * maximumIntegerObjectBytes sizes budgets

/-- `_summary_parsed_side_memory_bytes`. -/
def summaryParsedSideMemoryBytes : ℕ :=
  sizes.keySummaryRead + sizes.keySummary + readMetricsMemoryBytes sizes budgets
    + 7 * maximumIntegerObjectBytes sizes budgets + sizes.boolean

/-- `_raw_rows_memory_bytes`. -/
def rawRowsMemoryBytes (recordCount fieldCount asciiValueCount integerValueCount resultBytes : ℕ) :
    ℕ :=
  listStorageBytes sizes recordCount + tupleStorageBytes sizes recordCount
    + recordCount * tupleStorageBytes sizes fieldCount + asciiValueCount * sizes.asciiHeader
    + integerValueCount * maximumIntegerObjectBytes sizes budgets + resultBytes

/-- `_summary_phase_memory_bytes`. -/
def summaryPhaseMemoryBytes (reference target : Relation)
    (referenceResultBytes targetResultBytes : ℕ) : ℕ :=
  let parsedSide := summaryParsedSideMemoryBytes sizes budgets
  let raw := fun (relation : Relation) (resultBytes : ℕ) =>
    rawRowsMemoryBytes sizes budgets 1 (relation.memberCount + 8 + relation.aggregatePresenceBytes)
      7 relation.memberCount resultBytes
  max (parsedSide + raw reference referenceResultBytes)
    (2 * parsedSide + raw target targetResultBytes)

/-- `_summary_pair_memory_bytes`. -/
def summaryPairMemoryBytes : ℕ := 2 * summaryParsedSideMemoryBytes sizes budgets

/-- `_topology_memory_bytes`. -/
def topologyMemoryBytes (nodeCount : ℕ) : ℕ :=
  nodeCount * (sizes.segmentRecord + 5 * maximumIntegerObjectBytes sizes budgets
      + 2 * fingerprintValueMemoryBytes sizes)
    + 2 * listStorageBytes sizes nodeCount + tupleStorageBytes sizes nodeCount + sizes.segmentState

/-- `_frontier_structure_memory_bytes`. -/
def frontierStructureMemoryBytes (segments : List PendingSegment) : ℕ :=
  let itemCount := segments.length
  let itemBytes := sizes.pendingSegment + sizes.rangeRequest + sizes.fingerprintNode
    + 5 * maximumIntegerObjectBytes sizes budgets + sizes.asciiHeader
  itemCount * itemBytes + (segments.map fun item => (segmentId item.segmentSequence).length).sum
    + 6 * tupleStorageBytes sizes itemCount + 2 * listStorageBytes sizes itemCount

/-- `_fingerprint_parsed_side_memory_bytes`. -/
def fingerprintParsedSideMemoryBytes (requests : List RangeRequest) : ℕ :=
  let itemCount := requests.length
  let parsedItemBytes := sizes.rangeFingerprint + fingerprintValueMemoryBytes sizes
    + 2 * maximumIntegerObjectBytes sizes budgets + sizes.asciiHeader
  sizes.rangeFingerprintRead + readMetricsMemoryBytes sizes budgets
    + listStorageBytes sizes itemCount + tupleStorageBytes sizes itemCount
    + itemCount * parsedItemBytes + (requests.map fun item => item.segmentId.length).sum

/-- `_fingerprint_phase_memory_bytes`; `fingerprintNodes` is what the run has
used so far. -/
def fingerprintPhaseMemoryBytes (fingerprintNodes : ℕ) (pending : List PendingSegment)
    (requests : List RangeRequest) (reference target : Relation)
    (referenceReservation targetReservation : ResultReservation)
    (referenceResultBytes targetResultBytes : ℕ) : ℕ :=
  let parsedSide := fingerprintParsedSideMemoryBytes sizes budgets requests
  let raw := fun (relation : Relation) (reservation : ResultReservation) (resultBytes : ℕ) =>
    rawRowsMemoryBytes sizes budgets requests.length
      (relation.memberCount + 14 + relation.aggregatePresenceBytes
        + reservation.additionalFieldsPerRecord)
      (14 * requests.length + reservation.additionalAsciiValues)
      (relation.memberCount * requests.length) resultBytes
  let retained := summaryPairMemoryBytes sizes budgets
    + topologyMemoryBytes sizes budgets fingerprintNodes
    + frontierStructureMemoryBytes sizes budgets pending
  let queryPeak := max (retained + parsedSide + raw reference referenceReservation referenceResultBytes)
    (retained + 2 * parsedSide + raw target targetReservation targetResultBytes)
  let projectedTopologyPeak := summaryPairMemoryBytes sizes budgets
    + topologyMemoryBytes sizes budgets (fingerprintNodes + pending.length)
    + frontierStructureMemoryBytes sizes budgets pending
  max queryPeak projectedTopologyPeak

end Memory

/-! ## Summary reads -/

/-- `_provenance_bytes`, with `_MAX_ROW_TYPE_OID_BYTES = 10`. -/
def provenanceBytes (memberCount : ℕ) : ℕ := memberCount * 10

/-- The bytes of one side's key summary, with `_SUMMARY_RECORD_BYTES = 136`. -/
def summaryBytes (relation : Relation) : ℕ :=
  136 + provenanceBytes relation.memberCount + relation.aggregatePresenceBytes

/-- `comparison_max_encoded_row_bytes`. -/
def comparisonMaxEncodedRowBytes (budgets : ExecutionBudgets) (memberCount : ℕ) :
    Except Cause ℕ :=
  let available := min budgets.maxApplicationResultBytes int64Max
  let reserved := 136 + (segmentId (budgets.maxFingerprintNodes - 1)).length + 2
    + provenanceBytes memberCount + 1
  if available < reserved + 1 then
    .error (comparisonBudgetExceeded
      "application-result budget cannot hold one canonical exact row")
  else .ok (available - reserved)

/-! ## Fingerprint levels -/

/-- `_FingerprintLevelPlan`. -/
structure FingerprintLevelPlan where
  requests : List RangeRequest
  payloadResultBytes : ℕ
  payloadRecordBytes : ℕ
  resultBytes : Side → ℕ
  fullScans : Side → ℕ
  coordinatorPeakBytes : ℕ

/-- `_fingerprint_record_bytes`. -/
def fingerprintRecordBytes (segmentId : String) : ℕ :=
  segmentId.length + 3 * 19 + 8 * 38 + 2 * 38

/-- `_plan_fingerprint_level`. -/
def planFingerprintLevel {budgets : ExecutionBudgets} (sizes : ObjectSizes)
    (sources : Sources budgets) (fingerprintNodes : ℕ) (pending : List PendingSegment) :
    Except Cause FingerprintLevelPlan :=
  if fingerprintNodes + pending.length > budgets.maxFingerprintNodes then
    .error (comparisonBudgetExceeded
      "next fingerprint level exceeds execution max_fingerprint_nodes")
  else
    let requests := pending.map rangeRequest
    let recordBytes := requests.map fun item => fingerprintRecordBytes item.segmentId
    let baseResultBytes := recordBytes.sum
    let reservation := fun side => (sources.context side).fingerprintResultBudget requests.length
    let resultBytes := fun side =>
      baseResultBytes
        + requests.length * (provenanceBytes (sources.relation side).memberCount
            + (sources.relation side).aggregatePresenceBytes)
        + (reservation side).additionalResultBytes
    .ok
      { requests
        payloadResultBytes := baseResultBytes
        payloadRecordBytes := recordBytes.foldr max 0
        resultBytes
        fullScans := fun side =>
          (sources.context side).fingerprintFullScans requests.length
            (sources.relation side).physicalScanCount
        coordinatorPeakBytes :=
          fingerprintPhaseMemoryBytes sizes budgets fingerprintNodes pending requests
            (sources.relation .reference) (sources.relation .target) (reservation .reference)
            (reservation .target) (resultBytes .reference) (resultBytes .target) }

/-! ## Exact frontiers -/

/-- `_FingerprintNode`. -/
structure FingerprintNode where
  segment : PendingSegment
  reference : RangeFingerprint
  target : RangeFingerprint
  deriving DecidableEq

/-- One side of the node. -/
def FingerprintNode.side (node : FingerprintNode) : Side → RangeFingerprint
  | .reference => node.reference
  | .target => node.target

/-- `_ExactSideReservation`. -/
structure ExactSideReservation where
  records : ℕ
  resultBytes : ℕ
  rawRecords : ℕ
  rawResultBytes : ℕ
  envelopeBytes : ℕ
  segmentIdentifierBytes : ℕ
  memberCount : ℕ
  fullScans : ℕ
  rawAsciiValueCount : ℕ
  rawIntegerValueCount : ℕ
  deriving DecidableEq, Repr

/-- `_reference_exact_frontier_bytes` and `_target_exact_frontier_bytes`, with
`_EXACT_STATUS_BYTES = 2`. -/
def exactFrontierBytes (items : List RangeFingerprint) : ℕ :=
  (items.map fun item => item.rowEnvelopeBytes + item.keyEnvelopeBytes
    + item.fingerprint.count * (item.segmentId.length + 2)).sum

/-- `_reference_exact_side_reservation` and `_target_exact_side_reservation`,
with `_HAS_DATA_BYTES = 1`. -/
def exactSideReservation (items : List RangeFingerprint) (memberCount physicalScanCount : ℕ) :
    ExactSideReservation :=
  let records := (items.map fun item => item.fingerprint.count).sum
  let resultBytes := exactFrontierBytes items
  let rawRecords := max 1 records
  { records
    resultBytes
    rawRecords
    rawResultBytes := resultBytes + rawRecords * (provenanceBytes memberCount + 1)
    envelopeBytes := (items.map fun item => item.rowEnvelopeBytes + item.keyEnvelopeBytes).sum
    segmentIdentifierBytes :=
      (items.map fun item => item.fingerprint.count * item.segmentId.length).sum
    memberCount
    fullScans := max 1 items.length * physicalScanCount
    rawAsciiValueCount := 3 * records
    rawIntegerValueCount := memberCount * rawRecords }

/-- `_mssql_2022_exact_side_reservation`. -/
def mssql2022ExactSideReservation (provenanceValues : List Int)
    (reservation : ExactSideReservation) : ExactSideReservation :=
  let provenanceBytes := (provenanceValues.map fun value => (toString value).length).sum
  { reservation with
    rawResultBytes := reservation.resultBytes + reservation.rawRecords * (provenanceBytes + 1) }

/-- `_greenplum_exact_side_reservation`, with `_MAX_INT64_TEXT_BYTES = 20`. -/
def greenplumExactSideReservation (keyEnvelopeBytes : ℕ) (reservation : ExactSideReservation) :
    ExactSideReservation :=
  { reservation with
    rawResultBytes := reservation.rawResultBytes - keyEnvelopeBytes + reservation.records * 20
    rawAsciiValueCount := 2 * reservation.records
    rawIntegerValueCount := reservation.memberCount * reservation.rawRecords + reservation.records }

/-- `_original_greenplum_exact_side_reservation`, with an empty witness of five
null bytes. -/
def originalGreenplumExactSideReservation (keyEnvelopeBytes : ℕ)
    (reservation : ExactSideReservation) : ExactSideReservation :=
  let adjusted := greenplumExactSideReservation keyEnvelopeBytes reservation
  if adjusted.records ≠ 0 then adjusted
  else { adjusted with rawResultBytes := adjusted.rawResultBytes + 5 }

/-- `_ExactFrontierReservation`. -/
structure ExactFrontierReservation where
  reference : ExactSideReservation
  target : ExactSideReservation
  setupResultBytes : ℕ
  coordinatorPeakBytes : ℕ

section ExactMemory

variable (sizes : ObjectSizes) (budgets : ExecutionBudgets)

/-- `_DECODE_FIELD_RESERVATION_BYTES`. -/
def decodeFieldReservationBytes : ℕ :=
  6 * sizes.pointer + sizes.asciiHeader + sizes.bytesHeader + sizes.decimalZero

/-- `_exact_parsed_side_memory_bytes`. -/
def exactParsedSideMemoryBytes (reservation : ExactSideReservation) (schemaFieldCount : ℕ) : ℕ :=
  let recordBytes := sizes.exactRow + maximumIntegerObjectBytes sizes budgets
    + 2 * sizes.bytesHeader + sizes.asciiHeader + tupleStorageBytes sizes schemaFieldCount
    + schemaFieldCount * decodeFieldReservationBytes sizes
  sizes.exactRowsRead + readMetricsMemoryBytes sizes budgets
    + listStorageBytes sizes reservation.records + tupleStorageBytes sizes reservation.records
    + reservation.records * recordBytes + reservation.envelopeBytes
    + reservation.segmentIdentifierBytes

/-- `_exact_raw_side_memory_bytes`. -/
def exactRawSideMemoryBytes (reservation : ExactSideReservation) : ℕ :=
  rawRowsMemoryBytes sizes budgets reservation.rawRecords (reservation.memberCount + 6)
    reservation.rawAsciiValueCount reservation.rawIntegerValueCount reservation.rawResultBytes

/-- `_exact_decode_scratch_bytes`. -/
def exactDecodeScratchBytes (reservation : ExactSideReservation)
    (maxEncodedRowBytes schemaFieldCount : ℕ) : ℕ :=
  if reservation.records = 0 then 0
  else 6 * min reservation.envelopeBytes (maxEncodedRowBytes + 136)
    + schemaFieldCount * decodeFieldReservationBytes sizes

/-- `_exact_grouping_memory_bytes`. -/
def exactGroupingMemoryBytes (reservation : ExactSideReservation) (segmentCount : ℕ) : ℕ :=
  2 * dictStorageBytes sizes segmentCount + segmentCount * (sizes.emptyList + sizes.emptyTuple)
    + 3 * reservation.records * sizes.pointer

end ExactMemory

/-- The engine's own adjustment of a side reservation. Each is applied to one
side only: SQL Server 2022 and original Greenplum sources are references there,
Greengage sources targets. -/
def adjustExactReservation (context : ReadContext) (relation : Relation) (side : Side)
    (items : List RangeFingerprint) (reservation : ExactSideReservation) :
    Except Cause ExactSideReservation :=
  let keyEnvelopeBytes := (items.map fun item => item.keyEnvelopeBytes).sum
  match context, side with
  | .clickHouse _, _ => .ok { reservation with fullScans := relation.physicalScanCount }
  | .mssql .mssql2022, .reference =>
    match relation with
    | .mssql databaseId schemaId objectId columnIds =>
      .ok (mssql2022ExactSideReservation (databaseId :: schemaId :: objectId :: columnIds)
        reservation)
    | _ =>
      .error (protocolViolation
        "SQL Server exact reservation received a relation from another engine")
  | .originalGreenplum _, .reference =>
    .ok (originalGreenplumExactSideReservation keyEnvelopeBytes reservation)
  | .greengage _, .target => .ok (greenplumExactSideReservation keyEnvelopeBytes reservation)
  | _, _ => .ok reservation

/-- `_exact_frontier_reservation`. -/
def exactFrontierReservation {budgets : ExecutionBudgets} (sizes : ObjectSizes)
    (sources : Sources budgets) (fingerprintNodes maxEncodedRowBytes schemaFieldCount : ℕ)
    (nodes : List FingerprintNode) : Except Cause ExactFrontierReservation := do
  let reserve := fun side =>
    adjustExactReservation (sources.context side) (sources.relation side) side
      (nodes.map fun node => node.side side)
      (exactSideReservation (nodes.map fun node => node.side side)
        (sources.relation side).memberCount (sources.relation side).physicalScanCount)
  let reference ← reserve .reference
  let target ← reserve .target
  let referenceParsed := exactParsedSideMemoryBytes sizes budgets reference schemaFieldCount
  let targetParsed := exactParsedSideMemoryBytes sizes budgets target schemaFieldCount
  let retained := summaryPairMemoryBytes sizes budgets
    + topologyMemoryBytes sizes budgets fingerprintNodes
    + frontierStructureMemoryBytes sizes budgets (nodes.map fun node => node.segment)
  let referenceQueryPeak := retained + exactRawSideMemoryBytes sizes budgets reference
    + referenceParsed + exactDecodeScratchBytes sizes reference maxEncodedRowBytes schemaFieldCount
  let targetQueryPeak := retained + referenceParsed + exactRawSideMemoryBytes sizes budgets target
    + targetParsed + exactDecodeScratchBytes sizes target maxEncodedRowBytes schemaFieldCount
  let groupingPeak := retained + referenceParsed + targetParsed
    + exactGroupingMemoryBytes sizes reference nodes.length
    + exactGroupingMemoryBytes sizes target nodes.length
  return { reference, target
           setupResultBytes := (sources.context .reference).sessionSetupRecordBytes
             + (sources.context .target).sessionSetupRecordBytes
           coordinatorPeakBytes := max (max referenceQueryPeak targetQueryPeak) groupingPeak }

end ForensicData.Comparison
