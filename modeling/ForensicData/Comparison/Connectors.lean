/-
ForensicData.Comparison.Connectors — the two sources a comparison reads.

* Contexts and relations: what the coordinator knows of each engine before it
  reads (`ReadContext`, `Relation`) and the extra work some engines need.
* Readings: the three kinds of read. A connector may answer or fail in any way,
  and charges the ledger for its queries and records before it does; it is a
  parameter (`Sources`), so a result about every `Sources` is one about every
  sequence of replies, consistent or not.
* The world: what changes during a run. That is the ledger, the number of clock
  readings taken, and the replies received, oldest first.
-/
import ForensicData.Comparison.Segment
import ForensicData.Lib.Generator
import ForensicData.SourceBudget

namespace ForensicData.Comparison

open ForensicData.Canonical
open ForensicData.Result

/-! ## Contexts and relations -/

inductive MssqlRuntimeProfile where
  | mssql2016
  | mssql2022
  deriving DecidableEq, Repr

/-- `ComparisonReadContext`: the engine behind a protected read context. -/
inductive ReadContext where
  | postgres
  | mssql (runtimeProfile : MssqlRuntimeProfile)
  | greengage (primaryContentIds : List Int)
  | originalGreenplum (primaryContentIds : List Int)
  | clickHouse (consistencyLevel : ConsistencyLevel)
  deriving DecidableEq, Repr

/-- `ComparisonRelation`: the inspected relation of one side. -/
inductive Relation where
  | postgres (memberCount physicalScanCount : ℕ)
  | mssql (databaseId schemaId objectId : Int) (columnIds : List Int)
  | greengage (physicalScanCount : ℕ)
  | originalGreenplum (physicalScanCount : ℕ)
  | clickHouse (physicalScanCount : ℕ)
  deriving DecidableEq, Repr

/-- `_relation_member_count`. -/
def Relation.memberCount : Relation → ℕ
  | .postgres memberCount _ => memberCount
  | .mssql _ _ _ columnIds => 3 + columnIds.length
  | .greengage _ => 1
  | .originalGreenplum _ => 1
  | .clickHouse _ => 1

/-- `_aggregate_presence_bytes`, with `_HAS_DATA_BYTES = 1`. -/
def Relation.aggregatePresenceBytes : Relation → ℕ
  | .mssql _ _ _ _ => 1
  | _ => 0

/-- `_relation_physical_scan_count`. -/
def Relation.physicalScanCount : Relation → ℕ
  | .postgres _ physicalScanCount => physicalScanCount
  | .mssql _ _ _ _ => 1
  | .greengage physicalScanCount => physicalScanCount
  | .originalGreenplum physicalScanCount => physicalScanCount
  | .clickHouse physicalScanCount => physicalScanCount

/-- The work an engine adds to a fingerprint read to confirm its plan. -/
structure PlanReservation where
  additionalQueries : ℕ
  maxFetchedRecords : ℕ
  maxResultBytes : ℕ
  maxCoordinatorBytes : ℕ
  deriving DecidableEq, Repr

/-- What an engine adds to the rows of a fingerprint read. -/
structure ResultReservation where
  additionalResultBytes : ℕ
  additionalFieldsPerRecord : ℕ
  additionalAsciiValues : ℕ
  deriving DecidableEq, Repr

/-- `_session_setup_record_bytes`. -/
def ReadContext.sessionSetupRecordBytes : ReadContext → ℕ
  | .originalGreenplum _ => 256
  | _ => 128

/-- `_greenplum_fingerprint_plan_budget`. -/
def ReadContext.fingerprintPlanBudget (rangeCount : ℕ) : ReadContext → PlanReservation
  | .greengage _ =>
    { additionalQueries := 2
      maxFetchedRecords := 1024 + 1
      maxResultBytes := 256 * 1024 + 128
      maxCoordinatorBytes := 16 * (256 * 1024) + 512 * 1024 + 512 + 128 }
  | .originalGreenplum ids =>
    { additionalQueries := 4 * rangeCount - 2
      maxFetchedRecords := rangeCount * (50000 + 2) - 1
      maxResultBytes := rangeCount * (8 * 1024 * 1024 + 2 * 256)
        - (ReadContext.originalGreenplum ids).sessionSetupRecordBytes
      maxCoordinatorBytes := 8 * 1024 * 1024 + 50000 * 512 }
  | _ =>
    { additionalQueries := 0, maxFetchedRecords := 0, maxResultBytes := 0, maxCoordinatorBytes := 0 }

/-- `len(",".join(str(content_id) for content_id in ids).encode("ascii"))`. -/
def topologyBytes (ids : List Int) : ℕ :=
  (",".intercalate (ids.map toString)).length

/-- `_greenplum_fingerprint_result_budget`. -/
def ReadContext.fingerprintResultBudget (rangeCount : ℕ) : ReadContext → ResultReservation
  | .greengage ids =>
    { additionalResultBytes := rangeCount * (2 * topologyBytes ids)
      additionalFieldsPerRecord := 2
      additionalAsciiValues := 2 * rangeCount }
  | .originalGreenplum ids =>
    { additionalResultBytes := rangeCount * (2 * topologyBytes ids)
      additionalFieldsPerRecord := 2
      additionalAsciiValues := 2 * rangeCount }
  | _ => { additionalResultBytes := 0, additionalFieldsPerRecord := 0, additionalAsciiValues := 0 }

/-- `_fingerprint_full_scans`. -/
def ReadContext.fingerprintFullScans (rangeCount physicalScanCount : ℕ) : ReadContext → ℕ
  | .greengage _ => physicalScanCount
  | .clickHouse _ => physicalScanCount
  | _ => rangeCount * physicalScanCount

/-! ## Interruptions -/

inductive ClickHouseQueryCompletion where
  | notDispatched
  | serverTerminal
  | cancelled
  | unconfirmed
  deriving DecidableEq, Repr

/-- `PostgresIntegerKeySummary`, with its validated relations as fields. -/
structure KeySummary where
  rowCount : ℕ
  nullKeyCount : ℕ
  invalidKeyCount : ℕ
  validKeyCount : ℕ
  distinctKeyCount : ℕ
  minimumKey : Option Int
  maximumKey : Option Int
  usableAccessPath : Bool
  rows_le : rowCount ≤ int64Max
  rows_eq : rowCount = nullKeyCount + invalidKeyCount + validKeyCount
  distinct_le : distinctKeyCount ≤ validKeyCount
  empty : validKeyCount = 0 → minimumKey = none ∧ maximumKey = none
  bounded : validKeyCount ≠ 0 → ∃ minimum maximum, minimumKey = some minimum ∧
    maximumKey = some maximum ∧ IsInt64 minimum ∧ IsInt64 maximum ∧ minimum ≤ maximum

instance : DecidableEq KeySummary := fun a b =>
  decidable_of_iff (a.rowCount = b.rowCount ∧ a.nullKeyCount = b.nullKeyCount ∧
      a.invalidKeyCount = b.invalidKeyCount ∧ a.validKeyCount = b.validKeyCount ∧
      a.distinctKeyCount = b.distinctKeyCount ∧ a.minimumKey = b.minimumKey ∧
      a.maximumKey = b.maximumKey ∧ a.usableAccessPath = b.usableAccessPath)
    (by cases a; cases b; simp)

/-- What a `ComparisonKeyMappingError` carries. -/
structure KeyMappingFinding where
  referenceSummary : KeySummary
  targetSummary : KeySummary
  metrics : ResultMetrics
  referenceFullScans : ℕ
  targetFullScans : ℕ
  contractViolationReason : Option ResultReason
  deriving DecidableEq

/-- An exception that leaves the comparison. `completion` is set for the
ClickHouse errors that have one, `keyMapping` for a key-mapping error. -/
structure Cause where
  refusal : Refusal
  completion : Option ClickHouseQueryCompletion
  keyMapping : Option KeyMappingFinding
  deriving DecidableEq

def Cause.ofRefusal (refusal : Refusal) : Cause :=
  { refusal, completion := none, keyMapping := none }

def Cause.of (error : ErrorClass) (message : String) : Cause :=
  Cause.ofRefusal { error, message }

def protocolViolation (message : String) : Cause := Cause.of .comparisonProtocolError message

def comparisonBudgetExceeded (message : String) : Cause :=
  Cause.of .comparisonBudgetExceededError message

def unsupportedComparison (message : String) : Cause := Cause.of .unsupportedComparisonError message

/-! ## Requests and replies -/

/-- `PostgresIntegerRangeRequest`. -/
structure RangeRequest where
  segmentId : String
  lowerInclusive : Int
  upperExclusive : Option Int
  deriving DecidableEq, Repr

/-- `_segment_id`. -/
def segmentId (segmentSequence : ℕ) : String := "s" ++ toString segmentSequence

/-- `_range_request`. -/
def rangeRequest (segment : PendingSegment) : RangeRequest where
  segmentId := segmentId segment.segmentSequence
  lowerInclusive := segment.lowerInclusive
  upperExclusive := segment.upperExclusive

def RangeRequest.covers (request : RangeRequest) (key : Int) : Bool :=
  inRange request.lowerInclusive request.upperExclusive key

/-- `PostgresReadMetrics`. -/
structure ReadMetrics where
  fetchedRecords : ℕ
  resultBytes : ℕ
  deriving DecidableEq, Repr

/-- `PostgresRangeFingerprint`. -/
structure RangeFingerprint where
  segmentId : String
  fingerprint : Fingerprint
  rowEnvelopeBytes : ℕ
  keyEnvelopeBytes : ℕ
  deriving DecidableEq

/-- `PostgresRangeFingerprintRead`. -/
structure RangeFingerprintRead where
  ranges : List RangeFingerprint
  metrics : ReadMetrics
  deriving DecidableEq

/-- `PostgresIntegerExactRow`. -/
structure ExactRow where
  segmentId : String
  keyValue : Int
  keyEnvelope : Bytes
  rowEnvelope : Bytes
  values : List (Option DecodedValue)
  key_int64 : IsInt64 keyValue
  deriving DecidableEq

/-- `PostgresIntegerExactRowsRead`. -/
structure ExactRowsRead where
  rows : List ExactRow
  metrics : ReadMetrics
  deriving DecidableEq

/-- The arguments of a key-summary read. -/
structure SummaryRequest where
  keyFieldIndex : ℕ
  maxEncodedEnvelopeBytes : ℕ
  maxRecordBytes : ℕ
  maxTotalBytes : ℕ
  fullScans : ℕ
  deriving DecidableEq, Repr

/-- The arguments of a range-fingerprint read. -/
structure FingerprintRequest extends SummaryRequest where
  ranges : List RangeRequest
  deriving DecidableEq, Repr

/-- The arguments of an exact-row read. -/
structure RowsRequest extends FingerprintRequest where
  maxRecords : ℕ
  deriving DecidableEq, Repr

/-- One operation of a read on the ledger. -/
inductive Charge where
  | query (fullScans : ℕ)
  | records (recordBytes : List ℕ)
  | observedBytes (resultBytes : ℕ)
  deriving DecidableEq, Repr

/-- What a connector does with one request: its work, and its answer. -/
structure Reading (α : Type) where
  charges : List Charge
  answer : Except Cause α

/-- What the coordinator received. -/
inductive Reply where
  | summary (side : Side) (summary : KeySummary)
  | fingerprints (side : Side) (requests : List RangeRequest) (read : RangeFingerprintRead)
  | rows (side : Side) (requests : List RangeRequest) (read : ExactRowsRead)

variable {budgets : ExecutionBudgets}

/-- The clock, the ledger of the run when the attempt began, and the connectors,
which may answer each request by its number in the run. -/
structure Sources (budgets : ExecutionBudgets) where
  clock : ℕ → ℕ
  ledgerStartedNanoseconds : ℕ
  attemptStartedNanoseconds : ℕ
  baseline : SourceUsage budgets
  context : Side → ReadContext
  relation : Side → Relation
  contextId : Side → Uuid
  contextActive : ℕ → Side → Bool
  summary : ℕ → Side → SummaryRequest → Reading KeySummary
  fingerprints : ℕ → Side → FingerprintRequest → Reading RangeFingerprintRead
  rows : ℕ → Side → RowsRequest → Reading ExactRowsRead

/-- `PostgresSourceBudgetLedger.deadline_nanoseconds`. -/
def Sources.deadlineNanoseconds (sources : Sources budgets) : ℕ :=
  sources.ledgerStartedNanoseconds + budgets.runTimeoutMilliseconds * 1000000

/-- What changes while a comparison runs. -/
structure World (budgets : ExecutionBudgets) where
  usage : SourceUsage budgets
  clockReadings : ℕ
  replies : List Reply

/-- The world an attempt starts in. -/
def Sources.start (sources : Sources budgets) : World budgets where
  usage := sources.baseline
  clockReadings := 0
  replies := []

end ForensicData.Comparison
