/-
ForensicData.Persistence.Anomalies — the retained differences of a result, as
the metadata store has them.

Publication computes a row for every record (`anomalyExpectations`,
`insertAnomaly`) and one digest over the digests of all of them
(`evidenceManifestDigest`). A reader computes that digest again while it
streams the rows (`anomalyManifestSummary`) and reads the records of a page
back from their rows (`anomalyPage`). `DiffStore` is what it reads of the
store; the outcomes of the checks that look neither at the anomalies nor at
the request are part of a stored parent.
-/
import ForensicData.Application.Reasons
import ForensicData.Persistence.EvidenceBoundary
import ForensicData.Persistence.Publication
import ForensicData.Result.RunResult

namespace ForensicData.Persistence

open ForensicData.Application (uuidText PlanDirection)
open ForensicData.Canonical
open ForensicData.Comparison
open ForensicData.Contracts (storedIntegrity)
open ForensicData.Lib
open ForensicData.Reporting
open ForensicData.Result

/-! ## Expectations -/

/-- `semantic_digest_hex`. -/
def semanticDigestHex (sha256 : Sha256) (value : Json) : Sha256Hex :=
  hexDigest sha256 (utf8Encode (canonicalJson value))

/-- `bytes.fromhex`. -/
def fromHex (digest : Sha256Hex) : Bytes := hexBytes digest.1.toList

/-- `.hex()`. -/
def toHex (digest : Bytes) : String := String.ofList (hexText digest)

/-- `_AnomalyExpectation`. -/
structure AnomalyExpectation where
  record : EvidenceRecord
  payloadJson : String
  payloadDigest : Bytes
  payloadByteLength : ℕ
  recordDigest : Bytes
  deriving DecidableEq

/-- The identity of the result whose anomalies are stored. -/
structure AnomalyParent where
  runId : Uuid
  attemptId : Uuid
  checkId : String
  operationId : Uuid
  deriving DecidableEq

def optionalUuid : Option Uuid → Json
  | none => .null
  | some id => .string (uuidText id)

/-- The value whose digest a row carries as `record_digest`. -/
def anomalyRecordValue (parent : AnomalyParent) (referenceObservationId targetObservationId :
    Option Uuid) (payloadDigest : Bytes) (payloadByteLength : ℕ) (record : EvidenceRecord) : Json :=
  .object
    [("attempt_id", .string (uuidText parent.attemptId)),
     ("check_id", .string parent.checkId),
     ("end_operation_id", .string (uuidText parent.operationId)),
     ("key_digest", EvidenceFieldValue.optionalText (record.body.keyDigest.map Subtype.val)),
     ("kind", .string record.kind.value),
     ("payload_byte_length", .int payloadByteLength),
     ("payload_digest", .string (toHex payloadDigest)),
     ("record_version", .int 1),
     ("reference_direction", .string PlanDirection.reference.value),
     ("reference_observation_id", optionalUuid referenceObservationId),
     ("run_id", .string (uuidText parent.runId)),
     ("segment_sequence", .int record.segmentSequence),
     ("sequence", .int record.sequence),
     ("target_direction", .string PlanDirection.target.value),
     ("target_observation_id", optionalUuid targetObservationId)]

/-- One round of `_anomaly_expectations`. -/
def anomalyExpectation (sha256 : Sha256) (parent : AnomalyParent)
    (referenceObservationId targetObservationId : Option Uuid) (record : EvidenceRecord) :
    AnomalyExpectation :=
  let payloadJson := canonicalJson (dumpRecord record)
  let payloadBytes := canonicalDifferenceRecordBytes record
  let payloadDigest := fromHex (semanticDigestHex sha256 (dumpRecord record))
  { record, payloadJson, payloadDigest
    payloadByteLength := payloadBytes.length
    recordDigest := fromHex (semanticDigestHex sha256 (anomalyRecordValue parent
      referenceObservationId targetObservationId payloadDigest payloadBytes.length record)) }

/-- `_anomaly_expectations`. -/
def anomalyExpectations (sha256 : Sha256) (parent : AnomalyParent)
    (referenceObservationId targetObservationId : Option Uuid) (records : List EvidenceRecord) :
    Except Refusal (List AnomalyExpectation) := do
  refuseIf (records ≠ [] ∧ (referenceObservationId = none ∨ targetObservationId = none))
    { error := .valueError, message := "retained anomalies require an exact observation pair" }
  .ok (records.map (anomalyExpectation sha256 parent referenceObservationId targetObservationId))

/-- The value `_evidence_manifest_digest` digests. -/
def evidenceManifest (recordDigests : List Bytes) : Json :=
  .object
    [("manifest_version", .int 1),
     ("record_digests", .array (recordDigests.map fun digest => .string (toHex digest)))]

/-- `_evidence_manifest_digest`, of the digests of the records. -/
def evidenceManifestDigest (sha256 : Sha256) (recordDigests : List Bytes) : Bytes :=
  fromHex (semanticDigestHex sha256 (evidenceManifest recordDigests))

/-! ## Rows -/

/-- A row of `dfe_metadata.anomalies`; the payload is the canonical text of its
`jsonb` value. -/
structure AnomalyRow where
  runId : Uuid
  attemptId : Uuid
  checkId : String
  endOperationId : Uuid
  anomalySequence : ℕ
  segmentSequence : ℕ
  anomalyKind : String
  keyDigest : Option Bytes
  referenceObservationId : Uuid
  referenceDirection : String
  targetObservationId : Uuid
  targetDirection : String
  evidencePayload : String
  payloadDigest : Bytes
  payloadByteLength : ℕ
  recordDigest : Bytes
  deriving DecidableEq

/-- `_insert_anomaly`: the row that is inserted. -/
def insertAnomaly (parent : AnomalyParent) (observationIds : Uuid × Uuid)
    (anomaly : AnomalyExpectation) : AnomalyRow where
  runId := parent.runId
  attemptId := parent.attemptId
  checkId := parent.checkId
  endOperationId := parent.operationId
  anomalySequence := anomaly.record.sequence
  segmentSequence := anomaly.record.segmentSequence
  anomalyKind := anomaly.record.kind.value
  keyDigest := anomaly.record.body.keyDigest.map fromHex
  referenceObservationId := observationIds.1
  referenceDirection := "reference"
  targetObservationId := observationIds.2
  targetDirection := "target"
  evidencePayload := anomaly.payloadJson
  payloadDigest := anomaly.payloadDigest
  payloadByteLength := anomaly.payloadByteLength
  recordDigest := anomaly.recordDigest

/-- The columns that `_anomaly_from_row` compares. -/
structure AnomalyClosure where
  parent : AnomalyParent
  sequence : ℕ
  segmentSequence : ℕ
  kind : String
  keyDigest : Option String
  reference : Uuid × String
  target : Uuid × String
  payloadDigest : Bytes
  payloadByteLength : ℕ
  recordDigest : Bytes
  deriving DecidableEq

/-- `actual_closure`. -/
def AnomalyRow.closure (row : AnomalyRow) : AnomalyClosure where
  parent :=
    { runId := row.runId, attemptId := row.attemptId, checkId := row.checkId
      operationId := row.endOperationId }
  sequence := row.anomalySequence
  segmentSequence := row.segmentSequence
  kind := row.anomalyKind
  keyDigest := row.keyDigest.map toHex
  reference := (row.referenceObservationId, row.referenceDirection)
  target := (row.targetObservationId, row.targetDirection)
  payloadDigest := row.payloadDigest
  payloadByteLength := row.payloadByteLength
  recordDigest := row.recordDigest

/-- `expected_closure`. -/
def AnomalyExpectation.closure (parent : AnomalyParent) (observationIds : Uuid × Uuid)
    (expected : AnomalyExpectation) : AnomalyClosure where
  parent
  sequence := expected.record.sequence
  segmentSequence := expected.record.segmentSequence
  kind := expected.record.kind.value
  keyDigest := expected.record.body.keyDigest.map Subtype.val
  reference := (observationIds.1, PlanDirection.reference.value)
  target := (observationIds.2, PlanDirection.target.value)
  payloadDigest := expected.payloadDigest
  payloadByteLength := expected.payloadByteLength
  recordDigest := expected.recordDigest

/-- `_anomaly_from_row`; `modelValidateJson` is
`DifferenceRecord.model_validate_json`. -/
def anomalyFromRow (sha256 : Sha256) (modelValidateJson : String → Except Refusal EvidenceRecord)
    (parent : AnomalyParent) (observationIds : Uuid × Uuid) (row : AnomalyRow) :
    Except Refusal AnomalyExpectation := do
  let record ← (modelValidateJson row.evidencePayload).mapError fun refusal => storedIntegrity
    s!"stored anomaly violates the public evidence protocol: reason={refusal.message}"
  refuseIf (canonicalJson (dumpRecord record) ≠ row.evidencePayload)
    (storedIntegrity
      "stored anomaly payload contains unsupported or non-round-trippable fields")
  let expected := anomalyExpectation sha256 parent (some observationIds.1) (some observationIds.2)
    record
  refuseIf (row.closure ≠ expected.closure parent observationIds)
    (storedIntegrity
      "stored anomaly columns differ from its canonical evidence payload and closure")
  .ok expected

/-! ## What is read of the store -/

/-- A row of `check_results` or of `partial_check_results`: the result and the
observations it was published with, its manifest digest, and how the checks of
its own closure and of its evidence boundary turn out. -/
structure StoredParent (Topology : Type) where
  result : RunResult
  observationIds : Uuid × Uuid
  topology : Topology
  manifestDigest : Option Bytes
  closure : Except Refusal Unit
  boundary : Except Refusal ComparisonEvidenceBoundary

/-- The identity under which its anomalies are stored. -/
def StoredParent.identity {Topology : Type} (parent : StoredParent Topology) (operationId : Uuid) :
    AnomalyParent :=
  { runId := parent.result.runId, attemptId := parent.result.attemptId
    checkId := parent.result.checkId, operationId }

structure DiffStore where
  requireCurrentSchema : Except Refusal Unit
  completed : List (StoredParent (List IntegerRangeFingerprintPersistence))
  partials : List (StoredParent PartialComparisonFrontier)
  anomalies : List AnomalyRow

/-- The identities that both result tables hold. -/
def DiffStore.parents (store : DiffStore) : List AnomalyParent :=
  let identities := fun {Topology : Type} (rows : List (StoredParent Topology)) =>
    rows.filterMap fun row => row.result.persistence.operationId.map row.identity
  identities store.completed ++ identities store.partials

/-- `_require_attempt_anomaly_parent_closure`. -/
def requireAttemptAnomalyParentClosure (store : DiffStore) (runId attemptId : Uuid) :
    Except Refusal Unit :=
  refuseIf (∃ row ∈ store.anomalies, row.runId = runId ∧ row.attemptId = attemptId ∧
      store.parents.count { runId := row.runId, attemptId := row.attemptId
                            checkId := row.checkId, operationId := row.endOperationId } ≠ 1)
    (storedIntegrity "every anomaly must have exactly one completed or partial result parent")

/-- `_require_exact_result_parent`. -/
def requireExactResultParent (store : DiffStore) (parent : AnomalyParent) : Except Refusal Unit :=
  refuseIf (store.parents.count parent ≠ 1)
    (storedIntegrity "anomaly result identity requires exactly one completed or partial parent")

/-- The rows of a check of an attempt, `ORDER BY anomaly_sequence`. -/
def selectAnomalyRows (store : DiffStore) (parent : AnomalyParent) : List AnomalyRow :=
  (store.anomalies.filter fun row => decide (row.runId = parent.runId ∧
    row.attemptId = parent.attemptId ∧ row.checkId = parent.checkId)).insertionSort
      fun a b => a.anomalySequence ≤ b.anomalySequence

/-- `_select_anomaly_page_rows`. -/
def selectAnomalyPageRows (store : DiffStore) (parent : AnomalyParent) (afterSequence : Int)
    (limit : ℕ) : List AnomalyRow :=
  ((store.anomalies.filter fun row => decide (row.runId = parent.runId ∧
    row.attemptId = parent.attemptId ∧ row.checkId = parent.checkId ∧
    row.endOperationId = parent.operationId ∧ afterSequence < row.anomalySequence)).insertionSort
      fun a b => a.anomalySequence ≤ b.anomalySequence).take limit

/-- The part of `_anomalies_from_database` about stored coverage: the refusal of
`_validate_anomaly_coverage`, as one of the stored rows. -/
def requireStoredCoverage (coverage : EvidenceCoverage) (records : List EvidenceRecord) :
    Except Refusal Unit :=
  (validateAnomalyCoverage (fun record => (canonicalDifferenceRecordBytes record).length) coverage
    records).mapError fun refusal =>
      storedIntegrity s!"stored anomaly coverage is invalid: reason={refusal.message}"

/-- `_anomalies_from_database`. -/
def anomaliesFromDatabase (sha256 : Sha256)
    (modelValidateJson : String → Except Refusal EvidenceRecord) (store : DiffStore)
    (parent : AnomalyParent) (observationIds : Uuid × Uuid) (coverage : EvidenceCoverage)
    (manifestDigest : Option Bytes) : Except Refusal (List EvidenceRecord) := do
  requireAttemptAnomalyParentClosure store parent.runId parent.attemptId
  requireExactResultParent store parent
  let rows := selectAnomalyRows store parent
  match manifestDigest with
  | none => do
    refuseIf (rows ≠ [])
      (storedIntegrity "historical result without an evidence manifest contains anomaly rows")
    refuseIf (coverage.retainedRecords ≠ 0 ∨ coverage.retainedBytes ≠ 0)
      (storedIntegrity "historical result without an evidence manifest claims retained evidence")
    .ok []
  | some digest => do
    refuseIf (digest.length ≠ 32)
      (storedIntegrity "stored evidence manifest digest is not SHA-256")
    let expectations ← rows.mapM (anomalyFromRow sha256 modelValidateJson parent observationIds)
    let records := expectations.map AnomalyExpectation.record
    requireStoredCoverage coverage records
    refuseIf (evidenceManifestDigest sha256 (expectations.map AnomalyExpectation.recordDigest)
        ≠ digest)
      (storedIntegrity
        "stored anomaly record digests do not close to the evidence manifest")
    .ok records

/-! ## The streamed manifest -/

/-- The locals of the loop: the bytes the digest was updated with and the two
counters. -/
structure ManifestStream where
  digested : Bytes
  retainedRecords : ℕ
  retainedBytes : ℕ

def ManifestStream.start : ManifestStream where
  digested := asciiBytes "\x7b\"manifest_version\":1,\"record_digests\":[".toList
  retainedRecords := 0
  retainedBytes := 0

/-- One round of the loop of `_anomaly_manifest_summary_from_database`. -/
def manifestStep (operationId : Uuid) (stream : ManifestStream) (row : AnomalyRow) :
    Except Refusal ManifestStream := do
  refuseIf (row.anomalySequence ≠ stream.retainedRecords)
    (storedIntegrity "stored anomaly manifest sequences are not contiguous from zero")
  refuseIf (row.payloadByteLength = 0)
    (storedIntegrity "stored anomaly manifest contains a nonpositive payload length")
  refuseIf (row.recordDigest.length ≠ 32)
    (storedIntegrity "stored anomaly manifest contains a non-SHA-256 record digest")
  refuseIf (row.endOperationId ≠ operationId)
    (storedIntegrity "stored anomaly manifest contains a different result operation identity")
  let separator := if stream.retainedRecords = 0 then [] else asciiBytes [',']
  .ok
    { digested := stream.digested ++ separator ++ asciiBytes ['"']
        ++ asciiBytes (hexText row.recordDigest) ++ asciiBytes ['"']
      retainedRecords := stream.retainedRecords + 1
      retainedBytes := stream.retainedBytes + row.payloadByteLength }

/-- `digest.digest()`, after the closing brackets. -/
def ManifestStream.digest (sha256 : Sha256) (stream : ManifestStream) : Bytes :=
  sha256.digest (stream.digested ++ asciiBytes "]\x7d".toList)

/-- The end of `_anomaly_manifest_summary_from_database`: the stream against the
stored manifest digest. -/
def requireManifest (sha256 : Sha256) (stream : ManifestStream) :
    Option Bytes → Except Refusal Unit
  | none =>
    refuseIf (stream.retainedRecords ≠ 0)
      (storedIntegrity "historical result without an evidence manifest contains anomaly rows")
  | some manifestDigest => do
    refuseIf (manifestDigest.length ≠ 32)
      (storedIntegrity "stored evidence manifest digest is not SHA-256")
    refuseIf (stream.digest sha256 ≠ manifestDigest)
      (storedIntegrity
        "stored anomaly record digests do not close to the evidence manifest")

/-- `_anomaly_manifest_summary_from_database`, without the summary that its
caller drops. -/
def anomalyManifestSummary (sha256 : Sha256) (store : DiffStore) (parent : AnomalyParent)
    (coverage : EvidenceCoverage) (manifestDigest : Option Bytes) : Except Refusal Unit := do
  requireAttemptAnomalyParentClosure store parent.runId parent.attemptId
  requireExactResultParent store parent
  let stream ← (selectAnomalyRows store parent).foldlM (manifestStep parent.operationId)
    ManifestStream.start
  refuseIf (stream.retainedRecords ≠ coverage.retainedRecords ∨
      stream.retainedBytes ≠ coverage.retainedBytes)
    (storedIntegrity
      "stored anomaly manifest counts or bytes differ from evidence coverage")
  requireManifest sha256 stream manifestDigest

/-- `_anomaly_page_from_database`. -/
def anomalyPage (sha256 : Sha256) (modelValidateJson : String → Except Refusal EvidenceRecord)
    (store : DiffStore) (parent : AnomalyParent) (observationIds : Uuid × Uuid)
    (afterSequence : Int) (limit : ℕ) : Except Refusal (List EvidenceRecord) := do
  let expectations ← (selectAnomalyPageRows store parent afterSequence limit).mapM
    (anomalyFromRow sha256 modelValidateJson parent observationIds)
  let records := expectations.map AnomalyExpectation.record
  refuseIf (∃ first, records.head? = some first ∧ (first.sequence : Int) ≠ afterSequence + 1)
    (storedIntegrity
      "stored anomaly keyset page does not begin at the next retained sequence")
  refuseIf (records.map (fun record => (record.sequence : Int))
      ≠ (List.range records.length).map fun offset : ℕ => afterSequence + 1 + (offset : Int))
    (storedIntegrity
      "stored anomaly keyset page is not contiguous in ascending sequence order")
  .ok records

end ForensicData.Persistence
