/-
ForensicData.Persistence.DiffReading — publishing the anomalies of a result and
reading them back in pages.

`publishCompletedComparison` and `publishPartialComparison` are what publication
does to the tables a reader of a diff looks at. `readPostgresDiff` answers one
request: it closes the whole stored list to its manifest, reads one record more
than asked for, and hands out a cursor if it found it.
-/
import ForensicData.Persistence.Anomalies

namespace ForensicData.Persistence

open ForensicData.Canonical
open ForensicData.Comparison
open ForensicData.Contracts (storedIntegrity)
open ForensicData.Lib
open ForensicData.Reporting
open ForensicData.Result

variable {Topology : Type}

/-! ## Segments of anomalies -/

/-- `_validate_partial_anomaly_records`. -/
def validatePartialAnomalyRecords (frontier : PartialComparisonFrontier)
    (anomalies : List EvidenceRecord) : Except Refusal Unit :=
  anomalies.forM fun anomaly =>
    match frontier.topology.find? fun segment =>
      decide (segment.segmentSequence = anomaly.segmentSequence) with
    | none => raiseValueError "retained anomaly references an unknown partial segment"
    | some segment =>
      refuseIf (segment.state ≠ .exactMismatch)
        { error := .valueError
          message := "retained anomaly must belong to an exact-mismatch segment" }

/-! ## Publication -/

/-- No result and no anomaly of the attempt is stored: it is still running, as
all of them refer to the operation that ended it. -/
def DiffStore.attemptOpen (store : DiffStore) (runId attemptId : Uuid) : Bool :=
  (store.completed.all fun row =>
      decide (¬ (row.result.runId = runId ∧ row.result.attemptId = attemptId))) &&
    (store.partials.all fun row =>
      decide (¬ (row.result.runId = runId ∧ row.result.attemptId = attemptId))) &&
    store.anomalies.all fun row => decide (¬ (row.runId = runId ∧ row.attemptId = attemptId))

/-- The canonical size of a record. -/
def canonicalRecordSize (record : EvidenceRecord) : ℕ :=
  (canonicalDifferenceRecordBytes record).length

/-- The result as it is stored under an operation: confirmed, with the manifest
digest of its anomalies. -/
def StoredParent.stored (parent : StoredParent Topology) (operationId : Uuid)
    (manifestDigest : Bytes) : StoredParent Topology :=
  { parent with
    result := { parent.result with
      persistence :=
        { state := .confirmed, operationId := some operationId, reason := none, details := rfl } }
    manifestDigest := some manifestDigest }

/-- What both publications prepare before their transaction: the manifest digest
of the result and the rows of its anomalies. -/
def publishedAnomalies (sha256 : Sha256)
    (validateRecords : Topology → List EvidenceRecord → Except Refusal Unit)
    (parent : StoredParent Topology) (operationId : Uuid) (records : List EvidenceRecord) :
    Except Refusal (Bytes × List AnomalyRow) := do
  validateAnomalyCoverage canonicalRecordSize parent.result.evidenceCoverage records
  validateRecords parent.topology records
  let expectations ← anomalyExpectations sha256 (parent.identity operationId)
    (some parent.observationIds.1) (some parent.observationIds.2) records
  .ok
    (evidenceManifestDigest sha256 (expectations.map AnomalyExpectation.recordDigest),
      expectations.map (insertAnomaly (parent.identity operationId) parent.observationIds))

/-- The records against the evidence boundary that the store has for the result. -/
def requireEvidenceBoundary (sha256 : Sha256) (parent : StoredParent Topology)
    (records : List EvidenceRecord) : Except Refusal Unit := do
  let boundary ← parent.boundary
  validateAnomalyEvidenceBoundary sha256 records boundary

/-- The inserted result is read back before the commit: the ends of
`_completed_result_from_database` and `_partial_result_from_database`. -/
def requireReadBack (sha256 : Sha256) (modelValidateJson : String → Except Refusal EvidenceRecord)
    (store : DiffStore) (parent : StoredParent Topology) (operationId : Uuid)
    (records : List EvidenceRecord) (conflict : String) : Except Refusal Unit := do
  let anomalies ← anomaliesFromDatabase sha256 modelValidateJson store (parent.identity operationId)
    parent.observationIds parent.result.evidenceCoverage parent.manifestDigest
  refuseIf (anomalies ≠ records)
    { error := .lifecycleOperationConflictError, message := conflict }
  requireEvidenceBoundary sha256 parent anomalies
  parent.closure

/-- The checks of a new result row: the attempt has not ended, and the check is
named. -/
def requireResultRow (store : DiffStore) (result : RunResult) (message : String) :
    Except Refusal Unit := do
  refuseIf (store.attemptOpen result.runId result.attemptId = false)
    { error := .attemptFenceError, message }
  refuseIf (result.checkId = "")
    { error := .lifecycleTransactionError
      message := "PostgreSQL lifecycle transaction definitively failed" }

/-- A completed result and its anomalies are inserted. -/
def DiffStore.withCompleted (store : DiffStore)
    (stored : StoredParent (List IntegerRangeFingerprintPersistence)) (rows : List AnomalyRow) :
    DiffStore :=
  { store with
    completed := stored :: store.completed
    anomalies := rows ++ store.anomalies }

/-- A partial result and its anomalies are inserted. -/
def DiffStore.withPartial (store : DiffStore) (stored : StoredParent PartialComparisonFrontier)
    (rows : List AnomalyRow) : DiffStore :=
  { store with
    partials := stored :: store.partials
    anomalies := rows ++ store.anomalies }

/-- `_publish_completed_comparison_once`, as far as a diff shows it. -/
def publishCompletedComparison (sha256 : Sha256)
    (modelValidateJson : String → Except Refusal EvidenceRecord) (store : DiffStore)
    (parent : StoredParent (List IntegerRangeFingerprintPersistence)) (operationId : Uuid)
    (records : List EvidenceRecord) : Except Refusal DiffStore := do
  let (manifestDigest, rows) ← publishedAnomalies sha256
    (fun segments records => validateCompletedAnomalySegments records segments) parent operationId
    records
  store.requireCurrentSchema
  requireEvidenceBoundary sha256 parent records
  requireResultRow store parent.result
    "completed comparison attempt compare-and-set did not update"
  let stored := parent.stored operationId manifestDigest
  let after := store.withCompleted stored rows
  requireReadBack sha256 modelValidateJson after stored operationId records
    "completed comparison operation UUID is bound to different retained anomalies"
  .ok after

/-- The publication of a partial comparison, as far as a diff shows it. -/
def publishPartialComparison (sha256 : Sha256)
    (modelValidateJson : String → Except Refusal EvidenceRecord) (store : DiffStore)
    (parent : StoredParent PartialComparisonFrontier) (operationId : Uuid)
    (records : List EvidenceRecord) : Except Refusal DiffStore := do
  let (manifestDigest, rows) ← publishedAnomalies sha256 validatePartialAnomalyRecords parent
    operationId records
  store.requireCurrentSchema
  requireEvidenceBoundary sha256 parent records
  requireResultRow store parent.result "partial comparison attempt compare-and-set did not update"
  let stored := parent.stored operationId manifestDigest
  let after := store.withPartial stored rows
  requireReadBack sha256 modelValidateJson after stored operationId records
    "partial comparison operation UUID is bound to different retained anomalies"
  .ok after

/-! ## Pages -/

/-- `DiffCursor`. -/
structure DiffCursor where
  runId : Uuid
  attemptId : Uuid
  checkId : String
  resultOperationId : Uuid
  sequence : ℕ
  deriving DecidableEq

/-- `DiffCursor(...)`. -/
def DiffCursor.make (cursor : DiffCursor) : Except Refusal DiffCursor := do
  refuseIf (cursor.checkId = "") (modelValidation "String should have at least 1 character")
  .ok cursor

inductive DetailAvailability where
  | available
  | partiallyRetained
  | notRetained
  deriving DecidableEq, Repr

/-- `_detail_availability`. -/
def detailAvailability (foundRecords retainedRecords : ℕ) : DetailAvailability :=
  if foundRecords = retainedRecords then .available
  else if retainedRecords = 0 then .notRetained
  else .partiallyRetained

/-- `DIFF_PAGE_LIMIT_MAX`. -/
def diffPageLimitMax : ℕ := 100

/-- `DiffPage`. -/
structure DiffPage where
  runId : Uuid
  attemptId : Uuid
  requestedLimit : ℕ
  storedResult : RunResult
  comparisonContext : ComparisonContext
  detailAvailability : DetailAvailability
  foundRecords : ℕ
  retainedRecords : ℕ
  details : List EvidenceRecord
  nextCursor : Option DiffCursor

namespace DiffPage

/-- The loop of `validate_page` over the details. -/
def validateDetails (retainedRecords : ℕ) : Option ℕ → List EvidenceRecord → Except Refusal Unit
  | _, [] => .ok ()
  | previousSequence, detail :: details => do
    refuseIf (retainedRecords ≤ detail.sequence)
      (modelValidation "diff detail sequence exceeds retained evidence")
    refuseIf (previousSequence.any (fun previous => decide (detail.sequence ≠ previous + 1)) = true)
      (modelValidation "diff details must use contiguous ascending sequence order")
    validateDetails retainedRecords (some detail.sequence) details

/-- The part of `validate_page` about the next cursor. -/
def validateNextCursor (page : DiffPage) : Except Refusal Unit :=
  match page.nextCursor, page.details.getLast? with
  | some _, none => .error (modelValidation "empty diff page cannot have a next cursor")
  | some nextCursor, some last =>
    match page.storedResult.persistence.operationId with
    | none => .error (modelValidation "diff stored result requires a persistence operation identity")
    | some operationId => do
      let expectedCursor ← DiffCursor.make
        { runId := page.runId, attemptId := page.attemptId, checkId := page.storedResult.checkId
          resultOperationId := operationId, sequence := last.sequence }
      refuseIf (nextCursor ≠ expectedCursor)
        (modelValidation "diff next cursor must identify the final returned detail")
      refuseIf (page.retainedRecords ≤ last.sequence + 1)
        (modelValidation "diff page cannot continue past the retained evidence prefix")
  | none, some last =>
    refuseIf (last.sequence + 1 < page.retainedRecords)
      (modelValidation "diff page omits its required continuation cursor")
  | none, none => .ok ()

/-- `validate_page`. -/
def validatePage (page : DiffPage) : Except Refusal Unit := do
  refuseIf (¬ (page.runId = page.storedResult.runId ∧
      page.attemptId = page.storedResult.attemptId))
    (modelValidation "diff page identity differs from its stored result")
  refuseIf (page.foundRecords ≠ page.storedResult.evidenceCoverage.foundRecords)
    (modelValidation "diff found_records differs from stored evidence coverage")
  refuseIf (page.retainedRecords ≠ page.storedResult.evidenceCoverage.retainedRecords)
    (modelValidation "diff retained_records differs from stored evidence coverage")
  refuseIf (page.detailAvailability
      ≠ Persistence.detailAvailability page.storedResult.evidenceCoverage.foundRecords
        page.storedResult.evidenceCoverage.retainedRecords)
    (modelValidation "diff detail availability disagrees with stored evidence coverage")
  refuseIf (page.requestedLimit < page.details.length)
    (modelValidation "diff page contains more details than requested")
  validateDetails page.retainedRecords none page.details
  validateNextCursor page

/-- `DiffPage(...)`. -/
def make (page : DiffPage) : Except Refusal DiffPage := do
  refuseIf (page.requestedLimit < 1)
    (modelValidation "Input should be greater than or equal to 1")
  refuseIf (diffPageLimitMax < page.requestedLimit)
    (modelValidation s!"Input should be less than or equal to {diffPageLimitMax}")
  validatePage page
  .ok page

end DiffPage

/-! ## Reading a page -/

/-- The results of an attempt. -/
def resultsByAttempt (rows : List (StoredParent Topology)) (runId attemptId : Uuid) :
    List (StoredParent Topology) :=
  rows.filter fun row => decide (row.result.runId = runId ∧ row.result.attemptId = attemptId)

/-- The cursor of the page after the details, if a record more was found. -/
def nextDiffCursor (result : RunResult) (operationId : Uuid) (pageRecords : List EvidenceRecord)
    (limit : ℕ) : Except Refusal (Option DiffCursor) :=
  if limit < pageRecords.length then
    match (pageRecords.take limit).getLast? with
    | none => .error { error := .indexError, message := "tuple index out of range" }
    | some last => do
      let cursor ← DiffCursor.make
        { runId := result.runId, attemptId := result.attemptId, checkId := result.checkId
          resultOperationId := operationId, sequence := last.sequence }
      .ok (some cursor)
  else .ok none

/-- `_read_postgres_diff_once` from its result parent on. -/
def readDiffOf (sha256 : Sha256) (modelValidateJson : String → Except Refusal EvidenceRecord)
    (validateRecords : Topology → List EvidenceRecord → Except Refusal Unit) (store : DiffStore)
    (parent : StoredParent Topology) (limit : ℕ) (cursor : Option DiffCursor) :
    Except Refusal DiffPage :=
  let result := parent.result
  match result.persistence.operationId with
  | none => .error (storedIntegrity "stored result has no persistence operation id")
  | some operationId => do
    let identity := parent.identity operationId
    let coverage := result.evidenceCoverage
    anomalyManifestSummary sha256 store identity coverage parent.manifestDigest
    parent.closure
    refuseIf (cursor.any (fun cursor => decide (cursor.checkId ≠ result.checkId ∨
        cursor.resultOperationId ≠ operationId)) = true)
      { error := .valueError, message := "diff cursor belongs to a different immutable result" }
    let boundary ← parent.boundary
    let afterSequence : Int := (cursor.map fun cursor => (cursor.sequence : Int)).getD (-1)
    let pageRecords ← anomalyPage sha256 modelValidateJson store identity parent.observationIds
      afterSequence (limit + 1)
    validateRecords parent.topology pageRecords
    validateAnomalyEvidenceBoundary sha256 pageRecords boundary
    let nextCursor ← nextDiffCursor result operationId pageRecords limit
    (DiffPage.make
      { runId := result.runId, attemptId := result.attemptId, requestedLimit := limit
        storedResult := result, comparisonContext := boundary.context
        detailAvailability := detailAvailability coverage.foundRecords coverage.retainedRecords
        foundRecords := coverage.foundRecords, retainedRecords := coverage.retainedRecords
        details := pageRecords.take limit, nextCursor }).mapError fun refusal =>
      storedIntegrity s!"stored diff violates the public reporting protocol: reason={refusal.message}"

/-- `_read_postgres_diff_once`. -/
def readPostgresDiffOnce (sha256 : Sha256)
    (modelValidateJson : String → Except Refusal EvidenceRecord) (store : DiffStore)
    (runId attemptId : Uuid) (limit : ℕ) (cursor : Option DiffCursor) : Except Refusal DiffPage := do
  store.requireCurrentSchema
  let completedRows := resultsByAttempt store.completed runId attemptId
  let partialRows := resultsByAttempt store.partials runId attemptId
  refuseIf (completedRows.length + partialRows.length = 0)
    { error := .completedComparisonNotFoundError
      message := "comparison result does not exist for the requested run and attempt" }
  match completedRows, partialRows with
  | [row], [] =>
    readDiffOf sha256 modelValidateJson
      (fun segments records => validateCompletedAnomalySegments records segments) store row limit
      cursor
  | [], [row] =>
    readDiffOf sha256 modelValidateJson validatePartialAnomalyRecords store row limit cursor
  | _, _ =>
    .error (storedIntegrity
      "diff identity requires exactly one completed or partial result parent")

/-- `read_postgres_diff`. -/
def readPostgresDiff (sha256 : Sha256)
    (modelValidateJson : String → Except Refusal EvidenceRecord) (store : DiffStore)
    (runId attemptId : Uuid) (limit : ℕ) (cursor : Option DiffCursor) : Except Refusal DiffPage := do
  refuseIf (limit = 0)
    { error := .valueError, message := "diff page limit must be a positive exact integer" }
  refuseIf (diffPageLimitMax < limit)
    { error := .valueError, message := s!"diff page limit cannot exceed {diffPageLimitMax}" }
  refuseIf (cursor.any (fun cursor => decide (cursor.runId ≠ runId ∨
      cursor.attemptId ≠ attemptId)) = true)
    { error := .valueError, message := "diff cursor belongs to a different run or attempt" }
  readPostgresDiffOnce sha256 modelValidateJson store runId attemptId limit cursor

end ForensicData.Persistence
