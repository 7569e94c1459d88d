/-
ForensicData.Persistence.DiffTheorems — the stored list of a published result.

`Published` is what publication leaves behind of a result. Under it the stored
rows in order are those that were published (`Published.selectAnomalyRows_eq`),
they close to the manifest (`Published.anomalyManifestSummary_eq`), a page of
them is read back as the records (`Published.anomalyPage_eq`) and passes the
checks of a page (`Published.make_pageAt`).
-/
import ForensicData.Lib.KeyedList
import ForensicData.Lib.Paging
import ForensicData.Persistence.ManifestTheorems

namespace ForensicData.Persistence

open ForensicData.Canonical
open ForensicData.Comparison
open ForensicData.Lib
open ForensicData.Reporting
open ForensicData.Result

variable {Topology : Type} {sha256 : Sha256}
  {modelValidateJson : String → Except Refusal EvidenceRecord}
  {validateRecords : Topology → List EvidenceRecord → Except Refusal Unit}
  {store : DiffStore} {parent : StoredParent Topology} {operationId : Uuid}
  {records : List EvidenceRecord}

/-! ## Checks of single records -/

/-- A check of records that looks at one record at a time: what passes, passes
in part. -/
def PassesInPart (check : List EvidenceRecord → Except Refusal Unit) : Prop :=
  ∀ records page, page ⊆ records → check records = .ok () → check page = .ok ()

theorem passesInPart_forM (check : EvidenceRecord → Except Refusal Unit) :
    PassesInPart fun records => records.forM check := by
  intro records page hpage h
  rw [forM_eq_ok] at h ⊢
  intro record hrecord
  exact h record (hpage hrecord)

theorem passesInPart_evidenceBoundary (boundary : ComparisonEvidenceBoundary) :
    PassesInPart fun records => validateAnomalyEvidenceBoundary sha256 records boundary := by
  intro records page hpage h
  simp only [validateAnomalyEvidenceBoundary] at h ⊢
  rw [bind_unit_eq_ok, bind_unit_eq_ok, bind_eq_ok] at h ⊢
  obtain ⟨hschema, hactions, key, hkey, hrecords⟩ := h
  exact ⟨passesInPart_forM _ records page hpage hschema, hactions, key, hkey,
    passesInPart_forM _ records page hpage hrecords⟩

/-! ## The rows of a published result -/

/-- The row that publication inserts for a record. -/
def publishedRow (sha256 : Sha256) (identity : AnomalyParent) (observationIds : Uuid × Uuid)
    (record : EvidenceRecord) : AnomalyRow :=
  insertAnomaly identity observationIds
    (anomalyExpectation sha256 identity (some observationIds.1) (some observationIds.2) record)

/-- The payloads of the records are read as the records. -/
def ReadsBack (modelValidateJson : String → Except Refusal EvidenceRecord)
    (records : List EvidenceRecord) : Prop :=
  ∀ record ∈ records, modelValidateJson (canonicalJson (dumpRecord record)) = .ok record

theorem closure_publishedRow (identity : AnomalyParent) (observationIds : Uuid × Uuid)
    (record : EvidenceRecord) :
    (publishedRow sha256 identity observationIds record).closure
      = (anomalyExpectation sha256 identity (some observationIds.1) (some observationIds.2)
          record).closure identity observationIds := by
  have hkey : (record.body.keyDigest.map fromHex).map toHex
      = record.body.keyDigest.map Subtype.val := by
    cases record.body.keyDigest with
    | none => rfl
    | some digest => simp
  simp only [AnomalyRow.closure, AnomalyExpectation.closure, publishedRow, insertAnomaly]
  congr 1

/-- A published row is read back as its record. -/
theorem anomalyFromRow_publishedRow {record : EvidenceRecord}
    (hreads : modelValidateJson (canonicalJson (dumpRecord record)) = .ok record)
    (identity : AnomalyParent) (observationIds : Uuid × Uuid) :
    anomalyFromRow sha256 modelValidateJson identity observationIds
        (publishedRow sha256 identity observationIds record)
      = .ok (anomalyExpectation sha256 identity (some observationIds.1) (some observationIds.2)
          record) := by
  have hpayload : (publishedRow sha256 identity observationIds record).evidencePayload
      = canonicalJson (dumpRecord record) := rfl
  simp only [anomalyFromRow, hpayload, hreads, Except.mapError, bind_eq_ok,
    Except.ok.injEq, refuseIf_eq_ok, not_not]
  exact ⟨record, rfl, (), rfl, (), closure_publishedRow identity observationIds record, rfl⟩

/-- A record has a payload. -/
theorem canonicalDifferenceRecordBytes_ne_nil (record : EvidenceRecord) :
    canonicalDifferenceRecordBytes record ≠ [] := by
  intro hnil
  have hempty : canonicalJson (dumpRecord record) = "" := utf8Encode_injective hnil
  rw [canonicalJson, String.ofList_eq_empty_iff] at hempty
  simp [dumpRecord, Json.render] at hempty

theorem streamsAt_publishedRow (identity : AnomalyParent) (observationIds : Uuid × Uuid)
    (record : EvidenceRecord) :
    StreamsAt identity.operationId record.sequence
      (publishedRow sha256 identity observationIds record) where
  sequence := rfl
  payload_pos := by
    intro hzero
    exact canonicalDifferenceRecordBytes_ne_nil record (List.length_eq_zero_iff.mp hzero)
  digest_length := length_fromHex_semanticDigestHex sha256 _
  operation := rfl

/-- The rows of numbered records are streamed. -/
theorem streamsFrom_publishedRows (identity : AnomalyParent) (observationIds : Uuid × Uuid)
    {records : List EvidenceRecord} {first : ℕ}
    (hnumbered : records.map (·.sequence) = List.range' first records.length) :
    StreamsFrom identity.operationId first
      (records.map (publishedRow sha256 identity observationIds)) := by
  induction records generalizing first with
  | nil => trivial
  | cons record records ih =>
    rw [List.map_cons, List.length_cons, List.range'_succ, List.cons.injEq] at hnumbered
    obtain ⟨hfirst, hrest⟩ := hnumbered
    refine ⟨?_, ih hrest⟩
    rw [← hfirst]
    exact streamsAt_publishedRow identity observationIds record

/-! ## A published result -/

/-- A result with its retained records, as it is stored. -/
structure Published (sha256 : Sha256)
    (validateRecords : Topology → List EvidenceRecord → Except Refusal Unit) (store : DiffStore)
    (parent : StoredParent Topology) (operationId : Uuid) (records : List EvidenceRecord) :
    Prop where
  operation : parent.result.persistence.operationId = some operationId
  named : parent.result.checkId ≠ ""
  coverage : validateAnomalyCoverage canonicalRecordSize parent.result.evidenceCoverage records
    = .ok ()
  segments : validateRecords parent.topology records = .ok ()
  boundary : ∃ boundary, parent.boundary = .ok boundary ∧
    validateAnomalyEvidenceBoundary sha256 records boundary = .ok ()
  manifest : parent.manifestDigest = some (evidenceManifestDigest sha256 (records.map fun record =>
    (publishedRow sha256 (parent.identity operationId) parent.observationIds record).recordDigest))
  rows : (store.anomalies.filter fun row => decide (row.runId = parent.result.runId ∧
      row.attemptId = parent.result.attemptId)).Perm
    (records.map (publishedRow sha256 (parent.identity operationId) parent.observationIds))
  only_parent : store.parents.count (parent.identity operationId) = 1

/-- What the coverage of a published result says. -/
structure Covers (coverage : EvidenceCoverage) (records : List EvidenceRecord) : Prop where
  numbered : records.map (·.sequence) = List.range records.length
  records_eq : coverage.retainedRecords = records.length
  bytes_eq : coverage.retainedBytes = (records.map canonicalRecordSize).sum

theorem validateAnomalyCoverage_eq_ok {coverage : EvidenceCoverage} :
    validateAnomalyCoverage canonicalRecordSize coverage records = .ok () ↔
      Covers coverage records := by
  simp only [validateAnomalyCoverage, bind_unit_eq_ok, refuseIf_eq_ok, not_not]
  exact ⟨fun h => ⟨h.1, h.2.1, h.2.2⟩, fun h => ⟨h.numbered, h.records_eq, h.bytes_eq⟩⟩

namespace Published

variable (h : Published sha256 validateRecords store parent operationId records)
include h

theorem covers : Covers parent.result.evidenceCoverage records :=
  validateAnomalyCoverage_eq_ok.mp h.coverage

/-- The rows in order. -/
theorem ascending : AscendingBy AnomalyRow.anomalySequence
    (records.map (publishedRow sha256 (parent.identity operationId) parent.observationIds)) := by
  have hnumbered := h.covers.numbered
  rw [AscendingBy, List.pairwise_map]
  change records.Pairwise fun a b => a.sequence < b.sequence
  rw [← List.pairwise_map (f := fun record : EvidenceRecord => record.sequence) (R := (· < ·)),
    hnumbered]
  exact List.pairwise_lt_range

/-- Any selection of the rows of the result is one of its published rows. -/
theorem selected_perm (test : AnomalyRow → Prop) [DecidablePred test] :
    (store.anomalies.filter fun row => decide (row.runId = parent.result.runId ∧
        row.attemptId = parent.result.attemptId ∧ test row)).Perm
      ((records.map (publishedRow sha256 (parent.identity operationId) parent.observationIds)).filter
        fun row => decide (test row)) := by
  have hfilter : (store.anomalies.filter fun row => decide (row.runId = parent.result.runId ∧
        row.attemptId = parent.result.attemptId ∧ test row))
      = (store.anomalies.filter fun row => decide (row.runId = parent.result.runId ∧
        row.attemptId = parent.result.attemptId)).filter fun row => decide (test row) := by
    rw [List.filter_filter]
    refine List.filter_congr fun row _ => ?_
    rw [← Bool.decide_and, decide_eq_decide]
    tauto
  rw [hfilter]
  exact h.rows.filter _

/-- The stored list is the published one. -/
theorem selectAnomalyRows_eq : selectAnomalyRows store (parent.identity operationId)
    = records.map (publishedRow sha256 (parent.identity operationId) parent.observationIds) := by
  refine h.ascending.insertionSort_eq ?_
  have hselected := h.selected_perm fun row => row.checkId = parent.result.checkId
  have hall : (records.map (publishedRow sha256 (parent.identity operationId)
        parent.observationIds)).filter (fun row => decide (row.checkId = parent.result.checkId))
      = records.map (publishedRow sha256 (parent.identity operationId) parent.observationIds) := by
    rw [List.filter_eq_self]
    intro row hrow
    obtain ⟨record, -, rfl⟩ := List.mem_map.mp hrow
    exact decide_eq_true rfl
  rw [hall] at hselected
  exact hselected

/-- The rows from a position on are those of the records from there. -/
theorem selectAnomalyPageRows_eq (position limit : ℕ) :
    selectAnomalyPageRows store (parent.identity operationId) ((position : Int) - 1) limit
      = ((records.drop position).take limit).map
          (publishedRow sha256 (parent.identity operationId) parent.observationIds) := by
  have hselected := h.selected_perm fun row => row.checkId = parent.result.checkId ∧
    row.endOperationId = operationId ∧ (position : Int) - 1 < row.anomalySequence
  have hdrop : (records.map (publishedRow sha256 (parent.identity operationId)
        parent.observationIds)).filter (fun row => decide (row.checkId = parent.result.checkId ∧
          row.endOperationId = operationId ∧ (position : Int) - 1 < row.anomalySequence))
      = (records.map (publishedRow sha256 (parent.identity operationId)
          parent.observationIds)).drop position := by
    have hnumbered : (records.map (publishedRow sha256 (parent.identity operationId)
          parent.observationIds)).map AnomalyRow.anomalySequence
        = List.range' 0 (records.map (publishedRow sha256 (parent.identity operationId)
          parent.observationIds)).length := by
      rw [List.map_map, List.length_map, ← List.range_eq_range', ← h.covers.numbered]
      rfl
    rw [← filter_above_eq_drop hnumbered]
    refine List.filter_congr fun row hrow => ?_
    obtain ⟨record, -, rfl⟩ := List.mem_map.mp hrow
    rw [decide_eq_decide]
    constructor
    · intro hrow
      omega
    · intro hrow
      exact ⟨rfl, rfl, by omega⟩
  rw [hdrop] at hselected
  have hascending : AscendingBy AnomalyRow.anomalySequence ((records.map (publishedRow sha256
      (parent.identity operationId) parent.observationIds)).drop position) :=
    h.ascending.sublist (List.drop_sublist _ _)
  have hsorted := hascending.insertionSort_eq hselected
  rw [List.map_take, List.map_drop, ← hsorted]
  rfl

/-- The stored list closes to the stored manifest. -/
theorem anomalyManifestSummary_eq :
    anomalyManifestSummary sha256 store (parent.identity operationId)
      parent.result.evidenceCoverage parent.manifestDigest = .ok () := by
  rw [anomalyManifestSummary_eq_ok]
  refine ⟨?_, ?_, ?_⟩
  · simp only [requireAttemptAnomalyParentClosure, refuseIf_eq_ok]
    rintro ⟨row, hrow, hrun, hattempt, hcount⟩
    have hmem : row ∈ records.map (publishedRow sha256 (parent.identity operationId)
        parent.observationIds) := by
      refine h.rows.subset (List.mem_filter.mpr ⟨hrow, ?_⟩)
      exact decide_eq_true ⟨hrun, hattempt⟩
    obtain ⟨record, -, rfl⟩ := List.mem_map.mp hmem
    exact hcount h.only_parent
  · simp only [requireExactResultParent, refuseIf_eq_ok, not_not]
    exact h.only_parent
  · have hrows := h.selectAnomalyRows_eq
    constructor
    · rw [hrows]
      refine streamsFrom_publishedRows _ _ ?_
      rw [h.covers.numbered, List.range_eq_range']
    · rw [hrows, List.length_map, h.covers.records_eq]
    · rw [hrows, h.covers.bytes_eq, List.map_map]
      rfl
    · intro digest hdigest
      rw [h.manifest, Option.mem_def, Option.some.injEq] at hdigest
      rw [← hdigest, hrows, List.map_map]
      rfl
    · intro hnone
      rw [h.manifest] at hnone
      cases hnone

/-- The records of a page are numbered from its position on. -/
theorem page_sequences (position limit : ℕ) :
    ((records.drop position).take limit).map (·.sequence)
      = List.range' position ((records.drop position).take limit).length := by
  rw [List.map_take, List.map_drop, h.covers.numbered, List.range_eq_range', List.drop_range',
    List.range'_eq_map_range, ← List.map_take, List.take_range, List.length_take,
    List.length_drop, List.range'_eq_map_range]
  simp

/-- A page read from the store is the next records. -/
theorem anomalyPage_eq (hreads : ReadsBack modelValidateJson records) (position limit : ℕ) :
    anomalyPage sha256 modelValidateJson store (parent.identity operationId) parent.observationIds
        ((position : Int) - 1) limit
      = .ok ((records.drop position).take limit) := by
  have hpage := h.page_sequences position limit
  have hpublic : ReadsBack modelValidateJson ((records.drop position).take limit) :=
    fun record hrecord => hreads record (List.mem_of_mem_drop (List.mem_of_mem_take hrecord))
  generalize hnext : (records.drop position).take limit = page at hpage hpublic
  have hrows : (page.map (publishedRow sha256 (parent.identity operationId)
        parent.observationIds)).mapM
      (anomalyFromRow sha256 modelValidateJson (parent.identity operationId) parent.observationIds)
      = .ok (page.map (anomalyExpectation sha256 (parent.identity operationId)
          (some parent.observationIds.1) (some parent.observationIds.2))) := by
    rw [mapM_eq_ok, List.forall₂_map_left_iff, List.forall₂_map_right_iff, List.forall₂_same]
    intro record hrecord
    exact anomalyFromRow_publishedRow (hpublic record hrecord) _ _
  have hrecords : (page.map (anomalyExpectation sha256 (parent.identity operationId)
      (some parent.observationIds.1) (some parent.observationIds.2))).map AnomalyExpectation.record
        = page := by
    rw [List.map_map]
    exact List.map_id'' (fun _ => rfl) page
  rw [anomalyPage, h.selectAnomalyPageRows_eq, hnext]
  simp only [hrows, bind_eq_ok, Except.ok.injEq, refuseIf_eq_ok, not_not]
  refine ⟨_, rfl, (), ?_, (), ?_, hrecords⟩
  · rw [hrecords]
    rintro ⟨first, hfirst, hsequence⟩
    cases page with
    | nil => cases hfirst
    | cons record page =>
      cases hfirst
      rw [List.map_cons, List.length_cons, List.range'_succ, List.cons.injEq] at hpage
      omega
  · rw [hrecords]
    rw [List.range'_eq_map_range] at hpage
    have hcast := congrArg (List.map fun n : ℕ => (n : Int)) hpage
    simp only [List.map_map] at hcast
    refine hcast.trans (List.map_congr_left fun offset _ => ?_)
    simp

end Published

/-! ## Pages -/

/-- Numbered details pass the checks of a page. -/
theorem validateDetails_eq_ok {retainedRecords first : ℕ} {previous : Option ℕ}
    {details : List EvidenceRecord}
    (hnumbered : details.map (·.sequence) = List.range' first details.length)
    (hprevious : ∀ sequence ∈ previous, first = sequence + 1)
    (hretained : first + details.length ≤ retainedRecords) :
    DiffPage.validateDetails retainedRecords previous details = .ok () := by
  induction details generalizing first previous with
  | nil => rfl
  | cons detail details ih =>
    rw [List.map_cons, List.length_cons, List.range'_succ, List.cons.injEq] at hnumbered
    obtain ⟨hfirst, hrest⟩ := hnumbered
    rw [List.length_cons] at hretained
    simp only [DiffPage.validateDetails, bind_unit_eq_ok, refuseIf_eq_ok]
    refine ⟨by omega, ?_, ih hrest ?_ (by omega)⟩
    · cases previous with
      | none => simp
      | some sequence => simp [hfirst, hprevious sequence rfl]
    · intro sequence hsequence
      rw [Option.mem_def, Option.some.injEq] at hsequence
      omega

/-- The last of numbered records. -/
theorem last_sequence {first : ℕ} {details : List EvidenceRecord} {last : EvidenceRecord}
    (hnumbered : details.map (·.sequence) = List.range' first details.length)
    (hlast : details.getLast? = some last) : last.sequence + 1 = first + details.length := by
  have hne : details.length ≠ 0 := by
    rintro hzero
    rw [List.length_eq_zero_iff] at hzero
    rw [hzero] at hlast
    cases hlast
  have hmap := congrArg List.getLast? hnumbered
  rw [List.getLast?_map, hlast, List.getLast?_range', if_neg hne] at hmap
  simp only [Option.map_some, Option.some.injEq] at hmap
  omega

/-- The cursor is one of the result. -/
def CursorOf (parent : StoredParent Topology) (operationId : Uuid) (cursor : Option DiffCursor) :
    Prop :=
  ∀ found ∈ cursor, found.runId = parent.result.runId ∧
    found.attemptId = parent.result.attemptId ∧ found.checkId = parent.result.checkId ∧
    found.resultOperationId = operationId

/-- How many records come before those a cursor asks for. -/
def positionOf (cursor : Option DiffCursor) : ℕ := (cursor.map fun found => found.sequence + 1).getD 0

/-- The cursor of the page after a position, if there are more records. -/
def cursorAt (parent : StoredParent Topology) (operationId : Uuid) (records : List EvidenceRecord)
    (position : ℕ) : Option DiffCursor :=
  if position < records.length then
    some
      { runId := parent.result.runId, attemptId := parent.result.attemptId
        checkId := parent.result.checkId, resultOperationId := operationId
        sequence := position - 1 }
  else none

/-- The page with the records after a position. -/
def pageAt (parent : StoredParent Topology) (operationId : Uuid) (records : List EvidenceRecord)
    (context : ComparisonContext) (limit position : ℕ) : DiffPage where
  runId := parent.result.runId
  attemptId := parent.result.attemptId
  requestedLimit := limit
  storedResult := parent.result
  comparisonContext := context
  detailAvailability := detailAvailability parent.result.evidenceCoverage.foundRecords
    parent.result.evidenceCoverage.retainedRecords
  foundRecords := parent.result.evidenceCoverage.foundRecords
  retainedRecords := parent.result.evidenceCoverage.retainedRecords
  details := (records.drop position).take limit
  nextCursor := cursorAt parent operationId records (position + limit)

namespace Published

variable (h : Published sha256 validateRecords store parent operationId records)
include h

/-- The lookahead finds a record just when there is a next page. -/
theorem nextDiffCursor_eq {limit : ℕ} (hlimit : 0 < limit) (position : ℕ) :
    nextDiffCursor parent.result operationId ((records.drop position).take (limit + 1)) limit
      = .ok (cursorAt parent operationId records (position + limit)) := by
  have htake : ((records.drop position).take (limit + 1)).take limit
      = (records.drop position).take limit := by
    rw [List.take_take, Nat.min_eq_left (Nat.le_succ limit)]
  rw [nextDiffCursor, cursorAt, htake]
  by_cases hmore : position + limit < records.length
  · have hlookahead : limit < ((records.drop position).take (limit + 1)).length := by
      rw [List.length_take, List.length_drop]
      omega
    have hlength : ((records.drop position).take limit).length = limit := by
      rw [List.length_take, List.length_drop]
      omega
    obtain ⟨last, hlast⟩ : ∃ last, ((records.drop position).take limit).getLast? = some last := by
      cases hlast : ((records.drop position).take limit).getLast? with
      | some last => exact ⟨last, rfl⟩
      | none =>
        rw [List.getLast?_eq_none_iff] at hlast
        rw [hlast, List.length_nil] at hlength
        omega
    have hsequence := last_sequence (h.page_sequences position limit) hlast
    rw [hlength] at hsequence
    have hnamed := h.named
    simp only [if_pos hlookahead, if_pos hmore, hlast, DiffCursor.make, refuseIf, if_neg hnamed,
      bind, Except.bind]
    rw [← hsequence]
    rfl
  · have hlookahead : ¬ limit < ((records.drop position).take (limit + 1)).length := by
      rw [List.length_take, List.length_drop]
      omega
    rw [if_neg hlookahead, if_neg hmore]

/-- The page after a position is well formed. -/
theorem make_pageAt {limit : ℕ} (hlimit : 0 < limit) (hmax : limit ≤ diffPageLimitMax)
    (context : ComparisonContext) (position : ℕ) :
    (pageAt parent operationId records context limit position).make
      = .ok (pageAt parent operationId records context limit position) := by
  have hsequences := h.page_sequences position limit
  have hlength : ((records.drop position).take limit).length
      = min limit (records.length - position) := by
    rw [List.length_take, List.length_drop]
  have hretained := h.covers.records_eq
  have hdetails : DiffPage.validateDetails parent.result.evidenceCoverage.retainedRecords none
      ((records.drop position).take limit) = .ok () := by
    by_cases hempty : position < records.length
    · exact validateDetails_eq_ok hsequences (by simp) (by omega)
    · have hnil : (records.drop position).take limit = [] := by
        rw [← List.length_eq_zero_iff]
        omega
      rw [hnil]
      rfl
  have hnext : (pageAt parent operationId records context limit position).validateNextCursor
      = .ok () := by
    unfold DiffPage.validateNextCursor
    simp only [pageAt]
    cases hlast : ((records.drop position).take limit).getLast? with
    | none =>
      rw [List.getLast?_eq_none_iff, ← List.length_eq_zero_iff] at hlast
      have hend : ¬ position + limit < records.length := by omega
      simp only [cursorAt, if_neg hend]
    | some last =>
      have hsequence := last_sequence hsequences hlast
      by_cases hmore : position + limit < records.length
      · have hcursor : last.sequence = position + limit - 1 := by omega
        have hbelow : ¬ records.length ≤ position + limit - 1 + 1 := by omega
        simp only [cursorAt, if_pos hmore, h.operation, DiffCursor.make, hcursor, hretained,
          bind_eq_ok, refuseIf_eq_ok, Except.ok.injEq]
        exact ⟨_, ⟨(), h.named, rfl⟩, (), by simp, hbelow⟩
      · have hend : ¬ last.sequence + 1 < records.length := by
          by_cases hempty : position < records.length
          · omega
          · have hnil : ((records.drop position).take limit).length = 0 := by omega
            rw [List.length_eq_zero_iff] at hnil
            rw [hnil] at hlast
            cases hlast
        simp only [cursorAt, if_neg hmore, hretained, refuseIf_eq_ok]
        exact hend
  have hpage : (pageAt parent operationId records context limit position).validatePage
      = .ok () := by
    simp only [DiffPage.validatePage, bind_unit_eq_ok, refuseIf_eq_ok, not_not]
    refine ⟨⟨rfl, rfl⟩, rfl, rfl, rfl, ?_, hdetails, hnext⟩
    simp only [pageAt]
    omega
  simp only [DiffPage.make, bind_eq_ok, refuseIf_eq_ok, hpage]
  simp only [pageAt]
  exact ⟨(), by omega, (), by omega, (), trivial, trivial⟩

end Published

end ForensicData.Persistence
