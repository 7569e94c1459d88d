/-
ForensicData.Persistence.DiffPaging — following a diff from its start.

A publication reads back what it inserted before it commits, so a published
result is one that can be read (`StoredDiff`). What a store holds of an attempt
(`DiffStore.ofAttempt`) is all that a reader of its diff looks at, and later
publications leave it alone. A client that follows the cursors therefore gets
every retained record, once and in order, with whatever limits it asks and
whatever is published meanwhile (`diff_paging`).
-/
import ForensicData.Persistence.DiffTheorems

namespace ForensicData.Persistence

open ForensicData.Canonical
open ForensicData.Comparison
open ForensicData.Lib
open ForensicData.Reporting
open ForensicData.Result

variable {Topology : Type} {sha256 : Sha256}
  {modelValidateJson : String → Except Refusal EvidenceRecord}
  {validateRecords : Topology → List EvidenceRecord → Except Refusal Unit}
  {store after : DiffStore} {parent : StoredParent Topology} {operationId : Uuid}
  {records : List EvidenceRecord}

/-! ## What a store holds of an attempt -/

/-- The anomalies of an attempt. -/
def anomaliesByAttempt (rows : List AnomalyRow) (runId attemptId : Uuid) : List AnomalyRow :=
  rows.filter fun row => decide (row.runId = runId ∧ row.attemptId = attemptId)

/-- The rows of an attempt. -/
def DiffStore.ofAttempt (store : DiffStore) (runId attemptId : Uuid) : DiffStore where
  requireCurrentSchema := store.requireCurrentSchema
  completed := resultsByAttempt store.completed runId attemptId
  partials := resultsByAttempt store.partials runId attemptId
  anomalies := anomaliesByAttempt store.anomalies runId attemptId

theorem resultsByAttempt_cons_self (row : StoredParent Topology)
    (rows : List (StoredParent Topology)) :
    resultsByAttempt (row :: rows) row.result.runId row.result.attemptId
      = row :: resultsByAttempt rows row.result.runId row.result.attemptId :=
  List.filter_cons_of_pos (by simp)

theorem resultsByAttempt_cons_of_other {row : StoredParent Topology} {runId attemptId : Uuid}
    (hother : ¬ (row.result.runId = runId ∧ row.result.attemptId = attemptId))
    (rows : List (StoredParent Topology)) :
    resultsByAttempt (row :: rows) runId attemptId = resultsByAttempt rows runId attemptId :=
  List.filter_cons_of_neg (by simpa using hother)

theorem anomaliesByAttempt_append (rows others : List AnomalyRow) (runId attemptId : Uuid) :
    anomaliesByAttempt (rows ++ others) runId attemptId
      = anomaliesByAttempt rows runId attemptId ++ anomaliesByAttempt others runId attemptId :=
  List.filter_append _ _

/-- Nothing is stored of an open attempt. -/
theorem attemptOpen_eq_true {runId attemptId : Uuid} :
    store.attemptOpen runId attemptId = true ↔
      (store.ofAttempt runId attemptId).completed = [] ∧
      (store.ofAttempt runId attemptId).partials = [] ∧
      (store.ofAttempt runId attemptId).anomalies = [] := by
  simp [DiffStore.attemptOpen, DiffStore.ofAttempt, resultsByAttempt, anomaliesByAttempt,
    List.filter_eq_nil_iff, and_assoc, imp_iff_not_or]

theorem count_identities_resultsByAttempt (rows : List (StoredParent Topology))
    (identity : AnomalyParent) :
    ((resultsByAttempt rows identity.runId identity.attemptId).filterMap fun row =>
        row.result.persistence.operationId.map row.identity).count identity
      = (rows.filterMap fun row =>
        row.result.persistence.operationId.map row.identity).count identity := by
  induction rows with
  | nil => rfl
  | cons row rows ih =>
    by_cases hrow : row.result.runId = identity.runId ∧ row.result.attemptId = identity.attemptId
    · obtain ⟨hrun, hattempt⟩ := hrow
      rw [← hrun, ← hattempt, resultsByAttempt_cons_self, hrun, hattempt, List.filterMap_cons,
        List.filterMap_cons]
      cases row.result.persistence.operationId.map row.identity with
      | none => exact ih
      | some found => simp only [List.count_cons, ih]
    · rw [resultsByAttempt_cons_of_other hrow, List.filterMap_cons]
      cases hoperation : row.result.persistence.operationId with
      | none => exact ih
      | some found =>
        have hother : row.identity found ≠ identity := by
          intro heq
          exact hrow (by rw [← heq]; exact ⟨rfl, rfl⟩)
        rw [Option.map_some]
        simp only [List.count_cons_of_ne hother]
        exact ih

/-- An identity is counted among the results of its attempt. -/
theorem count_parents_ofAttempt (store : DiffStore) (identity : AnomalyParent) :
    (store.ofAttempt identity.runId identity.attemptId).parents.count identity
      = store.parents.count identity := by
  simp only [DiffStore.parents, List.count_append]
  rw [← count_identities_resultsByAttempt store.completed,
    ← count_identities_resultsByAttempt store.partials]
  rfl

/-- A published result stays one while the rows of its attempt do. -/
theorem Published.congr (h : Published sha256 validateRecords store parent operationId records)
    (hsame : after.ofAttempt parent.result.runId parent.result.attemptId
      = store.ofAttempt parent.result.runId parent.result.attemptId) :
    Published sha256 validateRecords after parent operationId records where
  operation := h.operation
  named := h.named
  coverage := h.coverage
  segments := h.segments
  boundary := h.boundary
  manifest := h.manifest
  rows := by
    have hanomalies : anomaliesByAttempt after.anomalies parent.result.runId
        parent.result.attemptId = anomaliesByAttempt store.anomalies parent.result.runId
        parent.result.attemptId := congrArg DiffStore.anomalies hsame
    exact (List.Perm.of_eq hanomalies).trans h.rows
  only_parent := by
    rw [← count_parents_ofAttempt]
    change (after.ofAttempt parent.result.runId parent.result.attemptId).parents.count _ = 1
    rw [hsame]
    exact (count_parents_ofAttempt store (parent.identity operationId)).trans h.only_parent

/-- A record that came back from its row was read from its payload. -/
theorem modelValidateJson_of_anomalyFromRow {identity : AnomalyParent}
    {observationIds : Uuid × Uuid} {record : EvidenceRecord} {found : AnomalyExpectation}
    (hfound : anomalyFromRow sha256 modelValidateJson identity observationIds
      (publishedRow sha256 identity observationIds record) = .ok found)
    (hrecord : found.record = record) :
    modelValidateJson (canonicalJson (dumpRecord record)) = .ok record := by
  have hpayload : (publishedRow sha256 identity observationIds record).evidencePayload
      = canonicalJson (dumpRecord record) := rfl
  rw [anomalyFromRow, hpayload, bind_eq_ok] at hfound
  obtain ⟨read, hread, hfound⟩ := hfound
  rw [bind_unit_eq_ok, bind_unit_eq_ok, Except.ok.injEq] at hfound
  obtain ⟨-, -, rfl⟩ := hfound
  have hsame : read = record := hrecord
  rw [mapError_eq_ok, hsame] at hread
  exact hread

/-- What `_anomalies_from_database` returned, the payloads are read as. -/
theorem Published.readsBack
    (h : Published sha256 validateRecords store parent operationId records)
    (hfound : anomaliesFromDatabase sha256 modelValidateJson store (parent.identity operationId)
      parent.observationIds parent.result.evidenceCoverage parent.manifestDigest = .ok records) :
    ReadsBack modelValidateJson records := by
  rw [anomaliesFromDatabase, bind_unit_eq_ok, bind_unit_eq_ok] at hfound
  obtain ⟨-, -, hfound⟩ := hfound
  rw [h.manifest, h.selectAnomalyRows_eq] at hfound
  dsimp only at hfound
  rw [bind_unit_eq_ok, bind_eq_ok] at hfound
  obtain ⟨-, expectations, hrows, hfound⟩ := hfound
  rw [bind_unit_eq_ok, bind_unit_eq_ok, Except.ok.injEq] at hfound
  obtain ⟨-, -, hrecords⟩ := hfound
  clear h
  subst hrecords
  rw [mapM_eq_ok, List.map_map, List.forall₂_map_left_iff, List.forall₂_same] at hrows
  intro record hrecord
  obtain ⟨expectation, hexpectation, rfl⟩ := List.mem_map.mp hrecord
  exact modelValidateJson_of_anomalyFromRow (hrows expectation hexpectation) rfl

/-! ## Reading a published result -/

/-- A published result of which the rest of the checks succeed. -/
structure StoredDiff (sha256 : Sha256)
    (modelValidateJson : String → Except Refusal EvidenceRecord)
    (validateRecords : Topology → List EvidenceRecord → Except Refusal Unit) (store : DiffStore)
    (parent : StoredParent Topology) (operationId : Uuid) (records : List EvidenceRecord) :
    Prop extends Published sha256 validateRecords store parent operationId records where
  reads : ReadsBack modelValidateJson records
  closure : parent.closure = .ok ()
  schema : store.requireCurrentSchema = .ok ()

/-- What is left of the records after a cursor is what its page shows. -/
theorem StoredDiff.readDiffOf_eq
    (h : StoredDiff sha256 modelValidateJson validateRecords store parent operationId records)
    (hparts : PassesInPart (validateRecords parent.topology)) {limit : ℕ} (hlimit : 0 < limit)
    (hmax : limit ≤ diffPageLimitMax) {cursor : Option DiffCursor}
    (hcursor : CursorOf parent operationId cursor) :
    ∃ context, readDiffOf sha256 modelValidateJson validateRecords store parent limit cursor
      = .ok (pageAt parent operationId records context limit (positionOf cursor)) := by
  obtain ⟨boundary, hboundary, hrecords⟩ := h.boundary
  have hafter : (cursor.map fun cursor => (cursor.sequence : Int)).getD (-1)
      = (positionOf cursor : Int) - 1 := by
    cases cursor with
    | none => rfl
    | some found => simp [positionOf]
  have hpart : (records.drop (positionOf cursor)).take (limit + 1) ⊆ records :=
    fun _ hmem => List.mem_of_mem_drop (List.mem_of_mem_take hmem)
  have htake : ((records.drop (positionOf cursor)).take (limit + 1)).take limit
      = (records.drop (positionOf cursor)).take limit := by
    rw [List.take_take, Nat.min_eq_left (Nat.le_succ limit)]
  have hpage := h.make_pageAt hlimit hmax boundary.context (positionOf cursor)
  simp only [pageAt] at hpage
  refine ⟨boundary.context, ?_⟩
  simp only [readDiffOf, h.operation, hafter]
  rw [bind_unit_eq_ok, bind_unit_eq_ok, bind_unit_eq_ok, bind_eq_ok]
  refine ⟨h.anomalyManifestSummary_eq, h.closure, ?_, boundary, hboundary, ?_⟩
  · rw [refuseIf_eq_ok]
    cases cursor with
    | none => simp
    | some found =>
      obtain ⟨-, -, hcheck, hoperation⟩ := hcursor found rfl
      simp [hcheck, hoperation]
  · simp only [h.anomalyPage_eq h.reads, bind_eq_ok, Except.ok.injEq]
    refine ⟨_, rfl, (), hparts records _ hpart h.segments, (),
      passesInPart_evidenceBoundary boundary records _ hpart hrecords, _,
      h.nextDiffCursor_eq hlimit _, ?_⟩
    rw [htake, hpage]
    rfl

/-- A cursor of a result is one of its attempt. -/
theorem CursorOf.same_attempt {cursor : Option DiffCursor}
    (h : CursorOf parent operationId cursor) :
    ¬ cursor.any (fun cursor => decide (cursor.runId ≠ parent.result.runId ∨
      cursor.attemptId ≠ parent.result.attemptId)) = true := by
  cases cursor with
  | none => simp
  | some found =>
    obtain ⟨hrun, hattempt, -⟩ := h found rfl
    simp [hrun, hattempt]

/-- A request for a completed result. -/
theorem readPostgresDiff_completed
    {parent : StoredParent (List IntegerRangeFingerprintPersistence)}
    (h : StoredDiff sha256 modelValidateJson
      (fun segments records => validateCompletedAnomalySegments records segments) store parent
      operationId records)
    (hcompleted : resultsByAttempt store.completed parent.result.runId parent.result.attemptId
      = [parent])
    (hpartials : resultsByAttempt store.partials parent.result.runId parent.result.attemptId = [])
    {limit : ℕ} (hlimit : 0 < limit) (hmax : limit ≤ diffPageLimitMax) {cursor : Option DiffCursor}
    (hcursor : CursorOf parent operationId cursor) :
    ∃ context, readPostgresDiff sha256 modelValidateJson store parent.result.runId
        parent.result.attemptId limit cursor
      = .ok (pageAt parent operationId records context limit (positionOf cursor)) := by
  obtain ⟨context, hpage⟩ := h.readDiffOf_eq (passesInPart_forM _) hlimit hmax hcursor
  refine ⟨context, ?_⟩
  simp only [readPostgresDiff, readPostgresDiffOnce, bind_unit_eq_ok, refuseIf_eq_ok, hcompleted,
    hpartials]
  exact ⟨by omega, by omega, hcursor.same_attempt, h.schema, by simp, hpage⟩

/-- A request for a partial result. -/
theorem readPostgresDiff_partial {parent : StoredParent PartialComparisonFrontier}
    (h : StoredDiff sha256 modelValidateJson validatePartialAnomalyRecords store parent operationId
      records)
    (hcompleted : resultsByAttempt store.completed parent.result.runId parent.result.attemptId
      = [])
    (hpartials : resultsByAttempt store.partials parent.result.runId parent.result.attemptId
      = [parent])
    {limit : ℕ} (hlimit : 0 < limit) (hmax : limit ≤ diffPageLimitMax) {cursor : Option DiffCursor}
    (hcursor : CursorOf parent operationId cursor) :
    ∃ context, readPostgresDiff sha256 modelValidateJson store parent.result.runId
        parent.result.attemptId limit cursor
      = .ok (pageAt parent operationId records context limit (positionOf cursor)) := by
  obtain ⟨context, hpage⟩ := h.readDiffOf_eq (passesInPart_forM _) hlimit hmax hcursor
  refine ⟨context, ?_⟩
  simp only [readPostgresDiff, readPostgresDiffOnce, bind_unit_eq_ok, refuseIf_eq_ok, hcompleted,
    hpartials]
  exact ⟨by omega, by omega, hcursor.same_attempt, h.schema, by simp, hpage⟩

/-! ## Publication -/

/-- What is prepared: the checked records, their rows and their manifest. -/
theorem publishedAnomalies_eq_ok {manifestDigest : Bytes} {rows : List AnomalyRow} :
    publishedAnomalies sha256 validateRecords parent operationId records
        = .ok (manifestDigest, rows) ↔
      validateAnomalyCoverage canonicalRecordSize parent.result.evidenceCoverage records = .ok () ∧
      validateRecords parent.topology records = .ok () ∧
      manifestDigest = evidenceManifestDigest sha256 (records.map fun record =>
        (publishedRow sha256 (parent.identity operationId) parent.observationIds
          record).recordDigest) ∧
      rows = records.map
        (publishedRow sha256 (parent.identity operationId) parent.observationIds) := by
  have hexpectations : anomalyExpectations sha256 (parent.identity operationId)
      (some parent.observationIds.1) (some parent.observationIds.2) records
      = .ok (records.map (anomalyExpectation sha256 (parent.identity operationId)
        (some parent.observationIds.1) (some parent.observationIds.2))) := by
    rw [anomalyExpectations, bind_unit_eq_ok, refuseIf_eq_ok]
    exact ⟨by simp, rfl⟩
  rw [publishedAnomalies, bind_unit_eq_ok, bind_unit_eq_ok, hexpectations]
  refine and_congr_right fun _ => and_congr_right fun _ => ?_
  simp only [bind, Except.bind, Except.ok.injEq, Prod.mk.injEq, List.map_map]
  rw [eq_comm (b := manifestDigest), eq_comm (b := rows)]
  rfl

theorem requireEvidenceBoundary_eq_ok :
    requireEvidenceBoundary sha256 parent records = .ok () ↔
      ∃ boundary, parent.boundary = .ok boundary ∧
        validateAnomalyEvidenceBoundary sha256 records boundary = .ok () := by
  rw [requireEvidenceBoundary, bind_eq_ok]

/-- Both kinds of publication store a result so that it can be read: `after` holds
the stored result as the only one of its attempt, with its rows. -/
theorem storedDiff_of_readBack {manifestDigest : Bytes} {rows : List AnomalyRow}
    {conflict : String}
    (hprepared : publishedAnomalies sha256 validateRecords parent operationId records
      = .ok (manifestDigest, rows))
    (hschema : after.requireCurrentSchema = .ok ())
    (hboundary : requireEvidenceBoundary sha256 parent records = .ok ())
    (hnamed : parent.result.checkId ≠ "")
    (hrows : (after.ofAttempt parent.result.runId parent.result.attemptId).anomalies = rows)
    (hcount : after.parents.count (parent.identity operationId) = 1)
    (hreadBack : requireReadBack sha256 modelValidateJson after
      (parent.stored operationId manifestDigest) operationId records conflict = .ok ()) :
    StoredDiff sha256 modelValidateJson validateRecords after
      (parent.stored operationId manifestDigest) operationId records := by
  obtain ⟨hcoverage, hsegments, hmanifest, rfl⟩ := publishedAnomalies_eq_ok.mp hprepared
  have hpublished : Published sha256 validateRecords after
      (parent.stored operationId manifestDigest) operationId records := by
    constructor
    · rfl
    · exact hnamed
    · exact hcoverage
    · exact hsegments
    · exact requireEvidenceBoundary_eq_ok.mp hboundary
    · exact congrArg some hmanifest
    · exact List.Perm.of_eq hrows
    · exact hcount
  rw [requireReadBack, bind_eq_ok] at hreadBack
  obtain ⟨anomalies, hanomalies, hreadBack⟩ := hreadBack
  rw [bind_unit_eq_ok, bind_unit_eq_ok, refuseIf_eq_ok, not_not] at hreadBack
  obtain ⟨rfl, -, hclosure⟩ := hreadBack
  refine ⟨hpublished, ?_, hclosure, hschema⟩
  exact hpublished.readsBack hanomalies

theorem requireResultRow_eq_ok {result : RunResult} {message : String} :
    requireResultRow store result message = .ok () ↔
      store.attemptOpen result.runId result.attemptId = true ∧ result.checkId ≠ "" := by
  rw [requireResultRow, bind_unit_eq_ok, refuseIf_eq_ok, refuseIf_eq_ok, Bool.not_eq_false]

/-- The rows are of the attempt of their result. -/
theorem anomaliesByAttempt_publishedRows (sha256 : Sha256) (records : List EvidenceRecord)
    (identity : AnomalyParent) (observationIds : Uuid × Uuid) :
    anomaliesByAttempt (records.map (publishedRow sha256 identity observationIds)) identity.runId
        identity.attemptId
      = records.map (publishedRow sha256 identity observationIds) := by
  rw [anomaliesByAttempt, List.filter_eq_self]
  intro row hrow
  obtain ⟨record, -, rfl⟩ := List.mem_map.mp hrow
  exact decide_eq_true ⟨rfl, rfl⟩

/-- The rows are not of another attempt. -/
theorem anomaliesByAttempt_publishedRows_of_other (sha256 : Sha256)
    (records : List EvidenceRecord) {identity : AnomalyParent} (observationIds : Uuid × Uuid) {runId attemptId : Uuid}
    (hother : ¬ (identity.runId = runId ∧ identity.attemptId = attemptId)) :
    anomaliesByAttempt (records.map (publishedRow sha256 identity observationIds)) runId attemptId
      = [] := by
  rw [anomaliesByAttempt, List.filter_eq_nil_iff]
  intro row hrow
  obtain ⟨record, -, rfl⟩ := List.mem_map.mp hrow
  rw [decide_eq_true_eq]
  exact hother

/-- One identity of the two tables is that of a result which is alone in its
attempt. -/
theorem count_parents_eq_one {identity : AnomalyParent}
    (h : (store.ofAttempt identity.runId identity.attemptId).parents = [identity]) :
    store.parents.count identity = 1 := by
  rw [← count_parents_ofAttempt, h, List.count_singleton_self]

section Completed

variable {parent : StoredParent (List IntegerRangeFingerprintPersistence)}

/-- The attempt of a completed result holds it and its rows. -/
theorem ofAttempt_withCompleted (sha256 : Sha256) (operationId : Uuid) (manifestDigest : Bytes)
    (records : List EvidenceRecord)
    (hopen : store.attemptOpen parent.result.runId parent.result.attemptId = true) :
    (store.withCompleted (parent.stored operationId manifestDigest) (records.map
        (publishedRow sha256 (parent.identity operationId) parent.observationIds))).ofAttempt
      parent.result.runId parent.result.attemptId
      = { requireCurrentSchema := store.requireCurrentSchema
          completed := [parent.stored operationId manifestDigest]
          partials := []
          anomalies := records.map
            (publishedRow sha256 (parent.identity operationId) parent.observationIds) } := by
  obtain ⟨hcompleted, hpartials, hanomalies⟩ := attemptOpen_eq_true.mp hopen
  have hself := resultsByAttempt_cons_self (parent.stored operationId manifestDigest)
    store.completed
  have hrows := anomaliesByAttempt_publishedRows sha256 records
    (parent.identity operationId) parent.observationIds
  simp only [DiffStore.ofAttempt] at hcompleted hpartials hanomalies
  simp only [DiffStore.ofAttempt, DiffStore.withCompleted, anomaliesByAttempt_append, hpartials,
    hanomalies, List.append_nil]
  congr 1
  · exact hself.trans (congrArg _ hcompleted)

/-- The other attempts are left alone. -/
theorem ofAttempt_withCompleted_of_other (manifestDigest : Bytes) (records : List EvidenceRecord)
    {runId attemptId : Uuid}
    (hother : ¬ (parent.result.runId = runId ∧ parent.result.attemptId = attemptId)) :
    (store.withCompleted (parent.stored operationId manifestDigest) (records.map
        (publishedRow sha256 (parent.identity operationId) parent.observationIds))).ofAttempt
      runId attemptId = store.ofAttempt runId attemptId := by
  have hidentity : ¬ ((parent.identity operationId).runId = runId ∧
      (parent.identity operationId).attemptId = attemptId) := hother
  have hrows := anomaliesByAttempt_publishedRows_of_other sha256 records parent.observationIds
    hidentity
  have hstored : ¬ ((parent.stored operationId manifestDigest).result.runId = runId ∧
      (parent.stored operationId manifestDigest).result.attemptId = attemptId) := hother
  have hresults := resultsByAttempt_cons_of_other hstored store.completed
  simp only [DiffStore.ofAttempt, DiffStore.withCompleted, anomaliesByAttempt_append, hrows,
    hresults, List.nil_append]

/-- What a publication of a completed result did. -/
theorem publishCompletedComparison_eq_ok
    (h : publishCompletedComparison sha256 modelValidateJson store parent operationId records
      = .ok after) :
    ∃ manifestDigest, store.attemptOpen parent.result.runId parent.result.attemptId = true ∧
      after = store.withCompleted (parent.stored operationId manifestDigest) (records.map
        (publishedRow sha256 (parent.identity operationId) parent.observationIds)) ∧
      StoredDiff sha256 modelValidateJson
        (fun segments records => validateCompletedAnomalySegments records segments) after
        (parent.stored operationId manifestDigest) operationId records := by
  rw [publishCompletedComparison, bind_eq_ok] at h
  obtain ⟨⟨manifestDigest, rows⟩, hprepared, h⟩ := h
  dsimp only at h
  rw [bind_unit_eq_ok, bind_unit_eq_ok, bind_unit_eq_ok, bind_unit_eq_ok, Except.ok.injEq,
    requireResultRow_eq_ok] at h
  obtain ⟨hschema, hboundary, ⟨hopen, hnamed⟩, hreadBack, rfl⟩ := h
  obtain ⟨-, -, -, rfl⟩ := publishedAnomalies_eq_ok.mp hprepared
  have halone := ofAttempt_withCompleted sha256 operationId
    manifestDigest records hopen
  refine ⟨manifestDigest, hopen, rfl, ?_⟩
  refine storedDiff_of_readBack hprepared hschema hboundary hnamed (by rw [halone])
    (count_parents_eq_one ?_) hreadBack
  change (DiffStore.ofAttempt _ parent.result.runId parent.result.attemptId).parents = _
  rw [halone]
  rfl

end Completed

section Partial

variable {parent : StoredParent PartialComparisonFrontier}

/-- The attempt of a partial result holds it and its rows. -/
theorem ofAttempt_withPartial (sha256 : Sha256) (operationId : Uuid) (manifestDigest : Bytes)
    (records : List EvidenceRecord)
    (hopen : store.attemptOpen parent.result.runId parent.result.attemptId = true) :
    (store.withPartial (parent.stored operationId manifestDigest) (records.map
        (publishedRow sha256 (parent.identity operationId) parent.observationIds))).ofAttempt
      parent.result.runId parent.result.attemptId
      = { requireCurrentSchema := store.requireCurrentSchema
          completed := []
          partials := [parent.stored operationId manifestDigest]
          anomalies := records.map
            (publishedRow sha256 (parent.identity operationId) parent.observationIds) } := by
  obtain ⟨hcompleted, hpartials, hanomalies⟩ := attemptOpen_eq_true.mp hopen
  have hself := resultsByAttempt_cons_self (parent.stored operationId manifestDigest)
    store.partials
  have hrows := anomaliesByAttempt_publishedRows sha256 records
    (parent.identity operationId) parent.observationIds
  simp only [DiffStore.ofAttempt] at hcompleted hpartials hanomalies
  simp only [DiffStore.ofAttempt, DiffStore.withPartial, anomaliesByAttempt_append, hcompleted,
    hanomalies, List.append_nil]
  congr 1
  · exact hself.trans (congrArg _ hpartials)

/-- The other attempts are left alone. -/
theorem ofAttempt_withPartial_of_other (manifestDigest : Bytes) (records : List EvidenceRecord)
    {runId attemptId : Uuid}
    (hother : ¬ (parent.result.runId = runId ∧ parent.result.attemptId = attemptId)) :
    (store.withPartial (parent.stored operationId manifestDigest) (records.map
        (publishedRow sha256 (parent.identity operationId) parent.observationIds))).ofAttempt
      runId attemptId = store.ofAttempt runId attemptId := by
  have hidentity : ¬ ((parent.identity operationId).runId = runId ∧
      (parent.identity operationId).attemptId = attemptId) := hother
  have hrows := anomaliesByAttempt_publishedRows_of_other sha256 records parent.observationIds
    hidentity
  have hstored : ¬ ((parent.stored operationId manifestDigest).result.runId = runId ∧
      (parent.stored operationId manifestDigest).result.attemptId = attemptId) := hother
  have hresults := resultsByAttempt_cons_of_other hstored store.partials
  simp only [DiffStore.ofAttempt, DiffStore.withPartial, anomaliesByAttempt_append, hrows,
    hresults, List.nil_append]

/-- What a publication of a partial result did. -/
theorem publishPartialComparison_eq_ok
    (h : publishPartialComparison sha256 modelValidateJson store parent operationId records
      = .ok after) :
    ∃ manifestDigest, store.attemptOpen parent.result.runId parent.result.attemptId = true ∧
      after = store.withPartial (parent.stored operationId manifestDigest) (records.map
        (publishedRow sha256 (parent.identity operationId) parent.observationIds)) ∧
      StoredDiff sha256 modelValidateJson validatePartialAnomalyRecords after
        (parent.stored operationId manifestDigest) operationId records := by
  rw [publishPartialComparison, bind_eq_ok] at h
  obtain ⟨⟨manifestDigest, rows⟩, hprepared, h⟩ := h
  dsimp only at h
  rw [bind_unit_eq_ok, bind_unit_eq_ok, bind_unit_eq_ok, bind_unit_eq_ok, Except.ok.injEq,
    requireResultRow_eq_ok] at h
  obtain ⟨hschema, hboundary, ⟨hopen, hnamed⟩, hreadBack, rfl⟩ := h
  obtain ⟨-, -, -, rfl⟩ := publishedAnomalies_eq_ok.mp hprepared
  have halone := ofAttempt_withPartial sha256 operationId
    manifestDigest records hopen
  refine ⟨manifestDigest, hopen, rfl, ?_⟩
  refine storedDiff_of_readBack hprepared hschema hboundary hnamed (by rw [halone])
    (count_parents_eq_one ?_) hreadBack
  change (DiffStore.ofAttempt _ parent.result.runId parent.result.attemptId).parents = _
  rw [halone]
  rfl

end Partial

/-! ## Later stores -/

/-- The stores that more publications lead to. -/
inductive LaterStore (sha256 : Sha256)
    (modelValidateJson : String → Except Refusal EvidenceRecord) (store : DiffStore) :
    DiffStore → Prop where
  | refl : LaterStore sha256 modelValidateJson store store
  | completedComparison {between after : DiffStore}
      {parent : StoredParent (List IntegerRangeFingerprintPersistence)} {operationId : Uuid}
      {records : List EvidenceRecord} (hlater : LaterStore sha256 modelValidateJson store between)
      (h : publishCompletedComparison sha256 modelValidateJson between parent operationId records
        = .ok after) : LaterStore sha256 modelValidateJson store after
  | partialComparison {between after : DiffStore} {parent : StoredParent PartialComparisonFrontier}
      {operationId : Uuid} {records : List EvidenceRecord}
      (hlater : LaterStore sha256 modelValidateJson store between)
      (h : publishPartialComparison sha256 modelValidateJson between parent operationId records
        = .ok after) : LaterStore sha256 modelValidateJson store after

/-- An attempt is open if nothing of it is stored. -/
theorem attemptOpen_congr {runId attemptId : Uuid}
    (hsame : after.ofAttempt runId attemptId = store.ofAttempt runId attemptId) :
    after.attemptOpen runId attemptId = store.attemptOpen runId attemptId := by
  rw [Bool.eq_iff_iff, attemptOpen_eq_true, attemptOpen_eq_true, hsame]

/-- Publications leave a closed attempt alone: each is for an open one. -/
theorem LaterStore.ofAttempt_eq (h : LaterStore sha256 modelValidateJson store after)
    {runId attemptId : Uuid} (hclosed : store.attemptOpen runId attemptId = false) :
    after.ofAttempt runId attemptId = store.ofAttempt runId attemptId := by
  induction h with
  | refl => rfl
  | completedComparison hlater hpublished ih =>
    obtain ⟨manifestDigest, hopen, rfl, -⟩ := publishCompletedComparison_eq_ok hpublished
    refine (ofAttempt_withCompleted_of_other _ _ ?_).trans ih
    rintro ⟨rfl, rfl⟩
    rw [attemptOpen_congr ih, hclosed] at hopen
    cases hopen
  | partialComparison hlater hpublished ih =>
    obtain ⟨manifestDigest, hopen, rfl, -⟩ := publishPartialComparison_eq_ok hpublished
    refine (ofAttempt_withPartial_of_other _ _ ?_).trans ih
    rintro ⟨rfl, rfl⟩
    rw [attemptOpen_congr ih, hclosed] at hopen
    cases hopen

/-- A stored result stays readable while the rows of its attempt do not change. -/
theorem StoredDiff.congr
    (h : StoredDiff sha256 modelValidateJson validateRecords store parent operationId records)
    (hsame : after.ofAttempt parent.result.runId parent.result.attemptId
      = store.ofAttempt parent.result.runId parent.result.attemptId) :
    StoredDiff sha256 modelValidateJson validateRecords after parent operationId records where
  toPublished := h.toPublished.congr hsame
  reads := h.reads
  closure := h.closure
  schema := (congrArg DiffStore.requireCurrentSchema hsame).trans h.schema

/-! ## Traversals -/

/-- The answers to the requests of a client that asks for the pages of an attempt:
the `k`-th one comes from the store of that time and has its own limit. -/
def serveDiff (sha256 : Sha256) (modelValidateJson : String → Except Refusal EvidenceRecord)
    (stores : ℕ → DiffStore) (limits : ℕ → ℕ) (runId attemptId : Uuid) (k : ℕ)
    (cursor : Option DiffCursor) : Except Refusal (Page EvidenceRecord DiffCursor) :=
  (readPostgresDiff sha256 modelValidateJson (stores k) runId attemptId (limits k) cursor).map
    fun page => { items := page.details, next := page.nextCursor }

theorem cursorOf_cursorAt (position : ℕ) :
    CursorOf parent operationId (cursorAt parent operationId records position) := by
  intro found hfound
  unfold cursorAt at hfound
  split at hfound
  · cases hfound
    exact ⟨rfl, rfl, rfl, rfl⟩
  · cases hfound

theorem positionOf_cursorAt {position : ℕ} (hpositive : 0 < position)
    (hmore : position < records.length) :
    positionOf (cursorAt parent operationId records position) = position := by
  rw [cursorAt, if_pos hmore]
  exact Nat.sub_add_cancel hpositive

/-- Pages that show what is left after their cursors hand out the records. -/
theorem serves_serveDiff {stores : ℕ → DiffStore} {limits : ℕ → ℕ} (hlimits : ∀ k, 0 < limits k)
    (hpage : ∀ k cursor, CursorOf parent operationId cursor → ∃ context,
      readPostgresDiff sha256 modelValidateJson (stores k) parent.result.runId
          parent.result.attemptId (limits k) cursor
        = .ok (pageAt parent operationId records context (limits k) (positionOf cursor))) :
    Serves (serveDiff sha256 modelValidateJson stores limits parent.result.runId
        parent.result.attemptId) records limits (CursorOf parent operationId) positionOf where
  page k cursor hcursor := by
    obtain ⟨context, hread⟩ := hpage k cursor hcursor
    refine ⟨cursorAt parent operationId records (positionOf cursor + limits k), ?_, ?_⟩
    · rw [serveDiff, hread]
      rfl
    · have hpositive := hlimits k
      by_cases hmore : positionOf cursor + limits k < records.length
      · rw [if_pos hmore]
        refine ⟨cursorOf_cursorAt _, ?_, ?_⟩
        · simp [cursorAt, hmore]
        · exact positionOf_cursorAt (by omega) hmore
      · rw [if_neg hmore, cursorAt, if_neg hmore]

/-- The result is stored with the manifest digest. -/
def DiffStore.HoldsResult (store : DiffStore) (result : RunResult)
    (manifestDigest : Option Bytes) : Prop :=
  (∃ parent ∈ store.completed, parent.result = result ∧
      parent.manifestDigest = manifestDigest) ∨
    ∃ parent ∈ store.partials, parent.result = result ∧ parent.manifestDigest = manifestDigest

/-- The result is stored, and its whole stored list hashes to its manifest. -/
def HashesToManifest (sha256 : Sha256) (store : DiffStore) (result : RunResult) : Prop :=
  ∃ operationId manifestDigest, result.persistence.operationId = some operationId ∧
    store.HoldsResult result manifestDigest ∧
    ClosesToManifest sha256 store
      { runId := result.runId, attemptId := result.attemptId, checkId := result.checkId, operationId }
      result.evidenceCoverage manifestDigest

/-- The digest that is streamed from the stored rows is the one computed from the
records when they are published. -/
def StreamsManifest (sha256 : Sha256) (store : DiffStore) (identity : AnomalyParent)
    (observationIds : Uuid × Uuid) (records : List EvidenceRecord) : Prop :=
  ∃ stream, (selectAnomalyRows store identity).foldlM (manifestStep identity.operationId)
      ManifestStream.start = .ok stream ∧
    stream.digest sha256 = evidenceManifestDigest sha256 (records.map fun record =>
      (anomalyExpectation sha256 identity (some observationIds.1) (some observationIds.2)
        record).recordDigest)

/-- A client that follows the cursors from the start gets the records in ascending
sequence, each once, and then no more cursor. -/
def EnumeratesRecords (sha256 : Sha256) (modelValidateJson : String → Except Refusal EvidenceRecord)
    (store : DiffStore) (runId attemptId : Uuid) (records : List EvidenceRecord) : Prop :=
  records.map (·.sequence) = List.range records.length ∧
    ∀ (stores : ℕ → DiffStore) (limits : ℕ → ℕ),
      (∀ k, LaterStore sha256 modelValidateJson store (stores k)) →
      (∀ k, 0 < limits k ∧ limits k ≤ diffPageLimitMax) →
      ∃ pages, Follows (serveDiff sha256 modelValidateJson stores limits runId attemptId) 0 none
          pages ∧
        (∀ others, Follows (serveDiff sha256 modelValidateJson stores limits runId attemptId) 0 none
          others → others = pages) ∧
        pages.flatMap Page.items = records ∧ pages.length ≤ records.length + 1

theorem DiffPage.eq_of_make {page made : DiffPage} (h : page.make = .ok made) : made = page := by
  rw [DiffPage.make, bind_unit_eq_ok, bind_unit_eq_ok, bind_unit_eq_ok, Except.ok.injEq] at h
  exact h.2.2.2.symm

/-- A page comes from a parent whose list was checked. -/
theorem hashesToManifest_of_readDiffOf {limit : ℕ} {cursor : Option DiffCursor} {page : DiffPage}
    (h : readDiffOf sha256 modelValidateJson validateRecords store parent limit cursor = .ok page)
    (hholds : store.HoldsResult parent.result parent.manifestDigest) :
    HashesToManifest sha256 store page.storedResult := by
  rw [readDiffOf] at h
  dsimp only at h
  split at h
  · cases h
  · rename_i operationId hoperation
    rw [bind_unit_eq_ok, bind_unit_eq_ok, bind_unit_eq_ok, bind_eq_ok] at h
    obtain ⟨hmanifest, -, -, boundary, -, h⟩ := h
    rw [bind_eq_ok] at h
    obtain ⟨pageRecords, -, h⟩ := h
    rw [bind_unit_eq_ok, bind_unit_eq_ok, bind_eq_ok] at h
    obtain ⟨-, -, nextCursor, -, h⟩ := h
    obtain ⟨-, -, hcloses⟩ := anomalyManifestSummary_eq_ok.mp hmanifest
    have hresult : page.storedResult = parent.result := by
      rw [mapError_eq_ok] at h
      rw [DiffPage.eq_of_make h]
    rw [hresult]
    exact ⟨operationId, parent.manifestDigest, hoperation, hholds, hcloses⟩

theorem StoredDiff.streamsManifest
    (h : StoredDiff sha256 modelValidateJson validateRecords store parent operationId records) :
    StreamsManifest sha256 store (parent.identity operationId) parent.observationIds records := by
  obtain ⟨-, -, hcloses⟩ := anomalyManifestSummary_eq_ok.mp h.anomalyManifestSummary_eq
  refine ⟨_, streamed_eq_ok.mpr ⟨hcloses.streams, rfl⟩, ?_⟩
  rw [digest_streamOf, h.selectAnomalyRows_eq, List.map_map]
  rfl

/-- What can be read at all times is enumerated. -/
theorem StoredDiff.enumeratesRecords
    (h : StoredDiff sha256 modelValidateJson validateRecords store parent operationId records)
    (hread : ∀ later limit cursor, LaterStore sha256 modelValidateJson store later →
      0 < limit → limit ≤ diffPageLimitMax → CursorOf parent operationId cursor → ∃ context,
        readPostgresDiff sha256 modelValidateJson later parent.result.runId parent.result.attemptId
            limit cursor
          = .ok (pageAt parent operationId records context limit (positionOf cursor))) :
    EnumeratesRecords sha256 modelValidateJson store parent.result.runId parent.result.attemptId
      records := by
  refine ⟨h.covers.numbered, fun stores limits hstores hlimits => ?_⟩
  have hserves := serves_serveDiff
    (fun k => (hlimits k).1) fun k cursor hcursor =>
      hread (stores k) (limits k) cursor (hstores k) (hlimits k).1 (hlimits k).2 hcursor
  have hstart : CursorOf parent operationId none := by
    intro found hfound
    cases hfound
  obtain ⟨pages, hfollows, hitems, hlength⟩ :=
    hserves.exists_follows (k := 0) (fun k => (hlimits k).1) hstart
  exact ⟨pages, hfollows, fun others hothers => hothers.unique hfollows, hitems, hlength⟩

/-- A published result stays as it is in all later stores. -/
theorem LaterStore.storedDiff (hlater : LaterStore sha256 modelValidateJson store after)
    (h : StoredDiff sha256 modelValidateJson validateRecords store parent operationId records)
    (hclosed : store.attemptOpen parent.result.runId parent.result.attemptId = false) :
    StoredDiff sha256 modelValidateJson validateRecords after parent operationId records ∧
      after.ofAttempt parent.result.runId parent.result.attemptId
        = store.ofAttempt parent.result.runId parent.result.attemptId :=
  ⟨h.congr (hlater.ofAttempt_eq hclosed), hlater.ofAttempt_eq hclosed⟩

/-- **A diff is read completely, each record once and in order, and only from a
list that closes to its manifest**; the streamed digest is the published one. -/
theorem diff_paging (sha256 : Sha256)
    (modelValidateJson : String → Except Refusal EvidenceRecord) :
    (∀ (operationId : Uuid) (rows : List AnomalyRow) (stream : ManifestStream),
      rows.foldlM (manifestStep operationId) ManifestStream.start = .ok stream →
      stream.digest sha256 = evidenceManifestDigest sha256 (rows.map AnomalyRow.recordDigest)) ∧
    (∀ store runId attemptId limit cursor page,
      readPostgresDiff sha256 modelValidateJson store runId attemptId limit cursor = .ok page →
      HashesToManifest sha256 store page.storedResult) ∧
    (∀ store parent operationId records after,
      publishCompletedComparison sha256 modelValidateJson store parent operationId records
        = .ok after →
      StreamsManifest sha256 after (parent.identity operationId) parent.observationIds records ∧
      EnumeratesRecords sha256 modelValidateJson after parent.result.runId parent.result.attemptId
        records) ∧
    ∀ store parent operationId records after,
      publishPartialComparison sha256 modelValidateJson store parent operationId records
        = .ok after →
      StreamsManifest sha256 after (parent.identity operationId) parent.observationIds records ∧
      EnumeratesRecords sha256 modelValidateJson after parent.result.runId parent.result.attemptId
        records := by
  refine ⟨?_, ?_, ?_, ?_⟩
  · intro operationId rows stream hstream
    obtain ⟨-, rfl⟩ := streamed_eq_ok.mp hstream
    exact digest_streamOf sha256 rows
  · intro store runId attemptId limit cursor page hpage
    rw [readPostgresDiff, bind_unit_eq_ok, bind_unit_eq_ok, bind_unit_eq_ok] at hpage
    obtain ⟨-, -, -, hpage⟩ := hpage
    rw [readPostgresDiffOnce, bind_unit_eq_ok] at hpage
    dsimp only at hpage
    rw [bind_unit_eq_ok] at hpage
    obtain ⟨-, -, hpage⟩ := hpage
    split at hpage
    · rename_i row hcompleted hpartials
      have hmem : row ∈ resultsByAttempt store.completed runId attemptId := by simp [hcompleted]
      exact hashesToManifest_of_readDiffOf hpage
        (.inl ⟨row, (List.mem_filter.mp hmem).1, rfl, rfl⟩)
    · rename_i row hcompleted hpartials
      have hmem : row ∈ resultsByAttempt store.partials runId attemptId := by simp [hpartials]
      exact hashesToManifest_of_readDiffOf hpage
        (.inr ⟨row, (List.mem_filter.mp hmem).1, rfl, rfl⟩)
    · cases hpage
  · intro store parent operationId records after hpublished
    obtain ⟨manifestDigest, hopen, hafter, hstored⟩ := publishCompletedComparison_eq_ok hpublished
    have halone := ofAttempt_withCompleted sha256 operationId
      manifestDigest records hopen
    rw [← hafter] at halone
    have hclosed : after.attemptOpen parent.result.runId parent.result.attemptId = false := by
      rw [Bool.eq_false_iff, Ne, attemptOpen_eq_true, halone]
      simp
    refine ⟨hstored.streamsManifest, hstored.enumeratesRecords ?_⟩
    intro later limit cursor hlater hlimit hmax hcursor
    obtain ⟨hlaterStored, hsame⟩ := hlater.storedDiff hstored hclosed
    have hattempt := hsame.trans halone
    exact readPostgresDiff_completed hlaterStored (congrArg DiffStore.completed hattempt)
      (congrArg DiffStore.partials hattempt) hlimit hmax hcursor
  · intro store parent operationId records after hpublished
    obtain ⟨manifestDigest, hopen, hafter, hstored⟩ := publishPartialComparison_eq_ok hpublished
    have halone := ofAttempt_withPartial sha256 operationId
      manifestDigest records hopen
    rw [← hafter] at halone
    have hclosed : after.attemptOpen parent.result.runId parent.result.attemptId = false := by
      rw [Bool.eq_false_iff, Ne, attemptOpen_eq_true, halone]
      simp
    refine ⟨hstored.streamsManifest, hstored.enumeratesRecords ?_⟩
    intro later limit cursor hlater hlimit hmax hcursor
    obtain ⟨hlaterStored, hsame⟩ := hlater.storedDiff hstored hclosed
    have hattempt := hsame.trans halone
    exact readPostgresDiff_partial hlaterStored (congrArg DiffStore.completed hattempt)
      (congrArg DiffStore.partials hattempt) hlimit hmax hcursor

end ForensicData.Persistence
