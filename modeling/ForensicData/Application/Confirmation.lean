/-
ForensicData.Application.Confirmation — the last look at a ClickHouse projection.

Before a ClickHouse context is closed, the projection it was opened on is read
again. What the transport reads is given; a confirmation either passes, is
stopped by an exception, or returns an outcome early. Such an outcome says that
the source is not ready or that its cut has moved, never that a capability is
missing (`MovesCut`).
-/
import ForensicData.Application.Reasons

namespace ForensicData.Application

open ForensicData.Comparison
open ForensicData.Result

/-! ## Early outcomes -/

/-- `EarlyExecutionOutcome`, with the checks of its `__post_init__`. -/
structure EarlyExecutionOutcome where
  executionStatus : ExecutionStatus
  reason : ResultReason
  agrees : executionStatus = .incomplete ∧ (reason.code = .cutMismatch ∨ reason.code = .notReady)
    ∨ executionStatus = .error ∧ reason.code = .unsupportedCapability

/-- `_not_ready_outcome`. -/
def notReadyOutcome (operation message : String) (safeParameters : List SafeParameter) :
    EarlyExecutionOutcome where
  executionStatus := .incomplete
  reason := reasonOf .notReady operation message safeParameters
  agrees := .inl ⟨rfl, .inr rfl⟩

/-- `_cut_mismatch_outcome`. -/
def cutMismatchOutcome (operation message : String) (safeParameters : List SafeParameter) :
    EarlyExecutionOutcome where
  executionStatus := .incomplete
  reason := reasonOf .cutMismatch operation message safeParameters
  agrees := .inl ⟨rfl, .inl rfl⟩

/-- How a confirmation ends before its end. -/
inductive Stop where
  | raised (error : SourceError)
  | outcome (early : EarlyExecutionOutcome)

abbrev Confirming := Except Stop

/-- The attributes of an exception that sets none of them. -/
def ErrorDetails.unset : ErrorDetails where
  operation := ""
  sqlstate := none
  errorCategory := ""
  httpStatus := none
  errorCode := none
  errorName := none
  connectionAttempts := 0
  connectionQueryId := none
  queryId := 0
  sessionId := 0
  confirmationSessionId := 0
  confirmationValue := 0
  confirmationFailure := ""
  attemptId := 0
  triggerCause := ""
  cancellationCause := ""
  receivedResponseBytes := 0
  responseTruncated := false

/-- `error(message)`. -/
def SourceError.of (error : ErrorClass) (message : String) : SourceError :=
  { cause := Cause.of error message, details := .unset }

/-- A read of the transport: its value, or the exception it raises. -/
def readOf {α : Type} (read : Except SourceError α) : Confirming α := read.mapError .raised

def raiseError {α : Type} (error : ErrorClass) (message : String) : Confirming α :=
  .error (.raised (.of error message))

def raiseIf (p : Prop) [Decidable p] (error : ErrorClass) (message : String) : Confirming Unit :=
  if p then raiseError error message else .ok ()

def returnIf (p : Prop) [Decidable p] (early : EarlyExecutionOutcome) : Confirming Unit :=
  if p then .error (.outcome early) else .ok ()

/-! ## Readiness -/

/-- A row of the readiness table. -/
structure ReadinessRow where
  datasetId : String
  scopeDigest : String
  batchId : String
  state : String
  businessDate : Lib.Date
  sourceCut : Option String
  datasetVersion : Option String
  completedAt : Option Lib.Datetime
  completionRevision : ℕ
  publicationRevision : ℕ
  deriving DecidableEq

/-- `ClickHouseImmutableVersionRequest`: what the confirmation compares rows with,
and the parameters its outcomes show. -/
structure VersionRequest where
  direction : PlanDirection
  datasetId : String
  scopeDigest : String
  expectedBatchId : String
  safeParameters : List SafeParameter

/-- What the acquisition code makes of rows: `checkRecord` are the checks of the
record constructors, `evidence` is `RelationManifestEvidence`. -/
structure ReadinessRules (Evidence : Type) where
  checkRecord : ReadinessRow → Except Refusal Unit
  evidence : ReadinessRow → Except Refusal Evidence

def acquisitionRefusal (message : String) : Refusal :=
  { error := .acquisitionValidationError, message }

variable {Evidence : Type} (rules : ReadinessRules Evidence)

/-- `_copy_relation_manifest_row`. -/
def copyRelationManifestRow (row : ReadinessRow) : Except Refusal ReadinessRow := do
  if row.state = "building" then
    rules.checkRecord row
    return row
  else
    refuseIf (row.state ≠ "complete") (acquisitionRefusal
      "readiness state must be exactly 'building' or 'complete'")
    refuseIf (row.sourceCut = none) (acquisitionRefusal
      "complete readiness source_cut must be non-null text")
    refuseIf (row.datasetVersion = none) (acquisitionRefusal
      "complete readiness dataset_version must be non-null text")
    refuseIf (row.completedAt = none) (acquisitionRefusal
      "complete readiness completed_at must be non-null timestamptz")
    rules.checkRecord row
    return row

/-- `_not_ready_outcome` of the acquisition code. -/
def readinessNotReady (request : VersionRequest) (message : String) : EarlyExecutionOutcome :=
  notReadyOutcome "validate_readiness" message
    [parameter "direction" request.direction.value, parameter "dataset_id" request.datasetId]

/-- `validate_relation_manifest_readiness`. -/
def validateRelationManifestReadiness (request : VersionRequest) (rows : List ReadinessRow) :
    Except Refusal (Evidence ⊕ EarlyExecutionOutcome) := do
  let records ← rows.mapM (copyRelationManifestRow rules)
  match records with
  | [row] =>
    refuseIf (row.datasetId ≠ request.datasetId) (acquisitionRefusal
      "readiness manifest record dataset_id does not match the bound dataset identity")
    refuseIf (row.scopeDigest ≠ request.scopeDigest) (acquisitionRefusal
      "readiness manifest record scope_digest does not match the bound scope identity")
    if row.batchId ≠ request.expectedBatchId then
      return .inr (readinessNotReady request
        "readiness manifest record does not match the expected batch")
    else if row.state = "building" then
      return .inr (readinessNotReady request "readiness manifest record is not complete")
    else
      let evidence ← rules.evidence row
      return .inl evidence
  | _ => return .inr (readinessNotReady request
      "readiness manifest must return exactly one current record")

/-- `_current_readiness_records`. -/
def currentReadinessRecords : List ReadinessRow → Confirming (List ReadinessRow)
  | first :: second :: rest =>
    if first.publicationRevision < second.publicationRevision then
      raiseError .clickHouseDataValidationError
        "ClickHouse readiness rows violate descending publication revision order"
    else if first.publicationRevision = second.publicationRevision then
      return first :: second :: rest
    else return [first]
  | rows => return rows

/-- `_ObservedReadiness`. -/
structure ObservedReadiness (Evidence : Type) where
  record : ReadinessRow
  evidence : Evidence
  deriving DecidableEq

/-- `_read_current_readiness`, of the rows that were read. -/
def readCurrentReadiness (request : VersionRequest)
    (rows : Except SourceError (List ReadinessRow)) : Confirming (ObservedReadiness Evidence) := do
  let rows ← readOf rows
  let records ← currentReadinessRecords rows
  match validateRelationManifestReadiness rules request records with
  | .error _ =>
    raiseError .clickHouseDataValidationError
      ("ClickHouse readiness record violates the typed manifest contract: "
        ++ "cause_type=AcquisitionValidationError")
  | .ok (.inr early) => .error (.outcome early)
  | .ok (.inl evidence) =>
    match records with
    | [record] => return { record, evidence }
    | _ =>
      raiseError .assertionError "validated ClickHouse readiness must contain exactly one row"

/-! ## Named versions -/

section NamedVersion

variable [DecidableEq Evidence] {Identity : Type} [DecidableEq Identity]

/-- What a context was bound to. -/
structure NamedVersionObservation (Evidence Identity : Type) where
  request : VersionRequest
  readiness : ObservedReadiness Evidence
  readinessIdentity : Identity
  versionIdentity : Identity

/-- What the transport reads while a named version is confirmed. -/
structure NamedVersionReads (Identity : Type) where
  first : Except SourceError (List ReadinessRow)
  readinessIdentity : Except SourceError Identity
  versionIdentity : Except SourceError Identity
  second : Except SourceError (List ReadinessRow)

/-- `_cut_mismatch_outcome` of an immutable version. -/
def versionMoved (request : VersionRequest) (message : String) : EarlyExecutionOutcome :=
  cutMismatchOutcome "confirm_clickhouse_immutable_version" message request.safeParameters

/-- `confirm_clickhouse_named_version`; `sealed` are the checks of the table's
identity. -/
def confirmClickhouseNamedVersion (isSealed : Identity → Except SourceError Unit)
    (observation : NamedVersionObservation Evidence Identity) (reads : NamedVersionReads Identity) :
    Confirming Unit := do
  let first ← readCurrentReadiness rules observation.request reads.first
  returnIf (first ≠ observation.readiness) (versionMoved observation.request
    "ClickHouse readiness cut differs from the bound immutable version")
  let readinessIdentity ← readOf reads.readinessIdentity
  returnIf (readinessIdentity ≠ observation.readinessIdentity) (versionMoved observation.request
    "ClickHouse readiness table identity differs from the bound context")
  let identity ← readOf reads.versionIdentity
  readOf (isSealed identity)
  returnIf (identity ≠ observation.versionIdentity) (versionMoved observation.request
    "ClickHouse named version table identity differs from the bound version")
  let second ← readCurrentReadiness rules observation.request reads.second
  returnIf (second ≠ first) (versionMoved observation.request
    "ClickHouse readiness changed during final immutable-version confirmation")

end NamedVersion

/-! ## Projections -/

/-- `ClickHouseMutationRecord`: the fields that classify a mutation. -/
structure MutationRecord where
  mutationId : String
  isDone : Bool
  isKilled : Bool
  hasFailedPart : Bool
  failureReasonSha256 : String
  failureErrorCodeName : String
  deriving DecidableEq

/-- A mutation that was killed or has failed is an exception. -/
def requireUnfailedMutation (table : String) (record : MutationRecord) : Confirming Unit := do
  let failed := record.hasFailedPart = true ∨ record.failureReasonSha256 ≠ ""
    ∨ record.failureErrorCodeName ≠ ""
  raiseIf (record.isKilled = true) .clickHouseMutationFailureError
    (s!"ClickHouse logical projection has a killed mutation: {table}, "
      ++ s!"mutation_id={record.mutationId}, error_code='MUTATION_KILLED'")
  raiseIf (failed ∧ record.failureErrorCodeName = "") .clickHouseDataValidationError
    (s!"ClickHouse failed mutation lacks a safe native error-code name: {table}, "
      ++ s!"mutation_id={record.mutationId}")
  raiseIf failed .clickHouseMutationFailureError
    (s!"ClickHouse logical projection has a failed mutation: {table}, "
      ++ s!"mutation_id={record.mutationId}, error_code={record.failureErrorCodeName}")

/-- `_classify_mutation_witness`: some mutation is unfinished. -/
def classifyMutationWitness (table : String) (records : List MutationRecord) :
    Confirming Bool := do
  records.forM (requireUnfailedMutation table)
  return records.any fun record => !record.isDone

section Projections

variable [DecidableEq Evidence] {Identity Runtime Fingerprint Source : Type}
  [DecidableEq Identity] [DecidableEq Runtime] [DecidableEq Fingerprint] [DecidableEq Source]

/-- `ClickHouseMergeTreeProjectionBinding`. -/
structure MergeTreeBinding (Evidence Identity Runtime Fingerprint : Type) where
  table : String
  version : NamedVersionObservation Evidence Identity
  mutations : List MutationRecord
  runtime : Runtime
  fingerprint : Fingerprint

/-- What is read while a plain projection is confirmed. -/
structure MergeTreeReads (Identity Runtime Fingerprint : Type) where
  firstMutations : Except SourceError (List MutationRecord)
  firstRuntime : Except SourceError Runtime
  fingerprint : Except SourceError Fingerprint
  secondMutations : Except SourceError (List MutationRecord)
  secondRuntime : Except SourceError Runtime
  version : NamedVersionReads Identity

/-- `_cut_mismatch_outcome` of a logical projection. -/
def projectionMoved (request : VersionRequest) (message : String) : EarlyExecutionOutcome :=
  cutMismatchOutcome "confirm_clickhouse_logical_projection" message request.safeParameters

/-- `confirm_clickhouse_merge_tree_projection`; `isReady`, `isSealed` and `isPlain`
are the checks of the runtime and of the table's identity. -/
def confirmClickhouseMergeTreeProjection (isReady : Runtime → Except SourceError Unit)
    (isSealed isPlain : Identity → Except SourceError Unit)
    (binding : MergeTreeBinding Evidence Identity Runtime Fingerprint)
    (reads : MergeTreeReads Identity Runtime Fingerprint) : Confirming Unit := do
  let firstMutations ← readOf reads.firstMutations
  let pending ← classifyMutationWitness binding.table firstMutations
  returnIf (pending = true) (projectionMoved binding.version.request
    "ClickHouse plain projection gained an unfinished mutation")
  let firstRuntime ← readOf reads.firstRuntime
  readOf (isReady firstRuntime)
  let fingerprint ← readOf reads.fingerprint
  let secondMutations ← readOf reads.secondMutations
  let secondRuntime ← readOf reads.secondRuntime
  readOf (isReady secondRuntime)
  returnIf (firstMutations ≠ binding.mutations ∨ secondMutations ≠ firstMutations
      ∨ firstRuntime ≠ binding.runtime ∨ secondRuntime ≠ firstRuntime
      ∨ fingerprint ≠ binding.fingerprint) (projectionMoved binding.version.request
    "ClickHouse plain logical projection differs from the bound context")
  -- `confirm_clickhouse_immutable_version`
  readOf (isPlain binding.version.versionIdentity)
  confirmClickhouseNamedVersion rules isSealed binding.version reads.version
  readOf (isPlain binding.version.versionIdentity)

/-- `ClickHouseLegacySourceBinding`. -/
structure LegacyBinding (Evidence Source Fingerprint : Type) where
  request : VersionRequest
  readiness : ObservedReadiness Evidence
  source : Source
  fingerprint : Fingerprint

/-- What is read while a source of the old release is confirmed. -/
structure LegacyReads (Source Fingerprint : Type) where
  firstReadiness : Except SourceError (List ReadinessRow)
  firstSource : Except SourceError Source
  fingerprint : Except SourceError Fingerprint
  secondSource : Except SourceError Source
  secondReadiness : Except SourceError (List ReadinessRow)

/-- `_observe_legacy_readiness`; `published` says that a record is the one of the
trusted manifest. -/
def observeLegacyReadiness (request : VersionRequest) (published : ReadinessRow → Bool)
    (rows : Except SourceError (List ReadinessRow)) : Confirming (ObservedReadiness Evidence) := do
  let observed ← readCurrentReadiness rules request rows
  returnIf (published observed.record = false) (notReadyOutcome "validate_clickhouse_legacy_source"
    "ClickHouse legacy readiness and trusted manifest are not one publication"
    request.safeParameters)
  return observed

/-- `confirm_clickhouse_legacy_source`; `counted` is the check that the rows of the
parts are those of the fingerprint. -/
def confirmClickhouseLegacySource (published : ReadinessRow → Bool)
    (counted : Source → Fingerprint → Except SourceError Unit)
    (binding : LegacyBinding Evidence Source Fingerprint)
    (reads : LegacyReads Source Fingerprint) : Confirming Unit := do
  let firstReadiness ← observeLegacyReadiness rules binding.request published reads.firstReadiness
  let firstSource ← readOf reads.firstSource
  let fingerprint ← readOf reads.fingerprint
  readOf (counted firstSource fingerprint)
  let secondSource ← readOf reads.secondSource
  let secondReadiness ← observeLegacyReadiness rules binding.request published
    reads.secondReadiness
  returnIf (firstReadiness ≠ binding.readiness ∨ secondReadiness ≠ firstReadiness
      ∨ firstSource ≠ binding.source ∨ secondSource ≠ firstSource
      ∨ fingerprint ≠ binding.fingerprint) (cutMismatchOutcome "confirm_clickhouse_legacy_source"
    "ClickHouse legacy source evidence differs from the bound context"
    binding.request.safeParameters)

end Projections

/-! ## The outcomes of a confirmation -/

/-- An early outcome is a moved cut or a source that is not ready. -/
def MovesCut {α : Type} (x : Confirming α) : Prop :=
  ∀ early, x = .error (.outcome early) →
    early.reason.code = .cutMismatch ∨ early.reason.code = .notReady

theorem movesCut_pure {α : Type} (a : α) : MovesCut (pure a : Confirming α) := by
  intro early h
  cases h

theorem movesCut_read {α : Type} (read : Except SourceError α) : MovesCut (readOf read) := by
  intro early h
  cases read <;> simp [readOf, Except.mapError] at h

theorem movesCut_raise {α : Type} (error : ErrorClass) (message : String) :
    MovesCut (raiseError error message : Confirming α) := by
  intro early h
  simp [raiseError] at h

theorem movesCut_bind {α β : Type} {x : Confirming α} {f : α → Confirming β} (hx : MovesCut x)
    (hf : ∀ a, MovesCut (f a)) : MovesCut (x >>= f) := by
  intro early h
  cases x with
  | ok a => exact hf a early h
  | error stop =>
    cases stop with
    | raised error => simp [bind, Except.bind] at h
    | outcome other =>
      apply hx
      simpa [bind, Except.bind] using h

theorem movesCut_raiseIf (p : Prop) [Decidable p] (error : ErrorClass) (message : String) :
    MovesCut (raiseIf p error message) := by
  unfold raiseIf
  split
  · exact movesCut_raise error message
  · exact movesCut_pure ()

theorem movesCut_notReady (p : Prop) [Decidable p] (operation message : String)
    (safeParameters : List SafeParameter) :
    MovesCut (returnIf p (notReadyOutcome operation message safeParameters)) := by
  unfold returnIf
  intro early h
  split at h
  · cases h
    exact .inr rfl
  · cases h

theorem movesCut_cutMismatch (p : Prop) [Decidable p] (operation message : String)
    (safeParameters : List SafeParameter) :
    MovesCut (returnIf p (cutMismatchOutcome operation message safeParameters)) := by
  unfold returnIf
  intro early h
  split at h
  · cases h
    exact .inl rfl
  · cases h

/-- The readiness rules have no outcome but that the source is not ready. -/
theorem validateRelationManifestReadiness_notReady {request : VersionRequest}
    {rows : List ReadinessRow} {early : EarlyExecutionOutcome}
    (h : validateRelationManifestReadiness rules request rows = .ok (.inr early)) :
    early.reason.code = .notReady := by
  rcases bind_eq_ok.mp h with ⟨records, -, h⟩
  split at h
  · rcases bind_unit_eq_ok.mp h with ⟨-, h⟩
    rcases bind_unit_eq_ok.mp h with ⟨-, h⟩
    split at h
    · cases h
      rfl
    · split at h
      · cases h
        rfl
      · rcases bind_eq_ok.mp h with ⟨evidence, -, h⟩
        cases h
  · cases h
    rfl

theorem movesCut_currentReadinessRecords (rows : List ReadinessRow) :
    MovesCut (currentReadinessRecords rows) := by
  unfold currentReadinessRecords
  split
  · split
    · exact movesCut_raise _ _
    · split <;> exact movesCut_pure _
  · exact movesCut_pure _

theorem movesCut_readCurrentReadiness (request : VersionRequest)
    (rows : Except SourceError (List ReadinessRow)) :
    MovesCut (readCurrentReadiness rules request rows) := by
  apply movesCut_bind (movesCut_read rows)
  intro rows
  apply movesCut_bind (movesCut_currentReadinessRecords rows)
  intro records
  split
  · exact movesCut_raise _ _
  · rename_i early hearly
    intro other h
    cases h
    exact .inr (validateRelationManifestReadiness_notReady rules hearly)
  · split
    · exact movesCut_pure _
    · exact movesCut_raise _ _

theorem movesCut_classifyMutationWitness (table : String) (records : List MutationRecord) :
    MovesCut (classifyMutationWitness table records) := by
  have hrecord : ∀ record, MovesCut (requireUnfailedMutation table record) := by
    intro record
    apply movesCut_bind (movesCut_raiseIf _ _ _)
    intro _
    apply movesCut_bind (movesCut_raiseIf _ _ _)
    intro _
    exact movesCut_raiseIf _ _ _
  have hrecords : MovesCut (records.forM (requireUnfailedMutation table)) := by
    induction records with
    | nil => exact movesCut_pure _
    | cons record records ih => exact movesCut_bind (hrecord record) fun _ => ih
  exact movesCut_bind hrecords fun _ => movesCut_pure _

theorem movesCut_observeLegacyReadiness (request : VersionRequest) (published : ReadinessRow → Bool)
    (rows : Except SourceError (List ReadinessRow)) :
    MovesCut (observeLegacyReadiness rules request published rows) := by
  apply movesCut_bind (movesCut_readCurrentReadiness rules _ _)
  intro observed
  exact movesCut_bind (movesCut_notReady _ _ _ _)
    fun _ => movesCut_pure _

section Outcomes

variable [DecidableEq Evidence] {Identity Runtime Fingerprint Source : Type}
  [DecidableEq Identity] [DecidableEq Runtime] [DecidableEq Fingerprint] [DecidableEq Source]

theorem movesCut_confirmClickhouseNamedVersion (isSealed : Identity → Except SourceError Unit)
    (observation : NamedVersionObservation Evidence Identity)
    (reads : NamedVersionReads Identity) :
    MovesCut (confirmClickhouseNamedVersion rules isSealed observation reads) := by
  apply movesCut_bind (movesCut_readCurrentReadiness rules _ _)
  intro first
  apply movesCut_bind (movesCut_cutMismatch _ _ _ _)
  intro _
  apply movesCut_bind (movesCut_read _)
  intro readinessIdentity
  apply movesCut_bind (movesCut_cutMismatch _ _ _ _)
  intro _
  apply movesCut_bind (movesCut_read _)
  intro identity
  apply movesCut_bind (movesCut_read _)
  intro _
  apply movesCut_bind (movesCut_cutMismatch _ _ _ _)
  intro _
  apply movesCut_bind (movesCut_readCurrentReadiness rules _ _)
  intro second
  exact movesCut_cutMismatch _ _ _ _

theorem movesCut_confirmClickhouseMergeTreeProjection
    (isReady : Runtime → Except SourceError Unit) (isSealed isPlain : Identity → Except SourceError Unit)
    (binding : MergeTreeBinding Evidence Identity Runtime Fingerprint)
    (reads : MergeTreeReads Identity Runtime Fingerprint) :
    MovesCut (confirmClickhouseMergeTreeProjection rules isReady isSealed isPlain binding reads) := by
  apply movesCut_bind (movesCut_read _)
  intro firstMutations
  apply movesCut_bind (movesCut_classifyMutationWitness _ _)
  intro pending
  apply movesCut_bind (movesCut_cutMismatch _ _ _ _)
  intro _
  apply movesCut_bind (movesCut_read _)
  intro firstRuntime
  apply movesCut_bind (movesCut_read _)
  intro _
  apply movesCut_bind (movesCut_read _)
  intro fingerprint
  apply movesCut_bind (movesCut_read _)
  intro secondMutations
  apply movesCut_bind (movesCut_read _)
  intro secondRuntime
  apply movesCut_bind (movesCut_read _)
  intro _
  apply movesCut_bind (movesCut_cutMismatch _ _ _ _)
  intro _
  apply movesCut_bind (movesCut_read _)
  intro _
  apply movesCut_bind (movesCut_confirmClickhouseNamedVersion rules _ _ _)
  intro _
  exact movesCut_read _

theorem movesCut_confirmClickhouseLegacySource (published : ReadinessRow → Bool)
    (counted : Source → Fingerprint → Except SourceError Unit)
    (binding : LegacyBinding Evidence Source Fingerprint)
    (reads : LegacyReads Source Fingerprint) :
    MovesCut (confirmClickhouseLegacySource rules published counted binding reads) := by
  apply movesCut_bind (movesCut_observeLegacyReadiness rules _ _ _)
  intro firstReadiness
  apply movesCut_bind (movesCut_read _)
  intro firstSource
  apply movesCut_bind (movesCut_read _)
  intro fingerprint
  apply movesCut_bind (movesCut_read _)
  intro _
  apply movesCut_bind (movesCut_read _)
  intro secondSource
  apply movesCut_bind (movesCut_observeLegacyReadiness rules _ _ _)
  intro secondReadiness
  exact movesCut_cutMismatch _ _ _ _

end Outcomes

end ForensicData.Application
