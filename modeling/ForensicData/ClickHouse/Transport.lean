/-
ForensicData.ClickHouse.Transport — the settlement of a ClickHouse query.

A transport hands its requests to two worker processes. Every exit of a query
leaves the transport in a state by hand: active with a result, or retired, with
its workers reaped. The world of a transport is what it changes: the ledger and
the clock, the state, the two workers, and the requests the workers were handed.
What the workers' channels and processes do is a function of how often they were
asked. Logging is left out.
-/
import ForensicData.ClickHouse.HttpRequest
import ForensicData.Comparison.Connectors
import ForensicData.Comparison.RowDecoding
import ForensicData.SourceLedger

namespace ForensicData.ClickHouse

open ForensicData.Application (uuidText)
open ForensicData.Canonical (Bytes utf8Decode utf8Encode asciiText)
open ForensicData.Comparison (ClickHouseQueryCompletion)
open ForensicData.Lib
open ForensicData.Lib.Generator
open ForensicData.Result (Uuid)

/-! ## States -/

inductive ClickHouseTransportState where
  | active
  | lost
  | cancellationUnconfirmed
  | closed
  deriving DecidableEq, Repr

/-- `state.value`. -/
def ClickHouseTransportState.value : ClickHouseTransportState → String
  | .active => "active"
  | .lost => "lost"
  | .cancellationUnconfirmed => "cancellation_unconfirmed"
  | .closed => "closed"

inductive ClickHouseHttpWorkerState where
  | ready
  | busy
  | closed
  | cleanupUnconfirmed
  deriving DecidableEq, Repr

/-- `state.value`. -/
def ClickHouseHttpWorkerState.value : ClickHouseHttpWorkerState → String
  | .ready => "ready"
  | .busy => "busy"
  | .closed => "closed"
  | .cleanupUnconfirmed => "cleanup_unconfirmed"

inductive Worker where
  | data
  | control
  deriving DecidableEq, Repr

/-- `ClickHouseHttpExecution`. -/
structure ClickHouseHttpExecution where
  outcome : Option ClickHouseHttpOutcome
  deadlineExceeded : Bool
  outcome_or : outcome = none → deadlineExceeded = true

/-- A request handed to a ready worker, what it kills, if it kills, and what the
worker gave back. -/
structure Exchange where
  worker : Worker
  request : ClickHouseWireRequest
  target : Option Uuid
  execution : ClickHouseHttpExecution

/-! ## Errors -/

/-- `ClickHouseQueryError`. -/
structure QueryFailure where
  attemptId : Uuid
  queryId : Uuid
  operation : String
  httpStatus : Option ℕ
  errorCode : Option ℕ
  errorName : Option String
  receivedErrorBytes : ℕ
  errorResponseTruncated : Bool
  causeType : String
  completion : ClickHouseQueryCompletion

/-- `ClickHouseCancellationUnconfirmedError`. -/
structure CancellationFailure where
  attemptId : Uuid
  queryId : Uuid
  operation : String
  triggerCause : String
  cancellationCause : String
  httpStatus : Option ℕ
  errorCode : Option ℕ
  errorName : Option String
  receivedResponseBytes : ℕ
  responseTruncated : Bool

/-- What a method of the transport raises. -/
inductive TransportError where
  | query (failure : QueryFailure)
  | deadlineExceeded (attemptId queryId : Uuid) (operation : String)
      (completion : ClickHouseQueryCompletion)
  | cancellationUnconfirmed (failure : CancellationFailure)
  | responseLimit (attemptId queryId : Uuid) (operation : String) (receivedResponseBytes : ℕ)
      (responseTruncated : Bool)
  | cleanup (message : String)
  | refusal (refusal : Refusal)
  | programming (message : String)
  | worker (message : String)
  | assertion (message : String)

/-- A raised exception with the notes added to it. -/
structure Raised where
  error : TransportError
  notes : List String

def Raised.of (error : TransportError) : Raised := { error, notes := [] }

/-- `isinstance(error, ClickHouseTransportError)`. -/
def TransportError.isTransportError : TransportError → Bool
  | .query _ => true
  | .deadlineExceeded _ _ _ _ => true
  | .cancellationUnconfirmed _ => true
  | .responseLimit _ _ _ _ _ => true
  | .cleanup _ => true
  | .refusal cause => cause.error.isInstance .clickHouseTransportError
  | .programming _ => false
  | .worker _ => false
  | .assertion _ => false

/-- `type(error).__name__`, of the exceptions of accounting. -/
def accountingErrorType (refusal : Refusal) : String :=
  match refusal.error with
  | .clickHouseSourceAccountingError => "ClickHouseSourceAccountingError"
  | .postgresReadDeadlineExceededError => "PostgresReadDeadlineExceededError"
  | _ => "PostgresSourceBudgetExceededError"

/-- The exceptions that `_consume_observed_outcome` and `_cancel_and_retire`
catch. -/
def isAccountingFailure (refusal : Refusal) : Bool :=
  refusal.error.isInstance .clickHouseSourceAccountingError ||
    (refusal.error.isInstance .postgresReadDeadlineExceededError ||
      refusal.error.isInstance .postgresSourceBudgetExceededError)

/-! ## The world -/

/-- What the channel to a worker's process does with a message sent to it. -/
inductive SendEvent where
  | sent
  | oversized
  | timedOut
  | broken (causeType : String)

/-- What comes back over it. -/
inductive ReceiveEvent where
  | outcome (outcome : ClickHouseHttpOutcome)
  | otherMessage
  | timedOut
  | failed (causeType : String)

structure ChannelAnswer where
  send : SendEvent
  receive : ReceiveEvent

inductive RequestAccounting where
  | unbudgeted
  | budgeted (direction : Side)
  deriving DecidableEq, Repr

/-- The fixed part of a transport, the ledger of the run with the clock, and what
the surroundings answer: the fresh identifiers, the channels, and whether the
process of a worker ends when it is closed. -/
structure ClickHouseTransport extends ClickHouseEndpoint where
  attemptId : Uuid
  accounting : RequestAccounting
  ledger : SourceBudgetLedger
  uuid4 : ℕ → Uuid
  answer : ℕ → ChannelAnswer
  reaped : ℕ → Bool

/-- What a transport changes. -/
structure TransportWorld where
  ledger : LedgerWorld
  state : ClickHouseTransportState
  dataWorker : ClickHouseHttpWorkerState
  controlWorker : ClickHouseHttpWorkerState
  physicalRequestCount : ℕ
  lastQueryId : Option Uuid
  exchanges : List Exchange
  uuids : ℕ
  cleanups : ℕ

abbrev TransportM (α : Type) : Type := Generator TransportWorld Empty Raised α

def TransportWorld.workerState (world : TransportWorld) : Worker → ClickHouseHttpWorkerState
  | .data => world.dataWorker
  | .control => world.controlWorker

def TransportWorld.setWorker (world : TransportWorld) (state : ClickHouseHttpWorkerState) :
    Worker → TransportWorld
  | .data => { world with dataWorker := state }
  | .control => { world with controlWorker := state }

/-! ## Small steps -/

def raised {α : Type} (error : TransportError) : TransportM α := raise (Raised.of error)

def readWorld : TransportM TransportWorld := act fun world => (.ok world, world)

def modifyWorld (change : TransportWorld → TransportWorld) : TransportM Unit :=
  act fun world => (.ok (), change world)

/-- A check that refuses with an exception of its own. -/
def checked {α : Type} (outcome : Except Refusal α) : TransportM α :=
  lift (outcome.mapError fun refusal => Raised.of (.refusal refusal))

/-- A call on the ledger. -/
def onLedger {α : Type} (work : LedgerM α) : TransportM α := fun world =>
  { yielded := []
    world := { world with ledger := (work world.ledger).world }
    result := (work world.ledger).result.mapError fun refusal => Raised.of (.refusal refusal) }

/-- `try: … except` of the exceptions of accounting. -/
def catchAccounting (work : TransportM Unit) : TransportM (Option Refusal) := fun world =>
  { yielded := []
    world := (work world).world
    result :=
      match (work world).result with
      | .ok () => .ok none
      | .error raised =>
        match raised.error with
        | .refusal refusal =>
          if isAccountingFailure refusal = true then .ok (some refusal) else .error raised
        | _ => .error raised }

/-- `_preserve_source_accounting_failure`. -/
def preserveSourceAccountingFailure (accountingError : Option Refusal) (raised : Raised) : Raised :=
  match accountingError with
  | none => raised
  | some refusal =>
    { raised with
      notes := raised.notes ++ ["ClickHouse source-result accounting also failed: "
        ++ s!"accounting_error_type='{accountingErrorType refusal}'"] }

/-- `except ClickHouseTransportError as error`: a note, and on. -/
def noteAccounting {α : Type} (accountingError : Option Refusal) (work : TransportM α) :
    TransportM α := fun world =>
  { yielded := []
    world := (work world).world
    result := (work world).result.mapError fun raised =>
      if raised.error.isTransportError = true then
        preserveSourceAccountingFailure accountingError raised
      else raised }

namespace ClickHouseTransport

variable (transport : ClickHouseTransport)

/-- `time.monotonic_ns()`. -/
def monotonicNs : TransportM ℕ := onLedger transport.ledger.monotonicNs

/-- `uuid4()`. -/
def freshUuid : TransportM Uuid :=
  act fun world => (.ok (transport.uuid4 world.uuids), { world with uuids := world.uuids + 1 })

/-! ## Workers -/

/-- The end of a worker's process, or `ClickHouseHttpWorkerError`. -/
def endProcess (worker : Worker) : TransportM (Option String) :=
  act fun world =>
    if transport.reaped world.cleanups = true then
      (.ok none, { world.setWorker .closed worker with cleanups := world.cleanups + 1 })
    else
      (.ok (some "ClickHouseHttpWorkerError"),
        { world.setWorker .cleanupUnconfirmed worker with cleanups := world.cleanups + 1 })

/-- `terminate` of a worker, with the name of the exception it raises. -/
def terminateWorker (worker : Worker) : TransportM (Option String) := do
  let world ← readWorld
  if world.workerState worker = .closed then pure none else transport.endProcess worker

/-- `close` of a worker, with the name of the exception it raises. -/
def closeWorker (worker : Worker) : TransportM (Option String) := do
  let world ← readWorld
  match world.workerState worker with
  | .closed => pure none
  | .busy => do
    let _ ← transport.terminateWorker worker
    pure (some "ClickHouseHttpWorkerError")
  | _ => transport.endProcess worker

def retireWorker (graceful : Bool) (worker : Worker) : TransportM (Option String) :=
  if graceful = true then transport.closeWorker worker else transport.terminateWorker worker

/-- `_retire_workers`. -/
def retireWorkers (graceful : Bool) : TransportM (Option String) := do
  let dataCause ← transport.retireWorker graceful .data
  let controlCause ← transport.retireWorker graceful .control
  pure (dataCause.or controlCause)

/-- `_retire`. -/
def retire (state : ClickHouseTransportState) : TransportM (Option String) := do
  let cleanupCause ← transport.retireWorkers false
  modifyWorld fun world =>
    { world with state := if cleanupCause = none then state else .cancellationUnconfirmed }
  pure cleanupCause

/-- `_transport_error_outcome`. -/
def transportErrorOutcome (dispatchState : ClickHouseHttpDispatchState) (causeType : String) :
    ClickHouseHttpOutcome where
  kind := .transportError
  dispatchState := dispatchState
  payload := []
  statusCode := none
  responseQueryId := none
  errorCode := none
  errorName := none
  receivedBytes := 0
  truncated := false
  causeType := some causeType

theorem some_ne_none_execution {outcome : ClickHouseHttpOutcome} {deadlineExceeded : Bool}
    (h : some outcome = none) : deadlineExceeded = true := by
  cases h

/-- An execution that ended with an outcome. -/
def ended (outcome : ClickHouseHttpOutcome) (deadlineExceeded : Bool) : ClickHouseHttpExecution where
  outcome := some outcome
  deadlineExceeded := deadlineExceeded
  outcome_or := some_ne_none_execution

/-- An execution whose outcome did not come in time. -/
def timedOut : ClickHouseHttpExecution where
  outcome := none
  deadlineExceeded := true
  outcome_or := fun _ => rfl

/-- `_receive_outcome` of a message, unless it times out. -/
def receivedOutcome : ReceiveEvent → Option ClickHouseHttpOutcome
  | .outcome outcome => some outcome
  | .otherMessage => some (transportErrorOutcome .unknown "InvalidWorkerResponse")
  | .timedOut => none
  | .failed causeType => some (transportErrorOutcome .unknown causeType)

/-- `execute` after the request was sent. -/
def awaitOutcome (worker : Worker) (deadline : ℕ) (receive : ReceiveEvent) :
    TransportM ClickHouseHttpExecution := do
  modifyWorld fun world => world.setWorker .busy worker
  match receivedOutcome receive with
  | none => pure timedOut
  | some outcome => do
    modifyWorld fun world => world.setWorker .ready worker
    let now ← transport.monotonicNs
    pure (ended outcome (decide (deadline ≤ now)))

/-- `execute` once there is time for it. -/
def sendRequest (worker : Worker) (deadline : ℕ) : TransportM ClickHouseHttpExecution := do
  let world ← readWorld
  let answer := transport.answer world.exchanges.length
  match answer.send with
  | .oversized => pure (ended (transportErrorOutcome .notSent "ClickHouseHttpWorkerError") false)
  | .timedOut => do
    modifyWorld fun world => world.setWorker .busy worker
    pure timedOut
  | .broken causeType => do
    modifyWorld fun world => world.setWorker .busy worker
    pure (ended (transportErrorOutcome .unknown causeType) false)
  | .sent => transport.awaitOutcome worker deadline answer.receive

/-- `execute` of a ready worker. -/
def executeReady (worker : Worker) (deadline : ℕ) : TransportM ClickHouseHttpExecution := do
  let now ← transport.monotonicNs
  if deadline ≤ now then
    pure (ended (transportErrorOutcome .notSent "AbsoluteDeadlineExceededBeforeIpcDispatch") true)
  else transport.sendRequest worker deadline

/-- `execute` of a worker. -/
def executeOn (worker : Worker) (request : ClickHouseWireRequest) (target : Option Uuid)
    (deadline : ℕ) : TransportM ClickHouseHttpExecution := do
  let world ← readWorld
  if world.workerState worker ≠ .ready then
    raised (.worker ("ClickHouse HTTP worker is not ready: "
      ++ s!"state='{(world.workerState worker).value}'"))
  else do
    let execution ← transport.executeReady worker deadline
    modifyWorld fun world =>
      { world with exchanges := world.exchanges ++ [{ worker, request, target, execution }] }
    pure execution

/-! ## Accounting -/

/-- `_CLICKHOUSE_ZERO_SCAN_OPERATIONS`. -/
def zeroScanOperations : List String :=
  ["initialize_clickhouse_transport", "initialize_clickhouse_control_transport",
   "cancel_clickhouse_query", "inspect_server_profile", "inspect_resource_constraints",
   "inspect_datetime64_timezone", "inspect_fidelity_relation",
   "inspect_immutable_version_readiness_table", "inspect_immutable_version_table",
   "inspect_system_row_policy_visibility", "inspect_immutable_version_row_policies",
   "inspect_immutable_version_columns", "read_immutable_version_readiness",
   "inspect_legacy_table_catalog", "inspect_legacy_table_columns", "inspect_legacy_row_policies",
   "inspect_legacy_projection_settings", "inspect_legacy_projection_parts",
   "inspect_legacy_mutations", "inspect_legacy_active_parts",
   "read_legacy_immutable_version_readiness", "inspect_logical_projection_mutations",
   "inspect_logical_projection_runtime", "inspect_logical_projection_parts",
   "inspect_canonical_relation"]

/-- `_CLICKHOUSE_SINGLE_SCAN_OPERATIONS`. -/
def singleScanOperations : List String :=
  ["read_exact_decimal_datetime64_values", "read_canonical_rows", "read_canonical_fingerprint",
   "read_canonical_key_groups"]

def sourceAccounting (message : String) : Refusal :=
  { error := .clickHouseSourceAccountingError, message }

/-- The full scans of an operation. -/
def knownFullScans (operation : String) : Except Refusal ℤ :=
  if operation ∈ zeroScanOperations then .ok 0
  else if operation ∈ singleScanOperations then .ok 1
  else .error (sourceAccounting
    ("ClickHouse budgeted request lacks an immutable full-scan reservation: "
      ++ s!"operation='{operation}'"))

/-- `dispatch_known`. -/
def dispatchKnown (operation : String) : TransportM Unit :=
  match transport.accounting with
  | .unbudgeted => checked (validateClickhouseTextScalar operation "ClickHouse unbudgeted operation")
  | .budgeted direction => do
    checked (validateClickhouseTextScalar operation "ClickHouse budgeted operation")
    let fullScans ← checked (knownFullScans operation)
    onLedger (transport.ledger.dispatchQuery direction fullScans)

/-- `_validate_nonnegative_source_full_scans`. -/
def validateNonnegativeSourceFullScans (fullScans : ℤ) : Except Refusal Unit :=
  refuseIf (fullScans < 0)
    (httpValue "ClickHouse source full-scan reservation must be a non-negative integer")

/-- `dispatch_explicit`. -/
def dispatchExplicit (operation : String) (fullScans : ℤ) : TransportM Unit :=
  match transport.accounting with
  | .unbudgeted => do
    checked (validateClickhouseTextScalar operation "ClickHouse unbudgeted operation")
    checked (validateNonnegativeSourceFullScans fullScans)
  | .budgeted direction => do
    checked (validateClickhouseTextScalar operation "ClickHouse budgeted operation")
    checked (validateNonnegativeSourceFullScans fullScans)
    onLedger (transport.ledger.dispatchQuery direction fullScans)

/-- `bytes.splitlines`, from the current line on. -/
def splitlinesFrom (line : Bytes) : Bytes → List Bytes
  | [] => if line = [] then [] else [line]
  | 10 :: rest => line :: splitlinesFrom [] rest
  | 13 :: 10 :: rest => line :: splitlinesFrom [] rest
  | 13 :: rest => line :: splitlinesFrom [] rest
  | byte :: rest => splitlinesFrom (line ++ [byte]) rest

/-- The sizes of the records of a `TabSeparatedRaw` payload, without the tabs. -/
def tabSeparatedRecordBytes (payload : Bytes) : List ℕ :=
  (splitlinesFrom [] payload).map fun line => ((line.splitOn 9).map List.length).sum

/-- `_clickhouse_result_record_bytes`. -/
def clickhouseResultRecordBytes (payload : Bytes) (resultFormat : String) :
    Except Refusal (List ℕ) :=
  if resultFormat = "JSONEachRow" then
    .ok ((splitlinesFrom [] payload).map List.length)
  else if resultFormat = "TabSeparatedRaw" then
    .ok (tabSeparatedRecordBytes payload)
  else .error (sourceAccounting
    ("ClickHouse budgeted response uses an unsupported accounting format: "
      ++ s!"result_format='{resultFormat}'"))

/-- `consume_payload`. -/
def consumePayload (payload : Bytes) (resultFormat : String) : TransportM Unit :=
  match transport.accounting with
  | .unbudgeted => pure ()
  | .budgeted _ => do
    let recordBytes ← checked (clickhouseResultRecordBytes payload resultFormat)
    onLedger (transport.ledger.consumeRecords (recordBytes.map Int.ofNat))

/-- `consume_observed_result_bytes`. -/
def consumeObservedResultBytes (resultBytes : ℕ) : TransportM Unit :=
  match transport.accounting with
  | .unbudgeted => pure ()
  | .budgeted _ => onLedger (transport.ledger.consumeObservedResultBytes resultBytes)

/-- `_consume_observed_outcome`. -/
def consumeObservedOutcome (outcome : Option ClickHouseHttpOutcome) (resultFormat : String) :
    TransportM (Option Refusal) :=
  match outcome with
  | none => pure none
  | some outcome =>
    match outcome.kind with
    | .success => catchAccounting (transport.consumePayload outcome.payload resultFormat)
    | .resultLimit => catchAccounting (transport.consumeObservedResultBytes outcome.receivedBytes)
    | _ => pure none

/-! ## Cancelling -/

/-- `_kill_query_finished`. -/
def killQueryFinished (payload : Bytes) (targetQueryId : Uuid) (expectedUser : String) : Bool :=
  if payload.getLast? ≠ some 10 ∨ [10, 10].isSuffixOf payload = true then false
  else
    let row := payload.dropLast
    if row.contains 10 = true ∨ row.contains 13 = true then false
    else
      match row.splitOn 9 with
      | [status, queryId, user, query] =>
        decide (status = utf8Encode "finished") && !query.isEmpty &&
          (asciiText queryId).any (fun observed => String.ofList observed = uuidText targetQueryId) &&
          decide (utf8Decode user = some expectedUser) && (utf8Decode query).isSome
      | _ => false

/-- `_cancellation_cause`. -/
def cancellationCause (outcome : ClickHouseHttpOutcome) : String :=
  match outcome.causeType with
  | some causeType => causeType
  | none =>
    match outcome.kind with
    | .serverError => "KillQueryServerError"
    | .resultLimit => "KillQueryResponseLimit"
    | .success => "KillQueryNotFinished"
    | _ => "KillQueryProtocolError"

/-- The KILL of a query. -/
def killArguments (cancellationDeadline : ℕ) (controlQueryId queryId : Uuid) : RequestArguments where
  dispatchDeadlineNanoseconds := cancellationDeadline
  ioDeadlineNanoseconds := cancellationDeadline
  queryId := controlQueryId
  query := "KILL QUERY WHERE query_id = \x7btarget_query_id:String\x7d SYNC"
  parameters := [("target_query_id", .text (uuidText queryId))]
  querySettings := transport.protocol.cancellationQuerySettings
  resultFormat := "TabSeparatedRaw"
  maxResponseBytes := transport.limits.maxCancellationResponseBytes

/-- Give up on a cancellation: not confirmed, with the cause. -/
def unconfirmed (cause : String) : TransportM (Bool × String) := do
  let cleanupCause ← transport.retire .cancellationUnconfirmed
  pure (false, cleanupCause.getD cause)

/-- What the reply to the KILL settles. -/
def settleKill (queryId : Uuid) (outcome : ClickHouseHttpOutcome) : TransportM (Bool × String) := do
  let killConfirmed := decide (outcome.kind = .success) &&
    killQueryFinished outcome.payload queryId transport.settings.user
  let cleanupCause ← transport.retire
    (if killConfirmed = true then .lost else .cancellationUnconfirmed)
  if killConfirmed = true ∧ cleanupCause = none then pure (true, "KillQuerySyncFinished")
  else pure (false, cleanupCause.getD (cancellationCause outcome))

/-- The KILL is sent and its reply accounted for. -/
def sendKill (cancellationWorker : Worker) (request : ClickHouseWireRequest) (queryId : Uuid)
    (cancellationDeadline : ℕ) : TransportM (Bool × String) := do
  modifyWorld fun world =>
    { world with physicalRequestCount := world.physicalRequestCount + 1 }
  let execution ← transport.executeOn cancellationWorker request (some queryId)
    cancellationDeadline
  let accountingError ← transport.consumeObservedOutcome execution.outcome "TabSeparatedRaw"
  match accountingError with
  | some refusal => transport.unconfirmed (accountingErrorType refusal)
  | none =>
    match execution.deadlineExceeded, execution.outcome with
    | false, some outcome => transport.settleKill queryId outcome
    | _, _ => transport.unconfirmed "CancellationAcknowledgementDeadlineExceeded"

/-- The KILL is charged. -/
def chargeKill (cancellationWorker : Worker) (request : ClickHouseWireRequest) (queryId : Uuid)
    (cancellationDeadline : ℕ) : TransportM (Bool × String) := do
  let refused ← catchAccounting (transport.dispatchKnown "cancel_clickhouse_query")
  match refused with
  | some refusal => transport.unconfirmed (accountingErrorType refusal)
  | none => transport.sendKill cancellationWorker request queryId cancellationDeadline

/-- The name of a `ProgrammingError` or a `ValueError`, which `_cancel_and_retire`
catches. -/
def requestErrorType : RequestError → Option String
  | .programming _ => some "ProgrammingError"
  | .refusal refusal =>
    if refusal.error.isInstance .valueError = true then some "ValueError" else none

/-- The KILL is built. -/
def buildKill (cancellationWorker : Worker) (queryId : Uuid) (cancellationDeadline : ℕ) :
    TransportM (Bool × String) := do
  let controlQueryId ← transport.freshUuid
  let now ← transport.monotonicNs
  match transport.clickhouseHttpRequest
      (transport.killArguments cancellationDeadline controlQueryId queryId) now with
  | .ok request => transport.chargeKill cancellationWorker request queryId cancellationDeadline
  | .error error =>
    match requestErrorType error with
    | some cause => do
      let _ ← transport.retire .cancellationUnconfirmed
      pure (false, cause)
    | none => raised (match error with
      | .refusal refusal => .refusal refusal
      | .programming message => .programming message)

/-- `_cancel_and_retire`. -/
def cancelAndRetire (cancellationWorker : Worker) (queryId : Uuid) : TransportM (Bool × String) := do
  let now ← transport.monotonicNs
  let cancellationDeadline := min transport.deadline.deadlineNanoseconds
    (now + transport.limits.cancellationReserveMilliseconds * 1000000)
  let again ← transport.monotonicNs
  if cancellationDeadline ≤ again then transport.unconfirmed "CancellationDeadlineExceeded"
  else transport.buildKill cancellationWorker queryId cancellationDeadline

/-! ## The outcome of a query -/

/-- `ClickHouseRawResult`. -/
structure ClickHouseRawResult where
  attemptId : Uuid
  queryId : Uuid
  payload : Bytes
  deriving DecidableEq, Repr

/-- `_query_error_from_outcome`. -/
def queryErrorFromOutcome (queryId : Uuid) (operation : String) (outcome : ClickHouseHttpOutcome)
    (completion : ClickHouseQueryCompletion) : TransportError :=
  .query
    { attemptId := transport.attemptId, queryId, operation
      httpStatus := outcome.statusCode
      errorCode := outcome.errorCode
      errorName := outcome.errorName
      receivedErrorBytes := outcome.receivedBytes
      errorResponseTruncated := outcome.truncated
      causeType := outcome.causeType.getD "ClickHouseServerError"
      completion }

/-- `_cancellation_unconfirmed_error`. -/
def cancellationUnconfirmedError (queryId : Uuid) (operation triggerCause : String)
    (outcome : Option ClickHouseHttpOutcome) (cancellationCause : String) : TransportError :=
  .cancellationUnconfirmed
    { attemptId := transport.attemptId, queryId, operation, triggerCause, cancellationCause
      httpStatus := outcome.bind fun outcome => outcome.statusCode
      errorCode := outcome.bind fun outcome => outcome.errorCode
      errorName := outcome.bind fun outcome => outcome.errorName
      receivedResponseBytes := (outcome.map fun outcome => outcome.receivedBytes).getD 0
      responseTruncated := (outcome.map fun outcome => outcome.truncated).getD false }

/-- A query that needs no cancellation: the transport is lost, and `error` is
raised unless the workers were not reaped. -/
def loseWith {α : Type} (cleanupMessage : String → String) (error : TransportError) :
    TransportM α := do
  let cleanupCause ← transport.retire .lost
  match cleanupCause with
  | some cause => raised (.cleanup (cleanupMessage cause))
  | none => raised error

/-- A query that has to be cancelled: `error` is raised once that is confirmed. -/
def cancelWith {α : Type} (cancellationWorker : Worker) (queryId : Uuid)
    (operation triggerCause : String) (outcome : Option ClickHouseHttpOutcome)
    (error : TransportError) : TransportM α := do
  let cancellation ← transport.cancelAndRetire cancellationWorker queryId
  if cancellation.1 = true then raised error
  else raised (transport.cancellationUnconfirmedError queryId operation triggerCause outcome
    cancellation.2)

/-- The text of a `ClickHouseTransportCleanupError` about one query. -/
def cleanupText (what : String) (queryId : Uuid) (operation cause : String) : String :=
  s!"{what}: attempt_id={uuidText transport.attemptId}, query_id={uuidText queryId}, "
    ++ s!"operation='{operation}', cause_type='{cause}'"

/-- `kind.value`. -/
def kindValue : ClickHouseHttpOutcomeKind → String
  | .success => "success"
  | .serverError => "server_error"
  | .resultLimit => "result_limit"
  | .protocolError => "protocol_error"
  | .transportError => "transport_error"

/-- `_resolve_query_outcome` of an outcome that is neither a success nor a reply
of the server. -/
def resolveFailedRequest (outcome : ClickHouseHttpOutcome) (queryId : Uuid) (operation : String)
    (cancellationWorker : Worker) : TransportM ClickHouseRawResult :=
  if outcome.dispatchState = .notSent then
    transport.loseWith
      (transport.cleanupText "ClickHouse request was not dispatched but worker cleanup failed"
        queryId operation)
      (transport.queryErrorFromOutcome queryId operation outcome .notDispatched)
  else
    transport.cancelWith cancellationWorker queryId operation
      (outcome.causeType.getD (kindValue outcome.kind)) (some outcome)
      (transport.queryErrorFromOutcome queryId operation outcome .cancelled)

/-- `_resolve_query_outcome`. -/
def resolveQueryOutcome (outcome : ClickHouseHttpOutcome) (queryId : Uuid) (operation : String)
    (cancellationWorker : Worker) : TransportM ClickHouseRawResult :=
  match outcome.kind with
  | .success => pure { attemptId := transport.attemptId, queryId, payload := outcome.payload }
  | .resultLimit =>
    let error := TransportError.responseLimit transport.attemptId queryId operation
      outcome.receivedBytes outcome.truncated
    if outcome.truncated = true then
      transport.cancelWith cancellationWorker queryId operation "ResponseLimit" (some outcome) error
    else
      transport.loseWith
        (transport.cleanupText
          "ClickHouse returned a complete oversized response but worker cleanup failed"
          queryId operation) error
  | .serverError =>
    if outcome.truncated = true then
      transport.cancelWith cancellationWorker queryId operation "ErrorResponseLimit" (some outcome)
        (transport.queryErrorFromOutcome queryId operation outcome .cancelled)
    else
      transport.loseWith
        (transport.cleanupText
          "ClickHouse returned a terminal server error but worker cleanup failed" queryId operation)
        (transport.queryErrorFromOutcome queryId operation outcome .serverTerminal)
  | _ => transport.resolveFailedRequest outcome queryId operation cancellationWorker

/-- A reply of the server that was read to its end. -/
def isTerminalReply (outcome : ClickHouseHttpOutcome) : Bool :=
  (outcome.kind = .success || outcome.kind = .serverError || outcome.kind = .resultLimit) &&
    !outcome.truncated

/-- `_raise_deadline_outcome`. -/
def raiseDeadlineOutcome {α : Type} (outcome : Option ClickHouseHttpOutcome) (queryId : Uuid)
    (operation : String) (cancellationWorker : Worker) : TransportM α :=
  if outcome.any isTerminalReply = true then
    transport.loseWith
      (transport.cleanupText "ClickHouse query finished after its deadline but worker cleanup failed"
        queryId operation)
      (.deadlineExceeded transport.attemptId queryId operation .serverTerminal)
  else if outcome.any (fun outcome => outcome.dispatchState = .notSent) = true then
    transport.loseWith
      (transport.cleanupText "ClickHouse query deadline expired before dispatch and cleanup failed"
        queryId operation)
      (.deadlineExceeded transport.attemptId queryId operation .notDispatched)
  else
    transport.cancelWith cancellationWorker queryId operation "AttemptDeadlineExceeded" outcome
      (.deadlineExceeded transport.attemptId queryId operation .cancelled)

/-! ## One query -/

/-- `_execute_request` with the result of a finished query. -/
def acceptResult (result : ClickHouseRawResult) (operation : String)
    (accountingError : Option Refusal) : TransportM ClickHouseRawResult :=
  match accountingError with
  | none => pure result
  | some refusal => do
    let cleanupCause ← transport.retire .lost
    match cleanupCause with
    | some cause => raised (.cleanup
        ("ClickHouse source accounting failed after a completed query and worker cleanup was not "
          ++ s!"confirmed: attempt_id={uuidText transport.attemptId}, "
          ++ s!"query_id={uuidText result.queryId}, operation='{operation}', "
          ++ s!"primary_error_type='{accountingErrorType refusal}', cleanup_cause='{cause}'"))
    | none => raised (.refusal refusal)

/-- `_execute_request` once the worker has answered. -/
def settleExecution (execution : ClickHouseHttpExecution) (cancellationWorker : Worker)
    (queryId : Uuid) (operation resultFormat : String) : TransportM ClickHouseRawResult := do
  let accountingError ← transport.consumeObservedOutcome execution.outcome resultFormat
  if execution.deadlineExceeded = true then
    noteAccounting accountingError
      (transport.raiseDeadlineOutcome execution.outcome queryId operation cancellationWorker)
  else
    match execution.outcome with
    | none => raised (.assertion "ClickHouse HTTP execution ended without an outcome")
    | some outcome => do
      let result ← noteAccounting accountingError
        (transport.resolveQueryOutcome outcome queryId operation cancellationWorker)
      transport.acceptResult result operation accountingError

/-- `_execute_request`. -/
def executeRequest (targetWorker cancellationWorker : Worker) (request : ClickHouseWireRequest)
    (workDeadline : ℕ) (queryId : Uuid) (operation resultFormat : String) :
    TransportM ClickHouseRawResult := do
  modifyWorld fun world =>
    { world with physicalRequestCount := world.physicalRequestCount + 1 }
  let execution ← transport.executeOn targetWorker request none workDeadline
  transport.settleExecution execution cancellationWorker queryId operation resultFormat

/-! ## Preparing a query -/

/-- `_require_active`. -/
def requireActive (operation : String) : TransportM Unit := do
  let world ← readWorld
  if world.state = .active then pure ()
  else raised (.refusal
    { error := .clickHouseTransportClosedError
      message := s!"ClickHouse transport is not active: operation='{operation}', "
        ++ s!"state='{world.state.value}'" })

/-- `_work_deadline_nanoseconds`. A deadline before the reserve leaves no work
budget at any time, so the difference may stop at zero. -/
def workDeadlineNanoseconds : TransportM ℕ := do
  let now ← transport.monotonicNs
  let deadline := min (now + transport.deadline.statementTimeoutMilliseconds * 1000000)
    (transport.deadline.deadlineNanoseconds
      - transport.limits.cancellationReserveMilliseconds * 1000000)
  if deadline ≤ now then do
    let cleanupCause ← transport.retire .lost
    match cleanupCause with
    | some cause => raised (.cleanup
        ("ClickHouse attempt has no work budget and worker cleanup failed: "
          ++ s!"attempt_id={uuidText transport.attemptId}, cause_type='{cause}'"))
    | none => do
      let queryId ← transport.freshUuid
      raised (.deadlineExceeded transport.attemptId queryId "admit_clickhouse_query" .notDispatched)
  else pure deadline

/-- `_http_deadline_nanoseconds`. -/
def httpDeadlineNanoseconds (workDeadline : ℕ) : ℕ :=
  min transport.deadline.deadlineNanoseconds
    (workDeadline + transport.limits.cancellationReserveMilliseconds * 1000000)

/-- `_require_prepared_before_deadline`. -/
def requirePreparedBeforeDeadline (deadline : ℕ) (queryId : Uuid) (operation : String) :
    TransportM Unit := do
  let now ← transport.monotonicNs
  if now < deadline then pure ()
  else
    transport.loseWith
      (transport.cleanupText
        "ClickHouse request preparation exceeded its deadline and worker cleanup failed"
        queryId operation)
      (.deadlineExceeded transport.attemptId queryId operation .notDispatched)

/-- `_ClickHousePreparedRequest`. -/
structure PreparedRequest where
  request : ClickHouseWireRequest
  workDeadline : ℕ
  queryId : Uuid

/-- What `execute_raw` is given. -/
structure RawArguments where
  query : String
  parameters : List (String × ClickHouseParameter)
  settings : List (String × ClickHouseParameter)
  resultFormat : String
  maxResponseBytes : ℕ
  operation : String

/-- A request that the builder refuses leaves its exception. -/
def builtRequest (built : Except RequestError ClickHouseWireRequest) :
    TransportM ClickHouseWireRequest :=
  lift (built.mapError fun error =>
    Raised.of (match error with
      | .refusal refusal => .refusal refusal
      | .programming message => .programming message))

/-- The query gets its identity, its deadlines and its request. -/
def prepareRequest (arguments : RawArguments) : TransportM PreparedRequest := do
  let queryId ← transport.freshUuid
  modifyWorld fun world => { world with lastQueryId := some queryId }
  let workDeadline ← transport.workDeadlineNanoseconds
  let now ← transport.monotonicNs
  let request ← builtRequest (transport.clickhouseHttpRequest
    { dispatchDeadlineNanoseconds := workDeadline
      ioDeadlineNanoseconds := transport.httpDeadlineNanoseconds workDeadline
      queryId
      query := arguments.query
      parameters := arguments.parameters
      querySettings := arguments.settings
      resultFormat := arguments.resultFormat
      maxResponseBytes := arguments.maxResponseBytes } now)
  transport.requirePreparedBeforeDeadline workDeadline queryId arguments.operation
  pure { request, workDeadline, queryId }

/-- The checks of the arguments in `_prepare_raw_request`. -/
def validateRawArguments (arguments : RawArguments) : Except Refusal Unit := do
  validateClickhouseTextScalar arguments.query "ClickHouse query"
  validateClickhouseTextScalar arguments.resultFormat "ClickHouse result format"
  validateClickhouseTextScalar arguments.operation "ClickHouse operation"
  refuseIf (arguments.maxResponseBytes < 1)
    (httpValue "max_response_bytes must be a positive integer")
  requireProtocolQuerySettings transport.protocol arguments.settings

/-- `_prepare_raw_request`. -/
def prepareRawRequest (arguments : RawArguments) : TransportM PreparedRequest := do
  requireActive arguments.operation
  checked (transport.validateRawArguments arguments)
  transport.prepareRequest arguments

/-! ## The methods -/

/-- `execute_raw`. -/
def executeRaw (arguments : RawArguments) : TransportM ClickHouseRawResult := do
  let prepared ← transport.prepareRawRequest arguments
  transport.dispatchKnown arguments.operation
  transport.executeRequest .data .control prepared.request prepared.workDeadline prepared.queryId
    arguments.operation arguments.resultFormat

/-- `execute_source_raw`. -/
def executeSourceRaw (arguments : RawArguments) (fullScans : ℤ) :
    TransportM ClickHouseRawResult := do
  let prepared ← transport.prepareRawRequest arguments
  transport.dispatchExplicit arguments.operation fullScans
  transport.executeRequest .data .control prepared.request prepared.workDeadline prepared.queryId
    arguments.operation arguments.resultFormat

/-- The query that `initialize_control_connection` sends. -/
def controlArguments : RawArguments where
  query := transport.protocol.controlInitialization.query
  parameters := []
  settings := transport.protocol.controlInitialization.querySettings
  resultFormat := "TabSeparatedRaw"
  maxResponseBytes := transport.limits.maxInitializationResponseBytes
  operation := "initialize_clickhouse_control_transport"

/-- `initialize_control_connection`. -/
def initializeControlConnection : TransportM ClickHouseRawResult := do
  requireActive transport.controlArguments.operation
  let prepared ← transport.prepareRequest transport.controlArguments
  transport.dispatchKnown transport.controlArguments.operation
  transport.executeRequest .control .data prepared.request prepared.workDeadline prepared.queryId
    transport.controlArguments.operation transport.controlArguments.resultFormat

/-- `close` of an active transport. -/
def closeActive : TransportM Unit := do
  let cleanupCause ← transport.retireWorkers true
  match cleanupCause with
  | some cause => do
    modifyWorld fun world => { world with state := .cancellationUnconfirmed }
    raised (.cleanup
      ("ClickHouse transport could not reap its isolated workers during close: "
        ++ s!"cause_type='{cause}'"))
  | none => modifyWorld fun world => { world with state := .closed }

/-- `close`. -/
def close : TransportM Unit := do
  let world ← readWorld
  if world.state = .active then transport.closeActive else pure ()

/-! ## Runs -/

/-- A call on the transport. -/
inductive Call where
  | executeRaw (arguments : RawArguments)
  | executeSourceRaw (arguments : RawArguments) (fullScans : ℤ)
  | initializeControlConnection
  | close

/-- What a call returns. -/
def perform : Call → TransportM (Option ClickHouseRawResult)
  | .executeRaw arguments => do
    let result ← transport.executeRaw arguments
    pure (some result)
  | .executeSourceRaw arguments fullScans => do
    let result ← transport.executeSourceRaw arguments fullScans
    pure (some result)
  | .initializeControlConnection => do
    let result ← transport.initializeControlConnection
    pure (some result)
  | .close => do
    transport.close
    pure none

/-- A call on the transport, or on the ledger by someone else. -/
inductive Event where
  | call (next : Call)
  | elsewhere (work : SourceBudgetLedger.Work)

/-- The world after an event, whether or not it raised. -/
def after (world : TransportWorld) : Event → TransportWorld
  | .call next => (transport.perform next world).world
  | .elsewhere work =>
    { world with ledger := (transport.ledger.perform work world.ledger).world }

/-- The world after a list of events. -/
def run (world : TransportWorld) (events : List Event) : TransportWorld :=
  events.foldl transport.after world

end ClickHouseTransport

/-- The world of a transport that was just made: both workers ready. -/
def TransportWorld.opened (ledger : LedgerWorld) (physicalRequestCount uuids cleanups : ℕ) :
    TransportWorld where
  ledger := ledger
  state := .active
  dataWorker := .ready
  controlWorker := .ready
  physicalRequestCount := physicalRequestCount
  lastQueryId := none
  exchanges := []
  uuids := uuids
  cleanups := cleanups

end ForensicData.ClickHouse
