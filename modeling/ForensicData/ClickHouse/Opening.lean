/-
ForensicData.ClickHouse.Opening — the attempts to open a transport.

An attempt starts two workers, makes a transport of them and asks it the two
questions of the protocol. A failed attempt may be repeated; whichever way one
ends, its workers are ended before the next begins. How often a worker was
started decides what its start comes to, and every attempt has channels of its
own. A worker that was not started is as one that is closed: ending it does
nothing. Logging is left out.
-/
import ForensicData.ClickHouse.Transport
import ForensicData.Lib.Handlers

namespace ForensicData.ClickHouse

open ForensicData.Application (uuidText)
open ForensicData.Canonical (Bytes)
open ForensicData.Comparison (ClickHouseQueryCompletion)
open ForensicData.Lib
open ForensicData.Lib.Generator
open ForensicData.Result (Uuid)

/-! ## Errors -/

/-- `ClickHouseConnectionError`. -/
structure ConnectionFailure where
  attemptId : Uuid
  connectionAttempts : ℕ
  queryId : Option Uuid
  httpStatus : Option ℕ
  errorCode : Option ℕ
  errorName : Option String
  receivedErrorBytes : ℕ
  errorResponseTruncated : Bool
  causeType : String

/-- What the opening of a transport raises, or passes on to its own handlers:
`startup` and `worker` are the exceptions of `start_clickhouse_http_worker`. -/
inductive OpeningError where
  | connection (failure : ConnectionFailure)
  | startup (causeType : String) (retryable : Bool)
  | worker
  | cleanup (message : String)
  | transport (raised : Raised)
  | assertion (message : String)

/-! ## The world -/

/-- What the start of a worker's process comes to. -/
inductive StartEvent where
  | notStarted
  | noAcknowledgement
  | oversizedAcknowledgement
  | invalidAcknowledgement
  | startupFailure (causeType : String) (retryable : Bool)
  | ready

/-- `ClickHouseRetryPolicy`. The delay is a float, so whether it reaches the end of
the work budget is a function of the nanoseconds that remain. -/
structure ClickHouseRetryPolicy where
  maxAttempts : ℕ
  delayReaches : ℤ → Bool
  attempts_pos : 1 ≤ maxAttempts

/-- The arguments of `_open_clickhouse_transport`, and what the surroundings
answer. -/
structure ClickHouseOpening extends ClickHouseEndpoint where
  retryPolicy : ClickHouseRetryPolicy
  attemptId : Uuid
  accounting : RequestAccounting
  ledger : SourceBudgetLedger
  uuid4 : ℕ → Uuid
  answer : ℕ → ℕ → ChannelAnswer
  reaped : ℕ → Bool
  start : ℕ → StartEvent

/-- No worker was started yet. -/
def TransportWorld.unstarted (ledger : LedgerWorld) (physicalRequestCount uuids cleanups : ℕ) :
    TransportWorld :=
  { TransportWorld.opened ledger physicalRequestCount uuids cleanups with
    state := .closed, dataWorker := .closed, controlWorker := .closed }

/-- The variables of the loop: the transport of the attempt, the requests of the
attempts and the last error of a question; the starts, the processes that a failed
start left running, and the attempts that were repeated. -/
structure OpeningWorld where
  current : TransportWorld
  totalDispatches : ℕ
  lastError : Option QueryFailure
  starts : ℕ
  unreaped : ℕ
  earlier : List (ℕ × TransportWorld)

abbrev OpeningM (α : Type) : Type := Generator OpeningWorld Empty OpeningError α

def modifyOpening (change : OpeningWorld → OpeningWorld) : OpeningM Unit :=
  act fun world => (.ok (), change world)

/-- A step of the transport of the attempt. -/
def onTransport {α : Type} (work : TransportM α) : OpeningM α :=
  handled (focused OpeningWorld.current (fun current world => { world with current }) work)
    fun error => raise (.transport error)

/-- `total_dispatches = transport.physical_request_count`. -/
def noteDispatches : OpeningM Unit :=
  modifyOpening fun world =>
    { world with totalDispatches := world.current.physicalRequestCount }

/-- The world before the next attempt. -/
def OpeningWorld.repeated (attempt : ℕ) (world : OpeningWorld) : OpeningWorld :=
  { world with
    earlier := world.earlier ++ [(attempt, world.current)]
    current := .unstarted world.current.ledger world.totalDispatches world.current.uuids
      world.current.cleanups }

namespace ClickHouseOpening

variable (opening : ClickHouseOpening)

/-- The transport of an attempt. -/
def transport (attempt : ℕ) : ClickHouseTransport :=
  { opening.toClickHouseEndpoint with
    attemptId := opening.attemptId
    accounting := opening.accounting
    ledger := opening.ledger
    uuid4 := opening.uuid4
    answer := opening.answer attempt
    reaped := opening.reaped }

/-- A connection error that is not about a query. -/
def connectionError (attempt : ℕ) (causeType : String) : OpeningError :=
  .connection
    { attemptId := opening.attemptId
      connectionAttempts := attempt
      queryId := none
      httpStatus := none
      errorCode := none
      errorName := none
      receivedErrorBytes := 0
      errorResponseTruncated := false
      causeType }

/-- A connection error about a query that was answered. -/
def answeredError (attempt : ℕ) (queryId : Uuid) (receivedErrorBytes : ℕ)
    (errorResponseTruncated : Bool) (causeType : String) : OpeningError :=
  .connection
    { attemptId := opening.attemptId
      connectionAttempts := attempt
      queryId := some queryId
      httpStatus := some 200
      errorCode := none
      errorName := none
      receivedErrorBytes, errorResponseTruncated, causeType }

/-! ## Workers -/

/-- The process of a failed start is ended, if it can be; then `error`. -/
def abandonStart (error : OpeningError) : OpeningM Unit :=
  act fun world =>
    let cleaned :=
      { world with
        current := { world.current with cleanups := world.current.cleanups + 1 } }
    if opening.reaped world.current.cleanups = true then (.error error, cleaned)
    else (.error .worker, { cleaned with unreaped := cleaned.unreaped + 1 })

/-- What `start_clickhouse_http_worker` makes of the start. An acknowledgement above
the byte bound raises past the handler that would end the process. -/
def acknowledged (worker : Worker) : StartEvent → OpeningM Unit
  | .notStarted => raise .worker
  | .noAcknowledgement => opening.abandonStart .worker
  | .oversizedAcknowledgement => do
    modifyOpening fun world => { world with unreaped := world.unreaped + 1 }
    raise .worker
  | .invalidAcknowledgement => opening.abandonStart .worker
  | .startupFailure causeType retryable => opening.abandonStart (.startup causeType retryable)
  | .ready =>
    modifyOpening fun world => { world with current := world.current.setWorker .ready worker }

/-- `start_clickhouse_http_worker`. -/
def startWorker (worker : Worker) : OpeningM Unit := do
  let event ← act fun world =>
    (.ok (opening.start world.starts), { world with starts := world.starts + 1 })
  opening.acknowledged worker event

/-- The cleanup of the workers that were started. -/
def endWorkers (attempt : ℕ) : OpeningM Unit := do
  let dataCause ← onTransport ((opening.transport attempt).terminateWorker .data)
  let controlCause ← onTransport ((opening.transport attempt).terminateWorker .control)
  match dataCause.toList ++ controlCause.toList with
  | [] => pure ()
  | cause :: rest => raise (.cleanup
      ("ClickHouse startup failure left isolated worker cleanup unconfirmed: "
        ++ s!"attempt_id={uuidText opening.attemptId}, connection_attempt={attempt}, "
        ++ s!"cleanup_causes={causesText cause rest}"))
where
  /-- `repr` of a tuple of names. -/
  causesText (cause : String) (rest : List String) : String :=
    if rest.isEmpty = true then s!"('{cause}',)"
    else "(" ++ String.intercalate ", " ((cause :: rest).map fun cause => s!"'{cause}'") ++ ")"

/-! ## The two questions -/

/-- The first question of the protocol. -/
def dataArguments : ClickHouseTransport.RawArguments where
  query := opening.protocol.dataInitialization.query
  parameters := []
  settings := opening.protocol.dataInitialization.querySettings
  resultFormat := "TabSeparatedRaw"
  maxResponseBytes := opening.limits.maxInitializationResponseBytes
  operation := "initialize_clickhouse_transport"

/-- A question of the protocol, which has one answer. -/
def probe (attempt : ℕ) (question : TransportM ClickHouseTransport.ClickHouseRawResult)
    (expectedPayload : Bytes) (causeType : String) : OpeningM Unit := do
  let initialized ← onTransport question
  noteDispatches
  if initialized.payload = expectedPayload then pure ()
  else do
    onTransport (opening.transport attempt).close
    raise (opening.answeredError attempt initialized.queryId 0 false causeType)

/-- `ClickHouseTransport(…)`. -/
def constructTransport : OpeningM Unit :=
  modifyOpening fun world =>
    { world with
      current := .opened world.current.ledger world.totalDispatches world.current.uuids
        world.current.cleanups }

/-- The body of an attempt. -/
def openAttempt (attempt : ℕ) : OpeningM Unit := do
  opening.startWorker .data
  opening.startWorker .control
  constructTransport
  opening.probe attempt ((opening.transport attempt).executeRaw opening.dataArguments)
    opening.protocol.dataInitialization.expectedPayload "RequiredHttpTransportSettingsUnavailable"
  opening.probe attempt (opening.transport attempt).initializeControlConnection
    opening.protocol.controlInitialization.expectedPayload
    "RequiredControlHttpTransportSettingsUnavailable"

/-! ## Failed attempts -/

/-- `_RETRYABLE_HTTP_STATUSES`. -/
def retryableHttpStatuses : List ℕ := [429, 502, 503, 504]

/-- `_connection_error_is_retryable`. -/
def connectionErrorIsRetryable (failure : QueryFailure) : Bool :=
  failure.completion = .notDispatched || failure.completion = .cancelled ||
    failure.httpStatus.any fun status => retryableHttpStatuses.contains status

/-- `_connection_error_from_query`. -/
def connectionErrorFromQuery (failure : QueryFailure) (attempt : ℕ) : OpeningError :=
  .connection
    { attemptId := failure.attemptId
      connectionAttempts := attempt
      queryId := some failure.queryId
      httpStatus := failure.httpStatus
      errorCode := failure.errorCode
      errorName := failure.errorName
      receivedErrorBytes := failure.receivedErrorBytes
      errorResponseTruncated := failure.errorResponseTruncated
      causeType := failure.causeType }

/-- `_sleep_before_clickhouse_retry`. -/
def sleepBeforeRetry (workDeadline attempt : ℕ) : OpeningM Unit := do
  let now ← onTransport (opening.transport attempt).monotonicNs
  if opening.retryPolicy.delayReaches ((workDeadline : ℤ) - now) = true then
    raise (opening.connectionError attempt "AttemptDeadlineExceededBeforeRetry")
  else pure ()

/-- The next attempt, unless this was the last one or its failure is final. -/
def tryAgain (workDeadline attempt : ℕ) (retryable : Bool) (final : OpeningError) :
    OpeningM (Option ℕ) :=
  if attempt = opening.retryPolicy.maxAttempts ∨ retryable = false then raise final
  else do
    opening.sleepBeforeRetry workDeadline attempt
    pure none

/-- The handlers of an attempt for what the transport raises. -/
def recoverTransport (workDeadline attempt : ℕ) (error : Raised) : OpeningM (Option ℕ) :=
  match error.error with
  | .query failure => do
    noteDispatches
    modifyOpening fun world => { world with lastError := some failure }
    opening.tryAgain workDeadline attempt (connectionErrorIsRetryable failure)
      (connectionErrorFromQuery failure attempt)
  | .responseLimit _ queryId _ received truncated =>
    raise (opening.answeredError attempt queryId received truncated "InitializationResponseLimit")
  | .worker _ => raise (opening.connectionError attempt "ClickHouseHttpWorkerError")
  | _ => raise (.transport error)

/-- The handlers of an attempt. -/
def recover (workDeadline attempt : ℕ) : OpeningError → OpeningM (Option ℕ)
  | .transport error => opening.recoverTransport workDeadline attempt error
  | .startup causeType retryable =>
    opening.tryAgain workDeadline attempt retryable (opening.connectionError attempt causeType)
  | .worker => raise (opening.connectionError attempt "ClickHouseHttpWorkerError")
  | error => raise error

/-! ## Attempts -/

/-- `_clickhouse_work_deadline`. A deadline before the reserve leaves no work budget
at any time, so the difference may stop at zero. -/
def workDeadline (attempt : ℕ) : OpeningM ℕ := do
  let now ← onTransport (opening.transport attempt).monotonicNs
  let deadline := min (now + opening.deadline.statementTimeoutMilliseconds * 1000000)
    (opening.deadline.deadlineNanoseconds
      - opening.limits.cancellationReserveMilliseconds * 1000000)
  if deadline ≤ now then
    raise (opening.connectionError attempt "AttemptDeadlineExceededBeforeInitialization")
  else pure deadline

/-- What an attempt leaves to the next one. -/
def leave (attempt : ℕ) : Option ℕ → OpeningM (Option ℕ)
  | some opened => pure (some opened)
  | none => do
    modifyOpening (OpeningWorld.repeated attempt)
    pure none

/-- One attempt: its number when the transport is open, nothing when it is to be
repeated. -/
def attemptOnce (attempt : ℕ) : OpeningM (Option ℕ) := do
  let workDeadline ← opening.workDeadline attempt
  let outcome ← releasedUnless Option.isSome
    (handled (opening.openAttempt attempt >>= fun _ => pure (some attempt))
      (opening.recover workDeadline attempt))
    (opening.endWorkers attempt)
  leave attempt outcome

/-- `_open_clickhouse_transport` after its loop. -/
def exhausted : OpeningM ℕ := do
  let lastError ← act fun world => (.ok world.lastError, world)
  match lastError with
  | none => raise (.assertion "ClickHouse connection loop ended without an attempt")
  | some failure => raise (connectionErrorFromQuery failure opening.retryPolicy.maxAttempts)

/-- `_open_clickhouse_transport`: the number of attempts that the transport took. -/
def openClickhouseTransport : OpeningM ℕ :=
  if opening.attemptId = 0 then
    raise (.transport (Raised.of (.refusal (httpValue "attempt_id must be a non-zero UUID"))))
  else retry opening.attemptOnce opening.exhausted opening.retryPolicy.maxAttempts 1

/-- `open_budgeted_clickhouse_transport` and its legacy sibling. -/
def openBudgetedClickhouseTransport (budgetAttemptId : Uuid) : OpeningM ℕ :=
  if budgetAttemptId ≠ opening.attemptId then
    raise (.transport (Raised.of (.refusal (httpValue
      ("budgeted ClickHouse transport attempt ID differs from its source budget: "
        ++ s!"transport_attempt_id={uuidText opening.attemptId}, "
        ++ s!"budget_attempt_id={uuidText budgetAttemptId}")))))
  else opening.openClickhouseTransport

end ClickHouseOpening

/-- The world in which a transport is asked for. -/
def OpeningWorld.fresh (ledger : LedgerWorld) (uuids cleanups : ℕ) : OpeningWorld where
  current := .unstarted ledger 0 uuids cleanups
  totalDispatches := 0
  lastError := none
  starts := 0
  unreaped := 0
  earlier := []

end ForensicData.ClickHouse
