/-
ForensicData.ClickHouse.HttpRequest — the request of one ClickHouse query.

`_clickhouse_http_request` checks the inputs of a query, binds them, and writes
the URL, the headers and the body. Whatever it refuses, it refuses before
anything is sent. Texts have no surrogates; `bind_query` of the driver is a
parameter; the division of the remaining time is exact.
-/
import ForensicData.Application.Reasons
import ForensicData.ClickHouse.HttpResponse
import ForensicData.Contracts.Entities
import ForensicData.Lib.UrlEncoding

namespace ForensicData.ClickHouse

open ForensicData.Application (uuidText)
open ForensicData.Canonical (Bytes utf8Encode)
open ForensicData.Lib
open ForensicData.Result (Uuid)

/-! ## Settings and limits -/

inductive ClickHouseParameter where
  | integer (value : ℤ)
  | text (value : String)
  deriving DecidableEq, Repr

/-- What `validate_clickhouse_text_scalar` accepts. -/
def isTextScalar (value : String) : Bool := decide (value ≠ "") && !value.toList.contains '\x00'

/-- `validate_clickhouse_text_scalar`. -/
def validateClickhouseTextScalar (value label : String) : Except Refusal Unit := do
  refuseIf (value = "") (httpValue s!"{label} must be non-empty text")
  refuseIf (value.toList.contains '\x00' = true)
    (httpValue s!"{label} must not contain U+0000")

inductive ClickHouseTransportSecurity where
  | tlsVerify
  | plaintextLocalFixture
  deriving DecidableEq, Repr

/-- A host without the characters that end it in a URL; `validate_host` checks more. -/
def settingsHostIsPlain (host : String) : Bool :=
  host.toList.all fun c => !(['/', '?', '#', '@', '[', ']'].contains c)

/-- The fields of `ClickHouseConnectionSettings` that a request is made of. -/
structure ClickHouseConnectionSettings where
  host : String
  port : ℕ
  database : String
  user : String
  password : String
  transportSecurity : ClickHouseTransportSecurity
  applicationName : String
  user_scalar : isTextScalar user = true
  host_plain : settingsHostIsPlain host = true

/-- `_HTTP_IPC_OVERHEAD_BYTES`. -/
def httpIpcOverheadBytes : ℕ := 65536

/-- `_KILL_QUERY_RESPONSE_OVERHEAD_BYTES`. -/
def killQueryResponseOverheadBytes : ℕ := 65536

/-- `ClickHouseTransportLimits`, with what its `__post_init__` checks. -/
structure ClickHouseTransportLimits where
  maxInitializationResponseBytes : ℕ
  maxErrorResponseBytes : ℕ
  maxCancellationResponseBytes : ℕ
  maxQueryBytes : ℕ
  maxIpcMessageBytes : ℕ
  cancellationReserveMilliseconds : ℕ
  initialization_pos : 0 < maxInitializationResponseBytes
  error_pos : 0 < maxErrorResponseBytes
  cancellation_pos : 0 < maxCancellationResponseBytes
  query_pos : 0 < maxQueryBytes
  reserve_pos : 0 < cancellationReserveMilliseconds
  initialization_fits : maxInitializationResponseBytes + exceptionFrameMaxBytes
    + httpIpcOverheadBytes ≤ maxIpcMessageBytes
  error_fits : maxErrorResponseBytes + httpIpcOverheadBytes ≤ maxIpcMessageBytes
  cancellation_fits : maxCancellationResponseBytes + exceptionFrameMaxBytes
    + httpIpcOverheadBytes ≤ maxIpcMessageBytes
  query_fits : maxQueryBytes + httpIpcOverheadBytes ≤ maxIpcMessageBytes
  acknowledgement_fits :
    maxQueryBytes + killQueryResponseOverheadBytes ≤ maxCancellationResponseBytes

/-- `PostgresReadDeadline`. -/
structure PostgresReadDeadline where
  deadlineNanoseconds : ℕ
  statementTimeoutMilliseconds : ℕ
  timeout_pos : 0 < statementTimeoutMilliseconds

/-! ## The two protocols -/

/-- `_ClickHouseInitializationProbe`. -/
structure ClickHouseInitializationProbe where
  query : String
  querySettings : List (String × ClickHouseParameter)
  expectedPayload : Bytes

/-- `_MODERN_CLICKHOUSE_PROTOCOL` and `_LEGACY_CLICKHOUSE_21_8_PROTOCOL`. -/
inductive ClickHouseTransportProtocol where
  | modern
  | legacy218
  deriving DecidableEq, Repr

namespace ClickHouseTransportProtocol

/-- `runtime_profile.value`. -/
def runtimeProfile : ClickHouseTransportProtocol → String
  | .modern => "clickhouse_lts"
  | .legacy218 => "clickhouse_21_8_lts"

def urlParameters : ClickHouseTransportProtocol → List (String × String)
  | .modern => [("http_write_exception_in_output_format", "0"), ("wait_end_of_query", "1")]
  | .legacy218 => [("wait_end_of_query", "1")]

def transportOwnedQuerySettings : ClickHouseTransportProtocol → List String
  | .modern => ["http_write_exception_in_output_format", "query_id", "wait_end_of_query"]
  | .legacy218 => ["query_id", "wait_end_of_query"]

def lockedQuerySettings : ClickHouseTransportProtocol → List String
  | .modern => []
  | .legacy218 =>
    ["cancel_http_readonly_queries_on_client_close", "allow_experimental_projection_optimization",
     "force_optimize_projection", "group_by_overflow_mode", "read_overflow_mode",
     "read_overflow_mode_leaf", "readonly", "result_overflow_mode",
     "send_progress_in_http_headers", "sort_overflow_mode", "timeout_overflow_mode"]

def unsupportedQuerySettings : ClickHouseTransportProtocol → List String
  | .modern => []
  | .legacy218 =>
    ["apply_mutations_on_fly", "apply_patch_parts", "final",
     "http_write_exception_in_output_format", "session_timezone", "timeout_overflow_mode_leaf"]

def cancellationQuerySettings :
    ClickHouseTransportProtocol → List (String × ClickHouseParameter)
  | .modern => [("session_timezone", .text "UTC")]
  | .legacy218 => []

/-- `data_initialization`. -/
def dataInitialization : ClickHouseTransportProtocol → ClickHouseInitializationProbe
  | .modern =>
    { query := "SELECT 'ready', "
        ++ "toUInt8(getSetting('cancel_http_readonly_queries_on_client_close')), "
        ++ "toUInt8(getSetting('http_write_exception_in_output_format'))"
      querySettings := [("session_timezone", .text "UTC"), ("max_result_rows", .integer 1)]
      expectedPayload := utf8Encode "ready\t1\t0\n" }
  | .legacy218 =>
    { query := "SELECT 'ready', "
        ++ "toUInt8(getSetting('cancel_http_readonly_queries_on_client_close')), "
        ++ "toUInt8(getSetting('send_progress_in_http_headers')), "
        ++ "toUInt8(getSetting('readonly')), "
        ++ "toString(getSetting('result_overflow_mode')), timezone()"
      querySettings := []
      expectedPayload := utf8Encode "ready\t1\t0\t2\tthrow\tUTC\n" }

/-- `control_initialization`. -/
def controlInitialization : ClickHouseTransportProtocol → ClickHouseInitializationProbe
  | .modern =>
    { query := "SELECT 'control-ready', "
        ++ "toUInt8(getSetting('cancel_http_readonly_queries_on_client_close')), "
        ++ "toUInt8(getSetting('http_write_exception_in_output_format'))"
      querySettings := [("session_timezone", .text "UTC"), ("max_result_rows", .integer 1)]
      expectedPayload := utf8Encode "control-ready\t1\t0\n" }
  | .legacy218 =>
    { query := "SELECT 'control-ready', "
        ++ "toUInt8(getSetting('cancel_http_readonly_queries_on_client_close')), "
        ++ "toUInt8(getSetting('send_progress_in_http_headers')), "
        ++ "toUInt8(getSetting('readonly')), "
        ++ "toString(getSetting('result_overflow_mode')), timezone()"
      querySettings := []
      expectedPayload := utf8Encode "control-ready\t1\t0\t2\tthrow\tUTC\n" }

end ClickHouseTransportProtocol

/-! ## Refused requests -/

/-- What building a request raises: a `ValueError`, or the `ProgrammingError` of
the binding library. -/
inductive RequestError where
  | refusal (refusal : Refusal)
  | programming (message : String)
  deriving DecidableEq, Repr

/-- What `bind_query` returns: the query, unless it is not a text, and the bound
names and values, each unless it is not a text. -/
structure BoundQuery where
  query : Option String
  parameters : List (Option String × Option String)

abbrev BindQuery :=
  String → List (String × ClickHouseParameter) → Except String BoundQuery

/-! ## The inputs of a query -/

/-- `_CLICKHOUSE_FORMAT`. -/
def isFormatName (name : String) : Bool :=
  match name.toList with
  | [] => false
  | first :: rest => first.isAlpha && rest.all Char.isAlphanum

/-- `_CLICKHOUSE_PARAMETER_NAME`. -/
def isParameterName (name : String) : Bool :=
  match name.toList with
  | [] => false
  | first :: rest =>
    (first.isAlpha || first = '_') && rest.all fun c => c.isAlphanum || c = '_'

/-- `_require_clickhouse_parameter_name`. -/
def requireParameterName (name label : String) : Except Refusal Unit :=
  refuseIf (isParameterName name = false)
    (httpValue s!"ClickHouse {label} name must be an ASCII identifier")

/-- The bytes a parameter's value counts, once it is checked. -/
def parameterValueBytes (label name : String) : ClickHouseParameter → Except Refusal ℕ
  | .integer value => .ok (toString value).length
  | .text value => do
    validateClickhouseTextScalar value s!"ClickHouse query {label} {name}"
    .ok value.utf8ByteSize

/-- The inner loop of `_require_clickhouse_request_inputs`. -/
def parameterBytes (label : String) : List (String × ClickHouseParameter) → Except Refusal ℕ
  | [] => .ok 0
  | (name, value) :: rest => do
    requireParameterName name label
    let valueBytes ← parameterValueBytes label name value
    let others ← parameterBytes label rest
    .ok (name.length + valueBytes + others)

/-- `_require_clickhouse_request_inputs`. -/
def requireClickhouseRequestInputs (limits : ClickHouseTransportLimits) (query : String)
    (parameters querySettings : List (String × ClickHouseParameter)) : Except Refusal Unit := do
  let bound ← parameterBytes "parameter" parameters
  let set ← parameterBytes "setting" querySettings
  let inputBytes := query.utf8ByteSize + bound + set
  refuseIf (limits.maxIpcMessageBytes < inputBytes + httpIpcOverheadBytes)
    (httpValue ("ClickHouse query inputs exceed the isolated transport IPC bound before binding: "
      ++ s!"max_ipc_message_bytes={limits.maxIpcMessageBytes}, input_bytes={inputBytes}"))

/-- The names of a dictionary that are in a set, in sorted order. -/
def settingsWithin (names : List String) (querySettings : List (String × ClickHouseParameter)) :
    List String :=
  ((querySettings.map Prod.fst).filter fun name => decide (name ∈ names)).mergeSort
    fun name other => decide (name ≤ other)

/-- `_require_protocol_query_settings`. -/
def requireProtocolQuerySettings (protocol : ClickHouseTransportProtocol)
    (querySettings : List (String × ClickHouseParameter)) : Except Refusal Unit := do
  let owned := settingsWithin protocol.transportOwnedQuerySettings querySettings
  refuseIf (owned ≠ [])
    (httpValue ("ClickHouse query settings must not override transport-owned metadata: "
      ++ s!"settings={Contracts.reprTuple owned}"))
  let locked := settingsWithin protocol.lockedQuerySettings querySettings
  refuseIf (locked ≠ [])
    (httpValue ("ClickHouse query settings must omit values locked by the selected runtime "
      ++ s!"profile: runtime_profile='{protocol.runtimeProfile}', settings={Contracts.reprTuple locked}"))
  let unsupported := settingsWithin protocol.unsupportedQuerySettings querySettings
  refuseIf (unsupported ≠ [])
    (httpValue ("ClickHouse query settings are unsupported by the selected runtime profile: "
      ++ s!"runtime_profile='{protocol.runtimeProfile}', settings={Contracts.reprTuple unsupported}"))

/-! ## The URL -/

/-- `max(1, math.ceil(remaining_nanoseconds / 1_000_000_000))` of at least one
nanosecond. -/
def ceilingSeconds (nanoseconds : ℕ) : ℕ := max 1 ((nanoseconds + 999999999) / 1000000000)

/-- `dict.update` of one key: in its place, or at the end. -/
def setEntry {α : Type} (name : String) (value : α) : List (String × α) → List (String × α)
  | [] => [(name, value)]
  | entry :: rest =>
    if entry.1 = name then (name, value) :: rest else entry :: setEntry name value rest

/-- `_effective_clickhouse_query_settings`. -/
def effectiveClickhouseQuerySettings (querySettings : List (String × ClickHouseParameter))
    (statementTimeoutMilliseconds remainingNanoseconds : ℕ) :
    Except Refusal (List (String × ClickHouseParameter)) :=
  let executionSeconds := min (ceilingSeconds remainingNanoseconds)
    ((statementTimeoutMilliseconds + 999) / 1000 + 1)
  match querySettings.lookup "max_execution_time" with
  | none => .ok (setEntry "max_execution_time" (.integer executionSeconds) querySettings)
  | some (.integer configured) => do
    refuseIf (configured < 1)
      (httpValue "ClickHouse max_execution_time must be a positive integer")
    .ok (setEntry "max_execution_time"
      (.integer (min executionSeconds configured.toNat : ℕ)) querySettings)
  | some (.text _) => .error (httpValue "ClickHouse max_execution_time must be a positive integer")

/-- `_clickhouse_parameter_text`. -/
def clickhouseParameterText (name : String) : ClickHouseParameter → Except Refusal String
  | .integer value => .ok (toString value)
  | .text value => do
    validateClickhouseTextScalar value s!"ClickHouse query setting {name}"
    .ok value

def hasName (entries : List (String × String)) (name : String) : Bool :=
  entries.any fun entry => entry.1 = name

/-- The loop over the effective settings. -/
def addSettings (entries : List (String × String)) :
    List (String × ClickHouseParameter) → Except Refusal (List (String × String))
  | [] => .ok entries
  | (name, value) :: rest => do
    requireParameterName name "setting"
    refuseIf (hasName entries name = true ∨ name.startsWith "param_" = true)
      (httpValue s!"ClickHouse query setting name is reserved: name='{name}'")
    let text ← clickhouseParameterText name value
    addSettings (entries ++ [(name, text)]) rest

/-- The loop over the bound parameters. -/
def addBoundParameters (entries : List (String × String)) :
    List (Option String × Option String) → Except Refusal (List (String × String))
  | [] => .ok entries
  | (some name, some value) :: rest => do
    refuseIf (name.startsWith "param_" = false)
      (httpValue "ClickHouse binding library returned an invalid parameter name")
    refuseIf (hasName entries name = true)
      (httpValue s!"ClickHouse bound parameter collides with a setting: name='{name}'")
    addBoundParameters (entries ++ [(name, value)]) rest
  | (some name, none) :: _ => do
    refuseIf (name.startsWith "param_" = false)
      (httpValue "ClickHouse binding library returned an invalid parameter name")
    .error (httpValue "ClickHouse binding library returned a non-text parameter value")
  | (none, _) :: _ =>
    .error (httpValue "ClickHouse binding library returned an invalid parameter name")

/-- `urlencode(sorted(entries))`, of entries with distinct names. -/
def urlencodeSorted (entries : List (String × String)) : String :=
  String.ofList (encodeForm (entries.mergeSort fun a b => decide (a.1 ≤ b.1)))

/-- `_clickhouse_base_url`. -/
def clickhouseBaseUrl (settings : ClickHouseConnectionSettings) : String :=
  let host :=
    if settings.host.toList.contains ':' = true && !settings.host.startsWith "[" then
      s!"[{settings.host}]"
    else settings.host
  let interface := match settings.transportSecurity with
    | .tlsVerify => "https"
    | .plaintextLocalFixture => "http"
  s!"{interface}://{host}:{settings.port}/"

/-! ## The headers -/

/-- The digit of six bits. -/
def base64Digit (value : ℕ) : Char :=
  if value < 26 then Char.ofNat (65 + value)
  else if value < 52 then Char.ofNat (97 + (value - 26))
  else if value < 62 then Char.ofNat (48 + (value - 52))
  else if value = 62 then '+' else '/'

/-- `b64encode`. -/
def base64Encode : Bytes → List Char
  | [] => []
  | [a] =>
    let bits := a.toNat * 65536
    [base64Digit (bits / 262144), base64Digit (bits / 4096 % 64), '=', '=']
  | [a, b] =>
    let bits := a.toNat * 65536 + b.toNat * 256
    [base64Digit (bits / 262144), base64Digit (bits / 4096 % 64), base64Digit (bits / 64 % 64),
      '=']
  | a :: b :: c :: rest =>
    let bits := a.toNat * 65536 + b.toNat * 256 + c.toNat
    base64Digit (bits / 262144) :: base64Digit (bits / 4096 % 64) ::
      base64Digit (bits / 64 % 64) :: base64Digit (bits % 64) :: base64Encode rest

/-- A header value without carriage return or line feed. -/
def requireHeaderText (value label : String) : Except Refusal Unit :=
  refuseIf (value.toList.contains '\r' = true ∨ value.toList.contains '\n' = true)
    (httpValue s!"ClickHouse HTTP {label} must not contain CR or LF")

/-- `_clickhouse_http_headers`. -/
def clickhouseHttpHeaders (settings : ClickHouseConnectionSettings) :
    Except Refusal (List (String × String)) := do
  refuseIf (settings.user.toList.contains ':' = true)
    (httpValue "ClickHouse HTTP Basic-auth user must not contain ':'")
  requireHeaderText settings.user "user"
  requireHeaderText settings.password "password"
  requireHeaderText settings.applicationName "application name"
  let authorization :=
    String.ofList (base64Encode (utf8Encode s!"{settings.user}:{settings.password}"))
  .ok [("Accept-Encoding", "identity"), ("Authorization", s!"Basic {authorization}"),
    ("Content-Type", "text/plain; charset=utf-8"), ("User-Agent", settings.applicationName)]

/-- `len(value.encode("latin-1", errors="strict"))`. -/
def latin1Length (value : String) : Except Refusal ℕ :=
  if value.toList.all (fun c => c.toNat < 256) = true then .ok value.length
  else .error (httpValue "'latin-1' codec can't encode characters: ordinal not in range(256)")

/-- The bytes of the headers. -/
def headerBytes : List (String × String) → Except Refusal ℕ
  | [] => .ok 0
  | (name, value) :: rest => do
    let valueBytes ← latin1Length value
    let others ← headerBytes rest
    .ok (name.length + valueBytes + others)

/-! ## The request -/

/-- `ClickHouseHttpRequest`, with what a worker sends. -/
structure ClickHouseWireRequest extends ClickHouseHttpRequest where
  url : String
  headers : List (String × String)
  body : Bytes
  protocol : ClickHouseTransportProtocol
  dispatchDeadlineNanoseconds : ℕ
  ioDeadlineNanoseconds : ℕ
  dispatch_le : dispatchDeadlineNanoseconds ≤ ioDeadlineNanoseconds

/-- What `_clickhouse_http_request` is given for one query. -/
structure RequestArguments where
  dispatchDeadlineNanoseconds : ℕ
  ioDeadlineNanoseconds : ℕ
  queryId : Uuid
  query : String
  parameters : List (String × ClickHouseParameter)
  querySettings : List (String × ClickHouseParameter)
  resultFormat : String
  maxResponseBytes : ℕ

/-- The fixed part of a transport that a request is made of. -/
structure ClickHouseEndpoint where
  settings : ClickHouseConnectionSettings
  protocol : ClickHouseTransportProtocol
  limits : ClickHouseTransportLimits
  deadline : PostgresReadDeadline
  bindQuery : BindQuery

/-- A refusal of the request. -/
def requested {α : Type} (outcome : Except Refusal α) : Except RequestError α :=
  outcome.mapError .refusal

theorem uuidText_ne (id : Uuid) : uuidText id ≠ "" := by
  intro h
  have hlist := congrArg String.toList h
  simp [uuidText] at hlist

namespace ClickHouseEndpoint

variable (endpoint : ClickHouseEndpoint)

/-- The end of `_clickhouse_http_request`: the constructor of the record. -/
def wireRequest (arguments : RequestArguments) (url : String) (headers : List (String × String))
    (body : Bytes) : Except Refusal ClickHouseWireRequest :=
  if hresponse : 0 < arguments.maxResponseBytes then
    if hdeadline : arguments.dispatchDeadlineNanoseconds ≤ arguments.ioDeadlineNanoseconds then
      .ok
        { queryId := uuidText arguments.queryId
          maxResponseBytes := arguments.maxResponseBytes
          maxErrorResponseBytes := endpoint.limits.maxErrorResponseBytes
          queryId_ne := uuidText_ne arguments.queryId
          response_pos := hresponse
          error_pos := endpoint.limits.error_pos
          url, headers, body
          protocol := endpoint.protocol
          dispatchDeadlineNanoseconds := arguments.dispatchDeadlineNanoseconds
          ioDeadlineNanoseconds := arguments.ioDeadlineNanoseconds
          dispatch_le := hdeadline }
    else .error (httpValue "dispatch deadline must not exceed the HTTP I/O deadline")
  else .error (httpValue "max_response_bytes must be a positive integer")

/-- The parameters of the URL. -/
def urlEntries (arguments : RequestArguments) (bound : BoundQuery) (now : ℕ) :
    Except Refusal (List (String × String)) := do
  let effective ← effectiveClickhouseQuerySettings arguments.querySettings
    endpoint.deadline.statementTimeoutMilliseconds
    (max 1 (arguments.ioDeadlineNanoseconds - now))
  let entries ← addSettings
    ([("database", endpoint.settings.database), ("query_id", uuidText arguments.queryId)]
      ++ endpoint.protocol.urlParameters) effective
  addBoundParameters entries bound.parameters

/-- `_clickhouse_http_request` after the query was bound. -/
def boundHttpRequest (arguments : RequestArguments) (bound : BoundQuery) (boundQuery : String)
    (now : ℕ) : Except Refusal ClickHouseWireRequest := do
  let body := utf8Encode s!"{boundQuery} FORMAT {arguments.resultFormat}"
  refuseIf (endpoint.limits.maxQueryBytes < body.length)
    (httpValue ("ClickHouse query exceeds its explicit UTF-8 byte bound: "
      ++ s!"max_query_bytes={endpoint.limits.maxQueryBytes}, actual_query_bytes={body.length}"))
  refuseIf (arguments.maxResponseBytes < 1)
    (httpValue "max_response_bytes must be a positive integer")
  refuseIf (endpoint.limits.maxIpcMessageBytes
      < arguments.maxResponseBytes + exceptionFrameMaxBytes + httpIpcOverheadBytes)
    (httpValue ("ClickHouse response bound exceeds the isolated transport IPC bound: "
      ++ s!"max_response_bytes={arguments.maxResponseBytes}, "
      ++ s!"max_ipc_message_bytes={endpoint.limits.maxIpcMessageBytes}"))
  let entries ← endpoint.urlEntries arguments bound now
  let url := s!"{clickhouseBaseUrl endpoint.settings}?{urlencodeSorted entries}"
  let headers ← clickhouseHttpHeaders endpoint.settings
  let fromHeaders ← headerBytes headers
  let requestBytes := url.utf8ByteSize + body.length + fromHeaders
  refuseIf (endpoint.limits.maxIpcMessageBytes < requestBytes + httpIpcOverheadBytes)
    (httpValue ("ClickHouse bound HTTP request exceeds the isolated transport IPC bound: "
      ++ s!"max_ipc_message_bytes={endpoint.limits.maxIpcMessageBytes}, "
      ++ s!"request_bytes={requestBytes}"))
  endpoint.wireRequest arguments url headers body

/-- `_clickhouse_http_request`; the clock reads `now` when the remaining time is
taken. -/
def clickhouseHttpRequest (arguments : RequestArguments) (now : ℕ) :
    Except RequestError ClickHouseWireRequest := do
  requested (refuseIf (isFormatName arguments.resultFormat = false)
    (httpValue "ClickHouse result format must be an ASCII identifier"))
  requested (requireClickhouseRequestInputs endpoint.limits arguments.query arguments.parameters
    arguments.querySettings)
  requested (requireProtocolQuerySettings endpoint.protocol arguments.querySettings)
  let bound ← (endpoint.bindQuery arguments.query arguments.parameters).mapError .programming
  match bound.query with
  | none => .error (.refusal (httpValue
      "ClickHouse HTTP transport does not accept binary query bindings"))
  | some boundQuery => requested (endpoint.boundHttpRequest arguments bound boundQuery now)

end ClickHouseEndpoint

end ForensicData.ClickHouse
