/-
ForensicData.ClickHouse.HttpResponse — reading the answer to a ClickHouse query.

A server that fails after it has begun to send data appends an exception frame
to the body, with status 200. The body is read up to a limit, chunk by chunk,
and the frame is looked for from its end. A response is what it answers to
`read1`: a function of the chunks it has delivered and of the amount asked for.
What is done with the connection afterwards is left out.
-/
import ForensicData.Canonical.Codec
import ForensicData.Errors

namespace ForensicData.ClickHouse

open ForensicData.Canonical
open ForensicData.Lib

/-! ## Outcomes -/

inductive ClickHouseHttpDispatchState where
  | notSent
  | unknown
  | responseReceived
  deriving DecidableEq, Repr

inductive ClickHouseHttpOutcomeKind where
  | success
  | serverError
  | resultLimit
  | protocolError
  | transportError
  deriving DecidableEq, Repr

structure ClickHouseHttpOutcome where
  kind : ClickHouseHttpOutcomeKind
  dispatchState : ClickHouseHttpDispatchState
  payload : Bytes
  statusCode : Option ℕ
  responseQueryId : Option String
  errorCode : Option ℕ
  errorName : Option String
  receivedBytes : ℕ
  truncated : Bool
  causeType : Option String

def httpValue (message : String) : Refusal := { error := .valueError, message }

/-- `ClickHouseHttpOutcome(...)`. -/
def ClickHouseHttpOutcome.make (outcome : ClickHouseHttpOutcome) :
    Except Refusal ClickHouseHttpOutcome := do
  refuseIf (outcome.statusCode.any (fun status => status < 100 || 599 < status) = true)
    (httpValue "status_code must be a valid HTTP status when provided")
  refuseIf (outcome.responseQueryId = some "")
    (httpValue "response_query_id must be non-empty text when provided")
  refuseIf (outcome.errorName = some "")
    (httpValue "error_name must be non-empty text when provided")
  refuseIf (outcome.causeType = some "")
    (httpValue "cause_type must be non-empty text when provided")
  .ok outcome

/-! ## Responses -/

/-- What `read1` may raise: `ProtocolError`, `http.client.IncompleteRead`, another
`HTTPError` or an `OSError`. -/
inductive ReadFailure where
  | protocolError
  | incompleteRead
  | httpError
  | osError
  deriving DecidableEq, Repr

/-- An error comes with the bytes `_incomplete_read_partial` finds in it and with
its type name, which is not empty. -/
inductive ReadEvent where
  | chunk (bytes : Bytes)
  | failure (kind : ReadFailure) (fragment : Bytes) (causeType : { name : String // name ≠ "" })

/-- A response: its headers, what it answers to `read1` after some chunks when it
is asked for an amount, and whether its end is framed. -/
structure HttpResponse where
  status : ℕ
  queryId : Option String
  exceptionCode : Option String
  exceptionTag : Option String
  contentEncoding : Option String
  read1 : List Bytes → ℕ → ReadEvent
  eofIsFramed : Bool

/-- The fields of `ClickHouseHttpRequest` the reader looks at. -/
structure ClickHouseHttpRequest where
  queryId : String
  maxResponseBytes : ℕ
  maxErrorResponseBytes : ℕ
  queryId_ne : queryId ≠ ""
  response_pos : 0 < maxResponseBytes
  error_pos : 0 < maxErrorResponseBytes

/-! ## The bounded body -/

inductive BoundedBodyTerminalStatus where
  | clean
  | incompleteProtocol
  | error
  deriving DecidableEq, Repr

structure BoundedBodyRead where
  payload : Bytes
  truncated : Bool
  terminalStatus : BoundedBodyTerminalStatus
  causeType : Option String

/-- `_bounded_body_read_failure`. -/
def boundedBodyReadFailure (chunks : List Bytes) (received limit : ℕ) (fragment : Bytes)
    (causeType : String) (terminalStatus : BoundedBodyTerminalStatus) : BoundedBodyRead :=
  let remainingCapacity := limit + 1 - received
  let payload := (chunks ++ [fragment.take remainingCapacity]).flatten
  { payload
    truncated := decide (remainingCapacity < fragment.length) || decide (limit < payload.length)
    terminalStatus, causeType := some causeType }

/-- The handlers of `_read_bounded_body`. -/
def bodyReadFailure (chunks : List Bytes) (received limit : ℕ) (kind : ReadFailure)
    (fragment : Bytes) (causeType : String) : BoundedBodyRead :=
  match kind with
  | .protocolError =>
    boundedBodyReadFailure chunks received limit fragment causeType .incompleteProtocol
  | .incompleteRead =>
    boundedBodyReadFailure chunks received limit fragment causeType .incompleteProtocol
  | .httpError => boundedBodyReadFailure chunks received limit fragment causeType .error
  | .osError =>
    { payload := chunks.flatten, truncated := false, terminalStatus := .error
      causeType := some causeType }

/-- The end of a body that was read whole. -/
def bodyEnd (chunks : List Bytes) (eofIsFramed : Bool) : BoundedBodyRead :=
  { payload := chunks.flatten, truncated := false
    terminalStatus := if eofIsFramed = true then .clean else .incompleteProtocol
    causeType := if eofIsFramed = true then none else some "UnframedHttpResponseEof" }

/-- The loop of `_read_bounded_body`. -/
def readBoundedBodyFrom (response : HttpResponse) (limit : ℕ) (chunks : List Bytes)
    (received : ℕ) : BoundedBodyRead :=
  if received ≤ limit then
    match response.read1 chunks (min 65536 (limit + 1 - received)) with
    | .failure kind fragment causeType =>
      bodyReadFailure chunks received limit kind fragment causeType
    | .chunk bytes =>
      if bytes = [] then bodyEnd chunks response.eofIsFramed
      else readBoundedBodyFrom response limit (chunks ++ [bytes]) (received + bytes.length)
  else
    { payload := chunks.flatten, truncated := true, terminalStatus := .clean, causeType := none }
termination_by limit + 1 - received
decreasing_by
  have hpos : 0 < bytes.length := List.length_pos_iff.mpr ‹_›
  omega

/-- `_read_bounded_body`. -/
def readBoundedBody (response : HttpResponse) (limit : ℕ) : BoundedBodyRead :=
  readBoundedBodyFrom response limit [] 0

/-! ## Bytes of a message -/

def isDigitByte (byte : UInt8) : Bool := 48 ≤ byte && byte ≤ 57

/-- `[1-9][0-9]{0,count}`. -/
def isPositiveDecimal (count : ℕ) : Bytes → Bool
  | [] => false
  | first :: rest =>
    isDigitByte first && decide (first ≠ 48) && rest.all isDigitByte && decide (rest.length ≤ count)

/-- `int(digits)`. -/
def decimalValue (digits : Bytes) : ℕ :=
  digitsValue 10 (digits.map fun byte => Char.ofNat byte.toNat)

/-- `_CLICKHOUSE_MAX_ERROR_CODE`. -/
def clickhouseMaxErrorCode : ℕ := 2147483647

def admittedErrorCode (code : ℕ) : Option ℕ :=
  if code ≤ clickhouseMaxErrorCode then some code else none

/-- `text.encode("ascii", errors="strict")`. -/
def asciiEncode (text : String) : Option Bytes :=
  if text.toList.all (fun c => c.toNat < 128) = true then some (asciiBytes text.toList) else none

/-- `_parse_error_code`. -/
def parseErrorCode : Option String → Option ℕ
  | none => none
  | some value =>
    match asciiEncode value with
    | none => none
    | some digits =>
      if isPositiveDecimal 9 digits = true then admittedErrorCode (decimalValue digits) else none

/-- What follows `start` in a text that begins with it. -/
def afterStart (start : List Char) (text : Bytes) : Option Bytes :=
  if (asciiBytes start).isPrefixOf text = true then some (text.drop start.length) else none

/-- `Code: ([1-9][0-9]{0,9})\.` here. -/
def errorCodeHere (text : Bytes) : Option ℕ :=
  match afterStart ['C', 'o', 'd', 'e', ':', ' '] text with
  | none => none
  | some rest =>
    let digits := rest.takeWhile isDigitByte
    if isPositiveDecimal 9 digits = true ∧ rest[digits.length]? = some 46 then
      some (decimalValue digits)
    else none

/-- The same after a line feed. -/
def errorCodeAfterLine : Bytes → Option ℕ
  | [] => none
  | byte :: rest =>
    if byte = 10 then
      match errorCodeHere rest with
      | some code => some code
      | none => errorCodeAfterLine rest
    else errorCodeAfterLine rest

/-- `_parse_error_code_from_body`. -/
def parseErrorCodeFromBody (body : Bytes) : Option ℕ :=
  match errorCodeHere body with
  | some code => admittedErrorCode code
  | none => (errorCodeAfterLine body).bind admittedErrorCode

/-- `\s` of a pattern of bytes. -/
def isSpaceByte (byte : UInt8) : Bool := byte = 32 || (9 ≤ byte && byte ≤ 13)

def isUpperByte (byte : UInt8) : Bool := 65 ≤ byte && byte ≤ 90

/-- `(?: \(version [^\r\n]*\))?\s*\Z`. -/
def endsErrorMessage (rest : Bytes) : Bool :=
  rest.all isSpaceByte ||
    match afterStart [' ', '(', 'v', 'e', 'r', 's', 'i', 'o', 'n', ' '] rest with
    | none => false
    | some version =>
      let stripped := (version.reverse.dropWhile isSpaceByte).reverse
      decide (stripped.getLast? = some 41) &&
        stripped.dropLast.all fun byte => byte ≠ 13 && byte ≠ 10

/-- `[A-Z][A-Z0-9_]*` and what must follow it. -/
def errorNameHere (text : Bytes) : Option Bytes :=
  let name := text.takeWhile fun byte => isUpperByte byte || isDigitByte byte || byte = 95
  if name.head?.any isUpperByte = true ∧ text[name.length]? = some 41 ∧
      endsErrorMessage (text.drop (name.length + 1)) = true then
    some name
  else none

/-- `_CLICKHOUSE_ERROR_NAME.search`. -/
def findErrorName : Bytes → Option Bytes
  | [] => none
  | byte :: rest =>
    if byte = 40 then
      match errorNameHere rest with
      | some name => some name
      | none => findErrorName rest
    else findErrorName rest

/-- `_parse_error_name`. -/
def parseErrorName (body : Bytes) : Option String :=
  (findErrorName body).map fun name =>
    String.ofList (name.map fun byte => Char.ofNat byte.toNat)

/-! ## Exception frames -/

/-- `CLICKHOUSE_HTTP_EXCEPTION_FRAME_MAX_BYTES`. -/
def exceptionFrameMaxBytes : ℕ := 16 * 1024

/-- The bytes of a tag that `_valid_exception_tag` accepts. -/
def exceptionTagBytes : Option String → Option Bytes
  | none => none
  | some text =>
    match asciiEncode text with
    | none => none
    | some tag => if tag.length = 16 then some tag else none

/-- `\r\n__exception__\r\n`. -/
def exceptionMarker : Bytes :=
  13 :: 10 :: asciiBytes ['_', '_', 'e', 'x', 'c', 'e', 'p', 't', 'i', 'o', 'n', '_', '_'] ++
    [13, 10]

def frameOpening (tag : Bytes) : Bytes := exceptionMarker ++ tag ++ [13, 10]

def frameClosing (tag : Bytes) : Bytes := 32 :: tag ++ exceptionMarker

/-- `text.rfind(byte)`. -/
def rfindByte (byte : UInt8) : Bytes → Option ℕ
  | [] => none
  | first :: rest =>
    match rfindByte byte rest with
    | some index => some (index + 1)
    | none => if first = byte then some 0 else none

/-- `_clickhouse_exception_message` with the bytes of a valid tag. -/
def exceptionMessageOf (body tag : Bytes) : Option Bytes :=
  let opening := frameOpening tag
  let closing := frameClosing tag
  if closing.isSuffixOf body = false then none
  else
    let beforeClosing := body.take (body.length - closing.length)
    match rfindByte 10 beforeClosing with
    | none => none
    | some newline =>
      let lengthStart := newline + 1
      let lengthText := beforeClosing.drop lengthStart
      if isPositiveDecimal 7 lengthText = false then none
      else
        let messageLength := decimalValue lengthText
        -- The opening would start before the body.
        if lengthStart < messageLength + opening.length then none
        else
          let messageStart := lengthStart - messageLength
          let openingStart := messageStart - opening.length
          if (body.take messageStart).drop openingStart ≠ opening then none
          else
            let message := (body.take lengthStart).drop messageStart
            if message.getLast? ≠ some 10 then none
            else if exceptionFrameMaxBytes < (body.drop openingStart).length then none
            else some message

/-- `_clickhouse_exception_message`. -/
def clickhouseExceptionMessage (body : Bytes) (exceptionTag : Option String) : Option Bytes :=
  (exceptionTagBytes exceptionTag).bind fun tag => exceptionMessageOf body tag

/-- `needle in text`. -/
def containsBytes (needle : Bytes) : Bytes → Bool
  | [] => needle.isPrefixOf []
  | byte :: rest => needle.isPrefixOf (byte :: rest) || containsBytes needle rest

/-- `_has_exception_frame_opening`. -/
def hasExceptionFrameOpening (body : Bytes) (exceptionTag : Option String) : Bool :=
  (exceptionTagBytes exceptionTag).any fun tag => containsBytes (frameOpening tag) body

/-! ## The modern protocol -/

/-- `_IDENTITY_ENCODINGS`. -/
def identityEncodings : List (Option String) := [none, some "", some "identity"]

/-- The status is not a success, or the header names an error. -/
def announcesError (response : HttpResponse) : Bool :=
  !(200 ≤ response.status && response.status < 300) ||
    (parseErrorCode response.exceptionCode).isSome

/-- `capture_limit`. -/
def captureLimit (response : HttpResponse) (request : ClickHouseHttpRequest) : ℕ :=
  if announcesError response = true then request.maxErrorResponseBytes
  else request.maxResponseBytes + exceptionFrameMaxBytes

/-- A response that breaks the protocol, with what was read of it. -/
def protocolErrorOutcome (response : HttpResponse) (dispatchState : ClickHouseHttpDispatchState)
    (errorCode : Option ℕ) (receivedBytes : ℕ) (truncated : Bool) (causeType : Option String) :
    Except Refusal ClickHouseHttpOutcome :=
  ClickHouseHttpOutcome.make
    { kind := .protocolError, dispatchState, payload := [], statusCode := some response.status
      responseQueryId := response.queryId, errorCode, errorName := none, receivedBytes, truncated
      causeType }

/-- `_read_modern_http_response` after its header checks and the reading of the
body. -/
def modernBodyOutcome (response : HttpResponse) (request : ClickHouseHttpRequest)
    (bodyRead : BoundedBodyRead) : Except Refusal ClickHouseHttpOutcome :=
  let exceptionCode := parseErrorCode response.exceptionCode
  let hasErrorStatus := !(200 ≤ response.status && response.status < 300)
  let exceptionMessage :=
    if bodyRead.truncated = true then none
    else clickhouseExceptionMessage bodyRead.payload response.exceptionTag
  let hasIncompleteExceptionFrame :=
    exceptionMessage.isNone && hasExceptionFrameOpening bodyRead.payload response.exceptionTag
  let expectedBrokenProtocol :=
    decide (bodyRead.terminalStatus = .incompleteProtocol) && exceptionMessage.isSome
  let receivedBytes := bodyRead.payload.length
  if bodyRead.terminalStatus ≠ .clean ∧ expectedBrokenProtocol = false then
    protocolErrorOutcome response .unknown exceptionCode receivedBytes bodyRead.truncated
      bodyRead.causeType
  else if hasIncompleteExceptionFrame = true then
    protocolErrorOutcome response .unknown exceptionCode receivedBytes bodyRead.truncated
      (some "InvalidClickHouseExceptionFrame")
  else
    let frameErrorCode := exceptionMessage.bind parseErrorCodeFromBody
    let frameErrorName := exceptionMessage.bind parseErrorName
    if exceptionMessage.isSome = true ∧ exceptionCode.isSome = true ∧
        frameErrorCode.isSome = true ∧ exceptionCode ≠ frameErrorCode then
      protocolErrorOutcome response .unknown exceptionCode receivedBytes bodyRead.truncated
        (some "InvalidClickHouseExceptionFrame")
    else if exceptionCode.isSome = true ∨ exceptionMessage.isSome = true then
      ClickHouseHttpOutcome.make
        { kind := .serverError, dispatchState := .responseReceived, payload := []
          statusCode := some response.status, responseQueryId := response.queryId
          errorCode := exceptionCode.or frameErrorCode
          errorName := frameErrorName.or (parseErrorName bodyRead.payload)
          receivedBytes, truncated := bodyRead.truncated, causeType := none }
    else if hasErrorStatus = true then
      protocolErrorOutcome response .unknown none receivedBytes bodyRead.truncated
        (some "UnverifiedHttpError")
    else if request.maxResponseBytes < receivedBytes then
      ClickHouseHttpOutcome.make
        { kind := .resultLimit, dispatchState := .responseReceived, payload := []
          statusCode := some response.status, responseQueryId := response.queryId
          errorCode := none, errorName := none, receivedBytes, truncated := bodyRead.truncated
          causeType := none }
    else
      ClickHouseHttpOutcome.make
        { kind := .success, dispatchState := .responseReceived, payload := bodyRead.payload
          statusCode := some response.status, responseQueryId := response.queryId
          errorCode := none, errorName := none, receivedBytes, truncated := false
          causeType := none }

/-- `_read_modern_http_response`. -/
def readModernHttpResponse (response : HttpResponse) (request : ClickHouseHttpRequest) :
    Except Refusal ClickHouseHttpOutcome :=
  let exceptionCode := parseErrorCode response.exceptionCode
  if response.queryId ≠ some request.queryId then
    protocolErrorOutcome response .unknown exceptionCode 0 false (some "QueryIdMismatch")
  else if response.exceptionCode.isSome = true ∧ exceptionCode = none then
    protocolErrorOutcome response .unknown none 0 false (some "InvalidClickHouseExceptionCode")
  else if (exceptionTagBytes response.exceptionTag).isNone = true then
    protocolErrorOutcome response .unknown exceptionCode 0 false
      (some "InvalidClickHouseExceptionTag")
  else if response.contentEncoding ∉ identityEncodings then
    protocolErrorOutcome response .responseReceived exceptionCode 0 false
      (some "UnexpectedContentEncoding")
  else modernBodyOutcome response request (readBoundedBody response (captureLimit response request))

end ForensicData.ClickHouse
