/-
ForensicData.Canonical.Codec — payloads and envelopes.

A payload is the canonical text of one value under its field. An envelope is
the header of the schema followed by one frame for each field: the type tag, a
presence flag, the payload length in hexadecimal and the payload in
hexadecimal. Texts are lists of characters, and an envelope is their ASCII
bytes.
-/
import ForensicData.Canonical.Input
import ForensicData.Canonical.Schema

namespace ForensicData.Canonical

open ForensicData.Lib
open Json (renderInt)

/-! ## Refusals -/

def payloadValidation (message : String) : Refusal :=
  { error := .payloadValidationError, message }

def frameValidation (message : String) : Refusal :=
  { error := .frameValidationError, message }

def nullKey (message : String) : Refusal := { error := .nullKeyError, message }

/-- `str` of a boolean. -/
def boolText (value : Bool) : String := if value then "True" else "False"

/-! ## ASCII -/

/-- `text.encode("ascii")`, of a text of ASCII characters. -/
def asciiBytes (text : List Char) : Bytes := text.map fun c => UInt8.ofNat c.toNat

/-- `payload.decode("ascii", errors="strict")`. -/
def asciiText (payload : Bytes) : Option (List Char) :=
  if payload.all (· < 128) = true then some (payload.map fun byte => Char.ofNat byte.toNat)
  else none

/-- The position of the first byte that is not ASCII, as an error reports it. -/
def asciiErrorText (payload : Bytes) : String :=
  let start := payload.findIdx fun byte => !(byte < 128)
  s!"byte_start={start}, byte_end={start + 1}"

/-- `_decode_ascii`. -/
def decodeAscii (payload : Bytes) (context : String) : Except Refusal (List Char) :=
  match asciiText payload with
  | some text => .ok text
  | none => .error (payloadValidation
      s!"{context} payload must contain ASCII only: {asciiErrorText payload}")

/-! ## Integers -/

/-- `int.bit_length`. -/
def bitLength (n : ℕ) : ℕ := if n = 0 then 0 else Nat.log2 n + 1

def encodeInt64 : CanonicalInput → Except Refusal Bytes
  | .integer value =>
    if IsInt64 value then .ok (asciiBytes (renderInt value))
    else .error (payloadValidation
      ("int64 value is outside signed 64-bit range: " ++
        s!"negative={boolText (decide (value < 0))}, bit_length={bitLength value.natAbs}"))
  | other => .error (payloadValidation
      s!"int64 requires a native integer, got {other.typeName}")

/-- The text of an integer starts with a minus sign. -/
def isNegativeText (text : List Char) : Bool := text.head? == some '-'

def decodeInt64 (payload : Bytes) : Except Refusal DecodedValue := do
  let text ← decodeAscii payload "int64"
  refuseIf (isIntegerText text = false) (payloadValidation
    s!"int64 payload is not canonical: byte_length={payload.length}")
  let limit := if isNegativeText text then int64Max + 1 else int64Max
  refuseIf (exceedsDigits (absoluteDigits text) (Nat.toDigits 10 limit) = true)
    (payloadValidation
      ("int64 payload is outside signed 64-bit range: " ++
        s!"negative={boolText (isNegativeText text)}, digits={(absoluteDigits text).length}"))
  .ok (.integer (readInt text))

/-! ## Decimals -/

def precisionExceeded (parameters : DecimalParameters) : Refusal :=
  payloadValidation s!"decimal scaled integer exceeds declared precision {parameters.precision}"

def decimalFromInput : CanonicalInput → Except Refusal PythonDecimal
  | .decimal value => .ok value
  | .integer value => .ok (.finite (decide (value < 0)) value.natAbs 0)
  | .text value =>
    match (scalars value).bind readDecimalNumeral with
    | none => .error (payloadValidation
        ("decimal string is not an exact numeric representation: " ++
          s!"character_length={value.length}"))
    | some numeral =>
      match numeral.decimal with
      | some decimal => .ok decimal
      | none => .error (payloadValidation
          s!"decimal string cannot be parsed exactly: character_length={value.length}")
  | other => .error (payloadValidation
      s!"decimal requires Decimal, int, or an exact decimal string, got {other.typeName}")

/-- The digits moved by `shift` places, if none of them is lost. -/
def scaleDigits (coefficientText : List Char) (shift : Int) (parameters : DecimalParameters) :
    Except Refusal (List Char) :=
  if 0 ≤ shift then
    if parameters.precision < coefficientText.length + shift then
      .error (precisionExceeded parameters)
    else .ok (coefficientText ++ List.replicate shift.toNat '0')
  else
    let removedDigits := (-shift).toNat
    let kept := coefficientText.length - removedDigits
    if coefficientText.length < removedDigits then
      .error (payloadValidation
        s!"decimal value would lose nonzero digits at declared scale {parameters.scale}")
    else if (coefficientText.drop kept).any (· != '0') = true then
      .error (payloadValidation
        s!"decimal value would require rounding at declared scale {parameters.scale}")
    else .ok (coefficientText.take kept)

/-- `text.lstrip("0")`. -/
def stripZeros (text : List Char) : List Char := text.dropWhile (· == '0')

/-- `text.lstrip("0") or "0"`. -/
def stripZerosOr (text : List Char) : List Char :=
  if stripZeros text = [] then ['0'] else stripZeros text

/-- The part of `_encode_decimal` after the coefficient is known to be nonzero. -/
def encodeScaled (negative : Bool) (coefficientText : List Char) (exponent : Int)
    (parameters : DecimalParameters) : Except Refusal Bytes := do
  let scaled ← scaleDigits coefficientText (exponent + parameters.scale) parameters
  let scaledText := stripZerosOr scaled
  refuseIf (parameters.precision < scaledText.length) (precisionExceeded parameters)
  .ok (asciiBytes (if negative then '-' :: scaledText else scaledText))

/-- The bound on a native integer, which is checked before it is converted. -/
def requireUnscaledBound (value : CanonicalInput) (parameters : DecimalParameters) :
    Except Refusal Unit :=
  match value with
  | .integer value =>
    refuseIf (¬ (-(10 ^ (parameters.precision - parameters.scale) : Int) < value ∧
        value < 10 ^ (parameters.precision - parameters.scale)))
      (precisionExceeded parameters)
  | _ => .ok ()

def encodeDecimal (value : CanonicalInput) (parameters : DecimalParameters) :
    Except Refusal Bytes := do
  requireUnscaledBound value parameters
  let decimalValue ← decimalFromInput value
  match decimalValue with
  | .nonFinite => .error (payloadValidation "decimal value must be finite")
  | .finite negative coefficient exponent =>
    let coefficientText := stripZeros (Nat.toDigits 10 coefficient)
    if coefficientText = [] then .ok (asciiBytes ['0'])
    else encodeScaled negative coefficientText exponent parameters

def decodeDecimal (payload : Bytes) (parameters : DecimalParameters) :
    Except Refusal DecodedValue := do
  let text ← decodeAscii payload "decimal"
  refuseIf (isIntegerText text = false) (payloadValidation
    s!"decimal payload is not canonical: byte_length={payload.length}")
  refuseIf (parameters.precision < (absoluteDigits text).length) (payloadValidation
    ("decimal payload scaled integer exceeds declared precision " ++
      s!"{parameters.precision}: negative={boolText (isNegativeText text)}, " ++
      s!"digits={(absoluteDigits text).length}"))
  .ok (.decimal (readInt text) parameters.scale)

/-! ## Booleans and strings -/

def encodeBoolean : CanonicalInput → Except Refusal Bytes
  | .boolean value => .ok (asciiBytes (if value then ['1'] else ['0']))
  | other => .error (payloadValidation
      s!"boolean requires a native boolean, got {other.typeName}")

def decodeBoolean (payload : Bytes) : Except Refusal DecodedValue :=
  if payload = asciiBytes ['0'] then .ok (.boolean false)
  else if payload = asciiBytes ['1'] then .ok (.boolean true)
  else do
    let _ ← decodeAscii payload "boolean"
    .error (payloadValidation
      s!"boolean payload must be exactly '0' or '1': byte_length={payload.length}")

/-- `_validate_string_scalars`, from the character `index` on. -/
def validateStringScalars (index : ℕ) : PythonText → Except Refusal Unit
  | [] => .ok ()
  | point :: rest =>
    if isSurrogate point = true then
      .error (payloadValidation s!"string contains a surrogate code point at character {index}")
    else if point.val = 0 then
      .error (payloadValidation
        "string contains U+0000, which is outside the common string profile")
    else validateStringScalars (index + 1) rest

def encodeString : CanonicalInput → Except Refusal Bytes
  | .text value => do
    validateStringScalars 0 value
    match scalars value with
    | some characters => .ok (utf8Encode (String.ofList characters))
    | none => .error { error := .valueError, message := "surrogates not allowed" }
  | other => .error (payloadValidation
      s!"string requires a native string, got {other.typeName}")

def decodeString (payload : Bytes) : Except Refusal DecodedValue :=
  match utf8Decode payload with
  | none => .error (payloadValidation "string payload is not strict UTF-8")
  | some value => do
    validateStringScalars 0 (codePoints value.toList)
    .ok (.text value)

/-! ## Dates -/

def formatDate (value : Date) : List Char := dateDigits value.year value.month value.day

/-- The text of the `ValueError` a date or a time raises. -/
def calendarReason (year month day hour minute second : ℕ) : String :=
  if ¬ (1 ≤ year ∧ year ≤ 9999) then s!"year {year} is out of range"
  else if ¬ (1 ≤ month ∧ month ≤ 12) then "month must be in 1..12"
  else if ¬ (1 ≤ day ∧ day ≤ daysInMonth year month) then "day is out of range for month"
  else if ¬ hour < 24 then "hour must be in 0..23"
  else if ¬ minute < 60 then "minute must be in 0..59"
  else if ¬ second < 60 then "second must be in 0..59"
  else ""

def parseDate (value : PythonText) (context : String) : Except Refusal Date :=
  match (scalars value).bind readDate with
  | some ((year, month, day), []) =>
    match Date.make year month day with
    | some date => .ok date
    | none => .error (payloadValidation
        (s!"{context} is not a valid proleptic Gregorian date: " ++
          s!"reason={calendarReason year month day 0 0 0}"))
  | _ => .error (payloadValidation
      s!"{context} must use exact YYYY-MM-DD form: character_length={value.length}")

def encodeDate : CanonicalInput → Except Refusal Bytes
  | .date value => .ok (asciiBytes (formatDate value))
  | .text value => do
    let parsed ← parseDate value "date"
    refuseIf (value ≠ codePoints (formatDate parsed))
      (payloadValidation s!"date value is not canonical: character_length={value.length}")
    .ok (asciiBytes (formatDate parsed))
  | other => .error (payloadValidation
      s!"date requires datetime.date or canonical text, got {other.typeName}")

def decodeDate (payload : Bytes) : Except Refusal DecodedValue := do
  let text ← decodeAscii payload "date"
  let parsed ← parseDate (codePoints text) "date payload"
  refuseIf (text ≠ formatDate parsed)
    (payloadValidation s!"date payload is not canonical: byte_length={payload.length}")
  .ok (.date parsed)

/-! ## Timestamps -/

def fitFraction (fraction : List Char) (precision : ℕ) (context : String) :
    Except Refusal (List Char) :=
  match fitDigits fraction precision with
  | some digits => .ok digits
  | none => .error (payloadValidation
      s!"{context} would lose nonzero fractional digits at precision {precision}")

def formatTimestamp (value : Datetime) (fraction : List Char) (precision : ℕ) : List Char :=
  dateDigits value.date.year value.date.month value.date.day ++ 'T' ::
    (clockDigits value.hour value.minute value.second ++
      if 0 < precision then '.' :: fraction else [])

def datetimeFromMatch (stamp : Stamp) (context : String) (original : PythonText) :
    Except Refusal Datetime :=
  match Datetime.make stamp.year stamp.month stamp.day stamp.hour stamp.minute stamp.second with
  | some value => .ok value
  | none => .error (payloadValidation
      (s!"{context} has invalid calendar or clock fields: character_length={original.length}, " ++
        "reason=" ++ calendarReason stamp.year stamp.month stamp.day stamp.hour stamp.minute
          stamp.second))

def parseLocalTimestamp (value : PythonText) (context : String) :
    Except Refusal (Datetime × List Char) :=
  match (scalars value).bind readStamp with
  | some (stamp, []) => do
    let parsed ← datetimeFromMatch stamp context value
    .ok (parsed, stamp.fraction)
  | _ => .error (payloadValidation
      (s!"{context} must be an offset-free ISO timestamp with at most 9 fraction digits: " ++
        s!"character_length={value.length}"))

def encodeTimestampLocal (value : CanonicalInput) (precision : ℕ) : Except Refusal Bytes :=
  match value with
  | .datetime value .naive => do
    let fraction ← fitFraction (fixedDigits 10 6 value.microsecond) precision "timestamp_local"
    .ok (asciiBytes (formatTimestamp value fraction precision))
  | .datetime _ _ => .error (payloadValidation
      "timestamp_local datetime must not carry timezone information")
  | .text value => do
    let (parsed, inputFraction) ← parseLocalTimestamp value "timestamp_local"
    let fraction ← fitFraction inputFraction precision "timestamp_local"
    .ok (asciiBytes (formatTimestamp parsed fraction precision))
  | other => .error (payloadValidation
      ("timestamp_local requires a naive datetime or exact timestamp text, " ++
        s!"got {other.typeName}"))

def decodeTimestampLocal (payload : Bytes) (precision : ℕ) : Except Refusal DecodedValue := do
  let text ← decodeAscii payload "timestamp_local"
  let canonical ← encodeTimestampLocal (.text (codePoints text)) precision
  refuseIf (asciiText canonical ≠ some text) (payloadValidation
    s!"timestamp_local payload is not canonical: byte_length={payload.length}")
  .ok (.text (String.ofList text))

/-- `Z|[+-][0-9]{2}:[0-9]{2}`: the sign with the hours and minutes. -/
inductive OffsetText where
  | zulu
  | fields (negative : Bool) (hours minutes : ℕ)
  deriving DecidableEq, Repr

def readOffsetFields (negative : Bool) (cs : List Char) : Option OffsetText :=
  (takeDigits 2 cs).bind fun (hours, cs) =>
    (takeChar ':' cs).bind fun cs =>
      (takeDigits 2 cs).bind fun (minutes, cs) =>
        if cs = [] then some (.fields negative hours minutes) else none

def readOffset : List Char → Option OffsetText
  | ['Z'] => some .zulu
  | '+' :: cs => readOffsetFields false cs
  | '-' :: cs => readOffsetFields true cs
  | _ => none

/-- The offset in microseconds. -/
def OffsetText.micros : OffsetText → Int
  | .zulu => 0
  | .fields negative hours minutes =>
    let magnitude : Int := hours * 3600000000 + minutes * 60000000
    if negative then -magnitude else magnitude

def requireOffset (context : String) : OffsetText → Except Refusal Unit
  | .zulu => .ok ()
  | .fields _ hours minutes =>
    refuseIf (23 < hours ∨ 59 < minutes) (payloadValidation
      (s!"{context} has an invalid UTC offset: " ++
        s!"hours_out_of_range={boolText (decide (23 < hours))}, " ++
        s!"minutes_out_of_range={boolText (decide (59 < minutes))}"))

def parseInstantTimestamp (value : PythonText) (context : String) :
    Except Refusal (Datetime × List Char × Int) :=
  match (scalars value).bind readStamp with
  | some (stamp, rest) =>
    match readOffset rest with
    | some offset => do
      let localValue ← datetimeFromMatch stamp context value
      requireOffset context offset
      .ok (localValue, stamp.fraction, offset.micros)
    | none => .error (instantForm value context)
  | none => .error (instantForm value context)
where
  instantForm (value : PythonText) (context : String) : Refusal := payloadValidation
    (s!"{context} requires Z or an explicit ±HH:MM offset and at most 9 " ++
      s!"fraction digits: character_length={value.length}")

def encodeTimestampInstant (value : CanonicalInput) (precision : ℕ) : Except Refusal Bytes :=
  match value with
  | .datetime value (.fixed offset) =>
    match value.subtract offset.micros with
    | none => .error (payloadValidation
        ("timestamp_instant UTC conversion failed or is outside the supported " ++
          "calendar range"))
    | some utcValue => do
      let fraction ← fitFraction (fixedDigits 10 6 utcValue.microsecond) precision
        "timestamp_instant"
      .ok (asciiBytes (formatTimestamp utcValue fraction precision ++ ['Z']))
  | .datetime _ _ => .error (payloadValidation
      ("timestamp_instant datetime requires a built-in fixed UTC offset; " ++
        "resolve IANA timezone policy upstream"))
  | .text value => do
    let (localValue, inputFraction, offset) ← parseInstantTimestamp value "timestamp_instant"
    match localValue.subtract offset with
    | none => .error (payloadValidation
        "timestamp_instant UTC conversion is outside the supported calendar range")
    | some utcValue => do
      let fraction ← fitFraction inputFraction precision "timestamp_instant"
      .ok (asciiBytes (formatTimestamp utcValue fraction precision ++ ['Z']))
  | other => .error (payloadValidation
      ("timestamp_instant requires an aware datetime or offset-bearing timestamp text, " ++
        s!"got {other.typeName}"))

def decodeTimestampInstant (payload : Bytes) (precision : ℕ) : Except Refusal DecodedValue := do
  let text ← decodeAscii payload "timestamp_instant"
  let canonical ← encodeTimestampInstant (.text (codePoints text)) precision
  refuseIf (asciiText canonical ≠ some text) (payloadValidation
    s!"timestamp_instant payload is not canonical: byte_length={payload.length}")
  .ok (.text (String.ofList text))

/-! ## Payloads -/

def schemaInconsistent (kind : String) : Refusal :=
  schemaValidation s!"{kind} field parameters are inconsistent"

def encodePayload (field : FieldSchema) (value : CanonicalInput) : Except Refusal Bytes :=
  match field.logicalType, field.parameters with
  | .int64, _ => encodeInt64 value
  | .decimal, .decimal parameters => encodeDecimal value parameters
  | .decimal, _ => .error (schemaInconsistent "decimal")
  | .boolean, _ => encodeBoolean value
  | .string, _ => encodeString value
  | .date, _ => encodeDate value
  | .timestampLocal, .timestamp parameters => encodeTimestampLocal value parameters.precision
  | .timestampInstant, .timestamp parameters => encodeTimestampInstant value parameters.precision
  | _, _ => .error (schemaInconsistent "timestamp")

def decodePayload (field : FieldSchema) (payload : Bytes) : Except Refusal DecodedValue :=
  match field.logicalType, field.parameters with
  | .int64, _ => decodeInt64 payload
  | .decimal, .decimal parameters => decodeDecimal payload parameters
  | .decimal, _ => .error (schemaInconsistent "decimal")
  | .boolean, _ => decodeBoolean payload
  | .string, _ => decodeString payload
  | .date, _ => decodeDate payload
  | .timestampLocal, .timestamp parameters => decodeTimestampLocal payload parameters.precision
  | .timestampInstant, .timestamp parameters => decodeTimestampInstant payload parameters.precision
  | _, _ => .error (schemaInconsistent "timestamp")

/-! ## Frames -/

def typeTag : LogicalType → List Char
  | .int64 => ['0', '1']
  | .decimal => ['0', '2']
  | .boolean => ['0', '3']
  | .string => ['0', '4']
  | .date => ['0', '5']
  | .timestampLocal => ['0', '6']
  | .timestampInstant => ['0', '7']

def nullFrame (field : FieldSchema) : List Char :=
  typeTag field.logicalType ++ '0' :: List.replicate 16 '0'

def presentFrame (field : FieldSchema) (payload : Bytes) : Except Refusal (List Char) :=
  if uint64Max < payload.length then
    .error (payloadValidation s!"field '{field.name}' payload byte length exceeds uint64")
  else
    .ok (typeTag field.logicalType ++ '1' :: (fixedDigits 16 16 payload.length ++ hexText payload))

/-- `_FIELD_HEADER_LENGTH`. -/
def fieldHeaderLength : ℕ := 2 + 1 + 16

/-- `_ENVELOPE_HEADER_LENGTH`. -/
def envelopeHeaderLength : ℕ := 5 + 64 + 8

/-- One round of `_parse_envelope`: the payload of a frame, if it is present,
and the text after the frame. -/
def parseFrame (index : ℕ) (field : FieldSchema) (text : List Char) :
    Except Refusal (Option Bytes × List Char) := do
  refuseIf (text.length < fieldHeaderLength)
    (frameValidation s!"canonical envelope ends inside field header at index {index}")
  let tag := text.take 2
  let presence := text.getD 2 ' '
  let lengthText := (text.drop 3).take 16
  let expectedTag := typeTag field.logicalType
  refuseIf (tag ≠ expectedTag) (frameValidation
    (s!"field {index} tag does not match schema type '{field.logicalType.value}': " ++
      s!"expected='{String.ofList expectedTag}', actual='{String.ofList tag}'"))
  refuseIf (presence ≠ '0' ∧ presence ≠ '1') (frameValidation
    s!"field {index} presence must be '0' or '1', got '{presence}'")
  refuseIf (lengthText.all (isDigitOf 16) = false) (frameValidation
    s!"field {index} byte length must be 16 lowercase hex digits")
  let payloadLength := digitsValue 16 lengthText
  let body := text.drop fieldHeaderLength
  refuseIf (body.length < payloadLength * 2) (frameValidation
    (s!"field {index} declares {payloadLength} payload bytes but the envelope " ++
      "ends early"))
  let payloadHex := body.take (payloadLength * 2)
  refuseIf (payloadHex.all (isDigitOf 16) = false) (frameValidation
    s!"field {index} payload must contain lowercase hex byte pairs")
  let rest := body.drop (payloadLength * 2)
  if presence = '0' then do
    refuseIf (payloadLength ≠ 0) (frameValidation
      s!"NULL field {index} must have zero payload byte length")
    .ok (none, rest)
  else .ok (some (hexBytes payloadHex), rest)

/-- The loop of `_parse_envelope` over the fields, and its check that nothing
follows the last frame. -/
def parseFrames (index : ℕ) : List FieldSchema → List Char → Except Refusal (List (Option Bytes))
  | [], text =>
    if text = [] then .ok []
    else .error (frameValidation
      s!"canonical envelope has {text.length} trailing ASCII bytes")
  | field :: fields, text => do
    let (parsed, rest) ← parseFrame index field text
    let parsedFields ← parseFrames (index + 1) fields rest
    .ok (parsed :: parsedFields)

def parseEnvelope (schema : CanonicalSchema) (envelope : Bytes) (expectedHeader : List Char) :
    Except Refusal (List (Option Bytes)) :=
  match asciiText envelope with
  | none => .error (frameValidation
      s!"canonical envelope must contain ASCII only: {asciiErrorText envelope}")
  | some text => do
    refuseIf (text.length < envelopeHeaderLength) (frameValidation
      "canonical envelope is shorter than the 77-byte protocol header")
    refuseIf (text.take 5 ≠ expectedHeader.take 5) (frameValidation
      (s!"canonical envelope prefix must be '{String.ofList (expectedHeader.take 5)}', " ++
        s!"got '{String.ofList (text.take 5)}'"))
    let digestText := (text.drop 5).take 64
    refuseIf (digestText.all (isDigitOf 16) = false) (frameValidation
      "canonical envelope schema digest must be 64 lowercase hex digits")
    let expectedDigest := (expectedHeader.drop 5).take 64
    refuseIf (digestText ≠ expectedDigest) (frameValidation
      ("canonical envelope schema digest does not match the supplied logical schema: " ++
        s!"expected={String.ofList expectedDigest}, actual={String.ofList digestText}"))
    let fieldCountText := (text.drop 69).take 8
    refuseIf (fieldCountText.all (isDigitOf 16) = false) (frameValidation
      "canonical envelope field count must be 8 lowercase hex digits")
    let fieldCount := digitsValue 16 fieldCountText
    let expectedFieldCount := digitsValue 16 ((expectedHeader.drop 69).take 8)
    refuseIf (fieldCount ≠ expectedFieldCount) (frameValidation
      ("canonical envelope field count does not match the supplied logical schema: " ++
        s!"header={fieldCount}, schema={expectedFieldCount}"))
    parseFrames 0 schema.fields (text.drop envelopeHeaderLength)

/-! ## Rows and keys -/

def requireValues (schema : CanonicalSchema) (values : List (Option CanonicalInput)) :
    Except Refusal Unit :=
  refuseIf (values.length ≠ schema.fields.length) (payloadValidation
    ("row/key value count does not match schema field count: " ++
      s!"values={values.length}, schema={schema.fields.length}"))

/-- The frame of one value of a row. -/
def rowFrame (field : FieldSchema) : Option CanonicalInput → Except Refusal (List Char)
  | none =>
    if field.nullable = true then .ok (nullFrame field)
    else .error (payloadValidation s!"nonnull row field '{field.name}' cannot encode NULL")
  | some value => do
    let payload ← encodePayload field value
    presentFrame field payload

/-- The frame of one value of a key. -/
def keyFrame (field : FieldSchema) : Option CanonicalInput → Except Refusal (List Char)
  | none => .error (nullKey s!"key field '{field.name}' cannot be NULL")
  | some value => do
    let payload ← encodePayload field value
    presentFrame field payload

/-- The frames of the values under their fields. -/
def encodeFrames (frame : FieldSchema → Option CanonicalInput → Except Refusal (List Char)) :
    List FieldSchema → List (Option CanonicalInput) → Except Refusal (List Char)
  | field :: fields, value :: values => do
    let first ← frame field value
    let rest ← encodeFrames frame fields values
    .ok (first ++ rest)
  | _, _ => .ok []

/-- The value of one parsed frame of a row. -/
def rowValue (field : FieldSchema) : Option Bytes → Except Refusal (Option DecodedValue)
  | none =>
    if field.nullable = true then .ok none
    else .error (frameValidation s!"nonnull row field '{field.name}' has a NULL frame")
  | some payload => do
    let value ← decodePayload field payload
    .ok (some value)

/-- The value of one parsed frame of a key. -/
def keyValue (field : FieldSchema) : Option Bytes → Except Refusal DecodedValue
  | none => .error (nullKey s!"key field '{field.name}' has a NULL frame")
  | some payload => decodePayload field payload

/-- The values of the parsed frames under their fields. -/
def decodeFrames {Value : Type} (value : FieldSchema → Option Bytes → Except Refusal Value) :
    List FieldSchema → List (Option Bytes) → Except Refusal (List Value)
  | field :: fields, parsed :: rest => do
    let first ← value field parsed
    let others ← decodeFrames value fields rest
    .ok (first :: others)
  | _, _ => .ok []

variable (sha256 : Sha256)

def encodeRow (schema : CanonicalSchema) (values : List (Option CanonicalInput)) :
    Except Refusal Bytes := do
  requireValues schema values
  let frames ← encodeFrames rowFrame schema.fields values
  .ok (asciiBytes (rowHeader sha256 schema ++ frames))

def encodeKey (schema : CanonicalSchema) (values : List (Option CanonicalInput)) :
    Except Refusal Bytes := do
  requireValues schema values
  let frames ← encodeFrames keyFrame schema.fields values
  .ok (asciiBytes (keyHeader sha256 schema ++ frames))

def decodeRow (schema : CanonicalSchema) (envelope : Bytes) :
    Except Refusal (List (Option DecodedValue)) := do
  let parsedFields ← parseEnvelope schema envelope (rowHeader sha256 schema)
  decodeFrames rowValue schema.fields parsedFields

def decodeKey (schema : CanonicalSchema) (envelope : Bytes) :
    Except Refusal (List DecodedValue) := do
  let parsedFields ← parseEnvelope schema envelope (keyHeader sha256 schema)
  decodeFrames keyValue schema.fields parsedFields

end ForensicData.Canonical
