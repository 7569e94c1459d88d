/-
ForensicData.ClickHouse.Lowering — the row expressions ClickHouse evaluates.

`_lower_row_envelope` builds, from a schema and its bindings, expressions that
flag a row invalid or oversized and yield its envelope. What it builds is given
by what ClickHouse makes of it on the cells of a row. Integers of 256 bits,
`intDiv`, `modulo` and `toString` are exact. The text of a date or a time, and
what `assumeNotNull` makes of NULL, are ClickHouse's own and given to the model.
Query parameters stand in the expressions as their values; the declared types
the bindings come from are left out.
-/
import ForensicData.Canonical.EnvelopeTheorems
import ForensicData.Canonical.FieldTheorems
import ForensicData.Text

namespace ForensicData.ClickHouse

open ForensicData.Canonical
open ForensicData.Lib
open Json (renderInt)

/-! ## Physical types -/

inductive ClickHouseRuntimeProfile where
  | lts
  | legacy218LtsSource
  deriving DecidableEq, Repr

structure ClickHouseDecimalType where
  precision : ℕ
  scale : ℕ
  deriving DecidableEq, Repr

def unsupportedProfile (message : String) : Refusal :=
  { error := .unsupportedClickHouseProfileError, message }

/-- What follows a text at the start of another. -/
def takeText : List Char → List Char → Option (List Char)
  | [], text => some text
  | c :: expected, text => (takeChar c text).bind (takeText expected)

/-- `0|[1-9][0-9]*`: the number and the rest. -/
def takeNumeral (text : List Char) : Option (ℕ × List Char) :=
  let digits := text.takeWhile (isDigitOf 10)
  if digits = [] ∨ (digits.head? = some '0' ∧ digits.length ≠ 1) then none
  else some (digitsValue 10 digits, text.dropWhile (isDigitOf 10))

/-- `,\s*`. -/
def takeComma (text : List Char) : Option (List Char) :=
  (takeChar ',' text).map fun rest => rest.dropWhile isPythonSpace

/-- The match of `_DECIMAL_TYPE`. -/
def readDecimalType (text : List Char) : Option ClickHouseDecimalType :=
  (takeText ['D', 'e', 'c', 'i', 'm', 'a', 'l', '('] text).bind fun text =>
    (takeNumeral text).bind fun (precision, text) =>
      (takeComma text).bind fun text =>
        (takeNumeral text).bind fun (scale, text) =>
          if precision ≠ 0 ∧ text = [')'] then some { precision, scale } else none

/-- `parse_clickhouse_decimal_type`. -/
def parseClickHouseDecimalType (typeName : String) : Except Refusal ClickHouseDecimalType :=
  match readDecimalType typeName.toList with
  | none => .error (unsupportedProfile
      s!"ClickHouse physical type is not Decimal(P, S): type='{typeName}'")
  | some physical =>
    if ¬ (1 ≤ physical.precision ∧ physical.precision ≤ 76) ∨
        physical.precision < physical.scale then
      .error (unsupportedProfile
        ("ClickHouse Decimal type is outside the engine's supported precision/scale: " ++
          s!"type='{typeName}'"))
    else .ok physical

/-- The bits of `clickhouse_decimal_reinterpret_function`. -/
def clickHouseDecimalReinterpretBits (precision : ℕ) : ℕ :=
  if precision ≤ 9 then 32
  else if precision ≤ 18 then 64
  else if precision ≤ 38 then 128
  else 256

/-- The match of `_DATETIME64_TYPE`. -/
def readDateTime64Type (text : List Char) : Option (ℕ × Option (List Char)) :=
  (takeText ['D', 'a', 't', 'e', 'T', 'i', 'm', 'e', '6', '4', '('] text).bind fun text =>
    (takeNumeral text).bind fun (precision, text) =>
      if text = [')'] then some (precision, none)
      else
        (takeComma text).bind fun text =>
          (takeChar '\'' text).bind fun text =>
            let zone := text.takeWhile (· != '\'')
            if zone ≠ [] ∧ text.dropWhile (· != '\'') = ['\'', ')'] then
              some (precision, some zone)
            else none

/-- `parse_clickhouse_datetime64_declaration`. -/
def parseClickHouseDateTime64Declaration (typeName : String) :
    Except Refusal (ℕ × Option String) :=
  match readDateTime64Type typeName.toList with
  | none => .error (unsupportedProfile
      s!"ClickHouse physical type is not DateTime64(P, timezone): type='{typeName}'")
  | some (precision, zone) => do
    refuseIf (9 < precision) (unsupportedProfile
      s!"ClickHouse DateTime64 precision is outside canonical v1: type='{typeName}'")
    refuseIf (zone.any (·.contains (Char.ofNat 0)) = true)
      { error := .valueError
        message := "ClickHouse DateTime64 timezone must not contain U+0000" }
    .ok (precision, zone.map String.ofList)

/-! ## Bindings -/

structure ClickHouseCanonicalFieldBinding where
  fieldName : String
  columnName : String
  baseType : String
  nullable : Bool
  datetimeTimezone : Option String

/-- `_require_base_type`. -/
def requireBaseType (actual : String) (allowed : List String) (logicalType : LogicalType)
    (fieldIndex : ℕ) : Except Refusal Unit :=
  refuseIf (actual ∉ allowed) (unsupportedProfile
    ("ClickHouse canonical physical type is unsupported: " ++
      s!"field_index={fieldIndex}, logical_type='{logicalType.value}', " ++
      s!"physical_type='{actual}', allowed_physical_types={allowed}"))

/-- The timestamps of `_validate_physical_mapping`. -/
def validateTimestampMapping (field : FieldSchema) (binding : ClickHouseCanonicalFieldBinding)
    (fieldIndex : ℕ) : Except Refusal Unit := do
  let _ ← parseClickHouseDateTime64Declaration binding.baseType
  match binding.datetimeTimezone with
  | none => .error (unsupportedProfile
      ("ClickHouse canonical DateTime64 inspection omitted its effective timezone: " ++
        s!"field_index={fieldIndex}, physical_type='{binding.baseType}'"))
  | some zone =>
    refuseIf (field.logicalType = .timestampLocal ∧ zone ≠ "UTC") (unsupportedProfile
      ("ClickHouse timestamp_local requires an effective UTC DateTime64 column " ++
        "to avoid ambiguous wall-clock values at timezone folds: " ++
        s!"field_index={fieldIndex}, effective_timezone='{zone}'"))

/-- `_validate_physical_mapping`. -/
def validatePhysicalMapping (field : FieldSchema) (binding : ClickHouseCanonicalFieldBinding)
    (fieldIndex : ℕ) (runtimeProfile : ClickHouseRuntimeProfile) : Except Refusal Unit :=
  match field.logicalType with
  | .int64 => requireBaseType binding.baseType ["Int64"] .int64 fieldIndex
  | .decimal => do
    let _ ← parseClickHouseDecimalType binding.baseType
    .ok ()
  | .boolean => do
    refuseIf (runtimeProfile = .legacy218LtsSource) (unsupportedProfile
      ("ClickHouse 21.8 source profile has no distinct Bool physical type: " ++
        s!"field_index={fieldIndex}, physical_type='{binding.baseType}'"))
    requireBaseType binding.baseType ["Bool"] .boolean fieldIndex
  | .string => requireBaseType binding.baseType ["String"] .string fieldIndex
  | .date =>
    requireBaseType binding.baseType
      (if runtimeProfile = .legacy218LtsSource then ["Date"] else ["Date", "Date32"]) .date
      fieldIndex
  | .timestampLocal => validateTimestampMapping field binding fieldIndex
  | .timestampInstant => validateTimestampMapping field binding fieldIndex

/-- `ClickHouseCanonicalRelation`: a binding for every field, in order. -/
structure ClickHouseCanonicalRelation where
  runtimeProfile : ClickHouseRuntimeProfile
  schema : CanonicalSchema
  bindings : List ClickHouseCanonicalFieldBinding
  bindings_ne : bindings ≠ []
  mapped : List.Forall₂ (fun (field : FieldSchema × ℕ) binding =>
    binding.fieldName = field.1.name ∧
      validatePhysicalMapping field.1 binding field.2 runtimeProfile = .ok ())
    schema.fields.zipIdx bindings
  columns_nodup : (bindings.map (·.columnName)).Nodup

structure ClickHouseCanonicalLimits where
  maxEncodedEnvelopeBytes : ℕ
  envelope_pos : 0 < maxEncodedEnvelopeBytes

/-! ## Values -/

/-- A stored value: a `Decimal` by its unscaled number, a date by the number of
its day as `Date.toOrdinal` numbers days, and a `DateTime64` by its ticks since
the Unix epoch. -/
inductive ClickHouseValue where
  | int64 (value : Int)
  | decimal (unscaled : Int)
  | bool (value : Bool)
  | string (bytes : Bytes)
  | date (day : Int)
  | dateTime64 (ticks : Int)

/-- A cell; `none` is NULL. -/
abbrev ClickHouseCell := Option ClickHouseValue

namespace ClickHouseValue

/-- The bits of the number a value is stored as. -/
def raw : ClickHouseValue → Int
  | .int64 value => value
  | .decimal unscaled => unscaled
  | .date day => day
  | .dateTime64 ticks => ticks
  | _ => 0

def isTrue : ClickHouseValue → Bool
  | .bool value => value
  | _ => false

def bytes : ClickHouseValue → Bytes
  | .string bytes => bytes
  | _ => []

/-- `reinterpretAsInt32(value)` and the other widths. -/
def reinterpretAsInt (bits : ℕ) (value : ClickHouseValue) : Int := value.raw.bmod (2 ^ bits)

end ClickHouseValue

/-- The nanoseconds from the midnight before the first day to the Unix epoch. -/
def unixEpochNanos : Int := 719163 * 86400 * 10 ^ 9

/-- The place of the ticks on the time line, in nanoseconds. -/
def tickNanos (precision : ℕ) (ticks : Int) : Int :=
  unixEpochNanos + ticks * 10 ^ (9 - precision)

/-- The text of a moment with a blank between day and time. -/
def spacedText (moment : Moment) (precision : ℕ) : List Char :=
  let stamp := moment.stamp precision
  dateDigits stamp.year stamp.month stamp.day ++ ' ' ::
    (clockDigits stamp.hour stamp.minute stamp.second ++ fractionText stamp.fraction)

/-- The length of a text with a fraction of so many digits. -/
def timestampLength (precision : ℕ) : ℕ := 19 + if precision = 0 then 0 else precision + 1

/-- The functions of ClickHouse the expressions rest on. The texts of days and
times are exact: outside of the years 1 to 9999 a text is longer, or begins with
the year 0000. -/
structure ClickHouseFunctions where
  assumedOfNull : String → ClickHouseValue
  dateText : Int → List Char
  dateTimeText : String → ℕ → Int → List Char
  date_exact : ∀ d : Date, dateText d.toOrdinal = formatDate d
  date_other : ∀ day, (∀ d : Date, (d.toOrdinal : Int) ≠ day) →
    (dateText day).length = 10 → (dateText day).take 4 = ['0', '0', '0', '0']
  time_exact : ∀ precision ticks (moment : Moment), precision ≤ 9 →
    moment.nanos = tickNanos precision ticks →
      dateTimeText "UTC" precision ticks = spacedText moment precision
  time_other : ∀ precision ticks, precision ≤ 9 →
    (∀ moment : Moment, moment.nanos ≠ tickNanos precision ticks) →
      (dateTimeText "UTC" precision ticks).length = timestampLength precision →
        (dateTimeText "UTC" precision ticks).take 4 = ['0', '0', '0', '0']

/-- `lower(hex(number))` of an unsigned number: whole bytes. -/
def lowerHexNumber (number : ℕ) : List Char :=
  let digits := Nat.toDigits 16 number
  if digits.length % 2 = 1 then '0' :: digits else digits

/-- `leftPad(text, length, '0')`. -/
def leftPadZero (text : List Char) (length : ℕ) : List Char :=
  if length ≤ text.length then text.take length
  else List.replicate (length - text.length) '0' ++ text

/-- `replaceOne(text, ' ', 'T')`. -/
def replaceOneBlank : List Char → List Char
  | [] => []
  | c :: text => if c = ' ' then 'T' :: text else c :: replaceOneBlank text

/-! ## Payloads -/

structure PayloadLowering where
  isValid : Bool
  payload : Bytes

/-- `toString(number)`. -/
def toStringInt (number : Int) : List Char := renderInt number

def inconsistentField (kind : String) : Refusal :=
  { error := .typeError, message := s!"ClickHouse {kind} field parameters are inconsistent" }

/-- `_decimal_payload_lowering`. -/
def decimalPayloadLowering (parameters : DecimalParameters) (physical : ClickHouseDecimalType)
    (value : ClickHouseValue) : PayloadLowering :=
  let scaled := value.reinterpretAsInt (clickHouseDecimalReinterpretBits physical.precision)
  let bound : Int := 10 ^ parameters.precision
  if physical.scale < parameters.scale then
    let scaleDelta := parameters.scale - physical.scale
    let scaledText := toStringInt scaled
    let digitCount : Int := scaledText.length - if scaled < 0 then 1 else 0
    { isValid := decide (scaled = 0) || decide (digitCount + scaleDelta ≤ parameters.precision)
      payload := asciiBytes (if scaled = 0 then ['0']
        else scaledText ++ List.replicate scaleDelta '0') }
  else if physical.scale = parameters.scale then
    { isValid := decide (-bound < scaled) && decide (scaled < bound)
      payload := asciiBytes (toStringInt scaled) }
  else
    let divisor : Int := 10 ^ (physical.scale - parameters.scale)
    let logicalScaled := scaled.tdiv divisor
    { isValid := decide (scaled.tmod divisor = 0) && decide (-bound < logicalScaled) &&
        decide (logicalScaled < bound)
      payload := asciiBytes (toStringInt logicalScaled) }

/-- `_timestamp_payload_lowering`. -/
def timestampPayloadLowering (functions : ClickHouseFunctions) (field : FieldSchema)
    (parameters : TimestampParameters) (timezone : String) (physicalPrecision : ℕ)
    (value : ClickHouseValue) : PayloadLowering :=
  let outputTimezone := if field.logicalType = .timestampInstant then "UTC" else timezone
  let physicalText := functions.dateTimeText outputTimezone physicalPrecision value.raw
  let validity := decide (physicalText.length = timestampLength physicalPrecision) &&
    decide (physicalText.take 4 ≠ ['0', '0', '0', '0'])
  let (isValid, logicalText) :=
    if parameters.precision < physicalPrecision then
      let divisor : Int := 10 ^ (physicalPrecision - parameters.precision)
      (validity && decide ((value.reinterpretAsInt 64).tmod divisor = 0),
        physicalText.take (timestampLength parameters.precision))
    else if physicalPrecision < parameters.precision then
      (validity,
        if physicalPrecision = 0 then
          physicalText ++ '.' :: List.replicate parameters.precision '0'
        else physicalText ++ List.replicate (parameters.precision - physicalPrecision) '0')
    else (validity, physicalText)
  let rendered := replaceOneBlank logicalText
  { isValid
    payload := asciiBytes (if field.logicalType = .timestampInstant then rendered ++ ['Z']
      else rendered) }

/-- `_payload_lowering` of a timestamp. -/
def timestampFieldLowering (functions : ClickHouseFunctions) (field : FieldSchema)
    (binding : ClickHouseCanonicalFieldBinding) (parameters : TimestampParameters)
    (value : ClickHouseValue) : Except Refusal PayloadLowering :=
  match binding.datetimeTimezone with
  | none => .error { error := .typeError
                     message := "ClickHouse DateTime64 binding lacks an effective timezone" }
  | some timezone => do
    let (physicalPrecision, _) ← parseClickHouseDateTime64Declaration binding.baseType
    .ok (timestampPayloadLowering functions field parameters timezone physicalPrecision value)

/-- `_payload_lowering`. -/
def payloadLowering (functions : ClickHouseFunctions) (field : FieldSchema)
    (binding : ClickHouseCanonicalFieldBinding) (value : ClickHouseValue) :
    Except Refusal PayloadLowering :=
  match field.logicalType, field.parameters with
  | .int64, _ => .ok { isValid := true, payload := asciiBytes (toStringInt value.raw) }
  | .decimal, .decimal parameters => do
    let physical ← parseClickHouseDecimalType binding.baseType
    .ok (decimalPayloadLowering parameters physical value)
  | .decimal, _ => .error (inconsistentField "decimal")
  | .boolean, _ =>
    .ok { isValid := true, payload := asciiBytes (if value.isTrue = true then ['1'] else ['0']) }
  | .string, _ =>
    .ok { isValid := (utf8Decode value.bytes).isSome && !value.bytes.contains 0
          payload := value.bytes }
  | .date, _ =>
    let rendered := functions.dateText value.raw
    .ok { isValid := decide (rendered.length = 10) &&
            decide (rendered.take 4 ≠ ['0', '0', '0', '0'])
          payload := asciiBytes rendered }
  | .timestampLocal, .timestamp parameters =>
    timestampFieldLowering functions field binding parameters value
  | .timestampInstant, .timestamp parameters =>
    timestampFieldLowering functions field binding parameters value
  | _, _ => .error (inconsistentField "timestamp")

/-! ## Frames and envelopes -/

structure FieldLowering where
  frame : List Char
  payloadIsValid : Bool
  isNull : Option Bool

/-- `_field_lowering`. -/
def fieldLowering (functions : ClickHouseFunctions) (field : FieldSchema)
    (binding : ClickHouseCanonicalFieldBinding) (cell : ClickHouseCell) :
    Except Refusal FieldLowering := do
  let value := cell.getD (functions.assumedOfNull binding.baseType)
  let payload ← payloadLowering functions field binding value
  let presentFrame := typeTag field.logicalType ++ '1' ::
    (leftPadZero (lowerHexNumber payload.payload.length) 16 ++ hexText payload.payload)
  if binding.nullable = false then
    .ok { frame := presentFrame, payloadIsValid := payload.isValid, isNull := none }
  else
    let nullFrame := typeTag field.logicalType ++ List.replicate 17 '0'
    .ok { frame := if cell.isNone = true then nullFrame else presentFrame
          payloadIsValid := payload.isValid, isNull := some cell.isNone }

/-- The validity of a field in a row. -/
def fieldValidity (field : FieldSchema) (lowering : FieldLowering) : Bool :=
  match lowering.isNull with
  | none => lowering.payloadIsValid
  | some isNull =>
    if field.nullable = true then isNull || lowering.payloadIsValid
    else !isNull && lowering.payloadIsValid

/-- The expressions of the fields, in order. -/
def fieldLowerings (functions : ClickHouseFunctions) :
    List FieldSchema → List ClickHouseCanonicalFieldBinding → List ClickHouseCell →
      Except Refusal (List (FieldSchema × FieldLowering))
  | field :: fields, binding :: bindings, cell :: cells => do
    let first ← fieldLowering functions field binding cell
    let rest ← fieldLowerings functions fields bindings cells
    .ok ((field, first) :: rest)
  | _, _, _ => .ok []

structure EnvelopeLowering where
  encodedEnvelope : Bytes
  invalidValue : Bool
  oversizedValue : Bool
  acceptedEnvelope : Option Bytes

/-- `_assemble_envelope`. -/
def assembleEnvelope (header : List Char) (limits : ClickHouseCanonicalLimits)
    (fields : List FieldLowering) (validities : List Bool) : EnvelopeLowering :=
  let encodedEnvelope := asciiBytes (header ++ fields.flatMap (·.frame))
  let invalidValue := !validities.all id
  let oversizedValue := if invalidValue = true then false
    else decide (limits.maxEncodedEnvelopeBytes < encodedEnvelope.length)
  { encodedEnvelope, invalidValue, oversizedValue
    acceptedEnvelope := if invalidValue = true ∨ oversizedValue = true then none
      else some encodedEnvelope }

/-- `_lower_row_envelope`, on the cells of a row. -/
def lowerRowEnvelope (sha256 : Sha256) (functions : ClickHouseFunctions)
    (relation : ClickHouseCanonicalRelation) (limits : ClickHouseCanonicalLimits)
    (cells : List ClickHouseCell) : Except Refusal EnvelopeLowering := do
  let fields ← fieldLowerings functions relation.schema.fields relation.bindings cells
  .ok (assembleEnvelope (rowHeader sha256 relation.schema) limits (fields.map (·.2))
    (fields.map fun (field, lowering) => fieldValidity field lowering))

end ForensicData.ClickHouse
