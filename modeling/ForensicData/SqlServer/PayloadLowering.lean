/-
ForensicData.SqlServer.PayloadLowering — the payload expressions of SQL Server 2022.

A payload expression is given by what SQL Server makes of it on a column's value:
whether it is valid, and its bytes or NULL. The schema, the inspected relation
and the scope parameter are checked first, as the builders do.
-/
import ForensicData.SqlServer.Values

namespace ForensicData.SqlServer

open ForensicData.Canonical
open ForensicData.Lib
open Json (renderInt)

/-! ## Relations -/

/-- `MAX_COMPILED_RELATION_MEMBERS`. -/
def maxCompiledRelationMembers : ℕ := 1024

/-- `_MAX_LOB_BYTES`. -/
def maxLobBytes : ℕ := 2 ^ 31 - 1

structure MssqlFieldBinding where
  fieldName : String
  columnId : ℕ
  columnName : String
  isNullable : Bool
  physical : MssqlPhysicalField

/-- `MssqlInspectedRelation`: the columns of the relation. -/
structure MssqlInspectedRelation where
  bindings : List MssqlFieldBinding
  columnIds_nodup : (bindings.map (·.columnId)).Nodup
  columnNames_nodup : (bindings.map (·.columnName)).Nodup

/-- `_BUILTIN_TYPE_IDS`. -/
def builtinTypeIds : List (String × ℕ) :=
  [("date", 40), ("datetime2", 42), ("datetimeoffset", 43), ("tinyint", 48), ("smallint", 52),
   ("int", 56), ("bit", 104), ("decimal", 106), ("numeric", 108), ("bigint", 127),
   ("varchar", 167), ("nvarchar", 231)]

/-- `_allowed_base_types`. -/
def allowedBaseTypes : LogicalType → List String
  | .int64 => ["tinyint", "smallint", "int", "bigint", "decimal", "numeric"]
  | .decimal => ["tinyint", "smallint", "int", "bigint", "decimal", "numeric"]
  | .boolean => ["bit"]
  | .string => ["varchar", "nvarchar"]
  | .date => ["date"]
  | .timestampLocal => ["datetime2"]
  | .timestampInstant => ["datetimeoffset"]

/-- `_validate_string_physical_provenance`. -/
def validateStringPhysicalProvenance (physical : MssqlPhysicalField) (fieldIndex : ℕ) :
    Except Refusal Unit := do
  refuseIf (physical.collationName = none) (loweringError
    ("SQL Server string physical provenance must include a collation: " ++
      s!"field_index={fieldIndex}"))
  refuseIf (physical.systemTypeName = "nvarchar" ∧ physical.maxLength ≠ -1 ∧
      physical.maxLength % 2 ≠ 0) (loweringError
    ("SQL Server nvarchar physical maximum length must be even or -1: " ++
      s!"field_index={fieldIndex}, max_length={physical.maxLength}"))

/-- `_validate_physical_mapping`. -/
def validatePhysicalMapping (field : FieldSchema) (physical : MssqlPhysicalField)
    (fieldIndex : ℕ) : Except Refusal Unit := do
  refuseIf (builtinTypeIds.lookup physical.systemTypeName ≠ some physical.systemTypeId)
    (loweringError
      ("SQL Server field mapping has an unsupported system type identity: " ++
        s!"field_index={fieldIndex}, system_type_name='{physical.systemTypeName}', " ++
        s!"system_type_id={physical.systemTypeId}"))
  refuseIf (physical.userTypeId ≠ physical.systemTypeId) (loweringError
    ("SQL Server field mapping uses an alias or user-defined type: " ++
      s!"field_index={fieldIndex}, system_type_id={physical.systemTypeId}, " ++
      s!"user_type_id={physical.userTypeId}"))
  let allowedText := ", ".intercalate
    ((allowedBaseTypes field.logicalType).map fun name => s!"sys.{name}")
  refuseIf (physical.systemTypeName ∉ allowedBaseTypes field.logicalType) (loweringError
    ("SQL Server field mapping is unsupported: " ++
      s!"field_index={fieldIndex}, logical_type={field.logicalType.value}, " ++
      s!"physical_type=sys.{physical.systemTypeName}, " ++
      s!"allowed_physical_types={allowedText}"))
  refuseIf (physical.systemTypeName ∈ ["decimal", "numeric"] ∧ physical.precision < 1)
    (loweringError
      ("SQL Server decimal physical provenance requires precision in 1..38: " ++
        s!"field_index={fieldIndex}, precision={physical.precision}"))
  if physical.systemTypeName ∈ ["varchar", "nvarchar"] then
    validateStringPhysicalProvenance physical fieldIndex
  refuseIf (physical.systemTypeName ∈ ["datetime2", "datetimeoffset"] ∧ 7 < physical.scale)
    (loweringError
      ("SQL Server temporal physical scale must be in the range 0..7: " ++
        s!"field_index={fieldIndex}, scale={physical.scale}"))

/-- One round of the loop of `validate_mssql_inspection`. -/
def validateBinding (item : (FieldSchema × MssqlFieldBinding) × ℕ) : Except Refusal Unit := do
  let ((field, binding), index) := item
  refuseIf (binding.fieldName ≠ field.name) (loweringError
    ("SQL Server field binding does not match logical schema order: " ++
      s!"index={index}, expected='{field.name}', actual='{binding.fieldName}'"))
  validatePhysicalMapping field binding.physical index

/-- `validate_mssql_inspection`. -/
def validateMssqlInspection (schema : CanonicalSchema) (inspection : MssqlInspectedRelation) :
    Except Refusal Unit := do
  let bindings := inspection.bindings
  refuseIf (maxCompiledRelationMembers < bindings.length) (loweringError
    ("SQL Server canonical field count exceeds the executable profile limit: " ++
      s!"fields={bindings.length}, maximum={maxCompiledRelationMembers}"))
  refuseIf (bindings.length ≠ schema.fields.length) (loweringError
    ("SQL Server field binding count does not match logical schema: " ++
      s!"bindings={bindings.length}, fields={schema.fields.length}"))
  (schema.fields.zip bindings).zipIdx.forM validateBinding

/-- `_validate_canonical_inputs`. -/
def validateCanonicalInputs (schema : CanonicalSchema) (inspection : MssqlInspectedRelation)
    (maxEncodedEnvelopeBytes : ℕ) : Except Refusal Unit := do
  validateMssqlInspection schema inspection
  refuseIf (¬ (1 ≤ maxEncodedEnvelopeBytes ∧ maxEncodedEnvelopeBytes ≤ maxLobBytes))
    (loweringError
      ("SQL Server maximum encoded envelope bytes must be an integer in the range " ++
        s!"1..{maxLobBytes}"))

/-! ## Payloads -/

/-- What a payload expression is on a column's value. -/
structure LoweredPayload where
  isValid : Bool
  payload : Option Bytes

/-- `_PayloadLowering`, as a function of the column's value. -/
abbrev PayloadLowering := MssqlCell → LoweredPayload

/-- `_require_no_parameters`. -/
def requireNoParameters (field : FieldSchema) : Except Refusal Unit :=
  refuseIf (field.parameters ≠ .none)
    (loweringError s!"logical type '{field.logicalType.value}' requires NoParameters")

/-- `TRY_CONVERT(bigint, column)`. -/
def keyValue (cell : MssqlCell) : Option Int := (tryConvertNumber bigint cell).map truncateRat

/-- The number, converted back to the type of its column, is that of the column. -/
def roundTrips (numericType : MssqlNumericType) (value : Option ℚ) (cell : MssqlCell) : Bool :=
  match value, cell.bind MssqlValue.number? with
  | some value, some number => decide (numericType.tryConvert value = some number)
  | _, _ => false

/-- `_int64_payload`. -/
def int64Payload (physical : MssqlPhysicalField) : Except Refusal PayloadLowering := do
  let numericType ← numericPhysicalType physical
  .ok fun cell =>
    { isValid := roundTrips numericType (tryConvertNumber bigint cell) cell
      payload := (keyValue cell).map fun value =>
        convertVarbinary 20 (asciiBytes (convertVarchar 20 (renderInt value))) }

/-- `TRY_CONVERT(decimal(38, 0), REPLACE(text, '.', ''))`. -/
def scaledNumber (text : List Char) : Option Int :=
  let number := readInt (text.filter (· != '.'))
  if number.natAbs < 10 ^ 38 then some number else none

/-- `_decimal_payload`. -/
def decimalPayload (field : FieldSchema) (physical : MssqlPhysicalField) :
    Except Refusal PayloadLowering :=
  match field.parameters with
  | .decimal parameters => do
    let numericType ← numericPhysicalType physical
    .ok fun cell =>
      let value := tryConvertNumber (.decimal parameters.precision parameters.scale) cell
      let scaled := value.bind fun value =>
        scaledNumber (convertVarchar 41 (decimalText parameters.scale value))
      { isValid := roundTrips numericType value cell && scaled.isSome
        payload := scaled.map fun scaled =>
          convertVarbinary (parameters.precision + 1)
            (asciiBytes (convertVarchar 39 (renderInt scaled))) }
  | _ => .error (loweringError "decimal field requires DecimalParameters")

/-- `_boolean_payload`. -/
def booleanPayload : PayloadLowering
  | some (.bit value) =>
    { isValid := true, payload := some (if value = true then [0x31] else [0x30]) }
  | _ => { isValid := false, payload := none }

/-- `CONVERT(nvarchar(max), column)`. -/
def unicodeValue (functions : MssqlTextFunctions) (physical : MssqlPhysicalField) :
    MssqlCell → Option (List UInt16)
  | some (.nvarchar units) => some units
  | some (.varchar bytes) =>
    physical.collationName.map fun collation => functions.unicodeOfVarchar collation bytes
  | _ => none

/-- The bytes of UTF-16 code units, the lower byte first. -/
def unitBytes (units : List UInt16) : Bytes :=
  units.flatMap fun unit => [UInt8.ofNat unit.toNat, UInt8.ofNat (unit.toNat / 256)]

/-- Two binary values have one length and are equal. -/
def sameBytes (a b : Bytes) : Bool := decide (a.length = b.length) && varbinaryEq a b

/-- `_string_source_roundtrip`. -/
def stringSourceRoundtrip (functions : MssqlTextFunctions) (physical : MssqlPhysicalField) :
    Except Refusal (MssqlCell → List UInt16 → Bool) :=
  if physical.systemTypeName = "nvarchar" then .ok fun _ _ => true
  else
    match physical.collationName with
    | none => .error (loweringError "SQL Server varchar provenance requires a collation")
    | some collation =>
      .ok fun cell units =>
        match cell with
        | some (.varchar bytes) => sameBytes bytes (functions.varcharOfUnicode collation units)
        | _ => false

/-- `_string_payload`. -/
def stringPayload (functions : MssqlTextFunctions) (physical : MssqlPhysicalField) :
    Except Refusal PayloadLowering := do
  let sourceRoundtrip ← stringSourceRoundtrip functions physical
  .ok fun cell =>
    match unicodeValue functions physical cell with
    | none => { isValid := false, payload := none }
    | some units =>
      let payload := functions.utf8OfUnicode units
      let losslessUtf8 := sameBytes (unitBytes units) (unitBytes (functions.unicodeOfUtf8 payload))
      { isValid := losslessUtf8 && sourceRoundtrip cell units && !payload.contains 0
        payload := some payload }

/-- `_date_payload`. -/
def datePayload : PayloadLowering
  | some (.date value) =>
    { isValid := true, payload := some (convertVarbinary 10 (asciiBytes (formatDate value))) }
  | _ => { isValid := true, payload := none }

/-- `RIGHT('000000000' + CONVERT(varchar(9), DATEPART(nanosecond, value)), 9)`. -/
def nanosecondText (nanosecond : ℕ) : List Char :=
  let text := List.replicate 9 '0' ++ convertVarchar 9 (Nat.toDigits 10 nanosecond)
  text.drop (text.length - 9)

/-- `_timestamp_payload`, of the moment the two expressions name. -/
def timestampPayload (precision : ℕ) (suffix : List Char) (value : Option Moment) :
    LoweredPayload :=
  let isValid := if precision < 7 then
      value.any fun moment => moment.nanosecond % 10 ^ (9 - precision) == 0
    else true
  let maximumPayloadBytes := 19 + (if precision = 0 then 0 else precision + 1) + suffix.length
  { isValid
    payload := value.map fun moment =>
      let fractionText := if precision = 0 then []
        else '.' :: (nanosecondText moment.nanosecond).take precision
      convertVarbinary maximumPayloadBytes
        (asciiBytes ((moment.text 7).take 19 ++ fractionText ++ suffix)) }

/-- `_timestamp_local_payload`. -/
def timestampLocalPayload (precision : ℕ) : PayloadLowering
  | some (.datetime2 value) => timestampPayload precision [] (some value)
  | _ => timestampPayload precision [] none

/-- `_timestamp_instant_payload`; `SWITCHOFFSET(column, '+00:00')` is the UTC moment. -/
def timestampInstantPayload (precision : ℕ) : PayloadLowering
  | some (.datetimeoffset utc _) => timestampPayload precision ['Z'] (some utc)
  | _ => timestampPayload precision ['Z'] none

/-- `_timestamp_precision`. -/
def timestampPrecision (field : FieldSchema) : Except Refusal ℕ :=
  match field.parameters with
  | .timestamp parameters => .ok parameters.precision
  | _ => .error (loweringError "timestamp field requires TimestampParameters")

/-- `_payload_lowering`. -/
def payloadLowering (functions : MssqlTextFunctions) (field : FieldSchema)
    (binding : MssqlFieldBinding) : Except Refusal PayloadLowering :=
  match field.logicalType with
  | .int64 => do
    requireNoParameters field
    int64Payload binding.physical
  | .decimal => decimalPayload field binding.physical
  | .boolean => do
    requireNoParameters field
    .ok booleanPayload
  | .string => do
    requireNoParameters field
    stringPayload functions binding.physical
  | .date => do
    requireNoParameters field
    .ok datePayload
  | .timestampLocal => do
    let precision ← timestampPrecision field
    .ok (timestampLocalPayload precision)
  | .timestampInstant => do
    let precision ← timestampPrecision field
    .ok (timestampInstantPayload precision)

/-! ## Scopes -/

/-- `MssqlScopePredicate`. -/
structure MssqlScopePredicate where
  field : FieldSchema
  columnName : String
  canonicalPayload : Bytes
  nonNullable : field.nullable = false
  decodes : ∃ value, decodePayload field canonicalPayload = .ok value

/-- `_scope_filter`: whether the predicate is true of a row. -/
def scopeFilter (functions : MssqlTextFunctions) (inspection : MssqlInspectedRelation)
    (scope : Option MssqlScopePredicate) : Except Refusal (List MssqlCell → Bool) :=
  match scope with
  | none => .ok fun _ => true
  | some scope =>
    match inspection.bindings.zipIdx.filter fun (binding, _) =>
        binding.columnName = scope.columnName with
    | [(binding, fieldIndex)] => do
      validatePhysicalMapping scope.field binding.physical fieldIndex
      let payload ← payloadLowering functions scope.field binding
      .ok fun row =>
        let column := row.getD fieldIndex none
        column.isSome && (payload column).isValid &&
          (payload column).payload.any (varbinaryEq · scope.canonicalPayload)
    | matching => .error (loweringError
        ("SQL Server scoped comparison requires the scope column to map exactly once: " ++
          s!"column='{scope.columnName}', matching_fields={matching.length}"))

end ForensicData.SqlServer
