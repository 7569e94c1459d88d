/-
ForensicData.SqlServer.IntegerRanges — fingerprints of integer ranges, direct and staged.

Both builders check the same inputs and join the ranges to the table; the staged
one first captures the joined rows in a table of the columns' own types. A query
is given by what SQL Server makes of it: tables are lists of rows, and the rows
of a temporary table or a join come in any order. The identity columns are
counted where they need space and left out otherwise.
-/
import ForensicData.Canonical.EnvelopeTheorems
import ForensicData.Lib.Relational
import ForensicData.SqlServer.PayloadLowering

namespace ForensicData.SqlServer

open ForensicData.Canonical
open ForensicData.Lib
open Relational

/-! ## Requests -/

/-- `_ROW_HEADER_BYTES`. -/
def rowHeaderBytes : ℕ := 77

/-- `_FIELD_FRAME_BYTES`. -/
def fieldFrameBytes : ℕ := 19

/-- `_MAX_INT64_KEY_ENVELOPE_BYTES`. -/
def maxInt64KeyEnvelopeBytes : ℕ := rowHeaderBytes + fieldFrameBytes + 40

/-- `_MAX_INTEGER_RANGES`. -/
def maxIntegerRanges : ℕ := 524

/-- `_MAX_INTEGER_RANGE_SEGMENT_ID_BYTES`. -/
def maxIntegerRangeSegmentIdBytes : ℕ := 128

structure MssqlIntegerRangeRequest where
  segmentId : String
  lowerInclusive : Int
  upperExclusive : Option Int
  segmentId_noNull : Char.ofNat 0 ∉ segmentId.toList
  lower_int64 : IsInt64 lowerInclusive
  upper_int64 : ∀ upper ∈ upperExclusive, IsInt64 upper
  lower_lt : ∀ upper ∈ upperExclusive, lowerInclusive < upper

/-- `_validate_single_integer_key`: the key field. -/
def validateSingleIntegerKey (schema : CanonicalSchema) (keyFieldIndex : ℕ) :
    Except Refusal FieldSchema :=
  match schema.fields[keyFieldIndex]? with
  | none => .error (loweringError
      "SQL Server integer-key index must identify a logical schema field")
  | some field => do
    refuseIf (field.logicalType ≠ .int64 ∨ field.nullable = true) (loweringError
      "SQL Server integer-range comparison requires one non-null logical INT64 key")
    .ok field

/-- The loop of `_validate_integer_ranges`, after the segments already seen. -/
def validateSegmentIds (seen : List String) :
    List MssqlIntegerRangeRequest → Except Refusal Unit
  | [] => .ok ()
  | item :: ranges => do
    refuseIf (item.segmentId ∈ seen) (loweringError
      s!"SQL Server integer-range segment ID is duplicated: '{item.segmentId}'")
    refuseIf (item.segmentId.toList.all (·.toNat < 128) = false)
      (loweringError "SQL Server integer-range segment ID must be ASCII")
    refuseIf (maxIntegerRangeSegmentIdBytes < item.segmentId.length)
      (loweringError "SQL Server integer-range segment ID exceeds 128 bytes")
    validateSegmentIds (item.segmentId :: seen) ranges

/-- `_validate_integer_ranges`. -/
def validateIntegerRanges (ranges : List MssqlIntegerRangeRequest) : Except Refusal Unit := do
  refuseIf (ranges = []) (loweringError
    "SQL Server integer-range requests must be a non-empty immutable tuple")
  refuseIf (maxIntegerRanges < ranges.length) (loweringError
    ("SQL Server integer-range request count exceeds the safe 2,100-parameter " ++
      s!"batch bound: observed={ranges.length}, maximum={maxIntegerRanges}"))
  validateSegmentIds [] ranges

/-! ## Bounds of the envelopes -/

/-- `_maximum_bounded_payload_bytes`. -/
def maximumBoundedPayloadBytes (field : FieldSchema) (physical : MssqlPhysicalField) :
    Except Refusal ℕ :=
  match field.logicalType with
  | .int64 => .ok 20
  | .decimal =>
    match field.parameters with
    | .decimal parameters => .ok (parameters.precision + 1)
    | _ => .error (loweringError "decimal field requires DecimalParameters")
  | .boolean => .ok 1
  | .string =>
    if physical.maxLength = -1 then .ok maxBoundedVarcharBytes
    else if physical.systemTypeName = "nvarchar" then
      .ok (min (3 * (physical.maxLength / 2)).toNat maxBoundedVarcharBytes)
    else .ok (min (4 * physical.maxLength).toNat maxBoundedVarcharBytes)
  | .date => .ok 10
  | .timestampLocal => do
    let precision ← timestampPrecision field
    .ok (if precision = 0 then 19 else 20 + precision)
  | .timestampInstant => do
    let precision ← timestampPrecision field
    .ok (if precision = 0 then 20 else 21 + precision)

/-- The sum of the bounds of the payloads. -/
def maximumBoundedPayloadSum : List (FieldSchema × MssqlFieldBinding) → Except Refusal ℕ
  | [] => .ok 0
  | (field, binding) :: rest => do
    let first ← maximumBoundedPayloadBytes field binding.physical
    let others ← maximumBoundedPayloadSum rest
    .ok (first + others)

/-- `_maximum_bounded_row_envelope_bytes`. -/
def maximumBoundedRowEnvelopeBytes (schema : CanonicalSchema)
    (bindings : List MssqlFieldBinding) : Except Refusal ℕ := do
  let payloadBytes ← maximumBoundedPayloadSum (schema.fields.zip bindings)
  .ok (rowHeaderBytes + fieldFrameBytes * schema.fields.length + 2 * payloadBytes)

/-! ## Encoding -/

/-- `_IntegerRangeEncoding`. -/
structure IntegerRangeEncoding where
  rowHeader : List Char
  keyHeader : List Char
  payloads : List (FieldSchema × PayloadLowering)
  keyField : FieldSchema
  keyFieldIndex : ℕ
  keyPayload : PayloadLowering
  effectiveEnvelopeLimit : ℕ
  boundedEnvelopeBytes : ℕ
  fixedBytes : ℕ

/-- The payload expressions of the fields. -/
def payloadLowerings (functions : MssqlTextFunctions) :
    List (FieldSchema × MssqlFieldBinding) → Except Refusal (List (FieldSchema × PayloadLowering))
  | [] => .ok []
  | (field, binding) :: rest => do
    let payload ← payloadLowering functions field binding
    let others ← payloadLowerings functions rest
    .ok ((field, payload) :: others)

theorem keySchema_count (keyField : FieldSchema) : [keyField].length ≤ uint32Max := by
  simp [uint32Max]

/-- The schema of the key. -/
def keySchema (keyField : FieldSchema) : CanonicalSchema where
  protocol := protocolName
  fields := [keyField]
  protocol_eq := rfl
  count_le := keySchema_count keyField

/-- `_integer_range_encoding`, which `_integer_range_source` repeats. -/
def integerRangeEncoding (sha256 : Sha256) (functions : MssqlTextFunctions)
    (schema : CanonicalSchema) (inspection : MssqlInspectedRelation) (keyField : FieldSchema)
    (keyFieldIndex maxEncodedEnvelopeBytes : ℕ) : Except Refusal IntegerRangeEncoding := do
  let payloads ← payloadLowerings functions (schema.fields.zip inspection.bindings)
  let maximum ← maximumBoundedRowEnvelopeBytes schema inspection.bindings
  let effectiveEnvelopeLimit := min maxEncodedEnvelopeBytes maxBoundedVarcharBytes
  .ok
    { rowHeader := rowHeader sha256 schema
      keyHeader := keyHeader sha256 (keySchema keyField)
      payloads, keyField, keyFieldIndex
      keyPayload := (payloads.map (·.2)).getD keyFieldIndex fun _ => ⟨false, none⟩
      effectiveEnvelopeLimit
      boundedEnvelopeBytes := min effectiveEnvelopeLimit maximum
      fixedBytes := rowHeaderBytes + fieldFrameBytes * schema.fields.length }

/-! ## Rows -/

/-- A row of the join: a range with a source row, or with NULL in all columns. -/
structure RangeSourceRow where
  segmentId : List Char
  ordinal : ℕ
  hasData : Option Bool
  fields : List MssqlCell

/-- A row of `[dfe_rows]`. -/
structure RangeRow where
  segmentId : List Char
  ordinal : ℕ
  hasData : Bool
  keyEnvelope : Option (List Char)
  rowEnvelope : Option (List Char)
  envelopeBytes : Option ℕ
  invalidRow : Bool
  oversizedRow : Bool

/-- A row of `[#dfe_integer_range_hashes]`. -/
structure RangeHash where
  segmentId : List Char
  ordinal : ℕ
  hasData : Bool
  rowHash : Option Bytes
  invalidRow : Bool
  oversizedRow : Bool
  envelopeBytes : Option ℕ
  keyEnvelopeBytes : Option ℕ

/-- A field with its value and what its payload expression is on it. -/
abbrev LoweredField := FieldSchema × MssqlCell × LoweredPayload

/-- `_payload_clause`: `[dfe_payload]`. -/
def payloadClause (payloads : List (FieldSchema × PayloadLowering)) (cells : List MssqlCell) :
    List LoweredField :=
  (payloads.zip cells).map fun ((field, payload), cell) => (field, cell, payload cell)

/-- `_fields_valid_expression`. -/
def fieldsValid (items : List LoweredField) : Bool :=
  items.all fun (field, cell, payload) =>
    if field.nullable = true then cell.isNone || payload.isValid
    else cell.isSome && payload.isValid

/-- `_payload_bytes_expression`; the sum is NULL when a term is. -/
def payloadBytes : List LoweredField → Option ℕ
  | [] => some 0
  | (_, cell, payload) :: items =>
    (if (cell.isNone || !payload.isValid) = true then some 0
      else payload.payload.map (·.length)).bind fun first =>
        (payloadBytes items).map fun rest => first + rest

/-- The length of a payload and the payload, in lower hexadecimal digits. -/
def hexFrame (tag : List Char) (hexLimit : ℕ) (payload : Bytes) : List Char :=
  concatVarchar (concatVarchar (convertVarchar 3 (tag ++ ['1']))
    (fixedDigits 16 16 payload.length)) (convertVarchar hexLimit (hexText payload))

/-- A frame of `_bounded_frames_expression`. -/
def boundedFrame : LoweredField → Option (List Char)
  | (field, cell, payload) =>
    if cell.isNone = true then
      some (convertVarchar 19 (typeTag field.logicalType ++ '0' :: List.replicate 16 '0'))
    else payload.payload.map (hexFrame (typeTag field.logicalType) maxBoundedVarcharBytes)

/-- A text followed by the frames. -/
def boundedFrames (text : List Char) : List LoweredField → Option (List Char)
  | [] => some text
  | item :: items => (boundedFrame item).bind fun frame => boundedFrames (concatVarchar text frame) items

variable (encoding : IntegerRangeEncoding)

/-- The columns of `[dfe_rows]` of one row of the join. -/
def IntegerRangeEncoding.rangeRow (row : RangeSourceRow) : RangeRow :=
  let items := payloadClause encoding.payloads row.fields
  let invalidRow := row.hasData.isSome && !fieldsValid items
  let envelopeBytes := (payloadBytes items).map fun bytes => encoding.fixedBytes + 2 * bytes
  let exceeds := envelopeBytes.any fun bytes => decide (encoding.effectiveEnvelopeLimit < bytes)
  let keyColumn := row.fields.getD encoding.keyFieldIndex none
  { segmentId := row.segmentId
    ordinal := row.ordinal
    hasData := row.hasData.isSome
    envelopeBytes, invalidRow
    rowEnvelope := if (row.hasData.isNone || invalidRow || exceeds) = true then none
      else (boundedFrames (convertVarchar rowHeaderBytes encoding.rowHeader) items).map
        (convertVarchar encoding.boundedEnvelopeBytes)
    oversizedRow := row.hasData.isSome && !invalidRow && exceeds
    keyEnvelope := if row.hasData.isNone = true then none
      else (encoding.keyPayload keyColumn).payload.map fun payload =>
        convertVarchar maxInt64KeyEnvelopeBytes
          (concatVarchar (convertVarchar rowHeaderBytes encoding.keyHeader)
            (hexFrame (typeTag encoding.keyField.logicalType) 40 payload)) }

/-- The row of the hash table. -/
def IntegerRangeEncoding.rangeHash (sha256 : Sha256) (row : RangeSourceRow) : RangeHash :=
  let row := encoding.rangeRow row
  { segmentId := row.segmentId
    ordinal := row.ordinal
    hasData := row.hasData
    rowHash := row.rowEnvelope.map fun envelope =>
      sha256.digest (convertVarbinary encoding.boundedEnvelopeBytes (asciiBytes envelope))
    invalidRow := row.invalidRow
    oversizedRow := row.oversizedRow
    envelopeBytes := row.envelopeBytes
    keyEnvelopeBytes := row.keyEnvelope.map (·.length) }

/-! ## Fingerprints -/

structure RangeFingerprint where
  hasData : Bool
  segmentId : Bytes
  validRowCount : ℕ
  limbs : List ℕ
  invalidRowCount : ℕ
  oversizedRowCount : ℕ
  rowEnvelopeBytes : ℕ
  keyEnvelopeBytes : ℕ
  deriving DecidableEq, Repr

/-- `_limb_sum_expression`: a row without a hash adds nothing. -/
def limbSum (index : ℕ) (rows : List RangeHash) : ℕ :=
  (rows.map fun row =>
    match row.rowHash with
    | none => 0
    | some hash => fromBytesBig ((hash.drop (index * 4)).take 4)).sum

/-- The group of a range in the hash table. -/
def RangeHash.key (row : RangeHash) : ℕ × List Char := (row.ordinal, row.segmentId)

/-- The aggregates of one group. -/
def rangeFingerprint (maximumSegmentIdBytes : ℕ) (hashes : List RangeHash)
    (key : ℕ × List Char) : RangeFingerprint :=
  let rows := hashes.filter fun row => row.key = key
  let valid := rows.filter fun row => row.rowHash.isSome
  { hasData := rows.any (·.hasData)
    segmentId := convertVarbinary maximumSegmentIdBytes (asciiBytes key.2)
    validRowCount := valid.length
    limbs := (List.range 8).map fun index => limbSum index rows
    invalidRowCount := rows.countP fun row => row.hasData && row.invalidRow
    oversizedRowCount := rows.countP fun row => row.hasData && row.oversizedRow
    rowEnvelopeBytes := (valid.map fun row => row.envelopeBytes.getD 0).sum
    keyEnvelopeBytes := (valid.map fun row => row.keyEnvelopeBytes.getD 0).sum }

/-- The groups, ordered by their ordinals. -/
def rangeFingerprints (maximumSegmentIdBytes : ℕ) (hashes : List RangeHash) :
    List RangeFingerprint :=
  (groupKeys (fun a b => decide (a.1 ≤ b.1)) (hashes.map RangeHash.key)).map
    (rangeFingerprint maximumSegmentIdBytes hashes)

/-! ## Queries -/

/-- The fingerprint query: direct, or staged over a captured table. -/
structure RangeFingerprintQuery where
  staged : Bool
  inspection : MssqlInspectedRelation
  encoding : IntegerRangeEncoding
  scopeFilter : List MssqlCell → Bool
  ranges : List MssqlIntegerRangeRequest

/-- The parts that both builders check and lower. -/
def buildQuery (sha256 : Sha256) (functions : MssqlTextFunctions) (schema : CanonicalSchema)
    (inspection : MssqlInspectedRelation) (keyFieldIndex : ℕ) (scope : Option MssqlScopePredicate)
    (ranges : List MssqlIntegerRangeRequest) (maxEncodedEnvelopeBytes : ℕ) (staged : Bool) :
    Except Refusal RangeFingerprintQuery := do
  validateCanonicalInputs schema inspection maxEncodedEnvelopeBytes
  let keyField ← validateSingleIntegerKey schema keyFieldIndex
  validateIntegerRanges ranges
  let encoding ← integerRangeEncoding sha256 functions schema inspection keyField keyFieldIndex
    maxEncodedEnvelopeBytes
  let filter ← scopeFilter functions inspection scope
  .ok { staged, inspection, encoding, scopeFilter := filter, ranges }

/-- `_build_mssql_integer_range_fingerprint_query`. -/
def buildMssqlIntegerRangeFingerprintQuery (sha256 : Sha256) (functions : MssqlTextFunctions)
    (schema : CanonicalSchema) (inspection : MssqlInspectedRelation) (keyFieldIndex : ℕ)
    (scope : Option MssqlScopePredicate) (ranges : List MssqlIntegerRangeRequest)
    (maxEncodedEnvelopeBytes : ℕ) : Except Refusal RangeFingerprintQuery :=
  buildQuery sha256 functions schema inspection keyFieldIndex scope ranges
    maxEncodedEnvelopeBytes false

/-- `_build_mssql_materialized_integer_range_fingerprint_query`. -/
def buildMssqlMaterializedIntegerRangeFingerprintQuery (sha256 : Sha256)
    (functions : MssqlTextFunctions) (schema : CanonicalSchema)
    (inspection : MssqlInspectedRelation) (keyFieldIndex : ℕ) (scope : Option MssqlScopePredicate)
    (ranges : List MssqlIntegerRangeRequest) (maxEncodedEnvelopeBytes : ℕ) :
    Except Refusal RangeFingerprintQuery :=
  buildQuery sha256 functions schema inspection keyFieldIndex scope ranges
    maxEncodedEnvelopeBytes true

/-! ## Staging -/

/-- `_INTEGER_RANGE_RAW_FIXED_COLUMNS`. -/
def integerRangeRawFixedColumns : ℕ := 6

/-- `_INTEGER_RANGE_RAW_RECORD_METADATA_BYTES`. -/
def integerRangeRawRecordMetadataBytes : ℕ := 24

/-- `_MAX_INTEGER_RANGE_RAW_ROW_BYTES`. -/
def maxIntegerRangeRawRowBytes : ℕ := 8000

/-- `_MAX_INTEGER_RANGE_STAGED_FIELDS`. -/
def maxIntegerRangeStagedFields : ℕ :=
  (maxCompiledRelationMembers - integerRangeRawFixedColumns) / 2

/-- `_supports_fixed_width_integer_range_staging`. -/
def supportsFixedWidthIntegerRangeStaging (schema : CanonicalSchema)
    (inspection : MssqlInspectedRelation) : Bool :=
  let fields := schema.fields.zip inspection.bindings
  let rawColumnCount := 2 * fields.length + integerRangeRawFixedColumns
  let rawRecordBytes : Int := (fields.map fun (_, binding) => binding.physical.maxLength).sum +
    (4 * (fields.length + 4) + 1 + maxIntegerRangeSegmentIdBytes +
      integerRangeRawRecordMetadataBytes + (rawColumnCount + 7) / 8 : ℕ)
  decide (fields.length ≤ maxIntegerRangeStagedFields) &&
    decide (rawRecordBytes ≤ maxIntegerRangeRawRowBytes) &&
    fields.all fun (field, binding) =>
      decide (field.logicalType ≠ .string) && decide (binding.physical.maxLength ≠ -1)

/-- `build_mssql_integer_range_fingerprint_query`. -/
def chooseIntegerRangeFingerprintQuery (sha256 : Sha256) (functions : MssqlTextFunctions)
    (schema : CanonicalSchema) (inspection : MssqlInspectedRelation) (keyFieldIndex : ℕ)
    (scope : Option MssqlScopePredicate) (ranges : List MssqlIntegerRangeRequest)
    (maxEncodedEnvelopeBytes : ℕ) : Except Refusal RangeFingerprintQuery := do
  validateCanonicalInputs schema inspection maxEncodedEnvelopeBytes
  let _ ← validateSingleIntegerKey schema keyFieldIndex
  validateIntegerRanges ranges
  if supportsFixedWidthIntegerRangeStaging schema inspection = false then
    buildMssqlIntegerRangeFingerprintQuery sha256 functions schema inspection keyFieldIndex scope
      ranges maxEncodedEnvelopeBytes
  else
    buildMssqlMaterializedIntegerRangeFingerprintQuery sha256 functions schema inspection
      keyFieldIndex scope ranges maxEncodedEnvelopeBytes

/-- The bytes of a column in a record of SQL Server; a `max` column is a pointer. -/
def recordColumnBytes (physical : MssqlPhysicalField) : ℕ :=
  if physical.maxLength = -1 then 24 else physical.maxLength.toNat

/-- A column of variable length. -/
def isVariable (physical : MssqlPhysicalField) : Bool :=
  physical.systemTypeName ∈ ["varchar", "nvarchar"]

/-- The columns of the captured table: the identities, the range, the presence
flag and the fields. -/
def rawColumns (inspection : MssqlInspectedRelation) : ℕ :=
  (3 + inspection.bindings.length) + 3 + inspection.bindings.length

/-- The longest record of the captured table: the row header, the fixed columns,
the column count with the NULL bitmap and the variable columns with their ends. -/
def rawRecordBytes (inspection : MssqlInspectedRelation) : ℕ :=
  4 + (4 * (3 + inspection.bindings.length) + 4 + 1) + 2 + (rawColumns inspection + 7) / 8 +
    (2 + 2 * (1 + (inspection.bindings.filter (isVariable ·.physical)).length)) +
      maxIntegerRangeSegmentIdBytes +
        (inspection.bindings.map fun binding => recordColumnBytes binding.physical).sum

/-- The columns of a table of SQL Server. -/
def maxTableColumns : ℕ := 1024

/-- The bytes of a record of SQL Server. -/
def maxRecordBytes : ℕ := 8060

/-! ## Runs -/

/-- The longest segment ID. -/
def segmentIdCharacters (ranges : List MssqlIntegerRangeRequest) : ℕ :=
  (ranges.map fun item => item.segmentId.length).foldr max 0

namespace RangeFingerprintQuery

variable (query : RangeFingerprintQuery)

/-- The condition of the join. -/
def inRange (range : MssqlIntegerRangeRequest) (row : List MssqlCell) : Bool :=
  let keyColumn := row.getD query.encoding.keyFieldIndex none
  query.scopeFilter row && keyColumn.isSome && (query.encoding.keyPayload keyColumn).isValid &&
    (keyValue keyColumn).any fun key =>
      decide (range.lowerInclusive ≤ key) && range.upperExclusive.all fun upper => decide (key < upper)

/-- `_integer_range_values`: the group of a range. -/
def rangeKey (item : MssqlIntegerRangeRequest × ℕ) : ℕ × List Char :=
  (item.2, convertVarchar (segmentIdCharacters query.ranges) item.1.segmentId.toList)

/-- A row of the left join. -/
def sourceRow : (MssqlIntegerRangeRequest × ℕ) × Option (List MssqlCell) → RangeSourceRow
  | (item, some fields) =>
    { segmentId := (query.rangeKey item).2, ordinal := item.2, hasData := some true, fields }
  | (item, none) =>
    { segmentId := (query.rangeKey item).2, ordinal := item.2, hasData := none
      fields := List.replicate query.inspection.bindings.length none }

/-- The ranges with their rows; nothing when the catalog no longer shows the relation. -/
def joinRows (origin : Bool) (table : List (List MssqlCell)) : List RangeSourceRow :=
  if origin = true then
    (leftJoin (fun (item : MssqlIntegerRangeRequest × ℕ) row => query.inRange item.1 row)
      query.ranges.zipIdx table).map query.sourceRow
  else []

/-- The fields of a row, assigned to the columns of the captured table. -/
def assignFields : List MssqlFieldBinding → List MssqlCell → Except MssqlError (List MssqlCell)
  | binding :: bindings, cell :: cells => do
    let stored ← binding.physical.assignCell cell
    let others ← assignFields bindings cells
    .ok (stored :: others)
  | _, _ => .ok []

/-- The rows of a join, stored. -/
def storeRows : List RangeSourceRow → Except MssqlError (List RangeSourceRow)
  | [] => .ok []
  | row :: rows => do
    let fields ← assignFields query.inspection.bindings row.fields
    let others ← storeRows rows
    .ok ({ row with fields } :: others)

/-- `SELECT ... INTO [#dfe_integer_range_raw]`. -/
def capture (origin : Bool) (table : List (List MssqlCell)) :
    Except MssqlError (List RangeSourceRow) :=
  if maxTableColumns < rawColumns query.inspection then .error .tooManyColumns
  else if maxRecordBytes < rawRecordBytes query.inspection then .error .recordTooLong
  else query.storeRows (query.joinRows origin table)

/-- The rows the fingerprints are computed from. -/
def sourceRows (origin : Bool) (table : List (List MssqlCell)) :
    Except MssqlError (List RangeSourceRow) :=
  if segmentIdCharacters query.ranges = 0 then .error .invalidLength
  else if query.staged = true then query.capture origin table
  else .ok (query.joinRows origin table)

/-- The query may return the outcome: rows come and are kept in any order. -/
def Returns (sha256 : Sha256) (origin : Bool) (table : List (List MssqlCell))
    (outcome : Except MssqlError (List RangeFingerprint)) : Prop :=
  match query.sourceRows origin table with
  | .error error => outcome = .error error
  | .ok rows => ∃ kept hashes, List.Perm kept rows ∧
      hashes.Perm (kept.map (query.encoding.rangeHash sha256)) ∧
        outcome = .ok (rangeFingerprints (segmentIdCharacters query.ranges) hashes)

end RangeFingerprintQuery

end ForensicData.SqlServer
