/-
ForensicData.Comparison.RowDecoding — the exact rows a connector accepts.

A connector hands the coordinator rows it decoded from what the engine sent:
tuples of database values from PostgreSQL, records of byte fields from
ClickHouse. Both decoders find the requested range of a row, decode its two
canonical envelopes, and refuse keys that leave the range or do not follow the
rows before them. They differ in the values they read, in the order of their
checks and in what they say; the loop over the rows is one (`decodeLoop`).
-/
import ForensicData.Canonical.Codec
import ForensicData.Comparison.Connectors

namespace ForensicData.Comparison

open ForensicData.Canonical

/-! ## Requested ranges -/

/-- The loop of `_validate_integer_ranges` after its first range. `refuse` builds
the exception of the query builder. -/
def validateRangesAfter (refuse : String → Refusal) (duplicated unbounded disordered : String)
    (seenIds : List String) (previousUpper : Option Int) : List RangeRequest → Except Refusal Unit
  | [] => .ok ()
  | item :: ranges => do
    refuseIf (item.segmentId ∈ seenIds) (refuse duplicated)
    refuseIf (previousUpper = none) (refuse unbounded)
    refuseIf (previousUpper.any fun upper => decide (item.lowerInclusive < upper))
      (refuse disordered)
    validateRangesAfter refuse duplicated unbounded disordered (item.segmentId :: seenIds)
      item.upperExclusive ranges

/-- The checks of a query builder on its ranges. -/
def validateRanges (refuse : String → Refusal) (empty duplicated unbounded disordered : String) :
    List RangeRequest → Except Refusal Unit
  | [] => .error (refuse empty)
  | item :: ranges =>
    validateRangesAfter refuse duplicated unbounded disordered [item.segmentId]
      item.upperExclusive ranges

/-- `_validate_integer_ranges` of the PostgreSQL query builder. -/
def validateIntegerRanges : List RangeRequest → Except Refusal Unit :=
  validateRanges (fun message => { error := .postgresLoweringError, message })
    "PostgreSQL integer-range requests must be a non-empty immutable tuple"
    "PostgreSQL integer-range segment IDs must be unique within a query"
    "PostgreSQL unbounded integer range must be last"
    "PostgreSQL integer ranges must be ordered and disjoint"

/-- `_validate_ranges` of the ClickHouse query builder. -/
def validateClickHouseRanges : List RangeRequest → Except Refusal Unit :=
  validateRanges (fun message => { error := .valueError, message })
    "ClickHouse integer ranges must be a non-empty immutable tuple"
    "ClickHouse integer range segment IDs must be unique"
    "ClickHouse unbounded integer range must be last"
    "ClickHouse integer ranges must be ordered and disjoint"

/-- `ordinals.get(segment_id)`, with the range at that ordinal: the dictionary
keeps the last range of an identifier. -/
def requestedRange (ranges : List RangeRequest) (segmentId : String) :
    Option (RangeRequest × ℕ) :=
  ranges.zipIdx.reverse.find? fun item => decide (item.1.segmentId = segmentId)

/-! ## The loop -/

/-- `PostgresReadDeadline`, with the readings of the clock while a batch is
decoded. -/
structure ReadDeadline where
  deadlineNanoseconds : Int
  monotonicNanoseconds : ℕ → Int

/-- `previous_ordinal` and `previous_key`. -/
structure RowCursor where
  previousOrdinal : Int
  previousKey : Option Int
  deriving DecidableEq, Repr

def RowCursor.start : RowCursor := { previousOrdinal := -1, previousKey := none }

/-- The row follows the last one of its own range. -/
def RowCursor.repeats (cursor : RowCursor) (ordinal : ℕ) (keyValue : Int) : Bool :=
  decide ((ordinal : Int) = cursor.previousOrdinal) &&
    cursor.previousKey.any fun previous => decide (keyValue ≤ previous)

/-- The deadline check of the loop: every 64 rows. -/
def checkDeadlineEvery (requireDeadline : ℕ → Except Refusal Unit) (index : ℕ) :
    Except Refusal Unit :=
  if index % 64 = 0 then requireDeadline index else .ok ()

/-- One round for each raw row: the deadline check, the row, the cursor. A row
without data leaves the cursor where it is. -/
def decodeLoop {Raw : Type} (requireDeadline : ℕ → Except Refusal Unit)
    (decode : RowCursor → Raw → Except Refusal (Option (ℕ × ExactRow))) :
    ℕ → RowCursor → List Raw → Except Refusal (List ExactRow)
  | index, _, [] => do
    requireDeadline index
    .ok []
  | index, cursor, raw :: rest => do
    checkDeadlineEvery requireDeadline index
    let found ← decode cursor raw
    match found with
    | none => decodeLoop requireDeadline decode (index + 1) cursor rest
    | some (ordinal, row) => do
      let rows ← decodeLoop requireDeadline decode (index + 1)
        { previousOrdinal := ordinal, previousKey := some row.keyValue } rest
      .ok (row :: rows)

/-! ## Envelopes -/

variable (sha256 : Sha256)

/-- The schema of the key field alone. -/
def keySchema (schema : CanonicalSchema) (field : FieldSchema) : CanonicalSchema where
  protocol := schema.protocol
  fields := [field]
  protocol_eq := schema.protocol_eq
  count_le := by simp [uint32Max]

/-- `type(error).__name__` of the errors of canonical decoding. -/
def canonicalizationName : ErrorClass → String
  | .schemaValidationError => "SchemaValidationError"
  | .payloadValidationError => "PayloadValidationError"
  | .frameValidationError => "FrameValidationError"
  | .nullKeyError => "NullKeyError"
  | .fingerprintOverflowError => "FingerprintOverflowError"
  | _ => "CanonicalizationError"

/-- The key and the row envelope, decoded under `except CanonicalizationError`. -/
def decodeEnvelopes (schema : CanonicalSchema) (field : FieldSchema)
    (undecodable : String → Refusal) (keyEnvelope rowEnvelope : Bytes) :
    Except Refusal (List DecodedValue × List (Option DecodedValue)) :=
  let decoded := do
    let keyValues ← decodeKey sha256 (keySchema schema field) keyEnvelope
    let rowValues ← decodeRow sha256 schema rowEnvelope
    .ok (keyValues, rowValues)
  match decoded with
  | .ok values => .ok values
  | .error refusal =>
    .error (if refusal.error.isInstance .canonicalizationError then
        undecodable (canonicalizationName refusal.error)
      else refusal)

/-- `key_values[0]` and `row_values[key_field_index]`, when both are integers. -/
def decodedKeys (keyFieldIndex : ℕ) (notInteger : Refusal) (keyValues : List DecodedValue)
    (rowValues : List (Option DecodedValue)) : Except Refusal (Int × Int) :=
  match keyValues.head?, rowValues[keyFieldIndex]? with
  | some (.integer keyValue), some (some (.integer rowKeyValue)) => .ok (keyValue, rowKeyValue)
  | _, _ => .error notInteger

/-- `PostgresIntegerExactRow(...)`. -/
def ExactRow.make (segmentId : String) (keyValue : Int) (keyEnvelope rowEnvelope : Bytes)
    (values : List (Option DecodedValue)) : Except Refusal ExactRow :=
  if segmentId = "" then
    .error ⟨.postgresDataValidationError,
      "PostgreSQL field 'segment_id' must be a non-empty string"⟩
  else if key_int64 : IsInt64 keyValue then
    .ok { segmentId, keyValue, keyEnvelope, rowEnvelope, values, key_int64 }
  else
    .error ⟨.postgresDataValidationError,
      s!"PostgreSQL field 'key_value' is outside its accepted range: minimum={int64Min}, maximum={int64Max}"⟩

/-- `repr` of an upper bound. -/
def upperText : Option Int → String
  | none => "None"
  | some upper => toString upper

/-! ## PostgreSQL -/

namespace Postgres

/-- A value of a database row: `None`, `bool`, `int`, `str` or anything else. -/
inductive DatabaseValue where
  | null
  | boolean (value : Bool)
  | integer (value : Int)
  | text (value : String)
  | other
  deriving DecidableEq, Repr

abbrev DatabaseRow := List DatabaseValue

/-- What `PostgresQuery` holds of the compiled query: the row types of its
relations, its context's schema and its envelope limit. -/
structure PostgresQuery where
  rowTypeOids : List ℕ
  schema : CanonicalSchema
  maxEncodedEnvelopeBytes : ℕ

def dataValidation (message : String) : Refusal :=
  { error := .postgresDataValidationError, message }

def resultLimit (message : String) : Refusal := { error := .postgresResultLimitError, message }

def requireText (fieldName : String) : DatabaseValue → Except Refusal String
  | .text value =>
    if value = "" then
      .error (dataValidation s!"PostgreSQL field '{fieldName}' must be a non-empty string")
    else .ok value
  | _ => .error (dataValidation s!"PostgreSQL field '{fieldName}' must be a non-empty string")

def requireBoolean (fieldName : String) : DatabaseValue → Except Refusal Bool
  | .boolean value => .ok value
  | _ => .error (dataValidation s!"PostgreSQL field '{fieldName}' must be a boolean")

def requireBoundedInteger (fieldName : String) (minimum maximum : Int) :
    DatabaseValue → Except Refusal Int
  | .integer value =>
    if minimum ≤ value ∧ value ≤ maximum then .ok value
    else
      .error (dataValidation
        s!"PostgreSQL field '{fieldName}' is outside its accepted range: minimum={minimum}, maximum={maximum}")
  | _ => .error (dataValidation s!"PostgreSQL field '{fieldName}' must be an integer")

/-- One provenance value of a row: a null, or the row type of its relation. -/
def requireProvenance (operation : String) (index expectedRowTypeOid : ℕ) :
    DatabaseValue → Except Refusal Unit
  | .null => .ok ()
  | value => do
    let observed ← requireBoundedInteger
      s!"{operation} provenance row type OID at index {index}" 1 uint32Max value
    refuseIf (observed ≠ expectedRowTypeOid)
      ⟨.postgresMetadataError,
        s!"PostgreSQL {operation} query resolved a member to a different relation identity through its actual RTE: index={index}, expected_row_type_oid={expectedRowTypeOid}, observed_row_type_oid={observed}"⟩

/-- `_compiled_query_payload`. -/
def compiledQueryPayload (row : DatabaseRow) (query : PostgresQuery) (expectedPayloadFields : ℕ)
    (operation : String) : Except Refusal DatabaseRow := do
  let provenanceFields := query.rowTypeOids.length
  refuseIf (row.length ≠ provenanceFields + expectedPayloadFields)
    (dataValidation
      s!"PostgreSQL {operation} query returned an unexpected field count: expected={provenanceFields + expectedPayloadFields}, actual={row.length}, provenance_fields={provenanceFields}")
  ((row.zip query.rowTypeOids).zipIdx).forM fun item =>
    requireProvenance operation item.2 item.1.2 item.1.1
  .ok (row.drop provenanceFields)

/-- `_ascii_envelope`. -/
def asciiEnvelope (context : String) (value : DatabaseValue) : Except Refusal Bytes := do
  let text ← requireText context value
  refuseIf (text.toList.any fun c => !decide (c.toNat < 128))
    (dataValidation s!"PostgreSQL {context} contains non-ASCII bytes")
  .ok (asciiBytes text.toList)

/-- `_require_postgres_read_deadline`; the clock is read before round `index`. -/
def requirePostgresReadDeadline (deadline : ReadDeadline) (index : ℕ) : Except Refusal Unit :=
  refuseIf ((deadline.deadlineNanoseconds - deadline.monotonicNanoseconds index) / 1000000 < 1)
    ⟨.postgresReadDeadlineExceededError,
      "PostgreSQL deadline-bounded read exhausted its absolute monotonic deadline: operation='exact-row decoding'"⟩

variable (ranges : List RangeRequest) (keyFieldIndex : ℕ) (query : PostgresQuery)
  (field : FieldSchema) (cursor : RowCursor)

/-- The status flags of a row. -/
def requireStatus (invalid oversized : DatabaseValue) : Except Refusal Unit := do
  let invalidRow ← requireBoolean "exact invalid-row status" invalid
  let oversizedRow ← requireBoolean "exact oversized-row status" oversized
  refuseIf (invalidRow = true ∧ oversizedRow = true)
    (dataValidation "PostgreSQL exact comparison row statuses must be mutually exclusive")
  refuseIf (invalidRow = true)
    (dataValidation
      "PostgreSQL exact comparison found a row that cannot be represented losslessly")
  refuseIf (oversizedRow = true)
    (resultLimit
      s!"PostgreSQL exact comparison found a canonical envelope above the configured limit: max_encoded_envelope_bytes={query.maxEncodedEnvelopeBytes}")

/-- A row with data, from its envelopes on; `requested` is the range at
`ordinal`. -/
def rowOfEnvelopes (segmentId : String) (requested : RangeRequest) (ordinal : ℕ)
    (key row : DatabaseValue) : Except Refusal (Option (ℕ × ExactRow)) := do
  let keyEnvelope ← asciiEnvelope "exact canonical key envelope" key
  let rowEnvelope ← asciiEnvelope "exact canonical row envelope" row
  refuseIf (query.maxEncodedEnvelopeBytes < rowEnvelope.length)
    (resultLimit
      s!"PostgreSQL exact comparison row envelope exceeds the configured limit: observed_bytes={rowEnvelope.length}, max_encoded_envelope_bytes={query.maxEncodedEnvelopeBytes}")
  let values ← decodeEnvelopes sha256 query.schema field
    (fun name => dataValidation
      s!"PostgreSQL exact comparison envelope failed reference decoding: reason_type={name}")
    keyEnvelope rowEnvelope
  let keys ← decodedKeys keyFieldIndex
    (dataValidation "PostgreSQL exact comparison key envelope is not logical INT64")
    values.1 values.2
  refuseIf (keys.1 ≠ keys.2)
    (dataValidation "PostgreSQL exact comparison key and row envelopes disagree")
  refuseIf (requested.covers keys.1 = false)
    (dataValidation
      s!"PostgreSQL exact comparison key falls outside its requested range: segment_id='{segmentId}', key_value={keys.1}, lower_inclusive={requested.lowerInclusive}, upper_exclusive={upperText requested.upperExclusive}")
  refuseIf (cursor.repeats ordinal keys.1)
    (dataValidation
      "PostgreSQL exact comparison keys must be strictly increasing within a segment")
  let exactRow ← ExactRow.make segmentId keys.1 keyEnvelope rowEnvelope values.2
  .ok (some (ordinal, exactRow))

/-- A row whose segment identifier was requested. -/
def rowOfSegment (segmentId : String) (key row invalid oversized : DatabaseValue) :
    Option (RangeRequest × ℕ) → Except Refusal (Option (ℕ × ExactRow))
  | none =>
    .error (dataValidation "PostgreSQL exact comparison returned an unrequested segment ID")
  | some (requested, ordinal) => do
    refuseIf ((ordinal : Int) < cursor.previousOrdinal)
      (dataValidation "PostgreSQL exact comparison rows do not follow requested segment order")
    requireStatus query invalid oversized
    rowOfEnvelopes sha256 keyFieldIndex query field cursor segmentId requested ordinal key row

/-- A row behind its data marker. -/
def rowOfData (hasData : Bool) (segment key row invalid oversized : DatabaseValue) :
    Except Refusal (Option (ℕ × ExactRow)) :=
  if hasData = false then .ok none
  else do
    let segmentId ← requireText "exact comparison segment_id" segment
    rowOfSegment sha256 keyFieldIndex query field cursor segmentId key row invalid oversized
      (requestedRange ranges segmentId)

/-- The six payload fields of a row. -/
def rowOfPayload : DatabaseRow → Except Refusal (Option (ℕ × ExactRow))
  | [marker, segment, key, row, invalid, oversized] => do
    let hasData ← requireBoolean "exact comparison data marker" marker
    rowOfData sha256 ranges keyFieldIndex query field cursor hasData segment key row invalid
      oversized
  | _ => .error ⟨.indexError, "tuple index out of range"⟩

/-- One round of `_integer_exact_rows_from_database`. -/
def rowFromDatabase (row : DatabaseRow) : Except Refusal (Option (ℕ × ExactRow)) := do
  let payload ← compiledQueryPayload row query 6 "exact comparison"
  rowOfPayload sha256 ranges keyFieldIndex query field cursor payload

/-- `_integer_exact_rows_from_database`. -/
def integerExactRowsFromDatabase (rows : List DatabaseRow) (deadline : ReadDeadline) :
    Except Refusal (List ExactRow) :=
  match query.schema.fields[keyFieldIndex]? with
  | none =>
    .error (dataValidation "PostgreSQL exact-row key field index does not identify a schema field")
  | some field =>
    decodeLoop (requirePostgresReadDeadline deadline)
      (rowFromDatabase sha256 ranges keyFieldIndex query field) 0 .start rows

end Postgres

/-! ## ClickHouse -/

namespace ClickHouse

/-- The five fields of a record of the exact-row read. -/
structure ExactRecord where
  segmentId : Bytes
  keyEnvelope : Bytes
  rowEnvelope : Bytes
  invalid : Bytes
  oversized : Bytes
  deriving DecidableEq, Repr

def dataValidation (message : String) : Refusal :=
  { error := .clickHouseDataValidationError, message }

def resultLimit (message : String) : Refusal := { error := .clickHouseResultLimitError, message }

/-- `_ascii_text`. -/
def asciiTextField (label : String) (value : Bytes) : Except Refusal String :=
  match asciiText value with
  | none => .error (dataValidation s!"ClickHouse {label} must be ASCII")
  | some text => do
    refuseIf (Char.ofNat 0 ∈ text) (dataValidation s!"ClickHouse {label} must not contain U+0000")
    .ok (String.ofList text)

/-- `_ascii_bytes`. -/
def asciiBytesField (label : String) (value : Bytes) : Except Refusal Bytes := do
  let _ ← asciiTextField label value
  .ok value

/-- `_parse_flag`. -/
def parseFlag (label : String) (value : Bytes) : Except Refusal Bool :=
  if value = asciiBytes ['0'] then .ok false
  else if value = asciiBytes ['1'] then .ok true
  else .error (dataValidation s!"ClickHouse {label} must be exactly 0 or 1")

/-- `_require_deadline_only`. -/
def requireDeadlineOnly (deadline : ReadDeadline) (index : ℕ) : Except Refusal Unit :=
  refuseIf (deadline.deadlineNanoseconds ≤ deadline.monotonicNanoseconds index)
    ⟨.postgresReadDeadlineExceededError,
      "ClickHouse exact-row decoding exceeded the immutable source deadline"⟩

variable (ranges : List RangeRequest) (keyFieldIndex : ℕ) (schema : CanonicalSchema)
  (maxEncodedEnvelopeBytes : ℕ) (field : FieldSchema) (cursor : RowCursor)

/-- The status flags of a record. -/
def requireStatus (record : ExactRecord) : Except Refusal Unit := do
  let invalid ← parseFlag "exact-row invalid status" record.invalid
  let oversized ← parseFlag "exact-row oversized status" record.oversized
  refuseIf (invalid = true ∧ oversized = true)
    (dataValidation "ClickHouse exact-row statuses must be mutually exclusive")
  refuseIf (invalid = true)
    (dataValidation "ClickHouse exact read found a row outside the canonical contract")
  refuseIf (oversized = true)
    (resultLimit
      s!"ClickHouse exact read found an oversized canonical row: max_encoded_envelope_bytes={maxEncodedEnvelopeBytes}")

/-- A record whose segment identifier was requested; the order of the ranges is
checked last. -/
def rowOfSegment (segmentId : String) (record : ExactRecord) :
    Option (RangeRequest × ℕ) → Except Refusal (Option (ℕ × ExactRow))
  | none => .error (dataValidation "ClickHouse exact row returned an unrequested segment ID")
  | some (requested, ordinal) => do
    requireStatus maxEncodedEnvelopeBytes record
    let keyEnvelope ← asciiBytesField "exact key envelope" record.keyEnvelope
    let rowEnvelope ← asciiBytesField "exact row envelope" record.rowEnvelope
    refuseIf (maxEncodedEnvelopeBytes < rowEnvelope.length)
      (resultLimit
        s!"ClickHouse exact row exceeds the canonical envelope limit: observed_bytes={rowEnvelope.length}, maximum={maxEncodedEnvelopeBytes}")
    let values ← decodeEnvelopes sha256 schema field
      (fun name => dataValidation
        s!"ClickHouse exact row failed canonical reference decoding: reason_type={name}")
      keyEnvelope rowEnvelope
    let keys ← decodedKeys keyFieldIndex
      (dataValidation "ClickHouse exact comparison key is not logical INT64") values.1 values.2
    refuseIf (keys.1 ≠ keys.2) (dataValidation "ClickHouse exact key and row envelopes disagree")
    refuseIf (requested.covers keys.1 = false)
      (dataValidation "ClickHouse exact key falls outside its requested segment")
    refuseIf ((ordinal : Int) < cursor.previousOrdinal ∨ cursor.repeats ordinal keys.1 = true)
      (dataValidation "ClickHouse exact rows are not strictly ordered by segment and key")
    let exactRow ← ExactRow.make segmentId keys.1 keyEnvelope rowEnvelope values.2
    .ok (some (ordinal, exactRow))

/-- One round of `_parse_exact_rows`. -/
def rowFromRecord (record : ExactRecord) : Except Refusal (Option (ℕ × ExactRow)) := do
  let segmentId ← asciiTextField "exact-row segment ID" record.segmentId
  rowOfSegment sha256 keyFieldIndex schema maxEncodedEnvelopeBytes field cursor segmentId record
    (requestedRange ranges segmentId)

/-- `_parse_exact_rows`. -/
def parseExactRows (records : List ExactRecord) (deadline : ReadDeadline) :
    Except Refusal (List ExactRow) :=
  match schema.fields[keyFieldIndex]? with
  | none => .error (dataValidation "ClickHouse exact-row key index is invalid")
  | some field =>
    decodeLoop (requireDeadlineOnly deadline)
      (rowFromRecord sha256 ranges keyFieldIndex schema maxEncodedEnvelopeBytes field) 0 .start
      records

end ClickHouse

end ForensicData.Comparison
