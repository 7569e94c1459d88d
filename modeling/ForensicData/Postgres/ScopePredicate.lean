/-
ForensicData.Postgres.ScopePredicate — the SQL predicate of a scope parameter.

`_scope_filter` builds a condition on the scope column from the field and the
canonical payload of the parameter. What it builds is given by what PostgreSQL
makes of it: a condition is a function of the column's value. Numbers compare
exactly; a timestamp literal is rounded to microseconds, by a rounding the model
is given. The payload expressions of the types that compare natively are left
out, as the filter does not use them.
-/
import ForensicData.Canonical.FieldTheorems
import ForensicData.Errors
import ForensicData.Lib.ProlepticYear
import ForensicData.Lib.ThreeValued

namespace ForensicData.Postgres

open ForensicData.Canonical
open ForensicData.Lib

/-! ## Values -/

/-- A `numeric`: its unscaled number with the digits after the point, or one of
the special values. -/
inductive PgNumeric where
  | negInfinity
  | finite (unscaled : Int) (scale : ℕ)
  | posInfinity
  | notANumber
  deriving DecidableEq, Repr

/-- A place on a line with both infinities: days as `Date.toOrdinal` numbers
them, or the microseconds from the same midnight on. -/
inductive PgTime where
  | negInfinity
  | finite (place : Int)
  | posInfinity
  deriving DecidableEq, Repr

/-- A text; PostgreSQL stores no NUL character. -/
structure PgText where
  text : String
  noNull : Char.ofNat 0 ∉ text.toList

inductive PgValue where
  | integer (value : Int)
  | numeric (value : PgNumeric)
  | boolean (value : Bool)
  | text (value : PgText)
  | date (days : PgTime)
  | timestamp (micros : PgTime)
  | timestamptz (micros : PgTime)

/-- A column's value; `none` is NULL. -/
abbrev PgColumn := Option PgValue

/-! ## Numbers -/

namespace PgNumeric

/-- The order of the kinds: `-Infinity`, the numbers, `Infinity` and `NaN`. -/
def kind : PgNumeric → ℕ
  | .negInfinity => 0
  | .finite _ _ => 1
  | .posInfinity => 2
  | .notANumber => 3

def value : PgNumeric → ℚ
  | .finite unscaled scale => unscaled / 10 ^ scale
  | _ => 0

def eq (a b : PgNumeric) : Bool := a.kind == b.kind && decide (a.value = b.value)

def lt (a b : PgNumeric) : Bool :=
  decide (a.kind < b.kind) || (a.kind == b.kind && decide (a.value < b.value))

/-- `value BETWEEN minimum AND maximum`. -/
def between (minimum maximum value : PgNumeric) : Bool := !(value.lt minimum) && !(maximum.lt value)

/-- The product with a positive whole number. -/
def scaleBy (factor : ℕ) : PgNumeric → PgNumeric
  | .finite unscaled scale => .finite (unscaled * factor) scale
  | special => special

/-- `trunc(value)`. -/
def trunc : PgNumeric → PgNumeric
  | .finite unscaled scale => .finite (unscaled.tdiv (10 ^ scale)) 0
  | special => special

end PgNumeric

/-- `(column)::numeric` of a numeric column. -/
def castNumeric : PgColumn → Option PgNumeric
  | some (.integer value) => some (.finite value 0)
  | some (.numeric value) => some value
  | _ => none

/-! ## Times -/

/-- `value BETWEEN minimum AND maximum` of a year. -/
def PgTime.between (minimum maximum : Int) : PgTime → Bool
  | .finite value => decide (minimum ≤ value ∧ value ≤ maximum)
  | _ => false

/-- `extract(year FROM column)`; an infinity has an infinite year. -/
def extractYear : PgColumn → Option PgTime
  | some (.date (.finite days)) => some (.finite (yearOfDay days))
  | some (.timestamp (.finite micros)) =>
    some (.finite (yearOfDay (micros / Datetime.dayMicros)))
  | some (.date infinite) => some infinite
  | some (.timestamp infinite) => some infinite
  | _ => none

/-- `extract(microseconds FROM column)`: those of the minute; NULL of an infinity. -/
def extractMicroseconds : PgColumn → Option Int
  | some (.timestamp (.finite micros)) => some (micros % 60000000)
  | _ => none

/-- `column AT TIME ZONE 'UTC'`. -/
def atTimeZoneUtc : PgColumn → PgColumn
  | some (.timestamptz micros) => some (.timestamp micros)
  | _ => none

/-- How PostgreSQL rounds the nanoseconds of a literal to microseconds. -/
structure MicrosecondRounding where
  round : Int → Int
  nearest : ∀ nanos, 2 * (round nanos * 1000 - nanos).natAbs ≤ 1000

/-! ## Literals -/

/-- `text::timestamp` of a text the reference reader takes. -/
def timestampLiteral (rounding : MicrosecondRounding) (text : String) : Option Int :=
  (CanonicalInput.text (codePoints text.toList)).asLocalTime.map fun moment =>
    rounding.round moment.nanos

/-- `text::timestamptz` of a text the reference reader takes. -/
def timestamptzLiteral (rounding : MicrosecondRounding) (text : String) : Option Int :=
  (CanonicalInput.text (codePoints text.toList)).asInstant.map rounding.round

/-! ## Physical types -/

structure PostgresTypeIdentity where
  schemaName : String
  typeName : String
  deriving DecidableEq, Repr

/-- The fields of `PostgresPhysicalField` the filter reads. -/
structure PostgresPhysicalField where
  baseType : PostgresTypeIdentity
  isDomain : Bool
  arrayDimensions : ℕ

structure PostgresFieldBinding where
  columnName : String
  physical : PostgresPhysicalField

/-- `_allowed_base_types`. -/
def allowedBaseTypes : LogicalType → List String
  | .int64 => ["int2", "int4", "int8", "numeric"]
  | .decimal => ["int2", "int4", "int8", "numeric"]
  | .boolean => ["bool"]
  | .string => ["text", "varchar"]
  | .date => ["date"]
  | .timestampLocal => ["timestamp"]
  | .timestampInstant => ["timestamptz"]

def loweringError (message : String) : Refusal := { error := .postgresLoweringError, message }

/-- `_validate_physical_mapping`. -/
def validatePhysicalMapping (field : FieldSchema) (physical : PostgresPhysicalField)
    (fieldIndex : ℕ) : Except Refusal Unit :=
  let place := "PostgreSQL field mapping is unsupported: " ++
    s!"field_index={fieldIndex}, logical_type={field.logicalType.value}, "
  let baseType := physical.baseType
  let allowedTypes := allowedBaseTypes field.logicalType
  if physical.isDomain = true then
    .error (loweringError (place ++
      "physical domains are not accepted; map an explicitly projected base value"))
  else if physical.arrayDimensions ≠ 0 then
    .error (loweringError (place ++
      s!"array_dimensions={physical.arrayDimensions}; arrays require an explicit projection"))
  else if baseType.schemaName ≠ "pg_catalog" then
    .error (loweringError (place ++
      "the unwrapped base type is not a pg_catalog built-in type"))
  else if baseType.typeName ∈ allowedTypes then .ok ()
  else if field.logicalType = .string ∧ baseType.typeName = "bpchar" then
    .error (loweringError ("PostgreSQL field mapping is unsupported: " ++
      "logical_type=string, physical_type=pg_catalog.bpchar; " ++
      "blank-padded character values require an explicit projection to text or varchar"))
  else
    .error (loweringError (place ++ s!"physical_type=pg_catalog.{baseType.typeName}, " ++
      "allowed_physical_types=" ++
      ", ".intercalate (allowedTypes.map fun name => "pg_catalog." ++ name)))

/-- The values a column of a base type stores. -/
def Stores : String → PgValue → Prop
  | "int2", .integer value => -2 ^ 15 ≤ value ∧ value < 2 ^ 15
  | "int4", .integer value => -2 ^ 31 ≤ value ∧ value < 2 ^ 31
  | "int8", .integer value => IsInt64 value
  | "numeric", .numeric _ => True
  | "bool", .boolean _ => True
  | "text", .text _ => True
  | "varchar", .text _ => True
  | "date", .date _ => True
  | "timestamp", .timestamp _ => True
  | "timestamptz", .timestamptz _ => True
  | _, _ => False

/-! ## Validity of a value -/

/-- `is_valid` of `_int64_payload`. -/
def int64Valid (column : PgColumn) : Truth :=
  let value := castNumeric column
  let inRange := Truth.test (PgNumeric.between (.finite int64Min 0) (.finite int64Max 0)) value
  Truth.caseWhen inRange (Truth.compare PgNumeric.eq value (value.map .trunc)) (some false)

/-- `is_valid` of `_decimal_payload`. -/
def decimalValid (parameters : DecimalParameters) (column : PgColumn) : Truth :=
  let multiplier := 10 ^ parameters.scale
  let unscaledBound : ℕ := 10 ^ (parameters.precision - parameters.scale)
  let value := castNumeric column
  let inRange := Truth.conj
    (Truth.compare PgNumeric.lt (some (.finite (-unscaledBound) 0)) value)
    (Truth.compare PgNumeric.lt value (some (.finite unscaledBound 0)))
  let scaled := value.map (.scaleBy multiplier)
  Truth.caseWhen inRange (Truth.compare PgNumeric.eq scaled (scaled.map .trunc)) (some false)

/-- `{year} BETWEEN 1 AND 9999`. -/
def yearInRange (column : PgColumn) : Truth :=
  Truth.test (PgTime.between 1 9999) (extractYear column)

/-- `is_valid` of `_timestamp_payload_for_value`. -/
def timestampValid (precision : ℕ) (column : PgColumn) : Truth :=
  let divisor : ℕ := 10 ^ (6 - precision)
  let hasExactPrecision := Truth.test (fun micros => decide (micros % (divisor : Int) = 0))
    (extractMicroseconds column)
  Truth.caseWhen (yearInRange column) hasExactPrecision (some false)

/-- `is_valid` of `_payload_lowering`. -/
def payloadIsValid (field : FieldSchema) (column : PgColumn) : Except Refusal Truth :=
  match field.logicalType, field.parameters with
  | .int64, _ => .ok (int64Valid column)
  | .decimal, .decimal parameters => .ok (decimalValid parameters column)
  | .decimal, _ => .error (loweringError "decimal field requires DecimalParameters")
  | .boolean, _ => .ok (some true)
  | .string, _ => .ok (some true)
  | .date, _ => .ok (yearInRange column)
  | .timestampLocal, .timestamp parameters => .ok (timestampValid parameters.precision column)
  | .timestampInstant, .timestamp parameters =>
    .ok (timestampValid parameters.precision (atTimeZoneUtc column))
  | _, _ => .error (loweringError "timestamp field requires TimestampParameters")

/-! ## The filter -/

/-- `PostgresScopePredicate`. -/
structure PostgresScopePredicate where
  field : FieldSchema
  columnName : String
  canonicalPayload : Bytes
  nonNullable : field.nullable = false
  decodes : ∃ value, decodePayload field canonicalPayload = .ok value

/-- The number of a numeric column equals a whole number with a scale. -/
def numericEquals (unscaled : Int) (scale : ℕ) (column : PgColumn) : Truth :=
  Truth.compare PgNumeric.eq (castNumeric column) (some (.finite unscaled scale))

/-- The place of a time column equals that of a literal. -/
def timeEquals (place : Option Int) (column : PgColumn) : Truth :=
  Truth.compare (fun a b => decide (a = .finite b))
    (column.bind fun value => match value with
      | .date days => some days
      | .timestamp micros => some micros
      | .timestamptz micros => some micros
      | _ => none) place

/-- `_native_scope_comparison`; `none` for strings. -/
def nativeScopeComparison (rounding : MicrosecondRounding) (field : FieldSchema)
    (value : DecodedValue) (column : PgColumn) : Except Refusal (Option Truth) :=
  match field.logicalType, value with
  | .int64, .integer value => .ok (some (numericEquals value 0 column))
  | .int64, _ => .error (loweringError "decoded INT64 scope value must be an integer")
  | .decimal, .decimal coefficient scale => .ok (some (numericEquals coefficient scale column))
  -- A decimal payload is decoded as a decimal.
  | .decimal, _ => .ok (some none)
  | .boolean, .boolean value => .ok (some (Truth.compare (fun a b => decide (a = b))
      (column.bind fun value => match value with
        | .boolean value => some value
        | _ => none) (some value)))
  | .boolean, _ => .error (loweringError "decoded boolean scope value must be a boolean")
  | .date, .date value => .ok (some (timeEquals (some value.toOrdinal) column))
  | .date, _ => .error (loweringError "decoded date scope value must be a date")
  | .timestampLocal, .text value =>
    .ok (some (timeEquals (timestampLiteral rounding value) column))
  | .timestampLocal, _ => .error (loweringError
      "decoded timestamp_local scope value must be canonical text")
  | .timestampInstant, .text value =>
    .ok (some (timeEquals (timestamptzLiteral rounding value) column))
  | .timestampInstant, _ => .error (loweringError
      "decoded timestamp_instant scope value must be canonical text")
  | .string, _ => .ok none

/-- `convert_to(column, 'UTF8')`. -/
def convertToUtf8 : PgColumn → Option Bytes
  | some (.text value) => some (utf8Encode value.text)
  | _ => none

/-- A row of a relation: the value of each column. -/
abbrev PgRow := String → PgColumn

/-- The condition of `_scope_filter` on a value of the scope column. -/
def scopeCondition (rounding : MicrosecondRounding) (scope : PostgresScopePredicate)
    (column : PgColumn) : Except Refusal Truth := do
  let isValid ← payloadIsValid scope.field column
  let decoded ← decodePayload scope.field scope.canonicalPayload
  let nativeComparison ← nativeScopeComparison rounding scope.field decoded column
  let comparison := match nativeComparison with
    | some native => native
    | none => Truth.compare (fun a b => decide (a = b)) (convertToUtf8 column)
        (some scope.canonicalPayload)
  .ok (Truth.conj (Truth.conj (Truth.isNotNull column) isValid) comparison)

/-- `_scope_filter`: the truth of the predicate on a row. -/
def scopeFilter (rounding : MicrosecondRounding) (bindings : List PostgresFieldBinding)
    (scope : Option PostgresScopePredicate) (row : PgRow) : Except Refusal Truth :=
  match scope with
  | none => .ok (some true)
  | some scope =>
    match bindings.zipIdx.filter fun (binding, _) => binding.columnName = scope.columnName with
    | [(binding, fieldIndex)] => do
      validatePhysicalMapping scope.field binding.physical fieldIndex
      scopeCondition rounding scope (row scope.columnName)
    | matching => .error (loweringError
        ("PostgreSQL scoped comparison requires the scope column to map to exactly one " ++
          s!"inspected projection field: column={scope.columnName}, " ++
          s!"matching_fields={matching.length}"))

end ForensicData.Postgres
