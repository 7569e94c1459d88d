/-
ForensicData.SqlServer.Values — values of SQL Server columns and their conversions.

A number is its exact value, whatever its type; a conversion to a numeric type
cuts or rounds it and is NULL when the type does not hold the result. A
`datetimeoffset` is its UTC moment with its offset. Texts of bounded types are
cut where they are converted or concatenated. A condition stands as whether it
is true: the conditions of the queries are joined by AND and OR only.
-/
import ForensicData.Canonical.FieldTheorems
import ForensicData.Errors
import Mathlib.Data.List.DropRight
import Mathlib.Data.Rat.Floor

namespace ForensicData.SqlServer

open ForensicData.Canonical
open ForensicData.Lib

/-! ## Physical types -/

/-- `MssqlLoweringError(message)`. -/
def loweringError (message : String) : Refusal := { error := .mssqlLoweringError, message }

/-- `_MAX_BOUNDED_VARCHAR_BYTES`. -/
def maxBoundedVarcharBytes : ℕ := 8000

structure MssqlPhysicalField where
  systemTypeName : String
  systemTypeId : ℕ
  userTypeId : ℕ
  maxLength : Int
  precision : ℕ
  scale : ℕ
  collationName : Option String
  maxLength_range : maxLength = -1 ∨ (1 ≤ maxLength ∧ maxLength ≤ maxBoundedVarcharBytes)
  precision_le : precision ≤ 38
  scale_le : scale ≤ precision

/-- A numeric type: the range of an integer type, or the digits of a `decimal`. -/
inductive MssqlNumericType where
  | integer (low high : Int)
  | decimal (precision scale : ℕ)
  deriving DecidableEq, Repr

/-- `bigint`. -/
def bigint : MssqlNumericType := .integer int64Min int64Max

/-- The numeric type of a column. -/
def MssqlPhysicalField.numericType? (physical : MssqlPhysicalField) : Option MssqlNumericType :=
  match physical.systemTypeName with
  | "decimal" => some (.decimal physical.precision physical.scale)
  | "numeric" => some (.decimal physical.precision physical.scale)
  | "tinyint" => some (.integer 0 255)
  | "smallint" => some (.integer (-32768) 32767)
  | "int" => some (.integer (-2147483648) 2147483647)
  | "bigint" => some bigint
  | _ => none

/-- `_numeric_physical_type`. -/
def numericPhysicalType (physical : MssqlPhysicalField) : Except Refusal MssqlNumericType :=
  match physical.numericType? with
  | some numericType => .ok numericType
  | none => .error (loweringError
      ("SQL Server numeric payload received incompatible physical provenance: " ++
        s!"physical_type='{physical.systemTypeName}'"))

/-! ## Values -/

inductive MssqlValue where
  | number (value : ℚ)
  | bit (value : Bool)
  | varchar (bytes : Bytes)
  | nvarchar (units : List UInt16)
  | date (value : Date)
  | datetime2 (value : Moment)
  | datetimeoffset (utc : Moment) (offsetMinutes : Int)

/-- A column's value; `none` is NULL. -/
abbrev MssqlCell := Option MssqlValue

def MssqlValue.number? : MssqlValue → Option ℚ
  | .number value => some value
  | _ => none

/-! ## Numbers -/

/-- The integer part, towards zero. -/
def truncateRat (q : ℚ) : Int := q.num.tdiv q.den

/-- The nearest integer, halves away from zero. -/
def roundRat (q : ℚ) : Int := if q < 0 then -⌊-q + 1 / 2⌋ else ⌊q + 1 / 2⌋

/-- `TRY_CONVERT(type, value)` of a number. -/
def MssqlNumericType.tryConvert : MssqlNumericType → ℚ → Option ℚ
  | .integer low high, q =>
    if low ≤ truncateRat q ∧ truncateRat q ≤ high then some (truncateRat q) else none
  | .decimal precision scale, q =>
    let unscaled := roundRat (q * 10 ^ scale)
    if unscaled.natAbs < 10 ^ precision then some (unscaled / 10 ^ scale) else none

/-- `TRY_CONVERT(type, column)` of a column of numbers. -/
def tryConvertNumber (numericType : MssqlNumericType) (cell : MssqlCell) : Option ℚ :=
  (cell.bind MssqlValue.number?).bind numericType.tryConvert

/-- `CONVERT(varchar, value)` of a `decimal(precision, scale)`. -/
def decimalText (scale : ℕ) (value : ℚ) : List Char :=
  let unscaled := roundRat (value * 10 ^ scale)
  let digits := Nat.toDigits 10 (unscaled.natAbs / 10 ^ scale) ++
    fractionText (fixedDigits 10 scale (unscaled.natAbs % 10 ^ scale))
  if unscaled < 0 then '-' :: digits else digits

/-! ## Texts and bytes -/

/-- `CONVERT(varchar(n), text)`. -/
def convertVarchar (n : ℕ) (text : List Char) : List Char := text.take n

/-- `CONVERT(varbinary(n), bytes)`. -/
def convertVarbinary (n : ℕ) (bytes : Bytes) : Bytes := bytes.take n

/-- `a + b` of bounded texts. -/
def concatVarchar (a b : List Char) : List Char := (a ++ b).take maxBoundedVarcharBytes

/-- `a = b` of binary values: the shorter one is filled up with zeros. -/
def varbinaryEq (a b : Bytes) : Bool :=
  a.rdropWhile (· == 0) == b.rdropWhile (· == 0)

/-- What SQL Server's code pages make of texts: a `varchar` of a collation and
UTF-8, from and to UTF-16 code units. -/
structure MssqlTextFunctions where
  unicodeOfVarchar : String → Bytes → List UInt16
  varcharOfUnicode : String → List UInt16 → Bytes
  unicodeOfUtf8 : Bytes → List UInt16
  utf8OfUnicode : List UInt16 → Bytes

/-! ## Times -/

/-- The second after a second, within the calendar. -/
def nextSecond (t : Datetime) : Option Datetime :=
  if h : t.second + 1 < 60 then some { t with second := t.second + 1, second_lt := h }
  else if h : t.minute + 1 < 60 then
    some { t with minute := t.minute + 1, second := 0, minute_lt := h, second_lt := by omega }
  else if h : t.hour + 1 < 24 then
    some
      { t with
        hour := t.hour + 1, minute := 0, second := 0, hour_lt := h, minute_lt := by omega
        second_lt := by omega }
  else
    t.date.next.map fun date =>
      { t with
        date, hour := 0, minute := 0, second := 0, hour_lt := by omega, minute_lt := by omega
        second_lt := by omega }

theorem nextSecond_microsecond {t u : Datetime} (h : nextSecond t = some u) :
    u.microsecond = t.microsecond := by
  unfold nextSecond at h
  split at h
  · cases h
    rfl
  split at h
  · cases h
    rfl
  split at h
  · cases h
    rfl
  · obtain ⟨date, -, rfl⟩ := Option.map_eq_some_iff.mp h
    rfl

/-- The moment with `scale` fraction digits that is nearest, later ones first. -/
def roundMoment (scale : ℕ) (moment : Moment) : Option Moment :=
  let unit := 10 ^ (9 - scale)
  let nanosecond := (moment.nanosecond + unit / 2) / unit * unit
  if hlt : nanosecond < 10 ^ 9 then
    some { moment with nanosecond, nanosecond_lt := hlt }
  else
    match h : nextSecond moment.second with
    | none => none
    | some second =>
      some
        { second, nanosecond := 0, whole := (nextSecond_microsecond h).trans moment.whole
          nanosecond_lt := Nat.succ_pos 999999999 }

/-! ## Storing -/

/-- The errors of a statement. -/
inductive MssqlError where
  | invalidLength
  | tooManyColumns
  | recordTooLong
  | conversion
  deriving DecidableEq, Repr

/-- The value that a column of the type keeps of a value assigned to it. -/
def MssqlPhysicalField.assign (physical : MssqlPhysicalField) :
    MssqlValue → Except MssqlError MssqlValue
  | .number value =>
    match physical.numericType?.bind (·.tryConvert value) with
    | some stored => .ok (.number stored)
    | none => .error .conversion
  | .bit value => .ok (.bit value)
  | .varchar bytes =>
    if physical.maxLength ≠ -1 ∧ physical.maxLength < bytes.length then .error .conversion
    else .ok (.varchar bytes)
  | .nvarchar units =>
    if physical.maxLength ≠ -1 ∧ physical.maxLength < 2 * units.length then .error .conversion
    else .ok (.nvarchar units)
  | .date value => .ok (.date value)
  | .datetime2 value =>
    match roundMoment physical.scale value with
    | some stored => .ok (.datetime2 stored)
    | none => .error .conversion
  | .datetimeoffset utc offsetMinutes =>
    match roundMoment physical.scale utc with
    | some stored => .ok (.datetimeoffset stored offsetMinutes)
    | none => .error .conversion

/-- The column that is assigned a cell. -/
def MssqlPhysicalField.assignCell (physical : MssqlPhysicalField) :
    MssqlCell → Except MssqlError MssqlCell
  | none => .ok none
  | some value => do
    let stored ← physical.assign value
    .ok (some stored)

/-- The numbers of a numeric type. -/
def MssqlNumericType.Holds : MssqlNumericType → ℚ → Prop
  | .integer low high, q => ∃ n : Int, q = n ∧ low ≤ n ∧ n ≤ high
  | .decimal precision scale, q =>
    ∃ unscaled : Int, q = unscaled / 10 ^ scale ∧ unscaled.natAbs < 10 ^ precision

/-- The values of a column of the type. -/
def MssqlPhysicalField.Holds (physical : MssqlPhysicalField) : MssqlValue → Prop
  | .number value => ∃ numericType, physical.numericType? = some numericType ∧
      numericType.Holds value
  | .bit _ => physical.systemTypeName = "bit"
  | .varchar bytes => physical.systemTypeName = "varchar" ∧
      (physical.maxLength = -1 ∨ bytes.length ≤ physical.maxLength)
  | .nvarchar units => physical.systemTypeName = "nvarchar" ∧
      (physical.maxLength = -1 ∨ 2 * units.length ≤ physical.maxLength)
  | .date _ => physical.systemTypeName = "date"
  | .datetime2 value => physical.systemTypeName = "datetime2" ∧ value.Fits physical.scale
  | .datetimeoffset utc _ => physical.systemTypeName = "datetimeoffset" ∧ utc.Fits physical.scale

/-! ## A column of a type keeps the values of the type -/

theorem truncateRat_intCast (n : Int) : truncateRat n = n := by
  simp [truncateRat]

theorem roundRat_intCast (n : Int) : roundRat n = n := by
  unfold roundRat
  split
  · rw [show (-(n : ℚ) + 1 / 2) = ((-n : Int) : ℚ) + 1 / 2 by push_cast; ring, Int.floor_intCast_add]
    norm_num
  · rw [Int.floor_intCast_add]
    norm_num

theorem MssqlNumericType.tryConvert_of_holds {numericType : MssqlNumericType} {q : ℚ}
    (h : numericType.Holds q) : numericType.tryConvert q = some q := by
  cases numericType with
  | integer low high =>
    obtain ⟨n, rfl, hlow, hhigh⟩ := h
    simp only [tryConvert, truncateRat_intCast]
    rw [if_pos ⟨hlow, hhigh⟩]
  | decimal precision scale =>
    obtain ⟨unscaled, rfl, hlt⟩ := h
    have hscaled : (unscaled / 10 ^ scale * 10 ^ scale : ℚ) = unscaled :=
      div_mul_cancel₀ _ (pow_ne_zero _ (by norm_num))
    simp only [tryConvert, hscaled, roundRat_intCast]
    rw [if_pos hlt]

theorem roundMoment_of_fits {scale : ℕ} {moment : Moment} (h : moment.Fits scale) :
    roundMoment scale moment = some moment := by
  obtain ⟨units, hunits⟩ := h
  have hpos : 0 < 10 ^ (9 - scale) := Nat.pow_pos (by omega)
  have hnanos : (moment.nanosecond + 10 ^ (9 - scale) / 2) / 10 ^ (9 - scale) *
      10 ^ (9 - scale) = moment.nanosecond := by
    rw [hunits, Nat.mul_comm, Nat.mul_add_div hpos, Nat.div_eq_of_lt (Nat.div_lt_self hpos
      (by omega)), Nat.add_zero, Nat.mul_comm]
  unfold roundMoment
  simp only [hnanos, moment.nanosecond_lt, dif_pos]

/-- What a column of the type holds is not changed by assigning it to one. -/
theorem MssqlPhysicalField.assign_of_holds {physical : MssqlPhysicalField} {value : MssqlValue}
    (h : physical.Holds value) : physical.assign value = .ok value := by
  cases value with
  | number q =>
    obtain ⟨numericType, htype, hholds⟩ := h
    simp only [assign, htype, Option.bind_some, MssqlNumericType.tryConvert_of_holds hholds]
  | bit b => rfl
  | varchar bytes =>
    obtain ⟨-, hlength⟩ := h
    rw [assign, if_neg (by omega)]
  | nvarchar units =>
    obtain ⟨-, hlength⟩ := h
    rw [assign, if_neg (by omega)]
  | date d => rfl
  | datetime2 moment => simp only [assign, roundMoment_of_fits h.2]
  | datetimeoffset utc offsetMinutes => simp only [assign, roundMoment_of_fits h.2]

end ForensicData.SqlServer
