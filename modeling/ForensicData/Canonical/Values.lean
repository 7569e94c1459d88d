/-
ForensicData.Canonical.Values — the logical values that inputs denote.

What a value means under its field, whatever it is spelled as: an integer, an
exact number, a text of code points, a calendar day, a local time to the
nanosecond or a place on the time line. `Renders` relates a logical value to its one payload,
and `Decodes` to the value it is decoded as; `encodePayload` and
`decodePayload` are shown elsewhere to compute them.
-/
import ForensicData.Canonical.Codec
import Mathlib.Data.Rat.Lemmas

namespace ForensicData.Canonical

open ForensicData.Lib
open Json (renderInt)

inductive LogicalValue where
  | integer (value : Int)
  | decimal (value : ℚ)
  | boolean (value : Bool)
  | text (value : PythonText)
  | date (value : Date)
  | localTime (value : Moment)
  | instant (nanos : Int)

/-! ## Meanings -/

/-- The exact number of a finite decimal. -/
def PythonDecimal.value : PythonDecimal → Option ℚ
  | .finite negative coefficient exponent =>
    some ((if negative then -(coefficient : ℚ) else coefficient) * 10 ^ exponent)
  | .nonFinite => none

def CanonicalInput.asInteger : CanonicalInput → Option Int
  | .integer value => some value
  | _ => none

def CanonicalInput.asNumber : CanonicalInput → Option ℚ
  | .integer value => some value
  | .decimal value => value.value
  | .text value =>
    ((scalars value).bind readDecimalNumeral).bind fun numeral =>
      numeral.decimal.bind PythonDecimal.value
  | _ => none

def CanonicalInput.asBoolean : CanonicalInput → Option Bool
  | .boolean value => some value
  | _ => none

def CanonicalInput.asText : CanonicalInput → Option PythonText
  | .text value => some value
  | _ => none

def CanonicalInput.asDate : CanonicalInput → Option Date
  | .date value => some value
  | .text value =>
    ((scalars value).bind readDate).bind fun ((year, month, day), rest) =>
      if rest = [] then Date.make year month day else none
  | _ => none

def CanonicalInput.asLocalTime : CanonicalInput → Option Moment
  | .datetime value .naive => some (.ofDatetime value)
  | .text value =>
    ((scalars value).bind readStamp).bind fun (stamp, rest) =>
      if rest = [] then stamp.moment else none
  | _ => none

/-- Hours and minutes of a day. -/
def OffsetText.Valid : OffsetText → Prop
  | .zulu => True
  | .fields _ hours minutes => hours ≤ 23 ∧ minutes ≤ 59

instance (offset : OffsetText) : Decidable offset.Valid :=
  match offset with
  | .zulu => inferInstanceAs (Decidable True)
  | .fields _ hours minutes => inferInstanceAs (Decidable (hours ≤ 23 ∧ minutes ≤ 59))

def CanonicalInput.asInstant : CanonicalInput → Option Int
  | .datetime value (.fixed offset) => some ((value.micros - offset.micros) * 1000)
  | .text value =>
    ((scalars value).bind readStamp).bind fun (stamp, rest) =>
      (readOffset rest).bind fun offset =>
        if offset.Valid then stamp.moment.map fun moment => moment.nanos - offset.micros * 1000
        else none
  | _ => none

/-- The logical value of an input under a field. -/
def denotes (field : FieldSchema) (value : CanonicalInput) : Option LogicalValue :=
  match field.logicalType with
  | .int64 => value.asInteger.map .integer
  | .decimal => value.asNumber.map .decimal
  | .boolean => value.asBoolean.map .boolean
  | .string => value.asText.map .text
  | .date => value.asDate.map .date
  | .timestampLocal => value.asLocalTime.map .localTime
  | .timestampInstant => value.asInstant.map .instant

/-! ## Payloads and decoded values -/

/-- The number times the power of ten of the scale, when that is an integer
within the precision. -/
def IsUnscaled (parameters : DecimalParameters) (value : ℚ) (unscaled : Int) : Prop :=
  value * 10 ^ parameters.scale = unscaled ∧ unscaled.natAbs < 10 ^ parameters.precision

/-- The moment of the calendar at a place on the time line, when it can be
written with the precision. -/
def IsMoment (precision : ℕ) (nanos : Int) (moment : Moment) : Prop :=
  moment.nanos = nanos ∧ moment.Fits precision

/-- The canonical payload of a logical value under a field. -/
def Renders (field : FieldSchema) (value : LogicalValue) (payload : Bytes) : Prop :=
  match field.logicalType, field.parameters, value with
  | .int64, _, .integer n => IsInt64 n ∧ payload = asciiBytes (renderInt n)
  | .decimal, .decimal parameters, .decimal q =>
    ∃ unscaled, IsUnscaled parameters q unscaled ∧ payload = asciiBytes (renderInt unscaled)
  | .boolean, _, .boolean b => payload = asciiBytes (if b then ['1'] else ['0'])
  | .string, _, .text points =>
    ∃ text : String, points = codePoints text.toList ∧ Char.ofNat 0 ∉ text.toList ∧
      payload = utf8Encode text
  | .date, _, .date d => payload = asciiBytes (formatDate d)
  | .timestampLocal, .timestamp parameters, .localTime moment =>
    moment.Fits parameters.precision ∧ payload = asciiBytes (moment.text parameters.precision)
  | .timestampInstant, .timestamp parameters, .instant nanos =>
    ∃ moment, IsMoment parameters.precision nanos moment ∧
      payload = asciiBytes (moment.text parameters.precision ++ ['Z'])
  | _, _, _ => False

/-- The canonical form of a logical value under a field. -/
def Decodes (field : FieldSchema) (value : LogicalValue) (decoded : DecodedValue) : Prop :=
  match field.logicalType, field.parameters, value with
  | .int64, _, .integer n => decoded = .integer n
  | .decimal, .decimal parameters, .decimal q =>
    ∃ unscaled, IsUnscaled parameters q unscaled ∧ decoded = .decimal unscaled parameters.scale
  | .boolean, _, .boolean b => decoded = .boolean b
  | .string, _, .text points =>
    ∃ text : String, points = codePoints text.toList ∧ decoded = .text text
  | .date, _, .date d => decoded = .date d
  | .timestampLocal, .timestamp parameters, .localTime moment =>
    decoded = .text (String.ofList (moment.text parameters.precision))
  | .timestampInstant, .timestamp parameters, .instant nanos =>
    ∃ moment, IsMoment parameters.precision nanos moment ∧
      decoded = .text (String.ofList (moment.text parameters.precision ++ ['Z']))
  | _, _, _ => False

end ForensicData.Canonical
