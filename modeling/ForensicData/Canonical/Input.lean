/-
ForensicData.Canonical.Input — the values a row may be given in.

A Python string is a list of code points, surrogates included. A `Decimal` is
its sign, coefficient and exponent; the text of a number is read as one within
the limits of the decimal library. A `datetime` is a calendar time with the
kind of timezone it carries.
-/
import ForensicData.Canonical.Model
import ForensicData.Lib.IntegerText
import ForensicData.Lib.TimeText

namespace ForensicData.Canonical

open ForensicData.Lib

/-! ## Python text -/

abbrev CodePoint := Fin 0x110000

abbrev PythonText := List CodePoint

def isSurrogate (point : CodePoint) : Bool := decide (0xD800 ≤ point.val ∧ point.val ≤ 0xDFFF)

/-- The character at a code point that is no surrogate. -/
def charOf (point : CodePoint) : Option Char :=
  if isSurrogate point = true then none else some (Char.ofNat point.val)

theorem codePoint_lt (c : Char) : c.toNat < 0x110000 := by
  have hvalid : c.toNat < 0xD800 ∨ (0xDFFF < c.toNat ∧ c.toNat < 0x110000) := c.valid
  omega

/-- `ord(c)`. -/
def codePoint (c : Char) : CodePoint := ⟨c.toNat, codePoint_lt c⟩

@[simp] theorem charOf_eq_some {point : CodePoint} {c : Char} :
    charOf point = some c ↔ point = codePoint c := by
  unfold charOf isSurrogate
  constructor
  · intro h
    split at h
    · simp at h
    · rename_i hscalar
      rw [decide_eq_true_eq] at hscalar
      rw [Option.some.injEq] at h
      subst h
      have hvalid : point.val.isValidChar := by
        have := point.isLt
        unfold Nat.isValidChar
        omega
      refine Fin.ext ?_
      rw [codePoint, Char.ofNat, dif_pos hvalid]
      rfl
  · rintro rfl
    have hvalid : c.toNat < 0xD800 ∨ (0xDFFF < c.toNat ∧ c.toNat < 0x110000) := c.valid
    have hscalar : ¬ (0xD800 ≤ c.toNat ∧ c.toNat ≤ 0xDFFF) := by omega
    simp [codePoint, hscalar, Char.ofNat_toNat]

/-- The characters of a text without surrogates. -/
def scalars : PythonText → Option (List Char)
  | [] => some []
  | point :: rest =>
    match charOf point, scalars rest with
    | some c, some cs => some (c :: cs)
    | _, _ => none

def codePoints (cs : List Char) : PythonText := cs.map codePoint

@[simp] theorem scalars_eq_some {text : PythonText} {cs : List Char} :
    scalars text = some cs ↔ text = codePoints cs := by
  induction text generalizing cs with
  | nil => cases cs <;> simp [scalars, codePoints]
  | cons point rest ih =>
    rw [scalars]
    cases cs with
    | nil =>
      simp only [codePoints, List.map_nil, reduceCtorEq, iff_false]
      split <;> simp
    | cons d ds =>
      rw [codePoints, List.map_cons, List.cons.injEq, ← codePoints, ← ih, ← charOf_eq_some]
      split
      · rename_i hc hcs
        rw [hc, hcs]
        simp
      · rename_i hnone
        simp only [reduceCtorEq, false_iff, not_and]
        intro hc hcs
        exact hnone d ds hc hcs

theorem codePoints_injective : Function.Injective codePoints := by
  intro cs ds h
  have hcs : scalars (codePoints cs) = some cs := scalars_eq_some.mpr rfl
  rw [h, scalars_eq_some.mpr rfl, Option.some.injEq] at hcs
  exact hcs.symm

/-! ## Decimals -/

/-- A `decimal.Decimal`. -/
inductive PythonDecimal where
  | finite (negative : Bool) (coefficient : ℕ) (exponent : Int)
  | nonFinite
  deriving DecidableEq, Repr

/-- A number in decimal notation: its digits with the point and the exponent
taken together. -/
structure DecimalNumeral where
  negative : Bool
  digits : List Char
  exponent : Int
  deriving DecidableEq, Repr

/-- `[+-]?`. -/
def readSign : List Char → Bool × List Char
  | '-' :: cs => (true, cs)
  | '+' :: cs => (false, cs)
  | cs => (false, cs)

/-- `(?:[0-9]+(?:\.[0-9]*)?|\.[0-9]+)`: the digits, how many of them follow the
point, and the rest. -/
def readMantissa (cs : List Char) : Option ((List Char × ℕ) × List Char) :=
  let whole := cs.takeWhile (isDigitOf 10)
  match cs.dropWhile (isDigitOf 10) with
  | '.' :: rest =>
    let fraction := rest.takeWhile (isDigitOf 10)
    if whole = [] ∧ fraction = [] then none
    else some ((whole ++ fraction, fraction.length), rest.dropWhile (isDigitOf 10))
  | rest => if whole = [] then none else some ((whole, 0), rest)

/-- `(?:[eE][+-]?[0-9]+)?\Z`. -/
def readExponent : List Char → Option Int
  | [] => some 0
  | c :: cs =>
    let (negative, digits) := readSign cs
    if (c = 'e' ∨ c = 'E') ∧ digits ≠ [] ∧ digits.all (isDigitOf 10) = true then
      some (if negative then -(digitsValue 10 digits : Int) else digitsValue 10 digits)
    else none

/-- The match of `_DECIMAL_INPUT`. -/
def readDecimalNumeral (cs : List Char) : Option DecimalNumeral :=
  let (negative, unsigned) := readSign cs
  (readMantissa unsigned).bind fun ((digits, places), rest) =>
    (readExponent rest).map fun exponent =>
      { negative, digits, exponent := exponent - places }

/-- `decimal.MAX_PREC` and `decimal.MAX_EMAX`. -/
def decimalMaxEmax : Int := 999999999999999999

/-- The least exponent of a `Decimal`. -/
def decimalMinEtiny : Int := -1999999999999999997

/-- `Decimal(text)` of a matched text; `none` is an `InvalidOperation`. -/
def DecimalNumeral.decimal (numeral : DecimalNumeral) : Option PythonDecimal :=
  let coefficient := digitsValue 10 numeral.digits
  let count : Int := (Nat.toDigits 10 coefficient).length
  if count ≤ decimalMaxEmax ∧ numeral.exponent + count - 1 ≤ decimalMaxEmax ∧
      decimalMinEtiny ≤ numeral.exponent then
    some (.finite numeral.negative coefficient numeral.exponent)
  else none

/-! ## Datetimes -/

/-- The offset of a built-in `timezone`: less than a day. -/
structure FixedOffset where
  micros : Int
  lower : -(Datetime.dayMicros : Int) < micros
  upper : micros < Datetime.dayMicros

/-- The timezone of a `datetime`: none, a built-in fixed offset or another
implementation of `tzinfo`. -/
inductive TimeZone where
  | naive
  | fixed (offset : FixedOffset)
  | other

/-! ## Inputs -/

inductive CanonicalInput where
  | integer (value : Int)
  | decimal (value : PythonDecimal)
  | boolean (value : Bool)
  | text (value : PythonText)
  | date (value : Date)
  | datetime (value : Datetime) (zone : TimeZone)

/-- `type(value).__name__`. -/
def CanonicalInput.typeName : CanonicalInput → String
  | .integer _ => "int"
  | .decimal _ => "Decimal"
  | .boolean _ => "bool"
  | .text _ => "str"
  | .date _ => "date"
  | .datetime _ _ => "datetime"

/-- A decoded value, given back as an input. -/
def DecodedValue.toInput : DecodedValue → CanonicalInput
  | .integer value => .integer value
  | .decimal coefficient scale =>
    .decimal (.finite (decide (coefficient < 0)) coefficient.natAbs (-(scale : Int)))
  | .boolean value => .boolean value
  | .text value => .text (codePoints value.toList)
  | .date value => .date value

end ForensicData.Canonical
