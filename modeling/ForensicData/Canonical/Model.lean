/-
ForensicData.Canonical.Model — the numeric bounds of canonical protocol v1.

Bytes are lists of `UInt8`. The accumulator bounds are the ones the source
fixes: signed 64-bit counts, 32-bit hash limbs and exact `decimal(38,0)` sums.
-/
import ForensicData.Lib.Calendar

namespace ForensicData.Canonical

abbrev Bytes := List UInt8

/-- `UINT32_MAX`. -/
def uint32Max : ℕ := 2 ^ 32 - 1

/-- `UINT64_MAX`. -/
def uint64Max : ℕ := 2 ^ 64 - 1

/-- `INT64_MAX`. -/
def int64Max : ℕ := 2 ^ 63 - 1

/-- `INT64_MIN`. -/
def int64Min : Int := -(2 ^ 63)

/-- `DECIMAL_38_MAX`. -/
def decimal38Max : ℕ := 10 ^ 38 - 1

/-- The signed 64-bit integers. -/
def IsInt64 (value : Int) : Prop := int64Min ≤ value ∧ value ≤ (int64Max : Int)

instance (value : Int) : Decidable (IsInt64 value) :=
  inferInstanceAs (Decidable (_ ∧ _))

/-- `DecodedValue`. A decimal is its coefficient with the number of its
fractional digits. -/
inductive DecodedValue where
  | integer (value : Int)
  | decimal (coefficient : Int) (scale : ℕ)
  | boolean (value : Bool)
  | text (value : String)
  | date (value : Lib.Date)
  deriving DecidableEq, Repr

/-- `int.from_bytes(value, "big", signed=False)`. -/
def fromBytesBig (value : Bytes) : ℕ :=
  value.foldl (fun total byte => total * 256 + byte.toNat) 0

end ForensicData.Canonical
