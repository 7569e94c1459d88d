/-
ForensicData.Text — the text checks shared by the modelled records.

Identifiers and digests enter records only after these checks, so the model
keeps them as subtypes.
-/
import Mathlib.Data.Nat.Notation

namespace ForensicData

/-- `str.isspace` of one character. -/
def isPythonSpace (c : Char) : Bool :=
  let n := c.toNat
  (9 ≤ n && n ≤ 13) || (28 ≤ n && n ≤ 32) || n == 0x85 || n == 0xA0 || n == 0x1680 ||
    (0x2000 ≤ n && n ≤ 0x200A) || n == 0x2028 || n == 0x2029 || n == 0x202F || n == 0x205F ||
    n == 0x3000

/-- `value.strip() == ""`. -/
def isBlank (value : String) : Bool := value.toList.all isPythonSpace

def isLowerHex (c : Char) : Bool := ('0' ≤ c && c ≤ '9') || ('a' ≤ c && c ≤ 'f')

/-- The test of `_require_sha256`. -/
def isSha256Hex (value : String) : Bool :=
  value.toList.length == 64 && value.toList.all isLowerHex

abbrev NonblankText := { value : String // isBlank value = false }

abbrev Sha256Hex := { value : String // isSha256Hex value = true }

end ForensicData
