/-
ForensicData.Lib.PythonInt — the integers that `int` reads from a text.

`int` takes any decimal digits of Unicode, single underscores between them, a
sign and spaces around the whole. The text of an integer is read back as it is
(`readPythonInt_renderInt`).
-/
import ForensicData.Lib.IntegerText
import ForensicData.Text

namespace ForensicData.Lib

open Json (renderInt)

/-- The zeros of the decimal digits of Unicode; nine more follow each of them. -/
def decimalZeros : List ℕ :=
  [0x30, 0x660, 0x6F0, 0x7C0, 0x966, 0x9E6, 0xA66, 0xAE6, 0xB66, 0xBE6, 0xC66, 0xCE6, 0xD66,
   0xDE6, 0xE50, 0xED0, 0xF20, 0x1040, 0x1090, 0x17E0, 0x1810, 0x1946, 0x19D0, 0x1A80, 0x1A90,
   0x1B50, 0x1BB0, 0x1C40, 0x1C50, 0xA620, 0xA8D0, 0xA900, 0xA9D0, 0xA9F0, 0xAA50, 0xABF0,
   0xFF10, 0x104A0, 0x10D30, 0x11066, 0x110F0, 0x11136, 0x111D0, 0x112F0, 0x11450, 0x114D0,
   0x11650, 0x116C0, 0x11730, 0x118E0, 0x11950, 0x11C50, 0x11D50, 0x11DA0, 0x11F50, 0x16A60,
   0x16AC0, 0x16B50, 0x1D7CE, 0x1D7D8, 0x1D7E2, 0x1D7EC, 0x1D7F6, 0x1E140, 0x1E2F0, 0x1E4F0,
   0x1E950, 0x1FBF0]

def decimalDigit (c : Char) : Option ℕ :=
  decimalZeros.findSome? fun start =>
    if start ≤ c.toNat ∧ c.toNat < start + 10 then some (c.toNat - start) else none

/-- The spaces that are dropped around an integer: the separators below the
space are not. -/
def isIntegerSpace (c : Char) : Bool := isPythonSpace c && !(28 ≤ c.toNat && c.toNat ≤ 31)

/-- Digits with single underscores between them. -/
def readDigitGroups : List Char → Option (List ℕ)
  | [] => none
  | [c] => (decimalDigit c).map fun digit => [digit]
  | c :: '_' :: rest =>
    (decimalDigit c).bind fun digit => (readDigitGroups rest).map fun digits => digit :: digits
  | c :: rest =>
    (decimalDigit c).bind fun digit => (readDigitGroups rest).map fun digits => digit :: digits

/-- `sys.get_int_max_str_digits()`. -/
def intMaxStrDigits : ℕ := 4300

/-- `[+-]?` and the digits, within the limit. -/
def readSignedDigits (negative : Bool) (cs : List Char) : Option Int :=
  (readDigitGroups cs).bind fun digits =>
    if intMaxStrDigits < digits.length then none
    else
      let magnitude : ℕ := digits.foldl (fun value digit => value * 10 + digit) 0
      some (if negative then -(magnitude : Int) else magnitude)

/-- `int(text)`; `none` is a `ValueError`. -/
def readPythonInt (text : List Char) : Option Int :=
  let stripped := ((text.dropWhile isIntegerSpace).reverse.dropWhile isIntegerSpace).reverse
  match stripped with
  | '-' :: cs => readSignedDigits true cs
  | '+' :: cs => readSignedDigits false cs
  | cs => readSignedDigits false cs

/-! ## Canonical texts -/

theorem decimalDigit_of_isDigitOf {c : Char} (h : isDigitOf 10 c = true) :
    decimalDigit c = some (digitValue c) := by
  rw [isDigitOf, decide_eq_true_eq] at h
  unfold digitValue at h ⊢
  split at h
  · rename_i hrange
    rw [if_pos hrange]
    have hfirst : 0x30 ≤ c.toNat ∧ c.toNat < 0x30 + 10 := by omega
    unfold decimalDigit decimalZeros
    rw [List.findSome?_cons, if_pos hfirst]
  · split at h <;> omega

theorem readDigitGroups_cons {c : Char} {cs : List Char} (hcs : cs ≠ [])
    (hunderscore : cs.head? ≠ some '_') :
    readDigitGroups (c :: cs) =
      (decimalDigit c).bind fun digit => (readDigitGroups cs).map fun digits => digit :: digits := by
  rw [readDigitGroups.eq_def]
  split
  · rename_i h
    cases h
  · rename_i h
    simp only [List.cons.injEq] at h
    exact absurd h.2 hcs
  · rename_i h
    simp only [List.cons.injEq] at h
    rw [h.2] at hunderscore
    exact absurd rfl hunderscore
  · rename_i h
    simp only [List.cons.injEq] at h
    rw [h.1, h.2]

/-- ASCII digits are read one by one. -/
theorem readDigitGroups_digits {cs : List Char} (hne : cs ≠ [])
    (h : ∀ c ∈ cs, isDigitOf 10 c = true) : readDigitGroups cs = some (cs.map digitValue) := by
  induction cs with
  | nil => exact absurd rfl hne
  | cons c cs ih =>
    rw [List.forall_mem_cons] at h
    cases cs with
    | nil => rw [readDigitGroups, decimalDigit_of_isDigitOf h.1]; rfl
    | cons d ds =>
      have hunderscore : (d :: ds).head? ≠ some '_' := by
        intro hhead
        rw [List.head?_cons, Option.some.injEq] at hhead
        have hdigit := h.2 d List.mem_cons_self
        rw [hhead] at hdigit
        exact absurd hdigit (by decide)
      rw [readDigitGroups_cons (by simp) hunderscore, decimalDigit_of_isDigitOf h.1,
        ih (by simp) h.2]
      rfl

theorem foldl_digitValue (cs : List Char) :
    (cs.map digitValue).foldl (fun value digit => value * 10 + digit) 0 = digitsValue 10 cs := by
  rw [List.foldl_map]
  rfl

theorem not_space_of_digit {c : Char} (h : isDigitOf 10 c = true) : isIntegerSpace c = false := by
  rw [isDigitOf, decide_eq_true_eq] at h
  unfold digitValue at h
  split at h
  · rename_i hrange
    have hspace : isPythonSpace c = false := by
      unfold isPythonSpace
      simp only [Bool.or_eq_false_iff, Bool.and_eq_false_iff, decide_eq_false_iff_not, beq_eq_false_iff_ne]
      omega
    rw [isIntegerSpace, hspace, Bool.false_and]
  · split at h <;> omega

/-- A text with no space at its ends keeps its characters. -/
theorem strip_eq {text : List Char} (hhead : ∀ c ∈ text.head?, isIntegerSpace c = false)
    (hlast : ∀ c ∈ text.getLast?, isIntegerSpace c = false) :
    ((text.dropWhile isIntegerSpace).reverse.dropWhile isIntegerSpace).reverse = text := by
  have hdrop : ∀ cs : List Char, (∀ c ∈ cs.head?, isIntegerSpace c = false) →
      cs.dropWhile isIntegerSpace = cs := by
    intro cs hcs
    cases cs with
    | nil => rfl
    | cons c cs => rw [List.dropWhile_cons_of_neg (by simp [hcs c rfl])]
  rw [hdrop text hhead, hdrop text.reverse (by rwa [List.head?_reverse]), List.reverse_reverse]

theorem readSignedDigits_toDigits (negative : Bool) {n : ℕ}
    (hlength : (Nat.toDigits 10 n).length ≤ intMaxStrDigits) :
    readSignedDigits negative (Nat.toDigits 10 n) =
      some (if negative then -(n : Int) else n) := by
  have hne : Nat.toDigits 10 n ≠ [] := Nat.toDigits_ne_nil
  rw [readSignedDigits, readDigitGroups_digits hne fun _ => isDigitOf_of_mem_toDigits,
    Option.bind_some, List.length_map, if_neg (Nat.not_lt.mpr hlength)]
  simp only [foldl_digitValue, digitsValue_toDigits]

/-- `int(str(value)) == value`. -/
theorem readPythonInt_renderInt {value : Int}
    (hlength : (Nat.toDigits 10 value.natAbs).length ≤ intMaxStrDigits) :
    readPythonInt (renderInt value) = some value := by
  have hdigit : ∀ c ∈ Nat.toDigits 10 value.natAbs, isIntegerSpace c = false := fun c hc =>
    not_space_of_digit (isDigitOf_of_mem_toDigits hc)
  have hstrip : ∀ text : List Char, (∀ c ∈ text, isIntegerSpace c = false) →
      ((text.dropWhile isIntegerSpace).reverse.dropWhile isIntegerSpace).reverse = text := by
    intro text htext
    exact strip_eq (fun c hc => htext c (List.mem_of_mem_head? hc))
      fun c hc => htext c (List.mem_of_getLast? hc)
  unfold readPythonInt renderInt
  by_cases hnegative : value < 0
  · have htext : ∀ c ∈ '-' :: Nat.toDigits 10 value.natAbs, isIntegerSpace c = false := by
      intro c hc
      rcases List.mem_cons.mp hc with rfl | hc
      · rfl
      · exact hdigit c hc
    rw [if_pos hnegative, hstrip _ htext]
    simp only
    rw [readSignedDigits_toDigits true hlength, if_pos rfl, Option.some.injEq]
    omega
  · rw [if_neg hnegative, hstrip _ hdigit]
    simp only
    have hvalue : ((value.natAbs : ℕ) : Int) = value := by omega
    have hfirst : ∀ c rest, Nat.toDigits 10 value.natAbs = c :: rest → isDigitOf 10 c = true :=
      fun c rest htext => isDigitOf_of_mem_toDigits (htext ▸ List.mem_cons_self)
    split
    · rename_i cs hcs
      exact absurd (hfirst _ _ hcs) (by decide)
    · rename_i cs hcs
      exact absurd (hfirst _ _ hcs) (by decide)
    · rw [readSignedDigits_toDigits false hlength, if_neg (by simp), hvalue]

end ForensicData.Lib
