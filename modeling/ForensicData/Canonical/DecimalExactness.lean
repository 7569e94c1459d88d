/-
ForensicData.Canonical.DecimalExactness — decimals are never rounded.

`pythonDecimal` is what the decimal library makes of an input. It drops spaces
around a text and underscores in it and takes the digits of every script; the
encoder asks for the numeric form first, so such a text is refused although its
number is exact (`underscored_decimal_refused`). Of the numeric form the two
readings agree, and a payload is the number itself (`decimal_exactness`).
-/
import ForensicData.Canonical.DecimalTheorems
import ForensicData.Lib.PythonInt

namespace ForensicData.Canonical

open ForensicData.Lib
open Json (renderInt)

/-! ## The decimal library -/

/-- `text.strip()`. -/
def stripSpaces (cs : List Char) : List Char :=
  ((cs.dropWhile isPythonSpace).reverse.dropWhile isPythonSpace).reverse

/-- A decimal digit of any script, as an ASCII digit. -/
def asciiDigit (c : Char) : Char :=
  if c.toNat < 128 then c
  else
    match decimalDigit c with
    | some digit => Nat.digitChar digit
    | none => c

/-- The numeric string in a text: without the spaces around it and the
underscores in it. -/
def numericString (cs : List Char) : List Char :=
  ((stripSpaces cs).filter (· != '_')).map asciiDigit

/-- `Decimal(text)`; `none` is an `InvalidOperation` or a special value. -/
def decimalOfText (cs : List Char) : Option PythonDecimal :=
  (readDecimalNumeral (numericString cs)).bind DecimalNumeral.decimal

/-- `Decimal(value)`. -/
def pythonDecimal : CanonicalInput → Option PythonDecimal
  | .integer value => some (.finite (decide (value < 0)) value.natAbs 0)
  | .decimal value => some value
  | .text value => (scalars value).bind decimalOfText
  | _ => none

/-- An integer, a `Decimal`, or a text of the numeric form. -/
def HasNumericForm : CanonicalInput → Prop
  | .integer _ => True
  | .decimal _ => True
  | .text value => ∃ numeral, (scalars value).bind readDecimalNumeral = some numeral
  | _ => False

/-! ## Texts of the numeric form -/

/-- The characters of numeric strings. -/
def IsNumeric (c : Char) : Prop :=
  isDigitOf 10 c = true ∨ c = '+' ∨ c = '-' ∨ c = '.' ∨ c = 'e' ∨ c = 'E'

theorem isNumeric_readSign {cs rest : List Char} {negative : Bool}
    (h : readSign cs = (negative, rest)) (hrest : ∀ c ∈ rest, IsNumeric c) :
    ∀ c ∈ cs, IsNumeric c := by
  intro c hc
  unfold readSign at h
  split at h
  · rw [Prod.mk.injEq] at h
    rcases List.mem_cons.mp hc with rfl | hc
    · simp [IsNumeric]
    · exact hrest c (h.2 ▸ hc)
  · rw [Prod.mk.injEq] at h
    rcases List.mem_cons.mp hc with rfl | hc
    · simp [IsNumeric]
    · exact hrest c (h.2 ▸ hc)
  · rw [Prod.mk.injEq] at h
    exact hrest c (h.2 ▸ hc)

theorem isNumeric_takeWhile (cs : List Char) : ∀ c ∈ cs.takeWhile (isDigitOf 10), IsNumeric c :=
  fun c hc => .inl (List.all_eq_true.mp List.all_takeWhile c hc)

/-- Leading digits do not matter. -/
theorem isNumeric_dropWhile {cs : List Char}
    (h : ∀ c ∈ cs.dropWhile (isDigitOf 10), IsNumeric c) : ∀ c ∈ cs, IsNumeric c := by
  intro c hc
  rw [← List.takeWhile_append_dropWhile (p := isDigitOf 10) (l := cs)] at hc
  rcases List.mem_append.mp hc with hc | hc
  · exact isNumeric_takeWhile cs c hc
  · exact h c hc

theorem isNumeric_readMantissa {cs rest digits : List Char} {places : ℕ}
    (h : readMantissa cs = some ((digits, places), rest)) (hrest : ∀ c ∈ rest, IsNumeric c) :
    ∀ c ∈ cs, IsNumeric c := by
  apply isNumeric_dropWhile
  unfold readMantissa at h
  split at h
  · rename_i fraction hdrop
    rw [hdrop]
    dsimp only at h
    split at h
    · cases h
    · rw [Option.some.injEq, Prod.mk.injEq] at h
      intro c hc
      rcases List.mem_cons.mp hc with rfl | hc
      · simp [IsNumeric]
      · exact isNumeric_dropWhile (h.2 ▸ hrest) c hc
  · dsimp only at h
    split at h
    · cases h
    · rw [Option.some.injEq, Prod.mk.injEq] at h
      rw [h.2]
      exact hrest

theorem isNumeric_readExponent {cs : List Char} {exponent : Int}
    (h : readExponent cs = some exponent) : ∀ c ∈ cs, IsNumeric c := by
  cases cs with
  | nil => simp
  | cons first rest =>
    rw [readExponent] at h
    split at h
    · rename_i negative digits hsign
      split at h
      · rename_i hform
        obtain ⟨hmark, -, hdigits⟩ := hform
        have hall : ∀ c ∈ rest, IsNumeric c :=
          isNumeric_readSign hsign fun c hc => .inl (List.all_eq_true.mp hdigits c hc)
        intro c hc
        rcases List.mem_cons.mp hc with rfl | hc
        · rcases hmark with rfl | rfl <;> simp [IsNumeric]
        · exact hall c hc
      · cases h

theorem isNumeric_readDecimalNumeral {cs : List Char} {numeral : DecimalNumeral}
    (h : readDecimalNumeral cs = some numeral) : ∀ c ∈ cs, IsNumeric c := by
  rw [readDecimalNumeral] at h
  split at h
  rename_i negative unsigned hsign
  rcases Option.bind_eq_some_iff.mp h with ⟨⟨⟨digits, places⟩, rest⟩, hmantissa, h⟩
  rcases Option.map_eq_some_iff.mp h with ⟨exponent, hexponent, -⟩
  exact isNumeric_readSign hsign (isNumeric_readMantissa hmantissa
    (isNumeric_readExponent hexponent))

theorem IsNumeric.plain {c : Char} (h : IsNumeric c) :
    isPythonSpace c = false ∧ (c != '_') = true ∧ asciiDigit c = c := by
  rcases h with hdigit | rfl | rfl | rfl | rfl | rfl
  · have hrange : 48 ≤ c.toNat ∧ c.toNat ≤ 57 := by
      rw [isDigitOf, decide_eq_true_eq] at hdigit
      unfold digitValue at hdigit
      split at hdigit
      · assumption
      · split at hdigit <;> omega
    have hunderscore : c ≠ '_' := by
      rintro rfl
      exact absurd hrange (by decide)
    refine ⟨?_, by simpa using hunderscore, if_pos (by omega)⟩
    unfold isPythonSpace
    simp only [Bool.or_eq_false_iff, Bool.and_eq_false_iff, decide_eq_false_iff_not,
      beq_eq_false_iff_ne]
    omega
  all_goals exact ⟨by decide, by decide, by decide⟩

theorem dropWhile_spaces {cs : List Char} (h : ∀ c ∈ cs, isPythonSpace c = false) :
    cs.dropWhile isPythonSpace = cs := by
  cases cs with
  | nil => rfl
  | cons c cs => rw [List.dropWhile_cons_of_neg (by simp [h c])]

/-- A numeric string is read as it stands. -/
theorem numericString_eq {cs : List Char} (h : ∀ c ∈ cs, IsNumeric c) : numericString cs = cs := by
  have hstrip : stripSpaces cs = cs := by
    rw [stripSpaces, dropWhile_spaces fun c hc => (h c hc).plain.1,
      dropWhile_spaces fun c hc => (h c (List.mem_reverse.mp hc)).plain.1, List.reverse_reverse]
  rw [numericString, hstrip, List.filter_eq_self.mpr fun c hc => (h c hc).plain.2.1]
  exact (List.map_congr_left fun c hc => (h c hc).plain.2.2).trans (List.map_id cs)

/-- Of a numeric form, the encoder reads what the decimal library reads. -/
theorem asNumber_of_pythonDecimal {value : CanonicalInput} {decimal : PythonDecimal}
    (hform : HasNumericForm value) (h : pythonDecimal value = some decimal) :
    value.asNumber = decimal.value := by
  cases value with
  | integer n =>
    rw [pythonDecimal, Option.some.injEq] at h
    subst h
    rcases decimalFromInput_value.mp (show (CanonicalInput.integer n).asNumber = some (n : ℚ)
      from rfl) with ⟨d, hd, hvalue⟩
    rw [decimalFromInput, Except.ok.injEq] at hd
    rw [hd, hvalue]
    rfl
  | decimal d =>
    rw [pythonDecimal, Option.some.injEq] at h
    rw [← h]
    rfl
  | text text =>
    rcases hform with ⟨numeral, hnumeral⟩
    rcases Option.bind_eq_some_iff.mp hnumeral with ⟨cs, hcs, hread⟩
    rw [pythonDecimal, hcs, Option.bind_some, decimalOfText,
      numericString_eq (isNumeric_readDecimalNumeral hread), hread, Option.bind_some] at h
    rw [CanonicalInput.asNumber, hnumeral, Option.bind_some, h, Option.bind_some]
  | _ => exact hform.elim

/-! ## Exactness -/

section Exactness

variable (parameters : DecimalParameters)

/-- An input of the numeric form is encoded exactly when its number is finite and
an integer within the precision at the scale, and then as that integer; the same
number has the same payload however it is given; and the payload is decoded as
that number. -/
theorem decimal_exactness :
    (∀ value decimal, HasNumericForm value → pythonDecimal value = some decimal →
      ∀ payload, encodeDecimal value parameters = .ok payload ↔
        ∃ q, decimal.value = some q ∧ ∃ unscaled, IsUnscaled parameters q unscaled ∧
          payload = asciiBytes (renderInt unscaled)) ∧
    (∀ value other decimal decimal', HasNumericForm value → HasNumericForm other →
      pythonDecimal value = some decimal → pythonDecimal other = some decimal' →
      decimal.value = decimal'.value →
      ∀ payload, encodeDecimal value parameters = .ok payload ↔
        encodeDecimal other parameters = .ok payload) ∧
    ∀ value decimal, HasNumericForm value → pythonDecimal value = some decimal →
      ∀ payload, encodeDecimal value parameters = .ok payload →
        ∃ decoded, decodeDecimal payload parameters = .ok decoded ∧
          decoded.toInput.asNumber = decimal.value := by
  have hencode : ∀ value decimal, HasNumericForm value → pythonDecimal value = some decimal →
      ∀ payload, encodeDecimal value parameters = .ok payload ↔
        ∃ q, decimal.value = some q ∧ ∃ unscaled, IsUnscaled parameters q unscaled ∧
          payload = asciiBytes (renderInt unscaled) := by
    intro value decimal hform hdecimal payload
    rw [encodeDecimal_eq_ok, asNumber_of_pythonDecimal hform hdecimal]
  refine ⟨hencode, ?same, ?decoded⟩
  case same =>
    intro value other decimal decimal' hform hform' hdecimal hdecimal' hsame payload
    rw [hencode value decimal hform hdecimal, hencode other decimal' hform' hdecimal', hsame]
  case decoded =>
    intro value decimal hform hdecimal payload h
    rcases (hencode value decimal hform hdecimal payload).mp h
      with ⟨q, hq, unscaled, ⟨hscaled, hlt⟩, rfl⟩
    refine ⟨.decimal unscaled parameters.scale,
      decodeDecimal_eq_ok.mpr ⟨unscaled, ⟨hlt, rfl⟩, rfl⟩, ?_⟩
    have hvalue : (DecodedValue.decimal unscaled parameters.scale).toInput.asNumber
        = some ((unscaled : ℚ) * 10 ^ (-(parameters.scale : Int))) := by
      rw [DecodedValue.toInput, CanonicalInput.asNumber, value_finite]
      rcases decimalFromInput_value.mp (show (CanonicalInput.integer unscaled).asNumber
        = some (unscaled : ℚ) from rfl) with ⟨d, hd, hsigned⟩
      rw [decimalFromInput, Except.ok.injEq] at hd
      rw [← hd, value_finite, zpow_zero, mul_one, Option.some.injEq] at hsigned
      rw [hsigned]
    rw [hvalue, hq, ← hscaled, zpow_neg, zpow_natCast, mul_assoc, mul_inv_cancel₀, mul_one]
    exact pow_ne_zero _ (by norm_num)

/-- `DECIMAL(4, 0)`. -/
def fourDigits : DecimalParameters where
  precision := 4
  scale := 0
  precision_pos := Nat.le_add_right 1 3
  precision_le := Nat.le_add_right 4 34
  scale_le := by decide

theorem decimal_exactness_thousand :
    ∃ decoded, decodeDecimal (asciiBytes ['1', '0', '0', '0']) fourDigits = .ok decoded ∧
      decoded.toInput.asNumber = (PythonDecimal.finite false 1000 0).value :=
  (decimal_exactness fourDigits).2.2 (.integer 1000) (.finite false 1000 0) trivial rfl
    (asciiBytes ['1', '0', '0', '0']) (by decide)

/-- `1_000`. -/
def underscored : CanonicalInput := .text (codePoints ['1', '_', '0', '0', '0'])

/-- The decimal library reads `1_000` as the number that `DECIMAL(4, 0)` holds,
and the encoder refuses it. -/
theorem underscored_decimal_refused :
    ¬ ∀ (parameters : DecimalParameters) (value : CanonicalInput) (decimal : PythonDecimal),
      pythonDecimal value = some decimal →
      ((∃ payload, encodeDecimal value parameters = .ok payload) ↔
        ∃ q, decimal.value = some q ∧ ∃ unscaled, IsUnscaled parameters q unscaled) := by
  intro hclaim
  have hread : pythonDecimal underscored = some (.finite false 1000 0) := by decide
  have hexact : IsUnscaled fourDigits (1000 : ℚ) 1000 := by
    refine ⟨?_, by decide⟩
    rw [show fourDigits.scale = 0 from rfl]
    norm_num
  have hvalue : (PythonDecimal.finite false 1000 0).value = some (1000 : ℚ) := by
    rw [value_finite, signed]
    norm_num
  rcases (hclaim fourDigits underscored _ hread).mpr ⟨1000, hvalue, 1000, hexact⟩
    with ⟨payload, hpayload⟩
  have hrefused : ∀ payload, encodeDecimal underscored fourDigits ≠ .ok payload := by
    intro payload h
    rcases encodeDecimal_eq_ok.mp h with ⟨q, hq, -⟩
    have hnone : ((scalars (codePoints ['1', '_', '0', '0', '0'])).bind readDecimalNumeral)
        = none := by decide
    rw [underscored, CanonicalInput.asNumber, hnone] at hq
    simp at hq
  exact hrefused payload hpayload

end Exactness

end ForensicData.Canonical
