/-
ForensicData.Canonical.DecimalTheorems — payloads of decimals.

A decimal is encoded exactly when its number times the power of ten of the
scale is an integer within the precision, whatever its coefficient and exponent
are; the payload is that integer (`encodeDecimal_eq_ok`).
-/
import ForensicData.Canonical.PayloadTheorems
import Mathlib.Tactic.FieldSimp
import Mathlib.Tactic.NormNum.Pow

namespace ForensicData.Canonical

open ForensicData.Lib
open Json (renderInt)

variable {parameters : DecimalParameters}

/-! ## Digits -/

theorem stripZeros_toDigits {n : ℕ} (hpos : 0 < n) :
    stripZeros (Nat.toDigits 10 n) = Nat.toDigits 10 n := by
  obtain ⟨c, cs, hdigits, -⟩ := toDigits_eq_cons n
  have hhead := head_toDigits hpos hdigits
  rw [hdigits, stripZeros, List.dropWhile_cons]
  simp [hhead]

theorem stripZerosOr_toDigits {n : ℕ} (hpos : 0 < n) :
    stripZerosOr (Nat.toDigits 10 n) = Nat.toDigits 10 n := by
  rw [stripZerosOr, stripZeros_toDigits hpos, if_neg Nat.toDigits_ne_nil]

theorem length_toDigits_lt_iff {n k : ℕ} (hk : 0 < k) :
    ¬ k < (Nat.toDigits 10 n).length ↔ n < 10 ^ k := by
  rw [Nat.not_lt]
  exact Nat.length_toDigits_le_iff (by omega) hk

/-- Scaling the digits of a number is multiplying it by the power of ten. -/
theorem scaleDigits_eq_ok {n : ℕ} (hpos : 0 < n) {shift : Int} {scaled : List Char}
    (h : scaleDigits (Nat.toDigits 10 n) shift parameters = .ok scaled) :
    ∃ m : ℕ, 0 < m ∧ (n : ℚ) * 10 ^ shift = m ∧ scaled = Nat.toDigits 10 m := by
  unfold scaleDigits at h
  split at h
  · rename_i hshift
    split at h
    · cases h
    · rw [Except.ok.injEq] at h
      subst h
      refine ⟨n * 10 ^ shift.toNat, Nat.mul_pos hpos (Nat.pow_pos (by omega)), ?_,
        (toDigits_mul_pow hpos _).symm⟩
      have hexponent : shift = (shift.toNat : Int) := by omega
      generalize shift.toNat = k at hexponent
      rw [hexponent, zpow_natCast]
      push_cast
      rfl
  · rename_i hshift
    dsimp only at h
    split at h
    · cases h
    · rename_i hlength
      split at h
      · cases h
      · rename_i hzeros
        rw [Except.ok.injEq] at h
        subst h
        have hends : ∀ c ∈ (Nat.toDigits 10 n).drop
            ((Nat.toDigits 10 n).length - (-shift).toNat), c = '0' := by
          intro c hc
          rw [Bool.not_eq_true, List.any_eq_false] at hzeros
          simpa using hzeros c hc
        obtain ⟨q, rfl⟩ := (ends_in_zeros_iff hpos).mp ⟨by omega, hends⟩
        have hq : 0 < q := Nat.pos_of_mul_pos_left hpos
        refine ⟨q, hq, ?_, ?_⟩
        · have hexponent : shift = -((-shift).toNat : Int) := by omega
          generalize (-shift).toNat = k at hexponent
          rw [hexponent, zpow_neg, zpow_natCast]
          push_cast
          field_simp
        · rw [Nat.mul_comm]
          exact take_toDigits_mul_pow hq

theorem scaleDigits_complete {n m : ℕ} (hpos : 0 < n) {shift : Int}
    (hscaled : (n : ℚ) * 10 ^ shift = m) (hlt : m < 10 ^ parameters.precision) :
    scaleDigits (Nat.toDigits 10 n) shift parameters = .ok (Nat.toDigits 10 m) := by
  unfold scaleDigits
  split
  · rename_i hshift
    have hexponent : shift = (shift.toNat : Int) := by omega
    generalize shift.toNat = k at hexponent
    subst hexponent
    rw [zpow_natCast] at hscaled
    have hm : n * 10 ^ k = m := by exact_mod_cast hscaled
    subst hm
    have hlength := (length_toDigits_lt_iff parameters.precision_pos).mpr hlt
    rw [toDigits_mul_pow hpos, List.length_append, List.length_replicate] at hlength
    rw [if_neg (by omega), toDigits_mul_pow hpos]
  · rename_i hshift
    have hexponent : shift = -((-shift).toNat : Int) := by omega
    generalize (-shift).toNat = k at hexponent
    subst hexponent
    rw [zpow_neg, zpow_natCast] at hscaled
    have hn : n = m * 10 ^ k := by
      have hvalue : (n : ℚ) = m * 10 ^ k := by
        rw [← hscaled]
        field_simp
      exact_mod_cast hvalue
    have hm : 0 < m := by
      rcases Nat.eq_zero_or_pos m with rfl | hm
      · omega
      · exact hm
    obtain ⟨hlength, hzeros⟩ := (ends_in_zeros_iff hpos).mpr ⟨m, by rw [hn, Nat.mul_comm]⟩
    have hall : ((Nat.toDigits 10 n).drop ((Nat.toDigits 10 n).length - k)).any (· != '0') =
        false := by
      rw [List.any_eq_false]
      intro c hc
      simp [hzeros c hc]
    dsimp only
    rw [if_neg (by omega), hall, if_neg (by simp), hn, take_toDigits_mul_pow hm]

/-! ## Finite decimals -/

/-- The number of a finite decimal. -/
def signed (negative : Bool) (coefficient : ℕ) : ℚ :=
  if negative then -(coefficient : ℚ) else coefficient

theorem signed_mul (negative : Bool) (n : ℕ) (factor : ℚ) {m : ℕ} (h : (n : ℚ) * factor = m) :
    signed negative n * factor = ((if negative then -(m : Int) else m : Int) : ℚ) := by
  cases negative with
  | false => simp [signed, h]
  | true => simp [signed, h]

theorem renderInt_signed (negative : Bool) {m : ℕ} (hpos : 0 < m) :
    (if negative then '-' :: Nat.toDigits 10 m else Nat.toDigits 10 m) =
      renderInt (if negative then -(m : Int) else m) := by
  unfold renderInt
  cases negative with
  | false =>
    have hsign : ¬ (m : Int) < 0 := by omega
    simp [hsign]
  | true =>
    have hsign : -(m : Int) < 0 := by omega
    simp [hpos]

theorem zpow_scale (exponent : Int) (scale : ℕ) (x : ℚ) :
    x * 10 ^ exponent * 10 ^ scale = x * 10 ^ (exponent + scale) := by
  rw [zpow_add₀ (by norm_num), zpow_natCast, mul_assoc]

theorem encodeScaled_eq_ok {negative : Bool} {n : ℕ} (hpos : 0 < n) {exponent : Int}
    {payload : Bytes} :
    encodeScaled negative (Nat.toDigits 10 n) exponent parameters = .ok payload ↔
      ∃ unscaled, IsUnscaled parameters (signed negative n * 10 ^ exponent) unscaled ∧
        payload = asciiBytes (renderInt unscaled) := by
  unfold encodeScaled IsUnscaled
  rw [bind_eq_ok]
  constructor
  · rintro ⟨scaled, hscaled, h⟩
    obtain ⟨m, hm, hvalue, rfl⟩ := scaleDigits_eq_ok hpos hscaled
    dsimp only at h
    rw [stripZerosOr_toDigits hm, bind_unit_eq_ok, refuseIf_eq_ok,
      length_toDigits_lt_iff parameters.precision_pos, Except.ok.injEq,
      renderInt_signed negative hm] at h
    refine ⟨_, ⟨?_, ?_⟩, h.2.symm⟩
    · rw [zpow_scale]
      exact signed_mul negative n _ hvalue
    · cases negative <;> simp [h.1]
  · rintro ⟨unscaled, ⟨hvalue, hlt⟩, rfl⟩
    rw [zpow_scale] at hvalue
    have hpositive : (0 : ℚ) < n * 10 ^ (exponent + parameters.scale) :=
      mul_pos (by exact_mod_cast hpos) (zpow_pos (by norm_num) _)
    have hm : (n : ℚ) * 10 ^ (exponent + parameters.scale) = unscaled.natAbs ∧
        unscaled = if negative then -(unscaled.natAbs : Int) else unscaled.natAbs := by
      cases negative with
      | false =>
        rw [signed, if_neg (by simp)] at hvalue
        rw [hvalue] at hpositive
        have hsign : 0 < unscaled := by exact_mod_cast hpositive
        have habs : (unscaled.natAbs : Int) = unscaled := by omega
        refine ⟨?_, by rw [if_neg (by simp), habs]⟩
        rw [hvalue, ← Int.cast_natCast, habs]
      | true =>
        rw [signed, if_pos rfl, neg_mul, neg_eq_iff_eq_neg] at hvalue
        rw [hvalue] at hpositive
        have hsign : unscaled < 0 := by
          have : (0 : ℚ) < ((-unscaled : Int) : ℚ) := by
            push_cast
            exact hpositive
          have : 0 < -unscaled := by exact_mod_cast this
          omega
        have habs : (unscaled.natAbs : Int) = -unscaled := by omega
        refine ⟨?_, by rw [if_pos rfl, habs, neg_neg]⟩
        rw [hvalue, ← Int.cast_natCast, habs, Int.cast_neg]
    obtain ⟨hscaled, hsign⟩ := hm
    have hpos' : 0 < unscaled.natAbs := by
      rcases Nat.eq_zero_or_pos unscaled.natAbs with hzero | hpos'
      · rw [hzero, Nat.cast_zero] at hscaled
        exact absurd hscaled (ne_of_gt hpositive)
      · exact hpos'
    refine ⟨_, scaleDigits_complete hpos hscaled hlt, ?_⟩
    dsimp only
    rw [stripZerosOr_toDigits hpos', bind_unit_eq_ok, refuseIf_eq_ok,
      length_toDigits_lt_iff parameters.precision_pos, renderInt_signed negative hpos',
      ← hsign]
    exact ⟨hlt, rfl⟩

/-- Encoding a decimal that has been converted from its input. -/
theorem encodeFinite_eq_ok {negative : Bool} {coefficient : ℕ} {exponent : Int} {payload : Bytes} :
    (if stripZeros (Nat.toDigits 10 coefficient) = [] then
        Except.ok (asciiBytes ['0'])
      else encodeScaled negative (stripZeros (Nat.toDigits 10 coefficient)) exponent parameters) =
        .ok payload ↔
      ∃ unscaled, IsUnscaled parameters (signed negative coefficient * 10 ^ exponent) unscaled ∧
        payload = asciiBytes (renderInt unscaled) := by
  rcases Nat.eq_zero_or_pos coefficient with rfl | hpos
  · have hzero : signed negative 0 = 0 := by cases negative <;> simp [signed]
    rw [if_pos (by decide), Except.ok.injEq]
    constructor
    · rintro rfl
      refine ⟨0, ⟨by simp [hzero], ?_⟩, rfl⟩
      exact Nat.pow_pos (by omega)
    · rintro ⟨unscaled, ⟨hvalue, -⟩, rfl⟩
      rw [hzero, zero_mul, zero_mul] at hvalue
      have : unscaled = 0 := by exact_mod_cast hvalue.symm
      subst this
      rfl
  · rw [stripZeros_toDigits hpos, if_neg Nat.toDigits_ne_nil, encodeScaled_eq_ok hpos]

/-! ## Inputs -/

theorem value_finite (negative : Bool) (coefficient : ℕ) (exponent : Int) :
    (PythonDecimal.finite negative coefficient exponent).value =
      some (signed negative coefficient * 10 ^ exponent) := rfl

theorem decimalFromInput_value {value : CanonicalInput} {q : ℚ} :
    value.asNumber = some q ↔
      ∃ decimal, decimalFromInput value = .ok decimal ∧ decimal.value = some q := by
  cases value with
  | integer n =>
    simp only [CanonicalInput.asNumber, decimalFromInput, Except.ok.injEq, exists_eq_left',
      value_finite, zpow_zero, mul_one]
    have hsigned : signed (decide (n < 0)) n.natAbs = n := by
      unfold signed
      split
      · rename_i hnegative
        rw [decide_eq_true_eq] at hnegative
        have habs : (n.natAbs : Int) = -n := by omega
        rw [← Int.cast_natCast, habs, Int.cast_neg, neg_neg]
      · rename_i hnegative
        rw [decide_eq_true_eq] at hnegative
        have habs : (n.natAbs : Int) = n := by omega
        rw [← Int.cast_natCast, habs]
    rw [hsigned]
  | decimal d => simp [CanonicalInput.asNumber, decimalFromInput]
  | text text =>
    simp only [CanonicalInput.asNumber, decimalFromInput]
    cases (scalars text).bind readDecimalNumeral with
    | none => simp
    | some numeral =>
      simp only [Option.bind_some]
      cases numeral.decimal <;> simp
  | _ => simp [CanonicalInput.asNumber, decimalFromInput]

/-- A native integer within the precision passes the check made before it is
converted. -/
theorem requireUnscaledBound_of_isUnscaled {value : CanonicalInput} {q : ℚ} {unscaled : Int}
    (hvalue : value.asNumber = some q) (h : IsUnscaled parameters q unscaled) :
    requireUnscaledBound value parameters = .ok () := by
  cases value with
  | integer n =>
    rw [requireUnscaledBound, refuseIf_eq_ok, not_not]
    rw [CanonicalInput.asNumber, Option.some.injEq] at hvalue
    subst hvalue
    obtain ⟨hscaled, hlt⟩ := h
    have hscaled : n * 10 ^ parameters.scale = unscaled := by exact_mod_cast hscaled
    have hsplit : 10 ^ parameters.precision =
        10 ^ (parameters.precision - parameters.scale) * 10 ^ parameters.scale := by
      rw [← pow_add, Nat.sub_add_cancel parameters.scale_le]
    have habs : n.natAbs * 10 ^ parameters.scale <
        10 ^ (parameters.precision - parameters.scale) * 10 ^ parameters.scale := by
      rw [← hsplit]
      rw [← hscaled, Int.natAbs_mul, Int.natAbs_pow] at hlt
      exact hlt
    have hbound := Nat.lt_of_mul_lt_mul_right habs
    have hcast : (n.natAbs : Int) < 10 ^ (parameters.precision - parameters.scale) := by
      exact_mod_cast hbound
    omega
  | _ => rfl

theorem encodeDecimal_eq_ok {value : CanonicalInput} {payload : Bytes} :
    encodeDecimal value parameters = .ok payload ↔
      ∃ q, value.asNumber = some q ∧ ∃ unscaled, IsUnscaled parameters q unscaled ∧
        payload = asciiBytes (renderInt unscaled) := by
  unfold encodeDecimal
  rw [bind_unit_eq_ok, bind_eq_ok]
  constructor
  · rintro ⟨-, decimal, hdecimal, h⟩
    cases decimal with
    | nonFinite => cases h
    | finite negative coefficient exponent =>
      exact ⟨_, decimalFromInput_value.mpr ⟨_, hdecimal, rfl⟩, encodeFinite_eq_ok.mp h⟩
  · rintro ⟨q, hq, hpayload⟩
    obtain ⟨unscaled, hunscaled, -⟩ := id hpayload
    refine ⟨requireUnscaledBound_of_isUnscaled hq hunscaled, ?_⟩
    obtain ⟨decimal, hdecimal, hvalue⟩ := decimalFromInput_value.mp hq
    refine ⟨decimal, hdecimal, ?_⟩
    cases decimal with
    | nonFinite => simp [PythonDecimal.value] at hvalue
    | finite negative coefficient exponent =>
      rw [value_finite, Option.some.injEq] at hvalue
      subst hvalue
      exact encodeFinite_eq_ok.mpr hpayload

theorem decodeDecimal_eq_ok {payload : Bytes} {decoded : DecodedValue} :
    decodeDecimal payload parameters = .ok decoded ↔
      ∃ unscaled : Int, (unscaled.natAbs < 10 ^ parameters.precision ∧
        payload = asciiBytes (renderInt unscaled)) ∧
          decoded = .decimal unscaled parameters.scale := by
  unfold decodeDecimal
  rw [bind_eq_ok]
  constructor
  · rintro ⟨text, htext, h⟩
    obtain ⟨-, rfl⟩ := decodeAscii_eq_ok.mp htext
    simp only [bind_unit_eq_ok, refuseIf_eq_ok, Bool.not_eq_false, Except.ok.injEq] at h
    obtain ⟨hcanonical, hlength, rfl⟩ := h
    obtain ⟨n, rfl⟩ := isIntegerText_iff.mp hcanonical
    rw [absoluteDigits_renderInt, length_toDigits_lt_iff parameters.precision_pos] at hlength
    exact ⟨n, ⟨hlength, rfl⟩, by rw [readInt_renderInt]⟩
  · rintro ⟨n, ⟨hlt, rfl⟩, rfl⟩
    refine ⟨renderInt n, decodeAscii_eq_ok.mpr ⟨isAscii_renderInt n, rfl⟩, ?_⟩
    simp only [bind_unit_eq_ok, refuseIf_eq_ok, Bool.not_eq_false, Except.ok.injEq]
    refine ⟨isIntegerText_renderInt n, ?_, by rw [readInt_renderInt]⟩
    rw [absoluteDigits_renderInt, length_toDigits_lt_iff parameters.precision_pos]
    exact hlt

end ForensicData.Canonical
