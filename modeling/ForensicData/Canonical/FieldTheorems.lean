/-
ForensicData.Canonical.FieldTheorems — payloads under any field.

The results on the single types, for a field of any type: a payload is encoded
from the inputs that denote its logical value (`encodePayload_eq_ok`) and
decoded to the canonical form of it (`decodePayload_eq_ok`), which denotes the
value again (`denotes_toInput`); under one field a value has one payload and a
payload one value.
-/
import ForensicData.Canonical.DecimalTheorems
import ForensicData.Canonical.InstantTheorems

namespace ForensicData.Canonical

open ForensicData.Lib
open Json (renderInt)

theorem exists_map_eq_some {α β : Type} {x : Option α} {f : α → β} {P : β → Prop} :
    (∃ b, x.map f = some b ∧ P b) ↔ ∃ a, x = some a ∧ P (f a) := by
  cases x <;> simp

theorem encodePayload_eq_ok {field : FieldSchema} {value : CanonicalInput} {payload : Bytes} :
    encodePayload field value = .ok payload ↔
      ∃ logical, denotes field value = some logical ∧ Renders field logical payload := by
  obtain ⟨name, logicalType, nullable, parameters, normalization, fits⟩ := field
  cases logicalType with
  | int64 =>
    refine Iff.trans ?_ exists_map_eq_some.symm
    exact encodeInt64_eq_ok
  | decimal =>
    cases parameters with
    | decimal parameters =>
      refine Iff.trans ?_ exists_map_eq_some.symm
      exact encodeDecimal_eq_ok
    | _ => cases fits
  | boolean =>
    refine Iff.trans ?_ exists_map_eq_some.symm
    exact encodeBoolean_eq_ok
  | string =>
    refine Iff.trans ?_ exists_map_eq_some.symm
    exact encodeString_eq_ok
  | date =>
    refine Iff.trans ?_ exists_map_eq_some.symm
    exact encodeDate_eq_ok
  | timestampLocal =>
    cases parameters with
    | timestamp parameters =>
      refine Iff.trans ?_ exists_map_eq_some.symm
      exact encodeTimestampLocal_eq_ok parameters.precision_le
    | _ => cases fits
  | timestampInstant =>
    cases parameters with
    | timestamp parameters =>
      refine Iff.trans ?_ exists_map_eq_some.symm
      exact encodeTimestampInstant_eq_ok parameters.precision_le
    | _ => cases fits

theorem IsUnscaled.unique {parameters : DecimalParameters} {q : ℚ} {a b : Int}
    (ha : IsUnscaled parameters q a) (hb : IsUnscaled parameters q b) : a = b := by
  have h := ha.1.symm.trans hb.1
  exact_mod_cast h

theorem IsUnscaled.value_unique {parameters : DecimalParameters} {q r : ℚ} {a : Int}
    (hq : IsUnscaled parameters q a) (hr : IsUnscaled parameters r a) : q = r := by
  have h := hq.1.trans hr.1.symm
  exact mul_right_cancel₀ (pow_ne_zero _ (by norm_num)) h

theorem IsMoment.unique {precision : ℕ} {nanos : Int} {m n : Moment}
    (hm : IsMoment precision nanos m) (hn : IsMoment precision nanos n) : m = n :=
  Moment.nanos_injective (hm.1.trans hn.1.symm)

/-- The number with these digits behind the point. -/
theorem isUnscaled_self (parameters : DecimalParameters) {unscaled : Int}
    (h : unscaled.natAbs < 10 ^ parameters.precision) :
    IsUnscaled parameters (unscaled * 10 ^ (-(parameters.scale : Int))) unscaled := by
  refine ⟨?_, h⟩
  rw [zpow_neg, zpow_natCast, mul_assoc, inv_mul_cancel₀ (pow_ne_zero _ (by norm_num)), mul_one]

theorem decodePayload_eq_ok {field : FieldSchema} {payload : Bytes} {decoded : DecodedValue} :
    decodePayload field payload = .ok decoded ↔
      ∃ logical, Renders field logical payload ∧ Decodes field logical decoded := by
  obtain ⟨name, logicalType, nullable, parameters, normalization, fits⟩ := field
  cases logicalType with
  | int64 =>
    refine Iff.trans decodeInt64_eq_ok ⟨?_, ?_⟩
    · rintro ⟨n, hrenders, hdecodes⟩
      exact ⟨.integer n, hrenders, hdecodes⟩
    · rintro ⟨logical, hrenders, hdecodes⟩
      cases logical with
      | integer n => exact ⟨n, hrenders, hdecodes⟩
      | _ => exact hrenders.elim
  | decimal =>
    cases parameters with
    | decimal parameters =>
      refine Iff.trans decodeDecimal_eq_ok ⟨?_, ?_⟩
      · rintro ⟨unscaled, ⟨hlt, hpayload⟩, hdecoded⟩
        have hself := isUnscaled_self parameters hlt
        exact ⟨.decimal _, ⟨unscaled, hself, hpayload⟩, unscaled, hself, hdecoded⟩
      · rintro ⟨logical, hrenders, hdecodes⟩
        cases logical with
        | decimal q =>
          obtain ⟨unscaled, hunscaled, hpayload⟩ := hrenders
          obtain ⟨other, hother, hdecoded⟩ := hdecodes
          rw [hother.unique hunscaled] at hdecoded
          exact ⟨unscaled, ⟨hunscaled.2, hpayload⟩, hdecoded⟩
        | _ => exact hrenders.elim
    | _ => cases fits
  | boolean =>
    refine Iff.trans decodeBoolean_eq_ok ⟨?_, ?_⟩
    · rintro ⟨b, hrenders, hdecodes⟩
      exact ⟨.boolean b, hrenders, hdecodes⟩
    · rintro ⟨logical, hrenders, hdecodes⟩
      cases logical with
      | boolean b => exact ⟨b, hrenders, hdecodes⟩
      | _ => exact hrenders.elim
  | string =>
    refine Iff.trans decodeString_eq_ok ⟨?_, ?_⟩
    · rintro ⟨text, ⟨hzero, hpayload⟩, hdecoded⟩
      exact ⟨.text (codePoints text.toList), ⟨text, rfl, hzero, hpayload⟩, text, rfl, hdecoded⟩
    · rintro ⟨logical, hrenders, hdecodes⟩
      cases logical with
      | text points =>
        obtain ⟨text, hpoints, hzero, hpayload⟩ := hrenders
        obtain ⟨other, hother, hdecoded⟩ := hdecodes
        have hsame : other = text :=
          String.toList_injective (codePoints_injective (hother.symm.trans hpoints))
        rw [hsame] at hdecoded
        exact ⟨text, ⟨hzero, hpayload⟩, hdecoded⟩
      | _ => exact hrenders.elim
  | date =>
    refine Iff.trans decodeDate_eq_ok ⟨?_, ?_⟩
    · rintro ⟨d, hrenders, hdecodes⟩
      exact ⟨.date d, hrenders, hdecodes⟩
    · rintro ⟨logical, hrenders, hdecodes⟩
      cases logical with
      | date d => exact ⟨d, hrenders, hdecodes⟩
      | _ => exact hrenders.elim
  | timestampLocal =>
    cases parameters with
    | timestamp parameters =>
      refine Iff.trans (decodeTimestampLocal_eq_ok parameters.precision_le) ⟨?_, ?_⟩
      · rintro ⟨moment, hrenders, hdecodes⟩
        exact ⟨.localTime moment, hrenders, hdecodes⟩
      · rintro ⟨logical, hrenders, hdecodes⟩
        cases logical with
        | localTime moment => exact ⟨moment, hrenders, hdecodes⟩
        | _ => exact hrenders.elim
    | _ => cases fits
  | timestampInstant =>
    cases parameters with
    | timestamp parameters =>
      refine Iff.trans (decodeTimestampInstant_eq_ok parameters.precision_le) ⟨?_, ?_⟩
      · rintro ⟨moment, ⟨hfits, hpayload⟩, hdecoded⟩
        exact ⟨.instant moment.nanos, ⟨moment, ⟨rfl, hfits⟩, hpayload⟩, moment, ⟨rfl, hfits⟩,
          hdecoded⟩
      · rintro ⟨logical, hrenders, hdecodes⟩
        cases logical with
        | instant nanos =>
          obtain ⟨moment, hmoment, hpayload⟩ := hrenders
          obtain ⟨other, hother, hdecoded⟩ := hdecodes
          rw [hother.unique hmoment] at hdecoded
          exact ⟨moment, ⟨hmoment.2, hpayload⟩, hdecoded⟩
        | _ => exact hrenders.elim
    | _ => cases fits

/-- A value with a payload has a canonical form. -/
theorem Renders.exists_decodes {field : FieldSchema} {logical : LogicalValue} {payload : Bytes}
    (h : Renders field logical payload) : ∃ decoded, Decodes field logical decoded := by
  obtain ⟨name, logicalType, nullable, parameters, normalization, fits⟩ := field
  cases logicalType with
  | int64 => cases logical with
    | integer n => exact ⟨_, rfl⟩
    | _ => exact h.elim
  | decimal => cases parameters with
    | decimal parameters => cases logical with
      | decimal q =>
        obtain ⟨unscaled, hunscaled, -⟩ := h
        exact ⟨_, unscaled, hunscaled, rfl⟩
      | _ => exact h.elim
    | _ => cases fits
  | boolean => cases logical with
    | boolean b => exact ⟨_, rfl⟩
    | _ => exact h.elim
  | string => cases logical with
    | text points =>
      obtain ⟨text, hpoints, -⟩ := h
      exact ⟨_, text, hpoints, rfl⟩
    | _ => exact h.elim
  | date => cases logical with
    | date d => exact ⟨_, rfl⟩
    | _ => exact h.elim
  | timestampLocal => cases parameters with
    | timestamp parameters => cases logical with
      | localTime moment => exact ⟨_, rfl⟩
      | _ => exact h.elim
    | _ => cases fits
  | timestampInstant => cases parameters with
    | timestamp parameters => cases logical with
      | instant nanos =>
        obtain ⟨moment, hmoment, -⟩ := h
        exact ⟨_, moment, hmoment, rfl⟩
      | _ => exact h.elim
    | _ => cases fits

/-- The canonical form of a value denotes it. -/
theorem denotes_toInput {field : FieldSchema} {logical : LogicalValue} {payload : Bytes}
    {decoded : DecodedValue} (hrenders : Renders field logical payload)
    (hdecodes : Decodes field logical decoded) : denotes field decoded.toInput = some logical := by
  obtain ⟨name, logicalType, nullable, parameters, normalization, fits⟩ := field
  cases logicalType with
  | int64 =>
    cases logical with
    | integer n =>
      obtain rfl : decoded = .integer n := hdecodes
      rfl
    | _ => exact hrenders.elim
  | decimal =>
    cases parameters with
    | decimal parameters =>
      cases logical with
      | decimal q =>
        obtain ⟨unscaled, hunscaled, rfl⟩ := hdecodes
        have hsigned : signed (decide (unscaled < 0)) unscaled.natAbs = unscaled := by
          have h := @decimalFromInput_value (.integer unscaled) unscaled
          simpa [CanonicalInput.asNumber, decimalFromInput, value_finite] using h
        have hvalue : (DecodedValue.decimal unscaled parameters.scale).toInput.asNumber = some q := by
          change some (signed (decide (unscaled < 0)) unscaled.natAbs *
            10 ^ (-(parameters.scale : Int))) = some q
          rw [hsigned, (isUnscaled_self parameters hunscaled.2).value_unique hunscaled]
        change (DecodedValue.decimal unscaled parameters.scale).toInput.asNumber.map _ = _
        rw [hvalue]
        rfl
      | _ => exact hrenders.elim
    | _ => cases fits
  | boolean =>
    cases logical with
    | boolean b =>
      obtain rfl : decoded = .boolean b := hdecodes
      rfl
    | _ => exact hrenders.elim
  | string =>
    cases logical with
    | text points =>
      obtain ⟨text, rfl, rfl⟩ := hdecodes
      rfl
    | _ => exact hrenders.elim
  | date =>
    cases logical with
    | date d =>
      obtain rfl : decoded = .date d := hdecodes
      rfl
    | _ => exact hrenders.elim
  | timestampLocal =>
    cases parameters with
    | timestamp parameters =>
      cases logical with
      | localTime moment =>
        obtain rfl : decoded = .text (String.ofList (moment.text parameters.precision)) := hdecodes
        simp only [denotes, DecodedValue.toInput, String.toList_ofList,
          asLocalTime_momentText parameters.precision_le hrenders.1, Option.map_some]
      | _ => exact hrenders.elim
    | _ => cases fits
  | timestampInstant =>
    cases parameters with
    | timestamp parameters =>
      cases logical with
      | instant nanos =>
        obtain ⟨moment, hmoment, rfl⟩ := hdecodes
        simp only [denotes, DecodedValue.toInput, String.toList_ofList,
          asInstant_momentText parameters.precision_le hmoment.2, hmoment.1, Option.map_some]
      | _ => exact hrenders.elim
    | _ => cases fits

/-- A value has one payload. -/
theorem Renders.functional {field : FieldSchema} {logical : LogicalValue} {p q : Bytes}
    (hp : Renders field logical p) (hq : Renders field logical q) : p = q := by
  obtain ⟨decoded, hdecoded⟩ := hp.exists_decodes
  have hinput := denotes_toInput hp hdecoded
  have hencode := encodePayload_eq_ok.mpr ⟨logical, hinput, hp⟩
  rw [encodePayload_eq_ok.mpr ⟨logical, hinput, hq⟩, Except.ok.injEq] at hencode
  exact hencode.symm

/-- A payload has one value. -/
theorem Renders.injective {field : FieldSchema} {v w : LogicalValue} {payload : Bytes}
    (hv : Renders field v payload) (hw : Renders field w payload) : v = w := by
  obtain ⟨dv, hdv⟩ := hv.exists_decodes
  obtain ⟨dw, hdw⟩ := hw.exists_decodes
  have hdecode := decodePayload_eq_ok.mpr ⟨v, hv, hdv⟩
  rw [decodePayload_eq_ok.mpr ⟨w, hw, hdw⟩, Except.ok.injEq] at hdecode
  subst hdecode
  have hdenotes := denotes_toInput hv hdv
  rw [denotes_toInput hw hdw, Option.some.injEq] at hdenotes
  exact hdenotes.symm

end ForensicData.Canonical
