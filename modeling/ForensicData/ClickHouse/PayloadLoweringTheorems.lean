/-
ForensicData.ClickHouse.PayloadLoweringTheorems — the payload expressions are exact.

A stored value denotes a logical value by its physical type (`CellDenotes`), and
a lowering is exact where it is valid for the values that have a payload and
then yields that payload (`PayloadLowering.Exact`). Every lowering of a mapped
column is exact (`payloadLowering_exact`): the numbers by their unscaled
integers, the timestamps by the one moment their ticks name.
-/
import ForensicData.ClickHouse.Lowering

namespace ForensicData.ClickHouse

open ForensicData.Canonical
open ForensicData.Lib
open Json (renderInt)

/-- The values a column of the type stores. A `Decimal` may be any number of its width. -/
def Stores (baseType : String) : ClickHouseValue → Prop
  | .int64 value => baseType = "Int64" ∧ IsInt64 value
  | .decimal unscaled => ∃ physical, parseClickHouseDecimalType baseType = .ok physical ∧
      -(2 ^ (clickHouseDecimalReinterpretBits physical.precision - 1)) ≤ unscaled ∧
        unscaled < 2 ^ (clickHouseDecimalReinterpretBits physical.precision - 1)
  | .bool _ => baseType = "Bool"
  | .string bytes => baseType = "String" ∧ bytes.length ≤ uint64Max
  | .date _ => baseType = "Date" ∨ baseType = "Date32"
  | .dateTime64 ticks => ∃ declaration,
      parseClickHouseDateTime64Declaration baseType = .ok declaration ∧ IsInt64 ticks

/-- What a stored value means. -/
def CellDenotes (baseType : String) : ClickHouseValue → LogicalValue → Prop
  | .int64 value, .integer n => n = value
  | .decimal unscaled, .decimal q => ∃ physical,
      parseClickHouseDecimalType baseType = .ok physical ∧ q * 10 ^ physical.scale = unscaled
  | .bool value, .boolean b => b = value
  | .string bytes, .text points => ∃ text : String,
      points = codePoints text.toList ∧ bytes = utf8Encode text
  | .date day, .date d => (d.toOrdinal : Int) = day
  | .dateTime64 ticks, .localTime moment => ∃ declaration,
      parseClickHouseDateTime64Declaration baseType = .ok declaration ∧
        moment.nanos = tickNanos declaration.1 ticks
  | .dateTime64 ticks, .instant nanos => ∃ declaration,
      parseClickHouseDateTime64Declaration baseType = .ok declaration ∧
        nanos = tickNanos declaration.1 ticks
  | _, _ => False

/-- The lowering is valid where the value has a payload, and then yields it. -/
def PayloadLowering.Exact (lowering : PayloadLowering) (field : FieldSchema) (baseType : String)
    (value : ClickHouseValue) : Prop :=
  ∀ payload, lowering.isValid = true ∧ lowering.payload = payload ↔
    ∃ logical, CellDenotes baseType value logical ∧ Renders field logical payload

variable {functions : ClickHouseFunctions} {field : FieldSchema}
  {binding : ClickHouseCanonicalFieldBinding} {value : ClickHouseValue}

theorem length_renderInt (n : Int) :
    ((renderInt n).length : Int) - (if n < 0 then 1 else 0) =
      (Nat.toDigits 10 n.natAbs).length := by
  unfold renderInt
  split <;> simp

theorem renderInt_mul_pow {n : Int} (hn : n ≠ 0) (k : ℕ) :
    renderInt (n * 10 ^ k) = renderInt n ++ List.replicate k '0' := by
  have hpos : 0 < n.natAbs := Int.natAbs_pos.mpr hn
  have hpow : (0 : Int) < 10 ^ k := by positivity
  unfold renderInt
  rw [Int.natAbs_mul, Int.natAbs_pow, show (10 : Int).natAbs = 10 from rfl,
    toDigits_mul_pow hpos]
  have hsign : n * 10 ^ k < 0 ↔ n < 0 := by
    constructor
    · intro h
      exact neg_of_mul_neg_left h hpow.le
    · intro h
      exact mul_neg_of_neg_of_pos h hpow
  by_cases h : n < 0
  · rw [if_pos h, if_pos (hsign.mpr h), List.cons_append]
  · rw [if_neg h, if_neg (mt hsign.mp h)]

theorem natAbs_lt_iff {n : Int} {bound : ℕ} :
    n.natAbs < 10 ^ bound ↔ -(10 ^ bound : Int) < n ∧ n < 10 ^ bound := by
  have hbound : ((10 ^ bound : ℕ) : Int) = 10 ^ bound := by push_cast; rfl
  omega

/-- The quotient that leaves no remainder. -/
theorem mul_eq_iff_tdiv {n u divisor : Int} (hpos : 0 < divisor) :
    n * divisor = u ↔ u.tmod divisor = 0 ∧ n = u.tdiv divisor := by
  constructor
  · intro h
    rw [← h]
    exact ⟨Int.mul_tmod_left n divisor, (Int.mul_tdiv_cancel n hpos.ne').symm⟩
  · intro h
    obtain ⟨hmod, rfl⟩ := h
    have hsum := Int.tmod_add_tdiv_mul u divisor
    rwa [hmod, zero_add] at hsum

/-- A number a column stores is not changed by reading its bits. -/
theorem reinterpretAsInt_eq {bits : ℕ} (hbits : 0 < bits) (hlow : -(2 ^ (bits - 1)) ≤ value.raw)
    (hhigh : value.raw < 2 ^ (bits - 1)) : value.reinterpretAsInt bits = value.raw := by
  unfold ClickHouseValue.reinterpretAsInt
  obtain ⟨half, rfl⟩ : ∃ half, bits = half + 1 := ⟨bits - 1, by omega⟩
  simp only [Nat.add_sub_cancel] at hlow hhigh
  have hpow : ((2 ^ half : ℕ) : Int) = 2 ^ half := by push_cast; rfl
  rw [Int.bmod_eq_of_le]
  · rw [Nat.pow_succ]
    omega
  · rw [Nat.pow_succ]
    omega

/-- The unscaled numbers of the logical value -/
theorem cellDenotes_decimal {baseType : String} {physical : ClickHouseDecimalType}
    (hparse : parseClickHouseDecimalType baseType = .ok physical)
    {parameters : DecimalParameters} {unscaled : Int} {payload : Bytes}
    (hlogical : field.logicalType = .decimal)
    (hparameters : field.parameters = .decimal parameters) :
    (∃ logical, CellDenotes baseType (.decimal unscaled) logical ∧
        Renders field logical payload) ↔
      ∃ n : Int, n * 10 ^ physical.scale = unscaled * 10 ^ parameters.scale ∧
        n.natAbs < 10 ^ parameters.precision ∧ payload = asciiBytes (renderInt n) := by
  unfold Renders
  rw [hlogical, hparameters]
  have hphysical : (10 : ℚ) ^ physical.scale ≠ 0 := by positivity
  have hscale : (10 : ℚ) ^ parameters.scale ≠ 0 := by positivity
  constructor
  · intro h
    obtain ⟨logical, hdenotes, hrenders⟩ := h
    cases logical with
    | decimal q =>
      obtain ⟨other, hother, hq⟩ := hdenotes
      obtain rfl := Except.ok.inj (hother.symm.trans hparse)
      obtain ⟨n, ⟨hn, hlt⟩, hpayload⟩ := hrenders
      refine ⟨n, ?_, hlt, hpayload⟩
      have hcast : (n : ℚ) * 10 ^ other.scale = unscaled * 10 ^ parameters.scale := by
        rw [← hn, ← hq]
        ring
      exact_mod_cast hcast
    | _ => exact hrenders.elim
  · intro h
    obtain ⟨n, hn, hlt, hpayload⟩ := h
    have hcast : (n : ℚ) * 10 ^ physical.scale = unscaled * 10 ^ parameters.scale := by
      exact_mod_cast hn
    refine ⟨.decimal (n / 10 ^ parameters.scale), ⟨physical, hparse, ?_⟩, n, ⟨?_, hlt⟩,
      hpayload⟩
    · rw [div_mul_eq_mul_div, hcast, mul_div_assoc, div_self hscale, mul_one]
    · rw [div_mul_cancel₀ _ hscale]

theorem decimalPayloadLowering_exact {baseType : String} {physical : ClickHouseDecimalType}
    (hparse : parseClickHouseDecimalType baseType = .ok physical)
    {parameters : DecimalParameters} {unscaled : Int}
    (hlogical : field.logicalType = .decimal) (hparameters : field.parameters = .decimal parameters)
    (hstores : Stores baseType (.decimal unscaled)) :
    (decimalPayloadLowering parameters physical (.decimal unscaled)).Exact field baseType
      (.decimal unscaled) := by
  intro payload
  rw [cellDenotes_decimal hparse hlogical hparameters]
  obtain ⟨other, hother, hlow, hhigh⟩ := hstores
  obtain rfl := Except.ok.inj (hother.symm.trans hparse)
  have hbits : 0 < clickHouseDecimalReinterpretBits other.precision := by
    unfold clickHouseDecimalReinterpretBits
    split
    · omega
    split
    · omega
    split <;> omega
  have hraw : (ClickHouseValue.decimal unscaled).reinterpretAsInt
      (clickHouseDecimalReinterpretBits other.precision) = unscaled :=
    reinterpretAsInt_eq hbits hlow hhigh
  unfold decimalPayloadLowering toStringInt
  simp only [hraw]
  have hpos : (0 : Int) < 10 ^ other.scale := by positivity
  split
  · -- the logical scale has more digits
    rename_i hless
    obtain ⟨delta, hdelta⟩ : ∃ delta, parameters.scale = other.scale + delta :=
      ⟨parameters.scale - other.scale, by omega⟩
    have hsub : parameters.scale - other.scale = delta := by omega
    have hn : ∀ n : Int, n * 10 ^ other.scale = unscaled * 10 ^ parameters.scale ↔
        n = unscaled * 10 ^ delta := by
      intro n
      rw [hdelta, pow_add, mul_comm (10 ^ other.scale : Int), ← mul_assoc]
      exact mul_left_inj' hpos.ne'
    simp only [hn, exists_eq_left, hsub]
    by_cases hzero : unscaled = 0
    · subst hzero
      have hbound : (0 : ℕ) < 10 ^ parameters.precision := by positivity
      rw [zero_mul]
      simp only [decide_true, Bool.true_or, true_and, if_true, Int.natAbs_zero, hbound]
      exact eq_comm
    · rw [renderInt_mul_pow hzero, if_neg hzero, Bool.or_eq_true, decide_eq_true_eq,
        decide_eq_true_eq, length_renderInt, or_iff_right hzero, Int.natAbs_mul, Int.natAbs_pow,
        show (10 : Int).natAbs = 10 from rfl,
        ← Nat.length_toDigits_le_iff (show 1 < 10 by omega) parameters.precision_pos,
        toDigits_mul_pow (Int.natAbs_pos.mpr hzero), List.length_append, List.length_replicate]
      refine and_congr ?_ eq_comm
      omega
  · split
    · rename_i hequal
      have hn : ∀ n : Int, n * 10 ^ other.scale = unscaled * 10 ^ parameters.scale ↔
          n = unscaled := by
        intro n
        rw [hequal]
        exact mul_left_inj' (hequal ▸ hpos.ne')
      simp only [hn, exists_eq_left, natAbs_lt_iff, Bool.and_eq_true, decide_eq_true_eq]
      exact and_congr_right fun _ => eq_comm
    · rename_i hless hequal
      obtain ⟨delta, hdelta⟩ : ∃ delta, other.scale = parameters.scale + delta :=
        ⟨other.scale - parameters.scale, by omega⟩
      have hsub : other.scale - parameters.scale = delta := by omega
      rw [hsub]
      have hdivisor : (0 : Int) < 10 ^ delta := by positivity
      have hn : ∀ n : Int, n * 10 ^ other.scale = unscaled * 10 ^ parameters.scale ↔
          unscaled.tmod (10 ^ delta) = 0 ∧ n = unscaled.tdiv (10 ^ delta) := by
        intro n
        have hscale : (0 : Int) < 10 ^ parameters.scale := by positivity
        rw [hdelta, pow_add, mul_comm (10 ^ parameters.scale : Int), ← mul_assoc,
          mul_left_inj' hscale.ne']
        exact mul_eq_iff_tdiv hdivisor
      simp only [hn, natAbs_lt_iff, Bool.and_eq_true, decide_eq_true_eq]
      constructor
      · intro h
        obtain ⟨⟨⟨hmod, hlow⟩, hhigh⟩, hpayload⟩ := h
        exact ⟨_, ⟨hmod, rfl⟩, ⟨hlow, hhigh⟩, hpayload.symm⟩
      · intro h
        obtain ⟨n, ⟨hmod, rfl⟩, ⟨hlow, hhigh⟩, hpayload⟩ := h
        exact ⟨⟨⟨hmod, hlow⟩, hhigh⟩, hpayload.symm⟩

/-! ## Dates -/

/-- The first digits of a year are not zeros. -/
theorem take_dateDigits_ne (d : Date) (rest : List Char) :
    (formatDate d ++ rest).take 4 ≠ ['0', '0', '0', '0'] := by
  intro h
  unfold formatDate dateDigits at h
  rw [List.append_assoc, List.take_left' (length_fixedDigits _ _ _)] at h
  have hyear : fixedDigits 10 4 d.year = fixedDigits 10 4 0 := h
  have hzero := fixedDigits_injective (by omega) (by omega) (date_fits d).1 (by omega) hyear
  have := d.year_pos
  omega

theorem length_formatDate (d : Date) : (formatDate d).length = 10 := by
  simp [formatDate, dateDigits]

theorem datePayload_exact {day : Int} (hlogical : field.logicalType = .date) :
    (PayloadLowering.mk (decide ((functions.dateText day).length = 10) &&
      decide ((functions.dateText day).take 4 ≠ ['0', '0', '0', '0']))
      (asciiBytes (functions.dateText day))).Exact field binding.baseType (.date day) := by
  intro payload
  unfold Renders
  rw [hlogical]
  simp only [Bool.and_eq_true, decide_eq_true_eq]
  constructor
  · intro h
    obtain ⟨⟨hlength, hyear⟩, hpayload⟩ := h
    by_cases hday : ∃ d : Date, (d.toOrdinal : Int) = day
    · obtain ⟨d, rfl⟩ := hday
      rw [functions.date_exact] at hpayload
      exact ⟨.date d, rfl, hpayload.symm⟩
    · exact absurd (functions.date_other day (fun d hd => hday ⟨d, hd⟩) hlength) hyear
  · intro h
    obtain ⟨logical, hdenotes, hrenders⟩ := h
    cases logical with
    | date d =>
      obtain rfl : (d.toOrdinal : Int) = day := hdenotes
      rw [functions.date_exact]
      have hyear := take_dateDigits_ne d []
      rw [List.append_nil] at hyear
      exact ⟨⟨length_formatDate d, hyear⟩, hrenders.symm⟩
    | _ => exact hrenders.elim

/-! ## Timestamps -/

theorem replaceOneBlank_append {a : List Char} (h : ' ' ∉ a) (b : List Char) :
    replaceOneBlank (a ++ ' ' :: b) = a ++ 'T' :: b := by
  induction a with
  | nil => simp [replaceOneBlank]
  | cons c a ih =>
    rw [List.mem_cons, not_or] at h
    rw [List.cons_append, replaceOneBlank, if_neg (Ne.symm h.1), ih h.2, List.cons_append]

theorem blank_notMem_formatDate (d : Date) : ' ' ∉ formatDate d := by
  have hdigits : ∀ width n, ' ' ∉ fixedDigits 10 width n := by
    intro width n h
    exact absurd (isDigitOf_of_mem_fixedDigits (by omega) (by omega) h) (by decide)
  simp [formatDate, dateDigits, hdigits]

theorem replaceOneBlank_spacedText (moment : Moment) (precision : ℕ) :
    replaceOneBlank (spacedText moment precision) = moment.text precision :=
  replaceOneBlank_append (blank_notMem_formatDate moment.second.date) _

theorem length_fractionText (digits : List Char) :
    (fractionText digits).length = if digits.length = 0 then 0 else digits.length + 1 := by
  cases digits <;> simp [fractionText]

/-- The text up to the whole second. -/
def secondText (moment : Moment) : List Char :=
  formatDate moment.second.date ++ ' ' ::
    clockDigits moment.second.hour moment.second.minute moment.second.second

theorem length_secondText (moment : Moment) : (secondText moment).length = 19 := by
  simp [secondText, formatDate, dateDigits, clockDigits]

theorem spacedText_eq (moment : Moment) (precision : ℕ) :
    spacedText moment precision =
      secondText moment ++ fractionText (moment.fraction precision) := by
  simp [spacedText, secondText, Moment.stamp, formatDate]

theorem length_fraction (moment : Moment) (precision : ℕ) :
    (moment.fraction precision).length = precision := length_fixedDigits _ _ _

theorem length_spacedText (moment : Moment) (precision : ℕ) :
    (spacedText moment precision).length = timestampLength precision := by
  rw [spacedText_eq, List.length_append, length_secondText, length_fractionText, length_fraction,
    timestampLength]

theorem take_spacedText_ne (moment : Moment) (precision : ℕ) :
    (spacedText moment precision).take 4 ≠ ['0', '0', '0', '0'] :=
  take_dateDigits_ne moment.second.date _

/-- The fraction with another number of digits. -/
theorem fraction_eq (moment : Moment) {p q : ℕ} (hp : p ≤ 9) (hq : q ≤ 9) (hfits : moment.Fits p)
    (hfits' : moment.Fits q) :
    moment.fraction q = (moment.fraction p).take q ++ List.replicate (q - p) '0' := by
  have hfit := (@fit_moment (moment.fraction p) (moment.fraction q) q hq
    (by rw [length_fraction]; exact hp)
    (fun c hc => isDigitOf_of_mem_fixedDigits (by omega) (by omega) hc) moment
    (moment.fractionNanos_fraction hp hfits)).mpr ⟨hfits', rfl⟩
  unfold fitDigits at hfit
  split at hfit
  · rw [Option.some.injEq, List.length_take, length_fraction] at hfit
    rw [← hfit]
    congr 2
    omega
  · cases hfit

theorem spacedText_take (moment : Moment) {p q : ℕ} (hp : p ≤ 9) (hqp : q < p)
    (hfits : moment.Fits p) (hfits' : moment.Fits q) :
    (spacedText moment p).take (timestampLength q) = spacedText moment q := by
  have hfraction := fraction_eq moment hp (by omega) hfits hfits'
  rw [Nat.sub_eq_zero_of_le (by omega), List.replicate_zero, List.append_nil] at hfraction
  rw [spacedText_eq, spacedText_eq, List.take_append, length_secondText,
    List.take_of_length_le (by rw [length_secondText, timestampLength]; omega), hfraction]
  congr 1
  have hlength := length_fraction moment p
  cases hdigits : moment.fraction p with
  | nil => simp [fractionText]
  | cons c cs =>
    rw [timestampLength, Nat.add_sub_cancel_left]
    cases q with
    | zero => rfl
    | succ q => rfl

theorem spacedText_pad (moment : Moment) {p q : ℕ} (hq : q ≤ 9) (hpq : p < q)
    (hfits : moment.Fits p) (hfits' : moment.Fits q) :
    spacedText moment q =
      if p = 0 then spacedText moment p ++ '.' :: List.replicate q '0'
      else spacedText moment p ++ List.replicate (q - p) '0' := by
  have hfraction := fraction_eq moment (by omega) hq hfits hfits'
  rw [List.take_of_length_le (by rw [length_fraction]; omega)] at hfraction
  rw [spacedText_eq, spacedText_eq, hfraction]
  have hlength := length_fraction moment p
  split
  · rename_i hzero
    subst hzero
    obtain ⟨q, rfl⟩ : ∃ n, q = n + 1 := ⟨q - 1, by omega⟩
    rw [List.length_eq_zero_iff] at hlength
    simp [hlength, fractionText, List.replicate_succ]
  · cases hdigits : moment.fraction p with
    | nil =>
      rw [hdigits] at hlength
      simp at hlength
      omega
    | cons c cs => simp [fractionText]

/-- A moment that ticks name is a whole number of ticks in its second. -/
theorem fits_iff_of_ticks {moment : Moment} {p q : ℕ} {ticks : Int} (hp : p ≤ 9) (hqp : q ≤ p)
    (hnanos : moment.nanos = tickNanos p ticks) :
    moment.Fits q ↔ (10 ^ (p - q) : Int) ∣ ticks := by
  obtain ⟨seconds, hseconds⟩ := moment.second_micros_dvd
  have hunit : (10 ^ (9 - q) : Int) = 10 ^ (p - q) * 10 ^ (9 - p) := by
    rw [← pow_add]
    congr 1
    omega
  have hwhole : (10 ^ (9 - q) : Int) ∣ 10 ^ 9 := pow_dvd_pow _ (by omega)
  have hpos : (10 ^ (9 - p) : Int) ≠ 0 := by positivity
  have hsum : (moment.nanosecond : Int) =
      ticks * 10 ^ (9 - p) + (719163 * 86400 - seconds) * 10 ^ 9 := by
    unfold Moment.nanos tickNanos unixEpochNanos at hnanos
    rw [hseconds] at hnanos
    generalize ticks * 10 ^ (9 - p) = offset at hnanos ⊢
    omega
  unfold Moment.Fits
  rw [← Int.natCast_dvd_natCast]
  push_cast
  rw [hsum, Int.dvd_add_left (Dvd.dvd.mul_left hwhole _), hunit, mul_dvd_mul_iff_right hpos]

theorem fits_of_ticks {moment : Moment} {p : ℕ} {ticks : Int} (hp : p ≤ 9)
    (hnanos : moment.nanos = tickNanos p ticks) : moment.Fits p := by
  rw [fits_iff_of_ticks hp le_rfl hnanos, Nat.sub_self, pow_zero]
  exact one_dvd ticks

theorem fits_mono {moment : Moment} {p q : ℕ} (hpq : p ≤ q) (h : moment.Fits p) :
    moment.Fits q := (pow_dvd_pow 10 (by omega)).trans h

/-- The payload of a timestamp, before the mark of the time zone. -/
def timestampBody (field : FieldSchema) (moment : Moment) (precision : ℕ) : Bytes :=
  asciiBytes (if field.logicalType = .timestampInstant then moment.text precision ++ ['Z']
    else moment.text precision)

theorem timestampPayloadLowering_spec {parameters : TimestampParameters} {p : ℕ} {ticks : Int}
    (hp : p ≤ 9) (hticks : IsInt64 ticks) {timezone : String}
    (hzone : field.logicalType = .timestampInstant ∨ timezone = "UTC") (payload : Bytes) :
    (timestampPayloadLowering functions field parameters timezone p
        (.dateTime64 ticks)).isValid = true ∧
      (timestampPayloadLowering functions field parameters timezone p
        (.dateTime64 ticks)).payload = payload ↔
      ∃ moment : Moment, moment.nanos = tickNanos p ticks ∧ moment.Fits parameters.precision ∧
        payload = timestampBody field moment parameters.precision := by
  have hutc : (if field.logicalType = .timestampInstant then "UTC" else timezone) = "UTC" := by
    rcases hzone with h | h
    · exact if_pos h
    · split
      · rfl
      · exact h
  have hraw : (ClickHouseValue.dateTime64 ticks).reinterpretAsInt 64 = ticks := by
    refine reinterpretAsInt_eq (by omega) ?_ ?_
    · exact hticks.1
    · have hhigh := hticks.2
      unfold int64Max at hhigh
      show ticks < 2 ^ 63
      omega
  unfold timestampPayloadLowering timestampBody
  simp only [hutc, hraw, show (ClickHouseValue.dateTime64 ticks).raw = ticks from rfl]
  by_cases hmoment : ∃ moment : Moment, moment.nanos = tickNanos p ticks
  · obtain ⟨moment, hnanos⟩ := hmoment
    have hfits := fits_of_ticks hp hnanos
    -- the moment is the only one at its place
    have hunique : ∀ P : Moment → Prop,
        (∃ other : Moment, other.nanos = tickNanos p ticks ∧ P other) ↔ P moment := by
      intro P
      constructor
      · intro h
        obtain ⟨other, hother, h⟩ := h
        rwa [Moment.nanos_injective (hother.trans hnanos.symm)] at h
      · intro h
        exact ⟨moment, hnanos, h⟩
    rw [hunique, functions.time_exact p ticks moment hp hnanos]
    simp only [length_spacedText, take_spacedText_ne, decide_true, Bool.true_and, ne_eq,
      not_false_eq_true]
    -- what the three cases make of the text
    have hcases : ∀ pair : Bool × List Char,
        pair = (if parameters.precision < p then
            (decide (ticks.tmod (10 ^ (p - parameters.precision)) = 0),
              (spacedText moment p).take (timestampLength parameters.precision))
          else if p < parameters.precision then
            (true, if p = 0 then
                spacedText moment p ++ '.' :: List.replicate parameters.precision '0'
              else spacedText moment p ++ List.replicate (parameters.precision - p) '0')
          else (true, spacedText moment p)) →
        (pair.1 = true ↔ moment.Fits parameters.precision) ∧
          (moment.Fits parameters.precision → pair.2 = spacedText moment parameters.precision) := by
      intro pair hpair
      split at hpair
      · rename_i hless
        subst hpair
        rw [decide_eq_true_eq, fits_iff_of_ticks hp hless.le hnanos, Int.dvd_iff_tmod_eq_zero]
        exact ⟨Iff.rfl, fun h => spacedText_take moment hp hless hfits
          ((fits_iff_of_ticks hp hless.le hnanos).mpr (Int.dvd_iff_tmod_eq_zero.mpr h))⟩
      · rename_i hle
        have hfits' := fits_mono (Nat.le_of_not_lt hle) hfits
        split at hpair
        · rename_i hgreater
          subst hpair
          exact ⟨iff_of_true rfl hfits', fun _ =>
            (spacedText_pad moment parameters.precision_le hgreater hfits hfits').symm⟩
        · subst hpair
          exact ⟨iff_of_true rfl hfits', fun _ =>
            congrArg (spacedText moment) (show p = parameters.precision by omega)⟩
    generalize hpair : (if parameters.precision < p then _ else _ : Bool × List Char) = pair
    obtain ⟨hvalid, htext⟩ := hcases pair hpair.symm
    rw [hvalid]
    refine and_congr_right fun hfit => ?_
    rw [htext hfit, replaceOneBlank_spacedText]
    exact eq_comm
  · have hnone : ∀ moment : Moment, moment.nanos ≠ tickNanos p ticks :=
      fun moment h => hmoment ⟨moment, h⟩
    constructor
    · intro h
      exfalso
      have hvalid : (functions.dateTimeText "UTC" p ticks).length = timestampLength p ∧
          (functions.dateTimeText "UTC" p ticks).take 4 ≠ ['0', '0', '0', '0'] := by
        have h := h.1
        split at h
        · simp only [Bool.and_eq_true, decide_eq_true_eq] at h
          exact h.1
        · split at h <;> simpa only [Bool.and_eq_true, decide_eq_true_eq] using h
      exact hvalid.2 (functions.time_other p ticks hp hnone hvalid.1)
    · intro h
      obtain ⟨moment, hnanos, -⟩ := h
      exact absurd hnanos (hnone moment)

/-! ## Types -/

theorem takeText_eq_some {expected text rest : List Char} :
    takeText expected text = some rest ↔ text = expected ++ rest := by
  induction expected generalizing text with
  | nil => simp [takeText]
  | cons c expected ih => simp [takeText, Option.bind_eq_some_iff, ih]

theorem decimalType_text {baseType : String} {physical : ClickHouseDecimalType}
    (h : parseClickHouseDecimalType baseType = .ok physical) :
    ∃ rest, baseType.toList = ['D', 'e', 'c', 'i', 'm', 'a', 'l', '('] ++ rest := by
  unfold parseClickHouseDecimalType at h
  split at h
  · cases h
  · rename_i read hread
    unfold readDecimalType at hread
    obtain ⟨rest, hrest, -⟩ := Option.bind_eq_some_iff.mp hread
    exact ⟨rest, takeText_eq_some.mp hrest⟩

theorem dateTime64Type_text {baseType : String} {declaration : ℕ × Option String}
    (h : parseClickHouseDateTime64Declaration baseType = .ok declaration) :
    (∃ rest, baseType.toList =
      ['D', 'a', 't', 'e', 'T', 'i', 'm', 'e', '6', '4', '('] ++ rest) ∧ declaration.1 ≤ 9 := by
  unfold parseClickHouseDateTime64Declaration at h
  split at h
  · cases h
  · rename_i precision zone hread
    obtain ⟨hprecision, h⟩ := bind_unit_eq_ok.mp h
    obtain ⟨-, h⟩ := bind_unit_eq_ok.mp h
    unfold readDateTime64Type at hread
    obtain ⟨rest, hrest, -⟩ := Option.bind_eq_some_iff.mp hread
    refine ⟨⟨rest, takeText_eq_some.mp hrest⟩, ?_⟩
    rw [← Except.ok.inj h]
    exact Nat.not_lt.mp (refuseIf_eq_ok.mp hprecision)

/-- The types whose name is one word. -/
def wordTypes : List String := ["Int64", "Bool", "String", "Date", "Date32"]

theorem decimalType_not_word {baseType : String} {physical : ClickHouseDecimalType}
    (h : parseClickHouseDecimalType baseType = .ok physical) : baseType ∉ wordTypes := by
  obtain ⟨rest, hrest⟩ := decimalType_text h
  intro hword
  simp only [wordTypes, List.mem_cons, List.not_mem_nil, or_false] at hword
  rcases hword with rfl | rfl | rfl | rfl | rfl <;> simp at hrest

theorem dateTime64Type_not_word {baseType : String} {declaration : ℕ × Option String}
    (h : parseClickHouseDateTime64Declaration baseType = .ok declaration) :
    baseType ∉ wordTypes := by
  obtain ⟨⟨rest, hrest⟩, -⟩ := dateTime64Type_text h
  intro hword
  simp only [wordTypes, List.mem_cons, List.not_mem_nil, or_false] at hword
  rcases hword with rfl | rfl | rfl | rfl | rfl <;> simp at hrest

theorem dateTime64Type_not_decimal {baseType : String} {declaration : ℕ × Option String}
    {physical : ClickHouseDecimalType}
    (h : parseClickHouseDateTime64Declaration baseType = .ok declaration) :
    parseClickHouseDecimalType baseType ≠ .ok physical := by
  intro hdecimal
  obtain ⟨rest, hrest⟩ := decimalType_text hdecimal
  obtain ⟨⟨other, hother⟩, -⟩ := dateTime64Type_text h
  rw [hrest] at hother
  simp at hother

theorem requireBaseType_eq_ok {actual : String} {allowed : List String} {logicalType : LogicalType}
    {index : ℕ} : requireBaseType actual allowed logicalType index = .ok () ↔ actual ∈ allowed := by
  unfold requireBaseType
  rw [refuseIf_eq_ok, not_not]

/-! ## Payloads -/

variable {index : ℕ} {runtimeProfile : ClickHouseRuntimeProfile}

theorem int64Payload_exact (hlogical : field.logicalType = .int64) {n : Int} (hn : IsInt64 n)
    {baseType : String} :
    (PayloadLowering.mk true (asciiBytes (toStringInt n))).Exact field baseType (.int64 n) := by
  intro payload
  unfold Renders toStringInt
  rw [hlogical]
  constructor
  · intro h
    exact ⟨.integer n, rfl, hn, h.2.symm⟩
  · intro h
    obtain ⟨logical, hdenotes, hrenders⟩ := h
    cases logical with
    | integer m =>
      obtain rfl : m = n := hdenotes
      exact ⟨rfl, hrenders.2.symm⟩
    | _ => exact hrenders.elim

theorem booleanPayload_exact (hlogical : field.logicalType = .boolean) {b : Bool}
    {baseType : String} :
    (PayloadLowering.mk true (asciiBytes (if b = true then ['1'] else ['0']))).Exact field baseType
      (.bool b) := by
  intro payload
  unfold Renders
  rw [hlogical]
  constructor
  · intro h
    exact ⟨.boolean b, rfl, h.2.symm⟩
  · intro h
    obtain ⟨logical, hdenotes, hrenders⟩ := h
    cases logical with
    | boolean c =>
      obtain rfl : c = b := hdenotes
      exact ⟨rfl, hrenders.symm⟩
    | _ => exact hrenders.elim

theorem stringPayload_exact (hlogical : field.logicalType = .string) {bytes : Bytes}
    {baseType : String} :
    (PayloadLowering.mk ((utf8Decode bytes).isSome && !bytes.contains 0) bytes).Exact field baseType
      (.string bytes) := by
  intro payload
  unfold Renders
  rw [hlogical]
  simp only [Bool.and_eq_true, Bool.not_eq_true', List.contains_eq_mem, decide_eq_false_iff_not]
  constructor
  · intro h
    obtain ⟨⟨hvalid, hzero⟩, rfl⟩ := h
    obtain ⟨text, htext⟩ := Option.isSome_iff_exists.mp hvalid
    obtain rfl := utf8Decode_eq_some.mp htext
    rw [zero_mem_utf8Encode] at hzero
    exact ⟨.text (codePoints text.toList), ⟨text, rfl, rfl⟩, text, rfl, hzero, rfl⟩
  · intro h
    obtain ⟨logical, hdenotes, hrenders⟩ := h
    cases logical with
    | text points =>
      obtain ⟨text, rfl, rfl⟩ := hdenotes
      obtain ⟨other, hother, hzero, rfl⟩ := hrenders
      obtain rfl : text = other := String.toList_injective (codePoints_injective hother)
      rw [zero_mem_utf8Encode, utf8Decode_eq_some.mpr rfl]
      exact ⟨⟨rfl, hzero⟩, rfl⟩
    | _ => exact hrenders.elim

/-- The logical values of a timestamp are its moment and its place on the time line. -/
theorem timestampPayload_exact {parameters : TimestampParameters}
    (htype : field.logicalType = .timestampLocal ∨ field.logicalType = .timestampInstant)
    (hparameters : field.parameters = .timestamp parameters) {ticks : Int} {timezone : String}
    {baseType : String} {declaration : ℕ × Option String}
    (hparse : parseClickHouseDateTime64Declaration baseType = .ok declaration)
    (hzone : field.logicalType = .timestampInstant ∨ timezone = "UTC") (hticks : IsInt64 ticks) :
    (timestampPayloadLowering functions field parameters timezone declaration.1
      (.dateTime64 ticks)).Exact field baseType (.dateTime64 ticks) := by
  intro payload
  rw [timestampPayloadLowering_spec (dateTime64Type_text hparse).2 hticks hzone]
  unfold Renders timestampBody
  rcases htype with hlogical | hlogical
  · simp only [hlogical, hparameters, reduceCtorEq, if_false]
    constructor
    · intro h
      obtain ⟨moment, hnanos, hfits, hpayload⟩ := h
      exact ⟨.localTime moment, ⟨declaration, hparse, hnanos⟩, hfits, hpayload⟩
    · intro h
      obtain ⟨logical, hdenotes, hrenders⟩ := h
      cases logical with
      | localTime moment =>
        obtain ⟨other, hother, hnanos⟩ := hdenotes
        obtain rfl := Except.ok.inj (hother.symm.trans hparse)
        exact ⟨moment, hnanos, hrenders⟩
      | _ => exact hrenders.elim
  · simp only [hlogical, hparameters, if_true]
    constructor
    · intro h
      obtain ⟨moment, hnanos, hfits, hpayload⟩ := h
      exact ⟨.instant moment.nanos, ⟨declaration, hparse, hnanos⟩, moment, ⟨rfl, hfits⟩, hpayload⟩
    · intro h
      obtain ⟨logical, hdenotes, hrenders⟩ := h
      cases logical with
      | instant nanos =>
        obtain ⟨other, hother, rfl⟩ := hdenotes
        obtain rfl := Except.ok.inj (hother.symm.trans hparse)
        obtain ⟨moment, ⟨hnanos, hfits⟩, hpayload⟩ := hrenders
        exact ⟨moment, hnanos, hfits, hpayload⟩
      | _ => exact hrenders.elim

/-- What a stored value says about the type of its column. -/
def TypeOf (baseType : String) : ClickHouseValue → Prop
  | .int64 _ => baseType = "Int64"
  | .decimal _ => baseType ∉ wordTypes ∧
      ∃ physical, parseClickHouseDecimalType baseType = .ok physical
  | .bool _ => baseType = "Bool"
  | .string _ => baseType = "String"
  | .date _ => baseType = "Date" ∨ baseType = "Date32"
  | .dateTime64 _ => baseType ∉ wordTypes ∧
      ∃ declaration, parseClickHouseDateTime64Declaration baseType = .ok declaration

theorem Stores.typeOf {baseType : String} (h : Stores baseType value) :
    TypeOf baseType value := by
  cases value with
  | int64 n => exact h.1
  | decimal n =>
    obtain ⟨physical, hparse, -⟩ := h
    exact ⟨decimalType_not_word hparse, physical, hparse⟩
  | bool b => exact h
  | string bytes => exact h.1
  | date day => exact h
  | dateTime64 ticks =>
    obtain ⟨declaration, hparse, -⟩ := h
    exact ⟨dateTime64Type_not_word hparse, declaration, hparse⟩

theorem payloadLowering_int64 (hlogical : field.logicalType = .int64)
    (hmapped : validatePhysicalMapping field binding index runtimeProfile = .ok ())
    (hstores : Stores binding.baseType value) :
    ∃ lowering, payloadLowering functions field binding value = .ok lowering ∧
      lowering.Exact field binding.baseType value := by
  have hbase : binding.baseType = "Int64" := by
    simpa [validatePhysicalMapping, hlogical, requireBaseType_eq_ok] using hmapped
  have htype := hstores.typeOf
  rw [hbase] at htype
  cases value with
  | int64 n =>
    unfold payloadLowering
    rw [hlogical]
    exact ⟨_, rfl, int64Payload_exact hlogical hstores.2⟩
  | _ => simp [TypeOf, wordTypes] at htype

theorem payloadLowering_decimal (hlogical : field.logicalType = .decimal)
    (hmapped : validatePhysicalMapping field binding index runtimeProfile = .ok ())
    (hstores : Stores binding.baseType value) :
    ∃ lowering, payloadLowering functions field binding value = .ok lowering ∧
      lowering.Exact field binding.baseType value := by
  simp only [validatePhysicalMapping, hlogical] at hmapped
  obtain ⟨physical, hparse, -⟩ := bind_eq_ok.mp hmapped
  have hword := decimalType_not_word hparse
  have htype := hstores.typeOf
  cases hparameters : field.parameters with
  | decimal parameters =>
    cases value with
    | decimal n =>
      unfold payloadLowering
      rw [hlogical, hparameters]
      simp only [hparse]
      exact ⟨_, rfl, decimalPayloadLowering_exact hparse hlogical hparameters hstores⟩
    | dateTime64 ticks =>
      obtain ⟨-, declaration, hother⟩ := htype
      exact absurd hparse (dateTime64Type_not_decimal hother)
    | date day => rcases htype with h | h <;> simp [h, wordTypes] at hword
    | _ => simp [show binding.baseType = _ from htype, wordTypes] at hword
  | _ =>
    have hfits := field.fits
    rw [hlogical, hparameters] at hfits
    cases hfits

theorem payloadLowering_boolean (hlogical : field.logicalType = .boolean)
    (hmapped : validatePhysicalMapping field binding index runtimeProfile = .ok ())
    (hstores : Stores binding.baseType value) :
    ∃ lowering, payloadLowering functions field binding value = .ok lowering ∧
      lowering.Exact field binding.baseType value := by
  simp only [validatePhysicalMapping, hlogical, bind_unit_eq_ok, requireBaseType_eq_ok,
    List.mem_singleton] at hmapped
  have htype := hstores.typeOf
  rw [hmapped.2] at htype
  cases value with
  | bool b =>
    unfold payloadLowering
    rw [hlogical]
    exact ⟨_, rfl, booleanPayload_exact hlogical⟩
  | _ => simp [TypeOf, wordTypes] at htype

theorem payloadLowering_string (hlogical : field.logicalType = .string)
    (hmapped : validatePhysicalMapping field binding index runtimeProfile = .ok ())
    (hstores : Stores binding.baseType value) :
    ∃ lowering, payloadLowering functions field binding value = .ok lowering ∧
      lowering.Exact field binding.baseType value := by
  have hbase : binding.baseType = "String" := by
    simpa [validatePhysicalMapping, hlogical, requireBaseType_eq_ok] using hmapped
  have htype := hstores.typeOf
  rw [hbase] at htype
  cases value with
  | string bytes =>
    unfold payloadLowering
    rw [hlogical]
    exact ⟨_, rfl, stringPayload_exact hlogical⟩
  | _ => simp [TypeOf, wordTypes] at htype

theorem payloadLowering_date (hlogical : field.logicalType = .date)
    (hmapped : validatePhysicalMapping field binding index runtimeProfile = .ok ())
    (hstores : Stores binding.baseType value) :
    ∃ lowering, payloadLowering functions field binding value = .ok lowering ∧
      lowering.Exact field binding.baseType value := by
  have hbase : binding.baseType = "Date" ∨ binding.baseType = "Date32" := by
    simp only [validatePhysicalMapping, hlogical, requireBaseType_eq_ok] at hmapped
    split at hmapped
    · exact .inl (List.mem_singleton.mp hmapped)
    · simpa using hmapped
  have htype := hstores.typeOf
  cases value with
  | date day =>
    unfold payloadLowering
    rw [hlogical]
    exact ⟨_, rfl, datePayload_exact hlogical⟩
  | _ => rcases hbase with h | h <;> simp [TypeOf, h, wordTypes] at htype

/-- What a mapped timestamp column and its field bring. -/
theorem timestamp_mapped
    (hlogical : field.logicalType = .timestampLocal ∨ field.logicalType = .timestampInstant)
    (hmapped : validatePhysicalMapping field binding index runtimeProfile = .ok ()) :
    ∃ parameters declaration zone, field.parameters = .timestamp parameters ∧
      parseClickHouseDateTime64Declaration binding.baseType = .ok declaration ∧
        binding.datetimeTimezone = some zone ∧
          (field.logicalType = .timestampLocal → zone = "UTC") := by
  have hmapped : validateTimestampMapping field binding index = .ok () := by
    rcases hlogical with h | h <;> simpa [validatePhysicalMapping, h] using hmapped
  unfold validateTimestampMapping at hmapped
  obtain ⟨declaration, hparse, hmapped⟩ := bind_eq_ok.mp hmapped
  have hparameters : ∃ parameters, field.parameters = .timestamp parameters := by
    have hfits := field.fits
    rcases hlogical with h | h <;> cases hparameters : field.parameters <;>
      simp_all [FieldParameters.fit]
  obtain ⟨parameters, hparameters⟩ := hparameters
  cases hzone : binding.datetimeTimezone with
  | none => simp [hzone] at hmapped
  | some zone =>
    simp only [hzone, refuseIf_eq_ok, not_and, not_not] at hmapped
    exact ⟨parameters, declaration, zone, hparameters, hparse, rfl, hmapped⟩

theorem payloadLowering_eq_timestamp
    (hlogical : field.logicalType = .timestampLocal ∨ field.logicalType = .timestampInstant)
    {parameters : TimestampParameters} (hparameters : field.parameters = .timestamp parameters)
    {declaration : ℕ × Option String}
    (hparse : parseClickHouseDateTime64Declaration binding.baseType = .ok declaration)
    {zone : String} (hzone : binding.datetimeTimezone = some zone) :
    payloadLowering functions field binding value =
      .ok (timestampPayloadLowering functions field parameters zone declaration.1 value) := by
  rcases hlogical with h | h <;>
    simp only [payloadLowering, h, hparameters, timestampFieldLowering, hzone, hparse] <;>
    rfl

theorem payloadLowering_timestamp
    (hlogical : field.logicalType = .timestampLocal ∨ field.logicalType = .timestampInstant)
    (hmapped : validatePhysicalMapping field binding index runtimeProfile = .ok ())
    (hstores : Stores binding.baseType value) :
    ∃ lowering, payloadLowering functions field binding value = .ok lowering ∧
      lowering.Exact field binding.baseType value := by
  obtain ⟨parameters, declaration, zone, hparameters, hparse, hzone, hutc⟩ :=
    timestamp_mapped hlogical hmapped
  have hword := dateTime64Type_not_word hparse
  have htype := hstores.typeOf
  cases value with
  | dateTime64 ticks =>
    obtain ⟨-, -, hticks⟩ := hstores
    refine ⟨_, payloadLowering_eq_timestamp hlogical hparameters hparse hzone,
      timestampPayload_exact hlogical hparameters hparse ?_ hticks⟩
    rcases hlogical with h | h
    · exact .inr (hutc h)
    · exact .inl h
  | decimal n =>
    obtain ⟨-, physical, hother⟩ := htype
    exact absurd hother (dateTime64Type_not_decimal hparse)
  | date day => rcases htype with h | h <;> simp [h, wordTypes] at hword
  | _ => simp [show binding.baseType = _ from htype, wordTypes] at hword

/-- The payload of a stored value is lowered, exactly. -/
theorem payloadLowering_exact
    (hmapped : validatePhysicalMapping field binding index runtimeProfile = .ok ())
    (hstores : Stores binding.baseType value) :
    ∃ lowering, payloadLowering functions field binding value = .ok lowering ∧
      lowering.Exact field binding.baseType value := by
  cases hlogical : field.logicalType with
  | int64 => exact payloadLowering_int64 hlogical hmapped hstores
  | decimal => exact payloadLowering_decimal hlogical hmapped hstores
  | boolean => exact payloadLowering_boolean hlogical hmapped hstores
  | string => exact payloadLowering_string hlogical hmapped hstores
  | date => exact payloadLowering_date hlogical hmapped hstores
  | timestampLocal => exact payloadLowering_timestamp (.inl hlogical) hmapped hstores
  | timestampInstant => exact payloadLowering_timestamp (.inr hlogical) hmapped hstores

/-- The expression of a mapped column does not fail, whatever it is evaluated on. -/
theorem payloadLowering_total
    (hmapped : validatePhysicalMapping field binding index runtimeProfile = .ok ())
    (value : ClickHouseValue) :
    ∃ lowering, payloadLowering functions field binding value = .ok lowering := by
  cases hlogical : field.logicalType with
  | decimal =>
    simp only [validatePhysicalMapping, hlogical] at hmapped
    obtain ⟨physical, hparse, -⟩ := bind_eq_ok.mp hmapped
    have hfits := field.fits
    cases hparameters : field.parameters with
    | decimal parameters =>
      exact ⟨decimalPayloadLowering parameters physical value, by
        simp only [payloadLowering, hlogical, hparameters, hparse]
        rfl⟩
    | _ =>
      rw [hlogical, hparameters] at hfits
      cases hfits
  | timestampLocal =>
    obtain ⟨parameters, declaration, zone, hparameters, hparse, hzone, -⟩ :=
      timestamp_mapped (.inl hlogical) hmapped
    exact ⟨_, payloadLowering_eq_timestamp (.inl hlogical) hparameters hparse hzone⟩
  | timestampInstant =>
    obtain ⟨parameters, declaration, zone, hparameters, hparse, hzone, -⟩ :=
      timestamp_mapped (.inr hlogical) hmapped
    exact ⟨_, payloadLowering_eq_timestamp (.inr hlogical) hparameters hparse hzone⟩
  | _ =>
    unfold payloadLowering
    rw [hlogical]
    exact ⟨_, rfl⟩

end ForensicData.ClickHouse
