/-
ForensicData.Postgres.ScopePredicateTheorems — which rows a scope selects.

A column's value has a payload if an input that spells it is encoded as the
payload. For every type but the timestamps the predicate selects exactly the
rows whose payload is the parameter's. A timestamp parameter with digits below
the microsecond has no row of its own, and the predicate selects the rows at the
microsecond its literal is rounded to: that is the only difference
(`scope_predicate_iff`).
-/
import ForensicData.Postgres.ScopePredicate
import Mathlib.Algebra.Order.Ring.Abs
import Mathlib.Tactic.FieldSimp
import Mathlib.Tactic.Linarith
import Mathlib.Tactic.Ring

namespace ForensicData.Postgres

open ForensicData.Canonical
open ForensicData.Lib

variable {rounding : MicrosecondRounding} {field : FieldSchema} {scope : PostgresScopePredicate}
  {column : PgColumn} {payload : Bytes}

/-! ## Payloads of stored values -/

/-- The exact number of a numeric value. -/
def PgValue.number : PgValue → Option ℚ
  | .integer value => some value
  | .numeric (.finite unscaled scale) => some (unscaled / 10 ^ scale)
  | _ => none

/-- The offset of UTC. -/
def utcOffset : FixedOffset := ⟨0, by decide, by decide⟩

/-- The inputs that spell a stored value. -/
inductive SpelledBy : PgValue → CanonicalInput → Prop
  | integer {value : PgValue} {n : Int} (h : value.number = some (n : ℚ)) :
    SpelledBy value (.integer n)
  | decimal {value : PgValue} {d : PythonDecimal} {q : ℚ} (h : value.number = some q)
    (hd : d.value = some q) : SpelledBy value (.decimal d)
  | boolean (b : Bool) : SpelledBy (.boolean b) (.boolean b)
  | text (t : PgText) : SpelledBy (.text t) (.text (codePoints t.text.toList))
  | date (d : Date) : SpelledBy (.date (.finite d.toOrdinal)) (.date d)
  | timestamp (t : Datetime) : SpelledBy (.timestamp (.finite t.micros)) (.datetime t .naive)
  | timestamptz (t : Datetime) :
    SpelledBy (.timestamptz (.finite t.micros)) (.datetime t (.fixed utcOffset))

/-- The column is not NULL and its value has a canonical payload. -/
def HasPayload (field : FieldSchema) (column : PgColumn) (payload : Bytes) : Prop :=
  ∃ value input, column = some value ∧ SpelledBy value input ∧
    encodePayload field input = .ok payload

/-- The payload of a stored value is that of a logical value it denotes. -/
theorem hasPayload_iff {logical : LogicalValue} (h : Renders field logical payload) :
    HasPayload field column payload ↔
      ∃ value input, column = some value ∧ SpelledBy value input ∧
        denotes field input = some logical := by
  unfold HasPayload
  refine exists_congr fun value => exists_congr fun input =>
    and_congr_right fun _ => and_congr_right fun _ => ?_
  rw [encodePayload_eq_ok]
  constructor
  · intro hencode
    obtain ⟨other, hother, hrenders⟩ := hencode
    rwa [hrenders.injective h] at hother
  · intro hdenotes
    exact ⟨logical, hdenotes, h⟩

/-! ## Numbers -/

theorem PgNumeric.eq_iff {a b : PgNumeric} :
    a.eq b = true ↔ a.kind = b.kind ∧ a.value = b.value := by
  rw [PgNumeric.eq, Bool.and_eq_true, beq_iff_eq, decide_eq_true_iff]

theorem PgNumeric.lt_finite_iff {u v : Int} {s t : ℕ} :
    (PgNumeric.finite u s).lt (.finite v t) = true ↔ (u : ℚ) / 10 ^ s < v / 10 ^ t := by
  rw [PgNumeric.lt, Bool.or_eq_true, Bool.and_eq_true, beq_iff_eq, decide_eq_true_iff,
    decide_eq_true_iff]
  simp [PgNumeric.kind, PgNumeric.value]

theorem PgNumeric.eq_finite_iff {x : PgNumeric} {unscaled : Int} {scale : ℕ} :
    x.eq (.finite unscaled scale) = true ↔
      ∃ u s, x = .finite u s ∧ (u : ℚ) / 10 ^ s = unscaled / 10 ^ scale := by
  rw [PgNumeric.eq_iff]
  cases x with
  | finite u s =>
    constructor
    · intro h
      exact ⟨u, s, rfl, h.2⟩
    · intro h
      obtain ⟨_, _, hx, h⟩ := h
      cases hx
      exact ⟨rfl, h⟩
  | _ => simp [PgNumeric.kind]

/-- A column with a number. -/
theorem number_of_castNumeric {unscaled : Int} {scale : ℕ}
    (h : castNumeric column = some (.finite unscaled scale)) :
    ∃ value, column = some value ∧ value.number = some ((unscaled : ℚ) / 10 ^ scale) := by
  unfold castNumeric at h
  split at h
  · rename_i value
    simp only [Option.some.injEq, PgNumeric.finite.injEq] at h
    obtain ⟨rfl, rfl⟩ := h
    exact ⟨_, rfl, by simp [PgValue.number]⟩
  · obtain rfl := Option.some.inj h
    exact ⟨_, rfl, rfl⟩
  · cases h

theorem castNumeric_of_number {value : PgValue} {q : ℚ} (h : value.number = some q) :
    ∃ u s, castNumeric (some value) = some (.finite u s) ∧ (u : ℚ) / 10 ^ s = q := by
  unfold PgValue.number at h
  split at h
  · obtain rfl := Option.some.inj h
    exact ⟨_, 0, rfl, by simp⟩
  · obtain rfl := Option.some.inj h
    exact ⟨_, _, rfl, rfl⟩
  · cases h

/-- A numeric column equals a literal exactly when its number does. -/
theorem numericEquals_eq_true {unscaled : Int} {scale : ℕ} :
    numericEquals unscaled scale column = some true ↔
      ∃ value, column = some value ∧ value.number = some ((unscaled : ℚ) / 10 ^ scale) := by
  unfold numericEquals
  rw [Truth.compare_eq_true]
  constructor
  · intro h
    obtain ⟨x, y, hx, hy, heq⟩ := h
    obtain rfl := Option.some.inj hy
    obtain ⟨u, s, rfl, hnumber⟩ := PgNumeric.eq_finite_iff.mp heq
    rw [← hnumber]
    exact number_of_castNumeric hx
  · intro h
    obtain ⟨value, rfl, hnumber⟩ := h
    obtain ⟨u, s, hcast, hvalue⟩ := castNumeric_of_number hnumber
    exact ⟨_, _, hcast, rfl, PgNumeric.eq_finite_iff.mpr ⟨u, s, rfl, hvalue⟩⟩

/-- A whole number is its own truncation. -/
theorem PgNumeric.eq_trunc {u n : Int} {s : ℕ} (h : (u : ℚ) / 10 ^ s = n) :
    (PgNumeric.finite u s).eq (PgNumeric.finite u s).trunc = true := by
  have hten : (10 : ℚ) ^ s ≠ 0 := by positivity
  have hu : u = n * 10 ^ s := by
    rw [div_eq_iff hten] at h
    exact_mod_cast h
  rw [PgNumeric.trunc, PgNumeric.eq_finite_iff]
  refine ⟨u, s, rfl, ?_⟩
  rw [h, hu, Int.mul_tdiv_cancel _ (by positivity)]
  simp

/-- A whole number in the signed 64-bit range is valid. -/
theorem int64Valid_of_number {n : Int} {value : PgValue} (hn : IsInt64 n)
    (h : value.number = some (n : ℚ)) : int64Valid (some value) = some true := by
  obtain ⟨u, s, hcast, hvalue⟩ := castNumeric_of_number h
  unfold int64Valid
  simp only [hcast, Option.map_some]
  rw [Truth.caseWhen_false_eq_true, Truth.test_eq_true, Truth.compare_eq_true]
  refine ⟨⟨_, rfl, ?_⟩, _, _, rfl, rfl, PgNumeric.eq_trunc hvalue⟩
  rw [PgNumeric.between, Bool.and_eq_true, Bool.not_eq_true', Bool.not_eq_true',
    Bool.eq_false_iff, Bool.eq_false_iff, ne_eq, ne_eq, PgNumeric.lt_finite_iff,
    PgNumeric.lt_finite_iff, hvalue, not_lt, not_lt]
  simp only [pow_zero, div_one]
  exact_mod_cast hn

/-- A number with an unscaled integer within the precision is valid. -/
theorem decimalValid_of_number {parameters : DecimalParameters} {q : ℚ} {unscaled : Int}
    {value : PgValue} (hq : IsUnscaled parameters q unscaled) (h : value.number = some q) :
    decimalValid parameters (some value) = some true := by
  obtain ⟨u, s, hcast, hvalue⟩ := castNumeric_of_number h
  have hscaled : (((u * (10 ^ parameters.scale : ℕ) : Int) : ℚ)) / 10 ^ s = unscaled := by
    push_cast
    rw [← hq.1, ← hvalue]
    ring
  have hbound : |q| < 10 ^ (parameters.precision - parameters.scale) := by
    have hpos : (0 : ℚ) < 10 ^ parameters.scale := by positivity
    have hunscaled : |(unscaled : ℚ)| < 10 ^ parameters.precision := by
      have h := hq.2
      rw [← Int.cast_abs, Int.abs_eq_natAbs]
      exact_mod_cast h
    rw [← hq.1, abs_mul, abs_of_pos hpos] at hunscaled
    refine lt_of_mul_lt_mul_right ?_ hpos.le
    rwa [← pow_add, Nat.sub_add_cancel parameters.scale_le]
  rw [abs_lt] at hbound
  unfold decimalValid
  simp only [hcast, Option.map_some]
  rw [Truth.caseWhen_false_eq_true, Truth.conj_eq_true, Truth.compare_eq_true,
    Truth.compare_eq_true, Truth.compare_eq_true]
  refine ⟨⟨⟨_, _, rfl, rfl, ?_⟩, _, _, rfl, rfl, ?_⟩, _, _, rfl, rfl, PgNumeric.eq_trunc hscaled⟩
  · rw [PgNumeric.lt_finite_iff, hvalue]
    simpa using hbound.1
  · rw [PgNumeric.lt_finite_iff, hvalue]
    simpa using hbound.2

/-! ## Times -/

/-- A whole number of microseconds is not rounded away. -/
theorem MicrosecondRounding.round_eq {nanos micros : Int} (h : nanos = micros * 1000) :
    rounding.round nanos = micros := by
  have hnearest := rounding.nearest nanos
  omega

theorem yearInRange_date {days : Int} : yearInRange (some (.date (.finite days))) = some true ↔
    1 ≤ days ∧ days ≤ Date.maxOrdinal := by
  rw [← yearOfDay_between_iff]
  simp [yearInRange, extractYear, PgTime.between]

theorem yearInRange_timestamp {micros : Int} :
    yearInRange (some (.timestamp (.finite micros))) = some true ↔ Datetime.InRange micros := by
  have hdays := yearOfDay_between_iff (micros / Datetime.dayMicros)
  have hrange : (1 ≤ micros / (Datetime.dayMicros : Int) ∧
      micros / (Datetime.dayMicros : Int) ≤ Date.maxOrdinal) ↔ Datetime.InRange micros := by
    unfold Datetime.InRange Datetime.dayMicros Date.maxOrdinal
    omega
  rw [← hrange, ← hdays]
  simp [yearInRange, extractYear, PgTime.between]

/-- A timestamp is valid in the years 1 to 9999 without digits below the
precision. -/
theorem timestampValid_finite {precision : ℕ} {micros : Int} :
    timestampValid precision (some (.timestamp (.finite micros))) = some true ↔
      Datetime.InRange micros ∧ ((10 ^ (6 - precision) : ℕ) : Int) ∣ micros := by
  have hdvd : ((10 ^ (6 - precision) : ℕ) : Int) ∣ 60000000 := by
    have h : (10 ^ (6 - precision) : ℕ) ∣ 10 ^ 6 := Nat.pow_dvd_pow 10 (Nat.sub_le 6 precision)
    exact_mod_cast h.mul_left 60
  unfold timestampValid
  rw [Truth.caseWhen_false_eq_true, yearInRange_timestamp, Truth.test_eq_true]
  refine and_congr_right fun _ => ?_
  simp only [extractMicroseconds, Option.some.injEq, exists_eq_left', decide_eq_true_eq]
  rw [Int.emod_emod_of_dvd _ hdvd, Int.dvd_iff_emod_eq_zero]

/-- A moment that fits the precision and is at a whole microsecond is valid. -/
theorem dvd_of_fits {moment : Moment} {precision : ℕ} {micros : Int}
    (hfits : moment.Fits precision) (h : moment.nanos = micros * 1000) :
    ((10 ^ (6 - precision) : ℕ) : Int) ∣ micros := by
  obtain ⟨s, hs⟩ := moment.second_micros_dvd
  by_cases hprecision : 6 ≤ precision
  · rw [Nat.sub_eq_zero_of_le hprecision]
    simp
  · have hpow : (10 : ℕ) ^ (9 - precision) = 10 ^ (6 - precision) * 1000 := by
      rw [show 9 - precision = 6 - precision + 3 by omega, pow_add]
      norm_num
    unfold Moment.Fits at hfits
    rw [hpow] at hfits
    obtain ⟨k, hk⟩ := hfits
    have hmillion : ((10 ^ (6 - precision) : ℕ) : Int) ∣ 1000000 := by
      have h : (10 ^ (6 - precision) : ℕ) ∣ 10 ^ 6 := Nat.pow_dvd_pow 10 (Nat.sub_le 6 precision)
      exact_mod_cast h
    have hmicros : micros = s * 1000000 + ((10 ^ (6 - precision) : ℕ) : Int) * k := by
      unfold Moment.nanos at h
      rw [hs, hk] at h
      push_cast at h ⊢
      linarith
    rw [hmicros]
    exact dvd_add (hmillion.mul_left s) (dvd_mul_right _ _)

/-- A moment between two microseconds needs more than six digits. -/
theorem six_lt_of_fits {moment : Moment} {precision : ℕ} (hfits : moment.Fits precision)
    (h : ¬ (1000 : Int) ∣ moment.nanos) : 6 < precision := by
  by_contra hprecision
  obtain ⟨s, hs⟩ := moment.second_micros_dvd
  have hpow : (10 : ℕ) ^ (9 - precision) = 1000 * 10 ^ (6 - precision) := by
    rw [show 9 - precision = 3 + (6 - precision) by omega, pow_add]
    norm_num
  unfold Moment.Fits at hfits
  rw [hpow] at hfits
  have hnanos : (1000 : Int) ∣ moment.nanosecond := by exact_mod_cast dvd_of_mul_right_dvd hfits
  apply h
  unfold Moment.nanos
  rw [hs]
  exact dvd_add ⟨s * 1000000, by ring⟩ hnanos

/-- A whole microsecond of a moment is in the range of the calendar. -/
theorem inRange_of_moment {moment : Moment} {micros : Int} (h : moment.nanos = micros * 1000) :
    Datetime.InRange micros := by
  obtain ⟨t, rfl⟩ := exists_datetime moment h
  exact t.micros_inRange

/-! ## Selected values of each type -/

theorem selects_int64 {n : Int} (hn : IsInt64 n) :
    int64Valid column = some true ∧ numericEquals n 0 column = some true ↔
      ∃ value, column = some value ∧ value.number = some (n : ℚ) := by
  have hequals : numericEquals n 0 column = some true ↔
      ∃ value, column = some value ∧ value.number = some (n : ℚ) := by
    have h : numericEquals n 0 column = some true ↔ _ := numericEquals_eq_true
    simpa using h
  rw [hequals]
  constructor
  · intro h
    exact h.2
  · intro h
    obtain ⟨value, rfl, hnumber⟩ := h
    exact ⟨int64Valid_of_number hn hnumber, value, rfl, hnumber⟩

theorem selects_decimal {parameters : DecimalParameters} {q : ℚ} {unscaled : Int}
    (hq : IsUnscaled parameters q unscaled) :
    decimalValid parameters column = some true ∧
        numericEquals unscaled parameters.scale column = some true ↔
      ∃ value, column = some value ∧ value.number = some q := by
  have hvalue : (unscaled : ℚ) / 10 ^ parameters.scale = q := by
    rw [← hq.1]
    field_simp
  rw [numericEquals_eq_true, hvalue]
  constructor
  · intro h
    exact h.2
  · intro h
    obtain ⟨value, rfl, hnumber⟩ := h
    exact ⟨decimalValid_of_number hq hnumber, value, rfl, hnumber⟩

/-- The place a valid timestamp has to be at. -/
theorem selects_timestamp {precision : ℕ} {place : Int} {micros : PgTime} :
    timestampValid precision (some (.timestamp micros)) = some true ∧ micros = .finite place ↔
      micros = .finite place ∧ Datetime.InRange place ∧
        ((10 ^ (6 - precision) : ℕ) : Int) ∣ place := by
  constructor
  · intro h
    obtain ⟨hvalid, rfl⟩ := h
    exact ⟨rfl, timestampValid_finite.mp hvalid⟩
  · intro h
    obtain ⟨rfl, hvalid⟩ := h
    exact ⟨timestampValid_finite.mpr hvalid, rfl⟩

/-- Whether a timestamp is selected: at the moment itself, or at the microsecond
the moment is rounded to. -/
theorem selects_moment {moment : Moment} {precision : ℕ} {micros : PgTime}
    (hfits : moment.Fits precision) :
    timestampValid precision (some (.timestamp micros)) = some true ∧
        micros = .finite (rounding.round moment.nanos) ↔
      (∃ place, micros = .finite place ∧ moment.nanos = place * 1000) ∨
        (¬ (1000 : Int) ∣ moment.nanos ∧ Datetime.InRange (rounding.round moment.nanos) ∧
          micros = .finite (rounding.round moment.nanos)) := by
  rw [selects_timestamp]
  by_cases hwhole : (1000 : Int) ∣ moment.nanos
  · obtain ⟨place, hplace⟩ := hwhole
    have hnanos : moment.nanos = place * 1000 := by rw [hplace, Int.mul_comm]
    rw [MicrosecondRounding.round_eq hnanos]
    constructor
    · intro h
      exact .inl ⟨place, h.1, hnanos⟩
    · intro h
      rcases h with ⟨other, hmicros, hother⟩ | ⟨hnot, -⟩
      · obtain rfl : other = place := by omega
        exact ⟨hmicros, inRange_of_moment hnanos, dvd_of_fits hfits hnanos⟩
      · exact absurd ⟨place, hplace⟩ hnot
  · have hprecision := six_lt_of_fits hfits hwhole
    have hdivisor : ((10 ^ (6 - precision) : ℕ) : Int) ∣ rounding.round moment.nanos := by
      rw [Nat.sub_eq_zero_of_le hprecision.le]
      simp
    constructor
    · intro h
      exact .inr ⟨hwhole, h.2.1, h.1⟩
    · intro h
      rcases h with ⟨place, -, hplace⟩ | ⟨-, hrange, hmicros⟩
      · exact absurd ⟨place, by rw [hplace, Int.mul_comm]⟩ hwhole
      · exact ⟨hmicros, hrange, hdivisor⟩

/-! ## The predicate -/

/-- The parameter is a timestamp at a place on the time line, in nanoseconds. -/
def IsTimestampAt (scope : PostgresScopePredicate) (nanos : Int) : Prop :=
  ∃ moment : Moment, moment.nanos = nanos ∧
    (Renders scope.field (.localTime moment) scope.canonicalPayload ∨
      Renders scope.field (.instant nanos) scope.canonicalPayload)

/-- The parameter is between two microseconds, and the stored timestamp is the
microsecond of the years 1 to 9999 its literal is rounded to. -/
def IsRoundedTo (rounding : MicrosecondRounding) (scope : PostgresScopePredicate)
    (column : PgColumn) : Prop :=
  ∃ nanos, IsTimestampAt scope nanos ∧ ¬ (1000 : Int) ∣ nanos ∧
    Datetime.InRange (rounding.round nanos) ∧
    (column = some (.timestamp (.finite (rounding.round nanos))) ∨
      column = some (.timestamptz (.finite (rounding.round nanos))))

/-- The column's values are those of a type the field admits. -/
def StoresAdmitted (logicalType : LogicalType) (column : PgColumn) : Prop :=
  ∀ value, column = some value →
    ∃ typeName ∈ allowedBaseTypes logicalType, Stores typeName value

/-- The parts of the condition. -/
theorem scopeCondition_eq_ok {truth : Truth}
    (h : scopeCondition rounding scope column = .ok truth) :
    ∃ isValid decoded native, payloadIsValid scope.field column = .ok isValid ∧
      decodePayload scope.field scope.canonicalPayload = .ok decoded ∧
      nativeScopeComparison rounding scope.field decoded column = .ok native ∧
      (truth = some true ↔ column ≠ none ∧ isValid = some true ∧
        native.getD (Truth.compare (fun a b => decide (a = b)) (convertToUtf8 column)
          (some scope.canonicalPayload)) = some true) := by
  unfold scopeCondition at h
  obtain ⟨isValid, hvalid, h⟩ := bind_eq_ok.mp h
  obtain ⟨decoded, hdecoded, h⟩ := bind_eq_ok.mp h
  obtain ⟨native, hnative, h⟩ := bind_eq_ok.mp h
  refine ⟨isValid, decoded, native, hvalid, hdecoded, hnative, ?_⟩
  rw [← Except.ok.inj h, Truth.conj_eq_true, Truth.conj_eq_true, Truth.isNotNull_eq_true,
    and_assoc]
  cases native <;> rfl

/-- A parameter between two microseconds is a timestamp. -/
theorem IsTimestampAt.logicalType {nanos : Int} (h : IsTimestampAt scope nanos) :
    scope.field.logicalType = .timestampLocal ∨ scope.field.logicalType = .timestampInstant := by
  obtain ⟨moment, -, h⟩ := h
  unfold Renders at h
  cases hlogical : scope.field.logicalType <;> simp [hlogical] at h ⊢

theorem isRoundedTo_of_not_timestamp (hlocal : scope.field.logicalType ≠ .timestampLocal)
    (hinstant : scope.field.logicalType ≠ .timestampInstant) :
    ¬ IsRoundedTo rounding scope column := by
  intro h
  obtain ⟨nanos, htimestamp, -⟩ := h
  rcases htimestamp.logicalType with h | h
  · exact hlocal h
  · exact hinstant h

/-- The stored value is spelled by an input that denotes a logical value. -/
def Means (field : FieldSchema) (column : PgColumn) (logical : LogicalValue) : Prop :=
  ∃ value input, column = some value ∧ SpelledBy value input ∧ denotes field input = some logical

theorem means_int64 (hfield : field.logicalType = .int64) {n : Int} :
    Means field column (.integer n) ↔
      ∃ value, column = some value ∧ value.number = some (n : ℚ) := by
  unfold Means denotes
  simp only [hfield]
  constructor
  · intro h
    obtain ⟨value, input, hcolumn, hspelled, hdenotes⟩ := h
    refine ⟨value, hcolumn, ?_⟩
    cases hspelled with
    | @integer _ m hnumber =>
      obtain rfl : m = n := by simpa [CanonicalInput.asInteger] using hdenotes
      exact hnumber
    | _ => simp [CanonicalInput.asInteger] at hdenotes
  · intro h
    obtain ⟨value, hcolumn, hnumber⟩ := h
    exact ⟨value, .integer n, hcolumn, .integer hnumber, rfl⟩

/-- A number with an unscaled integer is spelled by a decimal. -/
theorem means_decimal (hfield : field.logicalType = .decimal) {parameters : DecimalParameters}
    {q : ℚ} {unscaled : Int} (hq : IsUnscaled parameters q unscaled)
    (hstores : StoresAdmitted .decimal column) :
    Means field column (.decimal q) ↔ ∃ value, column = some value ∧ value.number = some q := by
  unfold Means denotes
  simp only [hfield]
  constructor
  · intro h
    obtain ⟨value, input, hcolumn, hspelled, hdenotes⟩ := h
    refine ⟨value, hcolumn, ?_⟩
    cases hspelled with
    | @integer _ m hnumber =>
      obtain rfl : (m : ℚ) = q := by simpa [CanonicalInput.asNumber] using hdenotes
      exact hnumber
    | @decimal _ d r hnumber hd =>
      obtain rfl : r = q := by simpa [CanonicalInput.asNumber, hd] using hdenotes
      exact hnumber
    | text t =>
      obtain ⟨typeName, hallowed, hstored⟩ := hstores _ hcolumn
      simp only [allowedBaseTypes, List.mem_cons, List.not_mem_nil, or_false] at hallowed
      rcases hallowed with rfl | rfl | rfl | rfl <;> exact hstored.elim
    | _ => simp [CanonicalInput.asNumber] at hdenotes
  · intro h
    obtain ⟨value, hcolumn, hnumber⟩ := h
    have hsigned : signed (decide (unscaled < 0)) unscaled.natAbs = unscaled := by
      have h := @decimalFromInput_value (.integer unscaled) unscaled
      simpa [CanonicalInput.asNumber, decimalFromInput, value_finite] using h
    have hd : (PythonDecimal.finite (decide (unscaled < 0)) unscaled.natAbs
        (-(parameters.scale : Int))).value = some q := by
      rw [value_finite, hsigned, (isUnscaled_self parameters hq.2).value_unique hq]
    refine ⟨value, .decimal _, hcolumn, .decimal hnumber hd, ?_⟩
    simp [CanonicalInput.asNumber, hd]

theorem means_boolean (hfield : field.logicalType = .boolean) {b : Bool} :
    Means field column (.boolean b) ↔ column = some (.boolean b) := by
  unfold Means denotes
  simp only [hfield]
  constructor
  · intro h
    obtain ⟨value, input, rfl, hspelled, hdenotes⟩ := h
    cases hspelled with
    | boolean c =>
      obtain rfl : c = b := by simpa [CanonicalInput.asBoolean] using hdenotes
      rfl
    | _ => simp [CanonicalInput.asBoolean] at hdenotes
  · intro h
    exact ⟨_, _, h, .boolean b, rfl⟩

theorem means_string (hfield : field.logicalType = .string) {text : String} :
    Means field column (.text (codePoints text.toList)) ↔
      ∃ t : PgText, t.text = text ∧ column = some (.text t) := by
  unfold Means denotes
  simp only [hfield]
  constructor
  · intro h
    obtain ⟨value, input, rfl, hspelled, hdenotes⟩ := h
    cases hspelled with
    | text t =>
      have hpoints : codePoints t.text.toList = codePoints text.toList := by
        simpa [CanonicalInput.asText] using hdenotes
      exact ⟨t, String.toList_inj.mp (codePoints_injective hpoints), rfl⟩
    | _ => simp [CanonicalInput.asText] at hdenotes
  · intro h
    obtain ⟨t, rfl, rfl⟩ := h
    exact ⟨_, _, rfl, .text t, rfl⟩

theorem means_date (hfield : field.logicalType = .date) {d : Date}
    (hstores : StoresAdmitted .date column) :
    Means field column (.date d) ↔ column = some (.date (.finite d.toOrdinal)) := by
  unfold Means denotes
  simp only [hfield]
  constructor
  · intro h
    obtain ⟨value, input, rfl, hspelled, hdenotes⟩ := h
    cases hspelled with
    | date e =>
      obtain rfl : e = d := by simpa [CanonicalInput.asDate] using hdenotes
      rfl
    | text t =>
      obtain ⟨typeName, hallowed, hstored⟩ := hstores _ rfl
      obtain rfl : typeName = "date" := by simpa [allowedBaseTypes] using hallowed
      exact hstored.elim
    | _ => simp [CanonicalInput.asDate] at hdenotes
  · intro h
    exact ⟨_, _, h, .date d, rfl⟩

theorem means_timestampLocal (hfield : field.logicalType = .timestampLocal) {moment : Moment}
    (hstores : StoresAdmitted .timestampLocal column) :
    Means field column (.localTime moment) ↔
      ∃ place : Int, column = some (.timestamp (.finite place)) ∧
        moment.nanos = place * 1000 := by
  unfold Means denotes
  simp only [hfield]
  constructor
  · intro h
    obtain ⟨value, input, rfl, hspelled, hdenotes⟩ := h
    cases hspelled with
    | timestamp t =>
      have hmoment : Moment.ofDatetime t = moment := by
        simpa [CanonicalInput.asLocalTime] using hdenotes
      exact ⟨t.micros, rfl, by rw [← hmoment, Moment.nanos_ofDatetime]⟩
    | text t =>
      obtain ⟨typeName, hallowed, hstored⟩ := hstores _ rfl
      obtain rfl : typeName = "timestamp" := by simpa [allowedBaseTypes] using hallowed
      exact hstored.elim
    | _ => simp [CanonicalInput.asLocalTime] at hdenotes
  · intro h
    obtain ⟨place, hcolumn, hnanos⟩ := h
    obtain ⟨t, rfl⟩ := exists_datetime moment hnanos
    refine ⟨_, _, hcolumn, .timestamp t, ?_⟩
    rw [← Moment.nanos_ofDatetime] at hnanos
    rw [Moment.nanos_injective hnanos]
    rfl

theorem means_timestampInstant (hfield : field.logicalType = .timestampInstant) {moment : Moment}
    (hstores : StoresAdmitted .timestampInstant column) :
    Means field column (.instant moment.nanos) ↔
      ∃ place : Int, column = some (.timestamptz (.finite place)) ∧
        moment.nanos = place * 1000 := by
  unfold Means denotes
  simp only [hfield]
  constructor
  · intro h
    obtain ⟨value, input, rfl, hspelled, hdenotes⟩ := h
    cases hspelled with
    | timestamptz t =>
      have hnanos : t.micros * 1000 = moment.nanos := by
        simpa [CanonicalInput.asInstant, utcOffset] using hdenotes
      exact ⟨t.micros, rfl, hnanos.symm⟩
    | text t =>
      obtain ⟨typeName, hallowed, hstored⟩ := hstores _ rfl
      obtain rfl : typeName = "timestamptz" := by simpa [allowedBaseTypes] using hallowed
      exact hstored.elim
    | _ => simp [CanonicalInput.asInstant] at hdenotes
  · intro h
    obtain ⟨place, hcolumn, hnanos⟩ := h
    obtain ⟨t, rfl⟩ := exists_datetime moment hnanos
    refine ⟨_, _, hcolumn, .timestamptz t, ?_⟩
    rw [hnanos]
    simp [CanonicalInput.asInstant, utcOffset]

theorem isTimestampAt_local {moment : Moment} {nanos : Int}
    (h : Renders scope.field (.localTime moment) scope.canonicalPayload) :
    IsTimestampAt scope nanos ↔ nanos = moment.nanos := by
  constructor
  · intro htimestamp
    obtain ⟨other, hnanos, hlocal | hinstant⟩ := htimestamp
    · have hsame := hlocal.injective h
      rw [LogicalValue.localTime.injEq] at hsame
      rw [← hnanos, hsame]
    · have hsame := hinstant.injective h
      cases hsame
  · intro hnanos
    exact ⟨moment, hnanos.symm, .inl h⟩

theorem isTimestampAt_instant {moment : Moment} {nanos : Int}
    (h : Renders scope.field (.instant moment.nanos) scope.canonicalPayload) :
    IsTimestampAt scope nanos ↔ nanos = moment.nanos := by
  constructor
  · intro htimestamp
    obtain ⟨other, hnanos, hlocal | hinstant⟩ := htimestamp
    · have hsame := hlocal.injective h
      cases hsame
    · have hsame := hinstant.injective h
      rwa [LogicalValue.instant.injEq] at hsame
  · intro hnanos
    subst hnanos
    exact ⟨moment, rfl, .inr h⟩

theorem stores_date {value : PgValue} (h : StoresAdmitted .date (some value)) :
    ∃ days, value = .date days := by
  obtain ⟨typeName, hallowed, hstored⟩ := h value rfl
  obtain rfl : typeName = "date" := by simpa [allowedBaseTypes] using hallowed
  cases value with
  | date days => exact ⟨days, rfl⟩
  | _ => exact hstored.elim

theorem stores_timestamp {value : PgValue} (h : StoresAdmitted .timestampLocal (some value)) :
    ∃ micros, value = .timestamp micros := by
  obtain ⟨typeName, hallowed, hstored⟩ := h value rfl
  obtain rfl : typeName = "timestamp" := by simpa [allowedBaseTypes] using hallowed
  cases value with
  | timestamp micros => exact ⟨micros, rfl⟩
  | _ => exact hstored.elim

theorem stores_timestamptz {value : PgValue}
    (h : StoresAdmitted .timestampInstant (some value)) : ∃ micros, value = .timestamptz micros := by
  obtain ⟨typeName, hallowed, hstored⟩ := h value rfl
  obtain rfl : typeName = "timestamptz" := by simpa [allowedBaseTypes] using hallowed
  cases value with
  | timestamptz micros => exact ⟨micros, rfl⟩
  | _ => exact hstored.elim

@[simp] theorem timeEquals_date {place : Int} {days : PgTime} :
    timeEquals (some place) (some (.date days)) = some true ↔ days = .finite place := by
  simp [timeEquals, Truth.compare]

@[simp] theorem timeEquals_timestamp {place : Int} {micros : PgTime} :
    timeEquals (some place) (some (.timestamp micros)) = some true ↔ micros = .finite place := by
  simp [timeEquals, Truth.compare]

@[simp] theorem timeEquals_timestamptz {place : Int} {micros : PgTime} :
    timeEquals (some place) (some (.timestamptz micros)) = some true ↔ micros = .finite place := by
  simp [timeEquals, Truth.compare]

/-- The parameters of a field of a type that has some. -/
theorem parameters_decimal (hfield : field.logicalType = .decimal) :
    ∃ parameters, field.parameters = .decimal parameters := by
  have hfits := field.fits
  rw [hfield] at hfits
  cases hparameters : field.parameters with
  | decimal parameters => exact ⟨parameters, rfl⟩
  | _ => simp [hparameters, FieldParameters.fit] at hfits

theorem parameters_timestamp
    (hfield : field.logicalType = .timestampLocal ∨ field.logicalType = .timestampInstant) :
    ∃ parameters, field.parameters = .timestamp parameters := by
  have hfits := field.fits
  cases hparameters : field.parameters with
  | timestamp parameters => exact ⟨parameters, rfl⟩
  | _ =>
    rw [hparameters] at hfits
    rcases hfield with hfield | hfield <;> simp [hfield, FieldParameters.fit] at hfits

/-- A row is selected by its value, or because the parameter is rounded to it. -/
theorem selected_iff {logical : LogicalValue} {decoded : DecodedValue} {isValid : Truth}
    {native : Option Truth} (hstores : StoresAdmitted scope.field.logicalType column)
    (hrenders : Renders scope.field logical scope.canonicalPayload)
    (hdecodes : Decodes scope.field logical decoded)
    (hvalid : payloadIsValid scope.field column = .ok isValid)
    (hnative : nativeScopeComparison rounding scope.field decoded column = .ok native) :
    (column ≠ none ∧ isValid = some true ∧
      native.getD (Truth.compare (fun a b => decide (a = b)) (convertToUtf8 column)
        (some scope.canonicalPayload)) = some true) ↔
      Means scope.field column logical ∨ IsRoundedTo rounding scope column := by
  cases hfield : scope.field.logicalType with
  | int64 =>
    simp only [payloadIsValid, hfield] at hvalid
    simp only [Renders, hfield] at hrenders
    simp only [Decodes, hfield] at hdecodes
    cases logical with
    | integer n =>
      subst hdecodes
      simp only [nativeScopeComparison, hfield] at hnative
      obtain rfl := Except.ok.inj hvalid
      obtain rfl := Except.ok.inj hnative
      have hrounded := @isRoundedTo_of_not_timestamp rounding scope column (by simp [hfield])
        (by simp [hfield])
      rw [Option.getD_some, selects_int64 hrenders.1, means_int64 hfield, or_iff_left hrounded]
      simp only [and_iff_right_iff_imp]
      intro h
      obtain ⟨value, rfl, -⟩ := h
      simp
    | _ => exact hrenders.elim
  | decimal =>
    obtain ⟨parameters, hparameters⟩ := parameters_decimal hfield
    simp only [payloadIsValid, hfield, hparameters] at hvalid
    simp only [Renders, hfield, hparameters] at hrenders
    simp only [Decodes, hfield, hparameters] at hdecodes
    cases logical with
    | decimal q =>
      obtain ⟨unscaled, hunscaled, rfl⟩ := hdecodes
      simp only [nativeScopeComparison, hfield] at hnative
      obtain rfl := Except.ok.inj hvalid
      obtain rfl := Except.ok.inj hnative
      rw [hfield] at hstores
      have hrounded := @isRoundedTo_of_not_timestamp rounding scope column (by simp [hfield])
        (by simp [hfield])
      rw [Option.getD_some, selects_decimal hunscaled, means_decimal hfield hunscaled hstores,
        or_iff_left hrounded]
      simp only [and_iff_right_iff_imp]
      intro h
      obtain ⟨value, rfl, -⟩ := h
      simp
    | _ => exact hrenders.elim
  | boolean =>
    simp only [payloadIsValid, hfield] at hvalid
    simp only [Renders, hfield] at hrenders
    simp only [Decodes, hfield] at hdecodes
    cases logical with
    | boolean b =>
      subst hdecodes
      simp only [nativeScopeComparison, hfield] at hnative
      obtain rfl := Except.ok.inj hvalid
      obtain rfl := Except.ok.inj hnative
      have hrounded := @isRoundedTo_of_not_timestamp rounding scope column (by simp [hfield])
        (by simp [hfield])
      rw [Option.getD_some, means_boolean hfield, or_iff_left hrounded]
      rcases column with _ | value
      · simp
      · cases value <;> simp [Truth.compare]
    | _ => exact hrenders.elim
  | string =>
    simp only [payloadIsValid, hfield] at hvalid
    simp only [Renders, hfield] at hrenders
    simp only [Decodes, hfield] at hdecodes
    cases logical with
    | text points =>
      obtain ⟨text, rfl, hzero, hpayload⟩ := hrenders
      simp only [nativeScopeComparison, hfield] at hnative
      obtain rfl := Except.ok.inj hvalid
      obtain rfl := Except.ok.inj hnative
      have hrounded := @isRoundedTo_of_not_timestamp rounding scope column (by simp [hfield])
        (by simp [hfield])
      rw [Option.getD_none, means_string hfield, or_iff_left hrounded, hpayload]
      rcases column with _ | value
      · simp
      · cases value with
        | text t => simp [Truth.compare, convertToUtf8, utf8Encode_injective.eq_iff, eq_comm]
        | _ => simp [Truth.compare, convertToUtf8]
    | _ => exact hrenders.elim
  | date =>
    simp only [payloadIsValid, hfield] at hvalid
    simp only [Renders, hfield] at hrenders
    simp only [Decodes, hfield] at hdecodes
    cases logical with
    | date d =>
      subst hdecodes
      simp only [nativeScopeComparison, hfield] at hnative
      obtain rfl := Except.ok.inj hvalid
      obtain rfl := Except.ok.inj hnative
      rw [hfield] at hstores
      have hrounded := @isRoundedTo_of_not_timestamp rounding scope column (by simp [hfield])
        (by simp [hfield])
      rw [Option.getD_some, means_date hfield hstores, or_iff_left hrounded]
      rcases column with _ | value
      · simp
      · obtain ⟨days, rfl⟩ := stores_date hstores
        rw [timeEquals_date]
        simp only [ne_eq, reduceCtorEq, not_false_eq_true, true_and, Option.some.injEq,
          PgValue.date.injEq, and_iff_right_iff_imp]
        intro h
        rw [h, yearInRange_date]
        have hpos := d.toOrdinal_pos
        have hle := d.toOrdinal_le
        omega
    | _ => exact hrenders.elim
  | timestampLocal =>
    obtain ⟨parameters, hparameters⟩ := parameters_timestamp (.inl hfield)
    have hparameter := hrenders
    simp only [payloadIsValid, hfield, hparameters] at hvalid
    simp only [Renders, hfield, hparameters] at hrenders
    simp only [Decodes, hfield, hparameters] at hdecodes
    cases logical with
    | localTime moment =>
      subst hdecodes
      simp only [nativeScopeComparison, hfield] at hnative
      obtain rfl := Except.ok.inj hvalid
      obtain rfl := Except.ok.inj hnative
      rw [hfield] at hstores
      have hliteral : timestampLiteral rounding
          (String.ofList (moment.text parameters.precision)) = some (rounding.round moment.nanos) := by
        rw [timestampLiteral, String.toList_ofList,
          asLocalTime_momentText parameters.precision_le hrenders.1]
        rfl
      rw [Option.getD_some, hliteral, means_timestampLocal hfield hstores]
      simp only [IsRoundedTo, isTimestampAt_local hparameter, exists_eq_left]
      rcases column with _ | value
      · simp
      · obtain ⟨micros, rfl⟩ := stores_timestamp hstores
        rw [timeEquals_timestamp, selects_moment hrenders.1]
        simp only [ne_eq, reduceCtorEq, not_false_eq_true, true_and, Option.some.injEq,
          PgValue.timestamp.injEq, or_false]
    | _ => exact hrenders.elim
  | timestampInstant =>
    obtain ⟨parameters, hparameters⟩ := parameters_timestamp (.inr hfield)
    have hparameter := hrenders
    simp only [payloadIsValid, hfield, hparameters] at hvalid
    simp only [Renders, hfield, hparameters] at hrenders
    simp only [Decodes, hfield, hparameters] at hdecodes
    cases logical with
    | instant nanos =>
      obtain ⟨moment, ⟨rfl, hfits⟩, rfl⟩ := hdecodes
      simp only [nativeScopeComparison, hfield] at hnative
      obtain rfl := Except.ok.inj hvalid
      obtain rfl := Except.ok.inj hnative
      rw [hfield] at hstores
      have hliteral : timestamptzLiteral rounding
          (String.ofList (moment.text parameters.precision ++ ['Z'])) =
            some (rounding.round moment.nanos) := by
        rw [timestamptzLiteral, String.toList_ofList,
          asInstant_momentText parameters.precision_le hfits]
        rfl
      rw [Option.getD_some, hliteral, means_timestampInstant hfield hstores]
      simp only [IsRoundedTo, isTimestampAt_instant hparameter, exists_eq_left]
      rcases column with _ | value
      · simp
      · obtain ⟨micros, rfl⟩ := stores_timestamptz hstores
        rw [timeEquals_timestamptz, atTimeZoneUtc, selects_moment hfits]
        simp only [ne_eq, reduceCtorEq, not_false_eq_true, true_and, Option.some.injEq,
          PgValue.timestamptz.injEq, false_or]
    | _ => exact hrenders.elim

/-- A stored value has the payload of a parameter it is rounded to in no case. -/
theorem not_means_and_isRoundedTo {logical : LogicalValue}
    (hstores : StoresAdmitted scope.field.logicalType column)
    (hrenders : Renders scope.field logical scope.canonicalPayload)
    (hmeans : Means scope.field column logical) : ¬ IsRoundedTo rounding scope column := by
  intro h
  obtain ⟨nanos, ⟨moment, hnanos, hparameter⟩, hwhole, -⟩ := h
  have hfield := @IsTimestampAt.logicalType scope nanos ⟨moment, hnanos, hparameter⟩
  rcases hparameter with hlocal | hinstant
  · rw [hrenders.injective hlocal] at hmeans
    rcases hfield with hfield | hfield
    · rw [hfield] at hstores
      obtain ⟨place, -, hplace⟩ := (means_timestampLocal hfield hstores).mp hmeans
      exact hwhole ⟨place, by rw [← hnanos, hplace, Int.mul_comm]⟩
    · simp [Renders, hfield] at hlocal
  · subst hnanos
    rw [hrenders.injective hinstant] at hmeans
    rcases hfield with hfield | hfield
    · simp [Renders, hfield] at hinstant
    · rw [hfield] at hstores
      obtain ⟨place, -, hplace⟩ := (means_timestampInstant hfield hstores).mp hmeans
      exact hwhole ⟨place, by rw [hplace, Int.mul_comm]⟩

/-- A column of an admitted binding stores what the field admits. -/
theorem storesAdmitted_of_mapping {physical : PostgresPhysicalField} {fieldIndex : ℕ}
    (h : validatePhysicalMapping field physical fieldIndex = .ok ())
    (hcolumn : ∀ value, column = some value → Stores physical.baseType.typeName value) :
    StoresAdmitted field.logicalType column := by
  intro value hvalue
  refine ⟨physical.baseType.typeName, ?_, hcolumn value hvalue⟩
  unfold validatePhysicalMapping at h
  by_contra hallowed
  simp only [hallowed, if_false] at h
  split_ifs at h

/-- Let an admitted scope have a predicate on a row whose columns store values of
their types. The predicate selects the row exactly when the column's value has
the parameter's payload, except for this: a timestamp parameter with digits below
the microsecond also selects the microsecond its literal is rounded to. -/
theorem scope_predicate_iff (rounding : MicrosecondRounding) (bindings : List PostgresFieldBinding)
    (scope : PostgresScopePredicate) (row : PgRow) (truth : Truth)
    (hrow : ∀ binding ∈ bindings, ∀ value, row binding.columnName = some value →
      Stores binding.physical.baseType.typeName value)
    (h : scopeFilter rounding bindings (some scope) row = .ok truth) :
    (truth = some true ↔
        HasPayload scope.field (row scope.columnName) scope.canonicalPayload) ↔
      ¬ IsRoundedTo rounding scope (row scope.columnName) := by
  unfold scopeFilter at h
  simp only at h
  split at h
  · rename_i binding fieldIndex hmatching
    rw [bind_unit_eq_ok] at h
    obtain ⟨hmapping, hcondition⟩ := h
    have hmem : (binding, fieldIndex) ∈ [(binding, fieldIndex)] := List.mem_singleton_self _
    rw [← hmatching, List.mem_filter, decide_eq_true_eq] at hmem
    have hstores := storesAdmitted_of_mapping hmapping fun value hvalue =>
      hrow binding (List.fst_mem_of_mem_zipIdx hmem.1) value (by rw [hmem.2]; exact hvalue)
    obtain ⟨isValid, decoded, native, hvalid, hdecoded, hnative, htruth⟩ :=
      scopeCondition_eq_ok hcondition
    obtain ⟨logical, hrenders, hdecodes⟩ := decodePayload_eq_ok.mp hdecoded
    have hmeans : HasPayload scope.field (row scope.columnName) scope.canonicalPayload ↔
        Means scope.field (row scope.columnName) logical := hasPayload_iff hrenders
    have hexclusive := @not_means_and_isRoundedTo rounding scope (row scope.columnName) logical
      hstores hrenders
    rw [htruth, selected_iff hstores hrenders hdecodes hvalid hnative, hmeans]
    tauto
  · cases h

/-! ## A parameter between two microseconds -/

/-- Rounding to the nearest microsecond, up from the half. -/
def nearestMicrosecond : MicrosecondRounding where
  round := fun nanos => (nanos + 500) / 1000
  nearest := by
    intro nanos
    omega

/-- The first midnight of 2024. -/
def newYear : Datetime :=
  .midnight (.newYear 2024 (by decide) (by decide))

/-- A parameter with nine digits, 400 nanoseconds after that midnight. -/
def nanosecondScope : PostgresScopePredicate where
  field :=
    { name := "at", logicalType := .timestampLocal, nullable := false
      parameters := .timestamp ⟨9, by decide⟩, normalization := .none, fits := rfl }
  columnName := "at"
  canonicalPayload := asciiBytes "2024-01-01T00:00:00.000000400".toList
  nonNullable := rfl
  decodes := ⟨.text "2024-01-01T00:00:00.000000400", by decide +kernel⟩

def timestampBinding : PostgresFieldBinding where
  columnName := "at"
  physical := ⟨⟨"pg_catalog", "timestamp"⟩, false, 0⟩

/-- The row of midnight. -/
def newYearRow : PgRow := fun _ => some (.timestamp (.finite newYear.micros))

theorem scope_predicate_iff_newYear :
    (some true = some true ↔ HasPayload nanosecondScope.field (newYearRow "at")
      nanosecondScope.canonicalPayload) ↔
      ¬ IsRoundedTo nearestMicrosecond nanosecondScope (newYearRow "at") := by
  refine scope_predicate_iff nearestMicrosecond [timestampBinding] nanosecondScope newYearRow
    (some true) ?_ (by decide +kernel)
  intro binding hbinding value hvalue
  obtain rfl := List.mem_singleton.mp hbinding
  obtain rfl := Option.some.inj hvalue
  trivial

/-- The predicate selects the row of midnight, whose payload is another. -/
theorem scope_predicate_selects_newYear :
    scopeFilter nearestMicrosecond [timestampBinding] (some nanosecondScope) newYearRow =
        .ok (some true) ∧
      ¬ HasPayload nanosecondScope.field (newYearRow nanosecondScope.columnName)
        nanosecondScope.canonicalPayload := by
  refine ⟨by decide +kernel, ?_⟩
  intro h
  obtain ⟨value, input, hvalue, hspelled, hencode⟩ := h
  obtain rfl := Option.some.inj hvalue
  generalize hplace : PgTime.finite newYear.micros = place at hspelled
  cases hspelled with
  | integer h => cases h
  | decimal h => cases h
  | timestamp t =>
    rw [PgTime.finite.injEq] at hplace
    obtain rfl := Datetime.micros_injective hplace
    have hpayload : encodePayload nanosecondScope.field (.datetime newYear .naive) =
        .ok (asciiBytes "2024-01-01T00:00:00.000000000".toList) := by decide +kernel
    rw [hpayload] at hencode
    exact absurd (Except.ok.inj hencode) (by decide +kernel)

end ForensicData.Postgres
