/-
ForensicData.Lib.TimeText — dates and times of day as ISO 8601 text.

Every number has a fixed number of digits, so a text is read field by field
and only one text is read as given fields (`readStamp_eq_some`). A `Moment` is
a calendar second with its nanosecond; `Moment.text` writes it with as many
fraction digits as asked for, which is exact when the rest is zero
(`Moment.Fits`).
-/
import ForensicData.Lib.Calendar
import ForensicData.Lib.Digits

namespace ForensicData.Lib

/-! ## Reading -/

def takeChar (c : Char) : List Char → Option (List Char)
  | [] => none
  | d :: cs => if d = c then some cs else none

@[simp] theorem takeChar_eq_some {c : Char} {cs rest : List Char} :
    takeChar c cs = some rest ↔ cs = c :: rest := by
  cases cs with
  | nil => simp [takeChar]
  | cons d cs => simp [takeChar]

/-- `YYYY-MM-DD`. -/
def dateDigits (year month day : ℕ) : List Char :=
  fixedDigits 10 4 year ++ '-' :: (fixedDigits 10 2 month ++ '-' :: fixedDigits 10 2 day)

def readDate (cs : List Char) : Option ((ℕ × ℕ × ℕ) × List Char) :=
  (takeDigits 4 cs).bind fun (year, cs) =>
    (takeChar '-' cs).bind fun cs =>
      (takeDigits 2 cs).bind fun (month, cs) =>
        (takeChar '-' cs).bind fun cs =>
          (takeDigits 2 cs).bind fun (day, cs) => some ((year, month, day), cs)

theorem readDate_eq_some {cs rest : List Char} {year month day : ℕ} :
    readDate cs = some ((year, month, day), rest) ↔
      (year < 10 ^ 4 ∧ month < 10 ^ 2 ∧ day < 10 ^ 2) ∧ cs = dateDigits year month day ++ rest := by
  simp only [readDate, Option.bind_eq_some_iff, Prod.exists, takeDigits_eq_some, takeChar_eq_some,
    Option.some.injEq, Prod.mk.injEq]
  constructor
  · rintro ⟨y, r1, ⟨hy, rfl⟩, r2, rfl, m, r3, ⟨hm, rfl⟩, r4, rfl, d, r5, ⟨hd, rfl⟩,
      ⟨rfl, rfl, rfl⟩, rfl⟩
    exact ⟨⟨hy, hm, hd⟩, by simp [dateDigits]⟩
  · rintro ⟨⟨hy, hm, hd⟩, rfl⟩
    exact ⟨year, _, ⟨hy, by simp [dateDigits]⟩, _, rfl, month, _, ⟨hm, rfl⟩, _, rfl, day, rest,
      ⟨hd, rfl⟩, ⟨rfl, rfl, rfl⟩, rfl⟩

/-- `HH:MM:SS`. -/
def clockDigits (hour minute second : ℕ) : List Char :=
  fixedDigits 10 2 hour ++ ':' :: (fixedDigits 10 2 minute ++ ':' :: fixedDigits 10 2 second)

def readClock (cs : List Char) : Option ((ℕ × ℕ × ℕ) × List Char) :=
  (takeDigits 2 cs).bind fun (hour, cs) =>
    (takeChar ':' cs).bind fun cs =>
      (takeDigits 2 cs).bind fun (minute, cs) =>
        (takeChar ':' cs).bind fun cs =>
          (takeDigits 2 cs).bind fun (second, cs) => some ((hour, minute, second), cs)

theorem readClock_eq_some {cs rest : List Char} {hour minute second : ℕ} :
    readClock cs = some ((hour, minute, second), rest) ↔
      (hour < 10 ^ 2 ∧ minute < 10 ^ 2 ∧ second < 10 ^ 2) ∧
        cs = clockDigits hour minute second ++ rest := by
  simp only [readClock, Option.bind_eq_some_iff, Prod.exists, takeDigits_eq_some, takeChar_eq_some,
    Option.some.injEq, Prod.mk.injEq]
  constructor
  · rintro ⟨h, r1, ⟨hh, rfl⟩, r2, rfl, m, r3, ⟨hm, rfl⟩, r4, rfl, s, r5, ⟨hs, rfl⟩,
      ⟨rfl, rfl, rfl⟩, rfl⟩
    exact ⟨⟨hh, hm, hs⟩, by simp [clockDigits]⟩
  · rintro ⟨⟨hh, hm, hs⟩, rfl⟩
    exact ⟨hour, _, ⟨hh, by simp [clockDigits]⟩, _, rfl, minute, _, ⟨hm, rfl⟩, _, rfl, second,
      rest, ⟨hs, rfl⟩, ⟨rfl, rfl, rfl⟩, rfl⟩

/-- The digits of a fraction with its point; nothing without digits. -/
def fractionText : List Char → List Char
  | [] => []
  | ds => '.' :: ds

/-- `(?:\.([0-9]{1,9}))?`: the digits, and what follows them. -/
def readFraction : List Char → Option (List Char × List Char)
  | '.' :: cs =>
    let digits := cs.takeWhile (isDigitOf 10)
    if 1 ≤ digits.length ∧ digits.length ≤ 9 then
      some (digits, cs.dropWhile (isDigitOf 10))
    else none
  | cs => some ([], cs)

/-- The text starts with neither a digit nor a point. -/
def EndsFraction (rest : List Char) : Prop :=
  ∀ c, rest.head? = some c → isDigitOf 10 c = false ∧ c ≠ '.'

theorem readFraction_sound {cs digits rest : List Char} (h : readFraction cs = some (digits, rest)) :
    (digits.length ≤ 9 ∧ ∀ c ∈ digits, isDigitOf 10 c = true) ∧ cs = fractionText digits ++ rest := by
  unfold readFraction at h
  split at h
  · rename_i cs
    dsimp only at h
    split at h
    · rename_i hlength
      rw [Option.some.injEq, Prod.mk.injEq] at h
      obtain ⟨hdigits, rfl⟩ := h
      have hall : ∀ c ∈ digits, isDigitOf 10 c = true := by
        intro c hc
        rw [← hdigits] at hc
        exact List.all_eq_true.mp List.all_takeWhile c hc
      rw [hdigits] at hlength
      refine ⟨⟨hlength.2, hall⟩, ?_⟩
      have htext : fractionText digits = '.' :: digits := by
        cases digits with
        | nil => simp at hlength
        | cons d ds => rfl
      rw [htext, List.cons_append, ← hdigits, List.takeWhile_append_dropWhile]
    · simp at h
  · rw [Option.some.injEq, Prod.mk.injEq] at h
    obtain ⟨rfl, rfl⟩ := h
    exact ⟨⟨by simp, by simp⟩, rfl⟩

theorem takeWhile_append_ends {digits rest : List Char} (hdigits : ∀ c ∈ digits, isDigitOf 10 c = true)
    (hrest : EndsFraction rest) :
    (digits ++ rest).takeWhile (isDigitOf 10) = digits ∧
      (digits ++ rest).dropWhile (isDigitOf 10) = rest := by
  rw [List.takeWhile_append_of_pos hdigits, List.dropWhile_append_of_pos hdigits]
  cases rest with
  | nil => simp
  | cons c rest =>
    have hc := (hrest c rfl).1
    simp [hc]

theorem readFraction_complete {digits rest : List Char} (hlength : digits.length ≤ 9)
    (hdigits : ∀ c ∈ digits, isDigitOf 10 c = true) (hrest : EndsFraction rest) :
    readFraction (fractionText digits ++ rest) = some (digits, rest) := by
  cases digits with
  | nil =>
    rw [fractionText, List.nil_append]
    unfold readFraction
    split
    · rename_i cs
      exact absurd rfl (hrest '.' rfl).2
    · rfl
  | cons d ds =>
    obtain ⟨htake, hdrop⟩ := takeWhile_append_ends hdigits hrest
    change readFraction ('.' :: ((d :: ds) ++ rest)) = _
    rw [readFraction, htake, hdrop, if_pos ⟨by simp, hlength⟩]

/-- The fields of a timestamp text. -/
structure Stamp where
  year : ℕ
  month : ℕ
  day : ℕ
  hour : ℕ
  minute : ℕ
  second : ℕ
  fraction : List Char
  deriving DecidableEq, Repr

/-- The fields have their numbers of digits. -/
structure Stamp.Fits (s : Stamp) : Prop where
  date : s.year < 10 ^ 4 ∧ s.month < 10 ^ 2 ∧ s.day < 10 ^ 2
  clock : s.hour < 10 ^ 2 ∧ s.minute < 10 ^ 2 ∧ s.second < 10 ^ 2
  fraction : s.fraction.length ≤ 9 ∧ ∀ c ∈ s.fraction, isDigitOf 10 c = true

def Stamp.text (s : Stamp) : List Char :=
  dateDigits s.year s.month s.day ++ 'T' ::
    (clockDigits s.hour s.minute s.second ++ fractionText s.fraction)

def readStamp (cs : List Char) : Option (Stamp × List Char) :=
  (readDate cs).bind fun ((year, month, day), cs) =>
    (takeChar 'T' cs).bind fun cs =>
      (readClock cs).bind fun ((hour, minute, second), cs) =>
        (readFraction cs).bind fun (fraction, cs) =>
          some ({ year, month, day, hour, minute, second, fraction }, cs)

theorem readStamp_sound {cs rest : List Char} {s : Stamp} (h : readStamp cs = some (s, rest)) :
    s.Fits ∧ cs = s.text ++ rest := by
  simp only [readStamp, Option.bind_eq_some_iff, Prod.exists, readDate_eq_some, takeChar_eq_some,
    readClock_eq_some, Option.some.injEq, Prod.mk.injEq] at h
  obtain ⟨year, month, day, r1, ⟨hdate, rfl⟩, r2, rfl, hour, minute, second, r3, ⟨hclock, rfl⟩,
    fraction, r4, hfraction, rfl, rfl⟩ := h
  obtain ⟨hdigits, rfl⟩ := readFraction_sound hfraction
  exact ⟨⟨hdate, hclock, hdigits⟩, by simp [Stamp.text]⟩

theorem readStamp_complete {rest : List Char} {s : Stamp} (hs : s.Fits) (hrest : EndsFraction rest) :
    readStamp (s.text ++ rest) = some (s, rest) := by
  simp only [readStamp, Option.bind_eq_some_iff, Prod.exists, readDate_eq_some, takeChar_eq_some,
    readClock_eq_some, Option.some.injEq, Prod.mk.injEq]
  refine ⟨s.year, s.month, s.day, _, ⟨hs.date, ?_⟩, _, rfl, s.hour, s.minute, s.second, _,
    ⟨hs.clock, rfl⟩, s.fraction, rest,
    readFraction_complete hs.fraction.1 hs.fraction.2 hrest, rfl, rfl⟩
  simp [Stamp.text]

theorem endsFraction_nil : EndsFraction [] := by
  intro c hc
  simp at hc

/-- The whole text is read as the fields exactly when it is their text. -/
theorem readStamp_eq_some {cs : List Char} {s : Stamp} :
    readStamp cs = some (s, []) ↔ s.Fits ∧ cs = s.text := by
  constructor
  · intro h
    obtain ⟨hs, hcs⟩ := readStamp_sound h
    exact ⟨hs, by rw [hcs, List.append_nil]⟩
  · rintro ⟨hs, rfl⟩
    have h := readStamp_complete hs endsFraction_nil
    rwa [List.append_nil] at h

/-! ## Fractions of a second -/

/-- The nanoseconds of the digits after the point. -/
def fractionNanos (digits : List Char) : ℕ := digitsValue 10 digits * 10 ^ (9 - digits.length)

/-- The first `precision` digits, filled up with zeros, unless a digit after
them is not zero. -/
def fitDigits (digits : List Char) (precision : ℕ) : Option (List Char) :=
  if (digits.drop precision).all (· == '0') = true then
    some (digits.take precision ++
      List.replicate (precision - (digits.take precision).length) '0')
  else none

theorem fractionNanos_lt {digits : List Char} (hlength : digits.length ≤ 9)
    (hdigits : ∀ c ∈ digits, isDigitOf 10 c = true) : fractionNanos digits < 10 ^ 9 := by
  have hlt := digitsValue_lt hdigits
  calc digitsValue 10 digits * 10 ^ (9 - digits.length)
      < 10 ^ digits.length * 10 ^ (9 - digits.length) :=
        Nat.mul_lt_mul_of_pos_right hlt (Nat.pow_pos (by omega))
    _ = 10 ^ 9 := by rw [← Nat.pow_add, Nat.add_sub_of_le hlength]

theorem digitsValue_replicate_zero (n : ℕ) : digitsValue 10 (List.replicate n '0') = 0 :=
  (digitsValue_eq_zero (by omega)).mpr fun _ hc => List.eq_of_mem_replicate hc

/-- The digits fit when the nanoseconds are whole units of the last one, and
then write that number of units. -/
theorem fitDigits_eq_some {digits out : List Char} {precision : ℕ} (hprecision : precision ≤ 9)
    (hlength : digits.length ≤ 9) (hdigits : ∀ c ∈ digits, isDigitOf 10 c = true) :
    fitDigits digits precision = some out ↔
      10 ^ (9 - precision) ∣ fractionNanos digits ∧
        out = fixedDigits 10 precision (fractionNanos digits / 10 ^ (9 - precision)) := by
  have hkept : ∀ c ∈ digits.take precision, isDigitOf 10 c = true := fun c hc =>
    hdigits c (List.mem_of_mem_take hc)
  have hdropped : ∀ c ∈ digits.drop precision, isDigitOf 10 c = true := fun c hc =>
    hdigits c (List.mem_of_mem_drop hc)
  have hvalue : digitsValue 10 digits = digitsValue 10 (digits.take precision) *
      10 ^ (digits.drop precision).length + digitsValue 10 (digits.drop precision) := by
    rw [← digitsValue_append, List.take_append_drop]
  have hpos : 0 < 10 ^ (9 - precision) := Nat.pow_pos (by omega)
  -- the kept digits with their padding, as a text of `precision` digits
  have hpadded : ∀ kept : List Char, kept = digits.take precision →
      fixedDigits 10 precision (digitsValue 10 kept * 10 ^ (precision - kept.length)) =
        kept ++ List.replicate (precision - kept.length) '0' := by
    rintro kept rfl
    have hwidth : (digits.take precision ++
        List.replicate (precision - (digits.take precision).length) '0').length = precision := by
      rw [List.length_append, List.length_replicate, List.length_take]
      omega
    have hall : ∀ c ∈ digits.take precision ++
        List.replicate (precision - (digits.take precision).length) '0', isDigitOf 10 c = true := by
      intro c hc
      rcases List.mem_append.mp hc with hc | hc
      · exact hkept c hc
      · rw [List.eq_of_mem_replicate hc]
        decide
    have htext := fixedDigits_digitsValue (show 10 ≤ 16 by omega) hall
    rw [hwidth, digitsValue_append, digitsValue_replicate_zero, Nat.add_zero,
      List.length_replicate] at htext
    exact htext
  have hunits : digitsValue 10 (digits.drop precision) = 0 →
      fractionNanos digits = digitsValue 10 (digits.take precision) *
        10 ^ (precision - (digits.take precision).length) * 10 ^ (9 - precision) := by
    intro hzero
    rw [fractionNanos, hvalue, hzero, Nat.add_zero, Nat.mul_assoc, Nat.mul_assoc, ← Nat.pow_add,
      ← Nat.pow_add]
    congr 2
    rw [List.length_drop, List.length_take]
    omega
  have hdivides : 10 ^ (9 - precision) ∣ fractionNanos digits ↔
      digitsValue 10 (digits.drop precision) = 0 := by
    constructor
    · intro hdvd
      by_cases hshort : digits.length ≤ precision
      · rw [List.drop_eq_nil_of_le hshort, digitsValue_nil]
      · have hsplit : 10 ^ (9 - precision) =
            10 ^ (digits.drop precision).length * 10 ^ (9 - digits.length) := by
          rw [← Nat.pow_add, List.length_drop]
          congr 1
          omega
        rw [fractionNanos, hsplit] at hdvd
        have hdvd := Nat.dvd_of_mul_dvd_mul_right (Nat.pow_pos (by omega)) hdvd
        rw [hvalue, Nat.dvd_add_right (Nat.dvd_mul_left _ _)] at hdvd
        exact Nat.eq_zero_of_dvd_of_lt hdvd (digitsValue_lt hdropped)
    · intro hzero
      rw [hunits hzero]
      exact Nat.dvd_mul_left _ _
  have hzeros : (digits.drop precision).all (· == '0') = true ↔
      digitsValue 10 (digits.drop precision) = 0 := by
    rw [digitsValue_eq_zero (by omega), List.all_eq_true]
    simp only [beq_iff_eq]
  unfold fitDigits
  rw [hdivides]
  split
  · rename_i hall
    have hzero := hzeros.mp hall
    rw [hunits hzero, Nat.mul_div_cancel _ hpos, hpadded _ rfl, Option.some.injEq]
    exact ⟨fun h => ⟨hzero, h.symm⟩, fun h => h.2.symm⟩
  · rename_i hall
    exact ⟨fun h => by simp at h, fun h => absurd (hzeros.mpr h.1) hall⟩

/-! ## Moments -/

/-- A second of the calendar with a nanosecond in it. -/
@[ext] structure Moment where
  second : Datetime
  nanosecond : ℕ
  whole : second.microsecond = 0
  nanosecond_lt : nanosecond < 10 ^ 9

namespace Moment

/-- The time without its microseconds, which are counted as nanoseconds. -/
def ofDatetime (t : Datetime) : Moment where
  second := { t with microsecond := 0, microsecond_lt := by omega }
  nanosecond := t.microsecond * 1000
  whole := rfl
  nanosecond_lt := by
    have := t.microsecond_lt
    omega

/-- The place on the time line, in nanoseconds. -/
def nanos (m : Moment) : Int := m.second.micros * 1000 + m.nanosecond

theorem second_micros_dvd (m : Moment) : ∃ s : Int, m.second.micros = s * 1000000 := by
  refine ⟨(m.second.date.toOrdinal : Int) * 86400 + m.second.hour * 3600 + m.second.minute * 60
    + m.second.second, ?_⟩
  have hwhole := m.whole
  unfold Datetime.micros Datetime.microsOfDay Datetime.dayMicros
  omega

theorem nanos_injective : Function.Injective nanos := by
  intro m n h
  obtain ⟨s, hs⟩ := m.second_micros_dvd
  obtain ⟨t, ht⟩ := n.second_micros_dvd
  have hm := m.nanosecond_lt
  have hn := n.nanosecond_lt
  unfold nanos at h
  rw [hs, ht] at h
  have hsecond : m.second.micros = n.second.micros := by omega
  exact Moment.ext (Datetime.micros_injective hsecond) (by omega)

@[simp] theorem nanos_ofDatetime (t : Datetime) : (ofDatetime t).nanos = t.micros * 1000 := by
  unfold nanos ofDatetime Datetime.micros Datetime.microsOfDay
  push_cast
  ring

/-- The nanosecond is a whole number of units of the last written digit. -/
def Fits (m : Moment) (precision : ℕ) : Prop := 10 ^ (9 - precision) ∣ m.nanosecond

/-- The written fraction digits. -/
def fraction (m : Moment) (precision : ℕ) : List Char :=
  fixedDigits 10 precision (m.nanosecond / 10 ^ (9 - precision))

/-- The fields as they are written with `precision` fraction digits. -/
def stamp (m : Moment) (precision : ℕ) : Stamp where
  year := m.second.date.year
  month := m.second.date.month
  day := m.second.date.day
  hour := m.second.hour
  minute := m.second.minute
  second := m.second.second
  fraction := m.fraction precision

def text (m : Moment) (precision : ℕ) : List Char := (m.stamp precision).text

theorem stamp_fits (m : Moment) {precision : ℕ} (hprecision : precision ≤ 9) :
    (m.stamp precision).Fits where
  date := by
    have := m.second.date.year_le
    have := m.second.date.month_le
    have := m.second.date.day_le
    have := daysInMonth_le m.second.date.year m.second.date.month
    simp only [stamp]
    omega
  clock := by
    have := m.second.hour_lt
    have := m.second.minute_lt
    have := m.second.second_lt
    simp only [stamp]
    omega
  fraction := by
    refine ⟨?_, fun c hc => isDigitOf_of_mem_fixedDigits (by omega) (by omega) hc⟩
    simp only [stamp, fraction, length_fixedDigits]
    exact hprecision

/-- The written fraction is read back as the nanosecond. -/
theorem fractionNanos_fraction (m : Moment) {precision : ℕ} (hprecision : precision ≤ 9)
    (hfits : m.Fits precision) : fractionNanos (m.fraction precision) = m.nanosecond := by
  have hlt : m.nanosecond / 10 ^ (9 - precision) < 10 ^ precision := by
    rw [Nat.div_lt_iff_lt_mul (Nat.pow_pos (by omega)), ← Nat.pow_add,
      Nat.add_sub_of_le hprecision]
    exact m.nanosecond_lt
  rw [fractionNanos, fraction, length_fixedDigits, digitsValue_fixedDigits (by omega) (by omega) hlt]
  exact Nat.div_mul_cancel hfits

end Moment

/-- The moment the fields of a timestamp name, if they are valid. -/
def Stamp.moment (s : Stamp) : Option Moment :=
  match h : Datetime.make s.year s.month s.day s.hour s.minute s.second with
  | none => none
  | some second =>
    if hlt : fractionNanos s.fraction < 10 ^ 9 then
      some
        { second, nanosecond := fractionNanos s.fraction
          whole := (Datetime.make_eq_some.mp h).2.2.2.2, nanosecond_lt := hlt }
    else none

theorem Stamp.moment_eq_some {s : Stamp} {m : Moment} :
    s.moment = some m ↔
      Datetime.make s.year s.month s.day s.hour s.minute s.second = some m.second ∧
        fractionNanos s.fraction = m.nanosecond := by
  unfold Stamp.moment
  constructor
  · intro h
    split at h
    · simp at h
    · split at h
      · rw [Option.some.injEq] at h
        subst h
        rename_i hmake _
        exact ⟨hmake, rfl⟩
      · simp at h
  · rintro ⟨hmake, hnanos⟩
    split
    · rename_i hnone
      rw [hmake] at hnone
      simp at hnone
    · rename_i second hsome
      rw [hmake, Option.some.injEq] at hsome
      subst hsome
      rw [dif_pos (hnanos ▸ m.nanosecond_lt), Option.some.injEq]
      exact Moment.ext rfl hnanos

/-- The text of a moment that fits names it. -/
theorem Moment.moment_stamp (m : Moment) {precision : ℕ} (hprecision : precision ≤ 9)
    (hfits : m.Fits precision) : (m.stamp precision).moment = some m := by
  rw [Stamp.moment_eq_some]
  exact ⟨Datetime.make_eq_some.mpr ⟨⟨rfl, rfl, rfl⟩, rfl, rfl, rfl, m.whole⟩,
    m.fractionNanos_fraction hprecision hfits⟩

theorem Moment.text_injective {m n : Moment} {precision : ℕ} (hprecision : precision ≤ 9)
    (hm : m.Fits precision) (hn : n.Fits precision) (h : m.text precision = n.text precision) :
    m = n := by
  have hread := readStamp_eq_some.mpr ⟨m.stamp_fits hprecision, rfl⟩
  have hread' := readStamp_eq_some.mpr ⟨n.stamp_fits hprecision, rfl⟩
  rw [show (m.stamp precision).text = (n.stamp precision).text from h, hread', Option.some.injEq,
    Prod.mk.injEq] at hread
  have hmoment := m.moment_stamp hprecision hm
  rw [← hread.1, n.moment_stamp hprecision hn, Option.some.injEq] at hmoment
  exact hmoment.symm

end ForensicData.Lib
