/-
ForensicData.Lib.Calendar — the proleptic Gregorian calendar of the years 1 to 9999.

A `Date` is valid by construction. `toOrdinal` numbers the days from the first
one on (`toOrdinal_injective`); `next` and `previous` step over one day. A
`Datetime` has a time of day in microseconds, and `Datetime.subtract` moves it
by less than a day, as `subtract_eq_some` says on the time line `Datetime.micros`.
-/
import Mathlib.Data.Nat.Notation
import Mathlib.Tactic.IntervalCases
import Mathlib.Tactic.Ring

namespace ForensicData.Lib

def isLeap (year : ℕ) : Bool := year % 4 == 0 && (year % 100 != 0 || year % 400 == 0)

def daysInMonth (year month : ℕ) : ℕ :=
  if month = 2 then if isLeap year = true then 29 else 28
  else if month = 4 ∨ month = 6 ∨ month = 9 ∨ month = 11 then 30
  else 31

theorem daysInMonth_pos (year month : ℕ) : 0 < daysInMonth year month := by
  unfold daysInMonth
  split_ifs <;> omega

theorem daysInMonth_le (year month : ℕ) : daysInMonth year month ≤ 31 := by
  unfold daysInMonth
  split_ifs <;> omega

/-- A day of the years 1 to 9999. -/
@[ext] structure Date where
  year : ℕ
  month : ℕ
  day : ℕ
  year_pos : 1 ≤ year
  year_le : year ≤ 9999
  month_pos : 1 ≤ month
  month_le : month ≤ 12
  day_pos : 1 ≤ day
  day_le : day ≤ daysInMonth year month
  deriving DecidableEq, Repr

/-- `date(year, month, day)`. -/
def Date.make (year month day : ℕ) : Option Date :=
  if h : (1 ≤ year ∧ year ≤ 9999) ∧ (1 ≤ month ∧ month ≤ 12) ∧
      (1 ≤ day ∧ day ≤ daysInMonth year month) then
    some
      { year, month, day, year_pos := h.1.1, year_le := h.1.2, month_pos := h.2.1.1
        month_le := h.2.1.2, day_pos := h.2.2.1, day_le := h.2.2.2 }
  else none

theorem Date.make_eq_some {year month day : ℕ} {d : Date} :
    Date.make year month day = some d ↔ d.year = year ∧ d.month = month ∧ d.day = day := by
  unfold Date.make
  constructor
  · intro h
    split at h
    · rw [Option.some.injEq] at h
      subst h
      exact ⟨rfl, rfl, rfl⟩
    · simp at h
  · rintro ⟨rfl, rfl, rfl⟩
    rw [dif_pos ⟨⟨d.year_pos, d.year_le⟩, ⟨d.month_pos, d.month_le⟩, ⟨d.day_pos, d.day_le⟩⟩]

/-! ## The number of a day -/

def yearLength (year : ℕ) : ℕ := if isLeap year = true then 366 else 365

/-- The days of the years up to and including `year`. -/
def daysThroughYear (year : ℕ) : ℕ := year * 365 + year / 4 - year / 100 + year / 400

/-- The days of the first months of the year. -/
def daysThroughMonth (year : ℕ) : ℕ → ℕ
  | 0 => 0
  | month + 1 => daysThroughMonth year month + daysInMonth year (month + 1)

theorem daysThroughYear_succ (year : ℕ) :
    daysThroughYear (year + 1) = daysThroughYear year + yearLength (year + 1) := by
  have hquarters : year / 100 ≤ year / 4 := Nat.div_le_div_left (by omega) (by omega)
  have h4 : (year + 1) / 4 = year / 4 + if (year + 1) % 4 = 0 then 1 else 0 := by
    split <;> omega
  have h100 : (year + 1) / 100 = year / 100 + if (year + 1) % 100 = 0 then 1 else 0 := by
    split <;> omega
  have h400 : (year + 1) / 400 = year / 400 + if (year + 1) % 400 = 0 then 1 else 0 := by
    split <;> omega
  unfold daysThroughYear yearLength isLeap
  simp only [Bool.and_eq_true, Bool.or_eq_true, beq_iff_eq, bne_iff_ne, ne_eq]
  rw [h4, h100, h400]
  generalize year / 4 = quarters, year / 100 = centuries, year / 400 = cycles at *
  split_ifs <;> omega

theorem daysThroughMonth_twelve (year : ℕ) : daysThroughMonth year 12 = yearLength year := by
  by_cases hleap : isLeap year = true <;> simp [yearLength, daysThroughMonth, daysInMonth, hleap]

theorem daysThroughYear_mono {y z : ℕ} (h : y ≤ z) : daysThroughYear y ≤ daysThroughYear z := by
  induction z, h using Nat.le_induction with
  | base => exact Nat.le_refl _
  | succ z _ ih =>
    rw [daysThroughYear_succ]
    omega

theorem daysThroughMonth_mono {year m n : ℕ} (h : m ≤ n) :
    daysThroughMonth year m ≤ daysThroughMonth year n := by
  induction n, h using Nat.le_induction with
  | base => exact Nat.le_refl _
  | succ n _ ih =>
    rw [daysThroughMonth]
    omega

namespace Date

/-- `toordinal()`: the first day has number one. -/
def toOrdinal (d : Date) : ℕ :=
  daysThroughYear (d.year - 1) + daysThroughMonth d.year (d.month - 1) + d.day

theorem daysThroughMonth_pred (d : Date) :
    daysThroughMonth d.year d.month
      = daysThroughMonth d.year (d.month - 1) + daysInMonth d.year d.month := by
  have hmonth := d.month_pos
  obtain ⟨month, hm⟩ : ∃ month, d.month = month + 1 := ⟨d.month - 1, by omega⟩
  rw [hm, Nat.add_sub_cancel, daysThroughMonth]

theorem daysThroughYear_pred (d : Date) :
    daysThroughYear d.year = daysThroughYear (d.year - 1) + yearLength d.year := by
  have hyear := d.year_pos
  obtain ⟨year, hy⟩ : ∃ year, d.year = year + 1 := ⟨d.year - 1, by omega⟩
  rw [hy, Nat.add_sub_cancel, daysThroughYear_succ]

theorem dayOfYear_le (d : Date) :
    daysThroughMonth d.year (d.month - 1) + d.day ≤ yearLength d.year := by
  have hday := d.day_le
  have hmonth := d.daysThroughMonth_pred
  have htwelve := daysThroughMonth_twelve d.year
  have hmono : daysThroughMonth d.year d.month ≤ daysThroughMonth d.year 12 :=
    daysThroughMonth_mono d.month_le
  omega

theorem toOrdinal_pos (d : Date) : 1 ≤ d.toOrdinal := by
  have := d.day_pos
  unfold toOrdinal
  omega

theorem toOrdinal_lt_of_year {d e : Date} (h : d.year < e.year) : d.toOrdinal < e.toOrdinal := by
  have hday := d.dayOfYear_le
  have hyear := d.daysThroughYear_pred
  have hmono : daysThroughYear d.year ≤ daysThroughYear (e.year - 1) :=
    daysThroughYear_mono (by omega)
  have hpos := e.day_pos
  unfold toOrdinal
  omega

theorem toOrdinal_lt_of_month {d e : Date} (hyear : d.year = e.year) (h : d.month < e.month) :
    d.toOrdinal < e.toOrdinal := by
  have hday := d.day_le
  have hmonth := d.daysThroughMonth_pred
  have hmono : daysThroughMonth d.year d.month ≤ daysThroughMonth d.year (e.month - 1) :=
    daysThroughMonth_mono (by omega)
  have hpos := e.day_pos
  unfold toOrdinal
  rw [← hyear]
  omega

theorem toOrdinal_injective : Function.Injective toOrdinal := by
  intro d e h
  have hyear : d.year = e.year := by
    rcases Nat.lt_trichotomy d.year e.year with hlt | heq | hgt
    · exact absurd h (Nat.ne_of_lt (toOrdinal_lt_of_year hlt))
    · exact heq
    · exact absurd h.symm (Nat.ne_of_lt (toOrdinal_lt_of_year hgt))
  have hmonth : d.month = e.month := by
    rcases Nat.lt_trichotomy d.month e.month with hlt | heq | hgt
    · exact absurd h (Nat.ne_of_lt (toOrdinal_lt_of_month hyear hlt))
    · exact heq
    · exact absurd h.symm (Nat.ne_of_lt (toOrdinal_lt_of_month hyear.symm hgt))
  unfold toOrdinal at h
  rw [hyear, hmonth] at h
  exact Date.ext hyear hmonth (by omega)

/-- The first day of a year. -/
def newYear (year : ℕ) (year_pos : 1 ≤ year) (year_le : year ≤ 9999) : Date where
  year
  month := 1
  day := 1
  year_pos
  year_le
  month_pos := Nat.le_refl 1
  month_le := by decide
  day_pos := Nat.le_refl 1
  day_le := daysInMonth_pos _ _

/-! ## The day after and the day before -/

def next (d : Date) : Option Date :=
  if hday : d.day < daysInMonth d.year d.month then
    some { d with day := d.day + 1, day_pos := by omega, day_le := hday }
  else if hmonth : d.month < 12 then
    some { d with
      month := d.month + 1, day := 1, month_pos := by omega, month_le := hmonth
      day_pos := Nat.le_refl 1, day_le := daysInMonth_pos _ _ }
  else if hyear : d.year < 9999 then
    some { year := d.year + 1, month := 1, day := 1, year_pos := by omega, year_le := hyear
           month_pos := Nat.le_refl 1, month_le := by omega, day_pos := Nat.le_refl 1
           day_le := daysInMonth_pos _ _ }
  else none

def previous (d : Date) : Option Date :=
  if hday : 1 < d.day then
    have := d.day_le
    some { d with day := d.day - 1, day_pos := by omega, day_le := by omega }
  else if hmonth : 1 < d.month then
    have := d.month_le
    some { d with
      month := d.month - 1, day := daysInMonth d.year (d.month - 1), month_pos := by omega
      month_le := by omega, day_pos := daysInMonth_pos _ _, day_le := Nat.le_refl _ }
  else if hyear : 1 < d.year then
    have := d.year_le
    some { year := d.year - 1, month := 12, day := 31, year_pos := by omega, year_le := by omega
           month_pos := by omega, month_le := by omega, day_pos := by omega
           day_le := by simp [daysInMonth] }
  else none

theorem toOrdinal_next {d e : Date} (h : d.next = some e) : e.toOrdinal = d.toOrdinal + 1 := by
  have hday := d.day_le
  have hmonth := d.daysThroughMonth_pred
  have hmonth_le := d.month_le
  unfold next at h
  split_ifs at h with h1 h2 h3
  · rw [Option.some.injEq] at h
    subst h
    simp only [toOrdinal]
    omega
  · rw [Option.some.injEq] at h
    subst h
    simp only [toOrdinal, Nat.add_sub_cancel]
    omega
  · rw [Option.some.injEq] at h
    subst h
    have htwelve := daysThroughMonth_twelve d.year
    have hyear := d.daysThroughYear_pred
    have hm : d.month = 12 := by omega
    rw [hm] at hmonth hday h1
    change daysThroughYear (d.year + 1 - 1) + 0 + 1
      = daysThroughYear (d.year - 1) + daysThroughMonth d.year (d.month - 1) + d.day + 1
    rw [Nat.add_sub_cancel, hm]
    omega

theorem next_previous {d e : Date} (h : d.previous = some e) : e.next = some d := by
  have hday := d.day_pos
  have hday_le := d.day_le
  have hmonth := d.month_pos
  have hmonth_le := d.month_le
  have hyear := d.year_le
  unfold previous at h
  split_ifs at h with h1 h2 h3
  · rw [Option.some.injEq] at h
    subst h
    rw [next, dif_pos (by simp only; omega), Option.some.injEq]
    exact Date.ext rfl rfl (by simp only; omega)
  · rw [Option.some.injEq] at h
    subst h
    rw [next, dif_neg (by simp only; omega), dif_pos (by simp only; omega), Option.some.injEq]
    exact Date.ext rfl (by simp only; omega) (by simp only; omega)
  · rw [Option.some.injEq] at h
    subst h
    have hlast : ¬ 31 < daysInMonth (d.year - 1) 12 := by
      have := daysInMonth_le (d.year - 1) 12
      omega
    rw [next, dif_neg hlast, dif_neg (by simp only; omega), dif_pos (by simp only; omega),
      Option.some.injEq]
    exact Date.ext (by simp only; omega) (by simp only; omega) (by simp only; omega)

theorem toOrdinal_previous {d e : Date} (h : d.previous = some e) :
    e.toOrdinal + 1 = d.toOrdinal :=
  (toOrdinal_next (next_previous h)).symm

/-- The number of the last day. -/
def maxOrdinal : ℕ := 3652059

theorem next_eq_none {d : Date} : d.next = none ↔ d.toOrdinal = maxOrdinal := by
  have hyear := d.year_le
  have hmonth := d.month_le
  have hday := d.day_le
  constructor
  · intro h
    unfold next at h
    split_ifs at h with h1 h2 h3
    have hy : d.year = 9999 := by omega
    have hm : d.month = 12 := by omega
    rw [hy, hm] at h1 hday
    have hd : d.day = 31 := by
      have hlength : daysInMonth 9999 12 = 31 := by decide
      omega
    unfold toOrdinal
    rw [hy, hm, hd]
    decide
  · intro h
    cases hnext : d.next with
    | none => rfl
    | some e =>
      have he := toOrdinal_next hnext
      have hbound := e.dayOfYear_le
      have hyears := e.daysThroughYear_pred
      have hmono : daysThroughYear e.year ≤ daysThroughYear 9999 := daysThroughYear_mono e.year_le
      have hmax : daysThroughYear 9999 = maxOrdinal := by decide
      unfold toOrdinal at he h
      omega

theorem previous_eq_none {d : Date} : d.previous = none ↔ d.toOrdinal = 1 := by
  have hday := d.day_pos
  have hmonth := d.month_pos
  have hyear := d.year_pos
  constructor
  · intro h
    unfold previous at h
    split_ifs at h with h1 h2 h3
    have hy : d.year = 1 := by omega
    have hm : d.month = 1 := by omega
    unfold toOrdinal
    rw [hy, hm]
    have hzero : daysThroughYear 0 = 0 := by decide
    simp only [Nat.sub_self, hzero, daysThroughMonth]
    omega
  · intro h
    cases hprevious : d.previous with
    | none => rfl
    | some e =>
      have he := toOrdinal_previous hprevious
      have hpos := e.toOrdinal_pos
      omega

theorem toOrdinal_le (d : Date) : d.toOrdinal ≤ maxOrdinal := by
  have hbound := d.dayOfYear_le
  have hyears := d.daysThroughYear_pred
  have hmono : daysThroughYear d.year ≤ daysThroughYear 9999 := daysThroughYear_mono d.year_le
  have hmax : daysThroughYear 9999 = maxOrdinal := by decide
  unfold toOrdinal
  omega

end Date

/-! ## Times of day -/

/-- A date with a time of day, to the microsecond. -/
@[ext] structure Datetime where
  date : Date
  hour : ℕ
  minute : ℕ
  second : ℕ
  microsecond : ℕ
  hour_lt : hour < 24
  minute_lt : minute < 60
  second_lt : second < 60
  microsecond_lt : microsecond < 1000000
  deriving DecidableEq, Repr

namespace Datetime

/-- The first moment of a day. -/
def midnight (date : Date) : Datetime where
  date
  hour := 0
  minute := 0
  second := 0
  microsecond := 0
  hour_lt := by decide
  minute_lt := by decide
  second_lt := by decide
  microsecond_lt := Nat.succ_pos 999999

/-- The microseconds of a day. -/
def dayMicros : ℕ := 86400000000

/-- `datetime(year, month, day, hour, minute, second)`. -/
def make (year month day hour minute second : ℕ) : Option Datetime :=
  match Date.make year month day with
  | none => none
  | some date =>
    if h : hour < 24 ∧ minute < 60 ∧ second < 60 then
      some { date, hour, minute, second, microsecond := 0, hour_lt := h.1, minute_lt := h.2.1
             second_lt := h.2.2, microsecond_lt := by omega }
    else none

theorem make_eq_some {year month day hour minute second : ℕ} {t : Datetime} :
    make year month day hour minute second = some t ↔
      (t.date.year = year ∧ t.date.month = month ∧ t.date.day = day) ∧
      t.hour = hour ∧ t.minute = minute ∧ t.second = second ∧ t.microsecond = 0 := by
  unfold make
  constructor
  · intro h
    split at h
    · simp at h
    · rename_i date hdate
      split_ifs at h with hclock
      rw [Option.some.injEq] at h
      subst h
      exact ⟨Date.make_eq_some.mp hdate, rfl, rfl, rfl, rfl⟩
  · rintro ⟨hdate, rfl, rfl, rfl, hmicro⟩
    rw [Date.make_eq_some.mpr hdate]
    simp only
    rw [dif_pos ⟨t.hour_lt, t.minute_lt, t.second_lt⟩, Option.some.injEq]
    exact Datetime.ext rfl rfl rfl rfl hmicro.symm

/-- The microseconds since midnight. -/
def microsOfDay (t : Datetime) : ℕ :=
  t.hour * 3600000000 + t.minute * 60000000 + t.second * 1000000 + t.microsecond

theorem microsOfDay_lt (t : Datetime) : t.microsOfDay < dayMicros := by
  have := t.hour_lt
  have := t.minute_lt
  have := t.second_lt
  have := t.microsecond_lt
  unfold microsOfDay dayMicros
  omega

/-- The time of the day after so many microseconds. -/
def ofMicros (date : Date) (micros : ℕ) (h : micros < dayMicros) : Datetime where
  date := date
  hour := micros / 3600000000
  minute := micros / 60000000 % 60
  second := micros / 1000000 % 60
  microsecond := micros % 1000000
  hour_lt := by unfold dayMicros at h; omega
  minute_lt := by omega
  second_lt := by omega
  microsecond_lt := by omega

@[simp] theorem microsOfDay_ofMicros {date : Date} {micros : ℕ} (h : micros < dayMicros) :
    (ofMicros date micros h).microsOfDay = micros := by
  simp only [microsOfDay, ofMicros]
  omega

@[simp] theorem date_ofMicros {date : Date} {micros : ℕ} (h : micros < dayMicros) :
    (ofMicros date micros h).date = date := rfl

/-- The time on one line, in microseconds from the midnight before the first day. -/
def micros (t : Datetime) : Int := (t.date.toOrdinal : Int) * dayMicros + t.microsOfDay

theorem eq_of_microsOfDay {t u : Datetime} (hdate : t.date = u.date)
    (h : t.microsOfDay = u.microsOfDay) : t = u := by
  have := t.hour_lt
  have := t.minute_lt
  have := t.second_lt
  have := t.microsecond_lt
  have := u.hour_lt
  have := u.minute_lt
  have := u.second_lt
  have := u.microsecond_lt
  unfold microsOfDay at h
  exact Datetime.ext hdate (by omega) (by omega) (by omega) (by omega)

theorem micros_injective : Function.Injective micros := by
  intro t u h
  have ht := t.microsOfDay_lt
  have hu := u.microsOfDay_lt
  unfold micros at h
  unfold dayMicros at h ht hu
  exact eq_of_microsOfDay (Date.toOrdinal_injective (by omega)) (by omega)

/-- The time `offset` microseconds earlier, for offsets of less than a day. -/
def subtract (t : Datetime) (offset : Int) : Option Datetime :=
  let total := (t.microsOfDay : Int) - offset
  if hnegative : total < 0 then
    if hshort : 0 ≤ total + dayMicros then
      t.date.previous.map fun date =>
        ofMicros date (total + dayMicros).toNat (by unfold dayMicros at hshort ⊢; omega)
    else none
  else if hday : total < dayMicros then some (ofMicros t.date total.toNat (by omega))
  else if hlong : total < 2 * dayMicros then
    t.date.next.map fun date =>
      ofMicros date (total - dayMicros).toNat (by unfold dayMicros at hlong hday ⊢; omega)
  else none

/-- A moment of the years 1 to 9999. -/
def InRange (micros : Int) : Prop :=
  (dayMicros : Int) ≤ micros ∧ micros < (Date.maxOrdinal + 1) * dayMicros

theorem micros_inRange (t : Datetime) : InRange t.micros := by
  have hday := t.microsOfDay_lt
  have hpos := t.date.toOrdinal_pos
  have hle := t.date.toOrdinal_le
  unfold InRange micros
  unfold dayMicros Date.maxOrdinal at *
  omega

/-- Subtracting moves along the time line, and fails outside its range. -/
theorem subtract_spec (t : Datetime) {offset : Int} (hlow : -(dayMicros : Int) < offset)
    (hhigh : offset < dayMicros) :
    (∀ u, t.subtract offset = some u → u.micros = t.micros - offset) ∧
      (t.subtract offset = none → ¬ InRange (t.micros - offset)) := by
  have hday := t.microsOfDay_lt
  by_cases hnegative : (t.microsOfDay : Int) - offset < 0
  · have hshort : 0 ≤ (t.microsOfDay : Int) - offset + dayMicros := by omega
    simp only [subtract, dif_pos hnegative, dif_pos hshort, Option.map_eq_some_iff,
      Option.map_eq_none_iff]
    constructor
    · rintro u ⟨date, hprevious, rfl⟩
      have hordinal := Date.toOrdinal_previous hprevious
      simp only [micros, date_ofMicros, microsOfDay_ofMicros]
      unfold dayMicros at *
      omega
    · intro hprevious
      have hone := Date.previous_eq_none.mp hprevious
      simp only [InRange, micros, hone]
      unfold dayMicros at *
      omega
  · by_cases hsame : (t.microsOfDay : Int) - offset < dayMicros
    · simp only [subtract, dif_neg hnegative, dif_pos hsame, Option.some.injEq, reduceCtorEq,
        IsEmpty.forall_iff, and_true]
      rintro u rfl
      simp only [micros, date_ofMicros, microsOfDay_ofMicros]
      omega
    · have hlong : (t.microsOfDay : Int) - offset < 2 * dayMicros := by omega
      simp only [subtract, dif_neg hnegative, dif_neg hsame, dif_pos hlong,
        Option.map_eq_some_iff, Option.map_eq_none_iff]
      constructor
      · rintro u ⟨date, hnext, rfl⟩
        have hordinal := Date.toOrdinal_next hnext
        simp only [micros, date_ofMicros, microsOfDay_ofMicros]
        unfold dayMicros at *
        omega
      · intro hnext
        have hmax := Date.next_eq_none.mp hnext
        simp only [InRange, micros, hmax]
        unfold dayMicros Date.maxOrdinal at *
        omega

/-- The difference is the moment there, if there is one. -/
theorem subtract_eq_some {t u : Datetime} {offset : Int} (hlow : -(dayMicros : Int) < offset)
    (hhigh : offset < dayMicros) :
    t.subtract offset = some u ↔ u.micros = t.micros - offset := by
  obtain ⟨hsome, hnone⟩ := t.subtract_spec hlow hhigh
  refine ⟨hsome u, fun h => ?_⟩
  cases hsubtract : t.subtract offset with
  | none => exact absurd (h ▸ u.micros_inRange) (hnone hsubtract)
  | some v => rw [micros_injective ((hsome v hsubtract).trans h.symm)]

end Datetime

end ForensicData.Lib
