/-
ForensicData.Lib.ProlepticYear — the year of a day, of any era.

Days are numbered as `Date.toOrdinal` numbers them and may be before the first.
The calendar repeats after 400 years. A day is of the years 1 to 9999 exactly
when it is one of the numbered ones (`yearOfDay_between_iff`).
-/
import ForensicData.Lib.Calendar

namespace ForensicData.Lib

/-- The days of 400 years. -/
def cycleDays : ℕ := 146097

/-- The year of a day in a cycle, from 1 on. -/
def yearOfCycle (day : ℕ) : ℕ :=
  (List.range 400).countP fun year => decide (daysThroughYear year ≤ day)

/-- The year of a day; the year before 1 is -1. -/
def yearOfDay (day : Int) : Int :=
  let year := 400 * ((day - 1) / cycleDays) + yearOfCycle ((day - 1) % cycleDays).toNat
  if year ≤ 0 then year - 1 else year

theorem yearOfCycle_pos (day : ℕ) : 1 ≤ yearOfCycle day := by
  unfold yearOfCycle
  rw [Nat.one_le_iff_ne_zero, ← Nat.pos_iff_ne_zero, List.countP_pos_iff]
  exact ⟨0, by simp, by simp [daysThroughYear]⟩

theorem yearOfCycle_le (day : ℕ) : yearOfCycle day ≤ 400 := by
  have h := List.countP_le_length (p := fun year => decide (daysThroughYear year ≤ day))
    (l := List.range 400)
  simpa [yearOfCycle] using h

/-- The last year of a cycle begins after 399 years. -/
theorem yearOfCycle_eq_last_iff (day : ℕ) : yearOfCycle day = 400 ↔ daysThroughYear 399 ≤ day := by
  unfold yearOfCycle
  have hlength : (List.range 400).length = 400 := List.length_range
  nth_rewrite 2 [← hlength]
  rw [List.countP_eq_length]
  simp only [List.mem_range, decide_eq_true_eq]
  constructor
  · intro h
    exact h 399 (by omega)
  · intro h year hyear
    exact Nat.le_trans (daysThroughYear_mono (by omega)) h

/-- The days of the years 1 to 9999. -/
theorem yearOfDay_between_iff (day : Int) :
    (1 ≤ yearOfDay day ∧ yearOfDay day ≤ 9999) ↔ 1 ≤ day ∧ day ≤ Date.maxOrdinal := by
  have hpos := yearOfCycle_pos ((day - 1) % cycleDays).toNat
  have hle := yearOfCycle_le ((day - 1) % cycleDays).toNat
  have hlast := yearOfCycle_eq_last_iff ((day - 1) % cycleDays).toNat
  have hdays : daysThroughYear 399 = 145731 := by decide
  rw [hdays] at hlast
  unfold yearOfDay
  simp only
  unfold cycleDays Date.maxOrdinal at *
  split <;> omega

end ForensicData.Lib
