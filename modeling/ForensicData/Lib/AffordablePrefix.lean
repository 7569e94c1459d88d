/-
ForensicData.Lib.AffordablePrefix — the longest prefix that fits two limits.

A list is affordable when neither the number of its items nor their weight goes
beyond a limit. Every list has a longest affordable prefix, and a loop that
meets the items one by one keeps it by keeping the next item while all before
it were kept and it fits (`LongestAffordable.keep`, `LongestAffordable.drop`).
-/
import Mathlib.Algebra.BigOperators.Group.List.Basic
import Mathlib.Algebra.GroupWithZero.Nat
import Mathlib.Data.List.Infix

namespace ForensicData.Lib

variable {α : Type} (weight : α → ℕ) (maxItems maxWeight : ℕ)

/-- Neither limit is passed. -/
structure Affordable (items : List α) : Prop where
  length_le : items.length ≤ maxItems
  weight_le : (items.map weight).sum ≤ maxWeight

/-- The longest prefix within the limits. -/
structure LongestAffordable (items kept : List α) : Prop where
  isPrefix : kept <+: items
  affordable : Affordable weight maxItems maxWeight kept
  longest : ∀ other, other <+: items → Affordable weight maxItems maxWeight other → other <+: kept

variable {weight maxItems maxWeight} {items kept : List α} {item : α}

theorem Affordable.of_prefix {other : List α} (h : Affordable weight maxItems maxWeight items)
    (hbegins : other <+: items) : Affordable weight maxItems maxWeight other := by
  obtain ⟨rest, rfl⟩ := hbegins
  have hlength := h.length_le
  have hweight := h.weight_le
  rw [List.length_append] at hlength
  rw [List.map_append, List.sum_append] at hweight
  exact ⟨by omega, by omega⟩

theorem affordable_snoc :
    Affordable weight maxItems maxWeight (items ++ [item]) ↔
      items.length < maxItems ∧ (items.map weight).sum + weight item ≤ maxWeight := by
  constructor
  · intro h
    have hlength := h.length_le
    have hweight := h.weight_le
    rw [List.length_append, List.length_singleton] at hlength
    rw [List.map_append, List.sum_append, List.map_singleton, List.sum_singleton] at hweight
    exact ⟨by omega, hweight⟩
  · rintro ⟨hlength, hweight⟩
    refine ⟨?_, ?_⟩
    · rw [List.length_append, List.length_singleton]
      omega
    · rw [List.map_append, List.sum_append, List.map_singleton, List.sum_singleton]
      exact hweight

theorem LongestAffordable.nil : LongestAffordable weight maxItems maxWeight [] [] where
  isPrefix := List.prefix_rfl
  affordable := ⟨Nat.zero_le _, Nat.zero_le _⟩
  longest := fun _ hbegins _ => hbegins

/-- All items were kept and the next one fits. -/
theorem LongestAffordable.keep (h : Affordable weight maxItems maxWeight (items ++ [item])) :
    LongestAffordable weight maxItems maxWeight (items ++ [item]) (items ++ [item]) where
  isPrefix := List.prefix_rfl
  affordable := h
  longest := fun _ hbegins _ => hbegins

/-- An item was dropped before, or the next one does not fit. -/
theorem LongestAffordable.drop (h : LongestAffordable weight maxItems maxWeight items kept)
    (hdropped : kept = items → ¬ Affordable weight maxItems maxWeight (items ++ [item])) :
    LongestAffordable weight maxItems maxWeight (items ++ [item]) kept where
  isPrefix := h.isPrefix.trans (List.prefix_append _ _)
  affordable := h.affordable
  longest := by
    intro other hbegins hother
    rw [List.prefix_concat_iff] at hbegins
    cases hbegins with
    | inl heq =>
      rw [heq] at hother
      have hall : items <+: kept :=
        h.longest items List.prefix_rfl (hother.of_prefix (List.prefix_append _ _))
      have hkept : kept = items := h.isPrefix.eq_of_length_le hall.length_le
      exact absurd hother (hdropped hkept)
    | inr hbefore => exact h.longest other hbefore hother

end ForensicData.Lib
