/-
ForensicData.Lib.ThreeValued — the truth values of SQL.

A condition is true, false or unknown; a row satisfies it only if it is true.
An operand is a value or NULL.
-/
import Mathlib.Data.Bool.Basic
import Mathlib.Order.Basic

namespace ForensicData.Lib

/-- True, false or unknown. -/
abbrev Truth := Option Bool

namespace Truth

/-- `AND`. -/
def conj : Truth → Truth → Truth
  | some false, _ => some false
  | _, some false => some false
  | some true, some true => some true
  | _, _ => none

/-- `column IS NOT NULL`. -/
def isNotNull {α : Type} (value : Option α) : Truth := some value.isSome

/-- A condition on one operand: unknown where it is NULL. -/
def test {α : Type} (holds : α → Bool) (value : Option α) : Truth := value.map holds

/-- A comparison: unknown where an operand is NULL. -/
def compare {α β : Type} (related : α → β → Bool) : Option α → Option β → Truth
  | some a, some b => some (related a b)
  | _, _ => none

/-- `CASE WHEN condition THEN yes ELSE no END`. -/
def caseWhen {α : Type} (condition : Truth) (yes no : α) : α :=
  if condition = some true then yes else no

@[simp] theorem conj_eq_true {a b : Truth} :
    conj a b = some true ↔ a = some true ∧ b = some true := by
  rcases a with _ | (_ | _) <;> rcases b with _ | (_ | _) <;> simp [conj]

@[simp] theorem isNotNull_eq_true {α : Type} {value : Option α} :
    isNotNull value = some true ↔ value ≠ none := by
  cases value <;> simp [isNotNull]

@[simp] theorem test_eq_true {α : Type} {holds : α → Bool} {value : Option α} :
    test holds value = some true ↔ ∃ x, value = some x ∧ holds x = true := by
  cases value <;> simp [test]

@[simp] theorem compare_eq_true {α β : Type} {related : α → β → Bool} {a : Option α}
    {b : Option β} :
    compare related a b = some true ↔ ∃ x y, a = some x ∧ b = some y ∧ related x y = true := by
  cases a <;> cases b <;> simp [compare]

@[simp] theorem caseWhen_false_eq_true {condition yes : Truth} :
    caseWhen condition yes (some false) = some true ↔ condition = some true ∧ yes = some true := by
  unfold caseWhen
  by_cases h : condition = some true <;> simp [h]

end Truth

end ForensicData.Lib
