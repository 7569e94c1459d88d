/-
ForensicData.Lib.Forall3 — lists related item by item, three at a time.

`List.Forall₂` with a third list: a fold over two lists of one length relates
both of them to its results. The lemmas change one of the three lists while the
other two stay.
-/
import Mathlib.Data.List.Forall2

namespace ForensicData.Lib

/-- The three lists have one length, and their items are related in order. -/
inductive Forall₃ {α β γ : Type*} (related : α → β → γ → Prop) :
    List α → List β → List γ → Prop
  | nil : Forall₃ related [] [] []
  | cons {a : α} {b : β} {c : γ} {as : List α} {bs : List β} {cs : List γ} :
    related a b c → Forall₃ related as bs cs → Forall₃ related (a :: as) (b :: bs) (c :: cs)

namespace Forall₃

variable {α β γ δ : Type*} {related : α → β → γ → Prop} {as : List α} {bs : List β} {cs : List γ}

theorem nil_iff : Forall₃ related [] [] cs ↔ cs = [] := by
  constructor
  · intro h
    cases h
    rfl
  · rintro rfl
    exact .nil

theorem cons_iff {a : α} {b : β} :
    Forall₃ related (a :: as) (b :: bs) cs ↔
      ∃ c rest, related a b c ∧ Forall₃ related as bs rest ∧ cs = c :: rest := by
  constructor
  · intro h
    cases h with
    | cons hitem hrest => exact ⟨_, _, hitem, hrest, rfl⟩
  · rintro ⟨c, rest, hitem, hrest, rfl⟩
    exact .cons hitem hrest

theorem length_eq (h : Forall₃ related as bs cs) :
    bs.length = as.length ∧ cs.length = as.length := by
  induction h with
  | nil => exact ⟨rfl, rfl⟩
  | cons _ _ ih => simpa using ih

theorem imp {other : α → β → γ → Prop} (h : Forall₃ related as bs cs)
    (step : ∀ a b c, related a b c → other a b c) : Forall₃ other as bs cs := by
  induction h with
  | nil => exact .nil
  | cons hitem _ ih => exact .cons (step _ _ _ hitem) ih

theorem forall₂_left {pair : α → β → Prop} (h : Forall₃ related as bs cs)
    (step : ∀ a b c, related a b c → pair a b) : List.Forall₂ pair as bs := by
  induction h with
  | nil => exact .nil
  | cons hitem _ ih => exact .cons (step _ _ _ hitem) ih

theorem forall₂_right {pair : α → γ → Prop} (h : Forall₃ related as bs cs)
    (step : ∀ a b c, related a b c → pair a c) : List.Forall₂ pair as cs := by
  induction h with
  | nil => exact .nil
  | cons hitem _ ih => exact .cons (step _ _ _ hitem) ih

theorem and_left {pair : α → β → Prop} (h : Forall₃ related as bs cs)
    (hpair : List.Forall₂ pair as bs) :
    Forall₃ (fun a b c => related a b c ∧ pair a b) as bs cs := by
  induction h with
  | nil => exact .nil
  | cons hitem _ ih =>
    cases hpair with
    | cons hfirst hrest => exact .cons ⟨hitem, hfirst⟩ (ih hrest)

theorem and_right {pair : α → γ → Prop} (h : Forall₃ related as bs cs)
    (hpair : List.Forall₂ pair as cs) :
    Forall₃ (fun a b c => related a b c ∧ pair a c) as bs cs := by
  induction h with
  | nil => exact .nil
  | cons hitem _ ih =>
    cases hpair with
    | cons hfirst hrest => exact .cons ⟨hitem, hfirst⟩ (ih hrest)

/-- The last list is replaced by its images, which take the second place. -/
theorem map_swap {other : α → δ → β → Prop} (f : γ → δ) (h : Forall₃ related as bs cs)
    (step : ∀ a b c, related a b c → other a (f c) b) : Forall₃ other as (cs.map f) bs := by
  induction h with
  | nil => exact .nil
  | cons hitem _ ih => exact .cons (step _ _ _ hitem) ih

/-- Every triple has a fourth item. -/
theorem exists_fourth {left : α → γ → δ → Prop} {right : α → β → δ → Prop}
    (h : Forall₃ related as bs cs)
    (step : ∀ a b c, related a b c → ∃ d, left a c d ∧ right a b d) :
    ∃ ds, Forall₃ left as cs ds ∧ Forall₃ right as bs ds := by
  induction h with
  | nil => exact ⟨[], .nil, .nil⟩
  | cons hitem _ ih =>
    obtain ⟨d, hleft, hright⟩ := step _ _ _ hitem
    obtain ⟨ds, hlefts, hrights⟩ := ih
    exact ⟨d :: ds, .cons hleft hlefts, .cons hright hrights⟩

/-- Two relations that share the first and the last list relate the others. -/
theorem join {right : α → δ → γ → Prop} {joined : α → β → δ → Prop} {ds : List δ}
    (h : Forall₃ related as bs cs) (hright : Forall₃ right as ds cs)
    (step : ∀ a b c d, related a b c → right a d c → joined a b d) : Forall₃ joined as bs ds := by
  induction h generalizing ds with
  | nil =>
    cases hright
    exact .nil
  | cons hitem _ ih =>
    cases hright with
    | cons hother hothers => exact .cons (step _ _ _ _ hitem hother) (ih hothers)

/-- The second list is exchanged for one related to it. -/
theorem swap_join {right : α → β → δ → Prop} {joined : α → γ → δ → Prop} {ds : List δ}
    (h : Forall₃ related as bs cs) (hright : Forall₃ right as bs ds)
    (step : ∀ a b c d, related a b c → right a b d → joined a c d) : Forall₃ joined as cs ds := by
  induction h generalizing ds with
  | nil =>
    cases hright
    exact .nil
  | cons hitem _ ih =>
    cases hright with
    | cons hother hothers => exact .cons (step _ _ _ _ hitem hother) (ih hothers)

end Forall₃

end ForensicData.Lib
