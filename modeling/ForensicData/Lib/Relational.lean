/-
ForensicData.Lib.Relational — left joins and sorted groups over lists of rows.

A table is a list of rows in whatever order it keeps them. `leftJoin` keeps every
left row, with its matches or with none. When the left rows match disjoint sets
of right rows, the matched rows are each matching right row once
(`matched_leftJoin_perm`). `groupKeys` are the keys of the groups of a query that
orders by them; they do not depend on the order of the rows (`groupKeys_eq`).
-/
import Mathlib.Data.List.Dedup
import Mathlib.Data.List.Sort

namespace ForensicData.Lib.Relational

variable {α β κ : Type*}

/-! ## Left joins -/

/-- Every left row with the right rows it matches, or alone. -/
def leftJoin (on : α → β → Bool) (left : List α) (right : List β) : List (α × Option β) :=
  left.flatMap fun a =>
    if (right.filter (on a)).isEmpty = true then [(a, none)]
    else (right.filter (on a)).map fun b => (a, some b)

/-- The right rows of a left join are those of the inner join. -/
theorem filterMap_leftJoin (on : α → β → Bool) (left : List α) (right : List β) :
    (leftJoin on left right).filterMap (·.2) = left.flatMap fun a => right.filter (on a) := by
  unfold leftJoin
  rw [List.filterMap_flatMap]
  congr 1
  funext a
  split
  · rename_i hempty
    rw [List.isEmpty_iff.mp hempty]
    rfl
  · rw [List.filterMap_map]
    exact List.filterMap_some

/-- The rows of two conditions that exclude each other, one after the other. -/
theorem filter_or_perm {p q : β → Bool} {rows : List β}
    (h : ∀ b ∈ rows, p b = true → q b = false) :
    (rows.filter p ++ rows.filter q).Perm (rows.filter fun b => p b || q b) := by
  induction rows with
  | nil => exact .nil
  | cons b rows ih =>
    have ih := ih fun c hc => h c (List.mem_cons_of_mem b hc)
    have hb := h b List.mem_cons_self
    cases hp : p b with
    | true =>
      rw [List.filter_cons_of_pos hp, List.filter_cons_of_neg (by simp [hb hp]),
        List.filter_cons_of_pos (by simp [hp])]
      exact ih.cons b
    | false =>
      cases hq : q b with
      | true =>
        rw [List.filter_cons_of_neg (by simp [hp]), List.filter_cons_of_pos hq,
          List.filter_cons_of_pos (by simp [hq])]
        exact List.perm_middle.trans (ih.cons b)
      | false =>
        rw [List.filter_cons_of_neg (by simp [hp]), List.filter_cons_of_neg (by simp [hq]),
          List.filter_cons_of_neg (by simp [hp, hq])]
        exact ih

/-- When no right row matches two left rows, the matched rows are the matching
right rows, each as often as it stands in its table. -/
theorem matched_leftJoin_perm {on : α → β → Bool} {left : List α} {right : List β}
    (h : left.Pairwise fun a b => ∀ c ∈ right, on a c = true → on b c = false) :
    ((leftJoin on left right).filterMap (·.2)).Perm (right.filter fun c => left.any (on · c)) := by
  rw [filterMap_leftJoin]
  induction left with
  | nil => simp
  | cons a left ih =>
    obtain ⟨hfirst, hrest⟩ := List.pairwise_cons.mp h
    have hdisjoint : ∀ c ∈ right, on a c = true → left.any (on · c) = false := by
      intro c hc hon
      rw [List.any_eq_false]
      intro b hb
      rw [hfirst b hb c hc hon]
      exact Bool.false_ne_true
    rw [List.flatMap_cons]
    simp only [List.any_cons]
    exact ((ih hrest).append_left _).trans (filter_or_perm hdisjoint)

/-! ## Groups -/

/-- The keys of the groups, in order. -/
def groupKeys [DecidableEq κ] (le : κ → κ → Bool) (keys : List κ) : List κ :=
  keys.dedup.mergeSort le

/-- The groups of rows whose keys are those of an ordered list. -/
theorem groupKeys_eq [DecidableEq κ] {le : κ → κ → Bool}
    (htrans : ∀ a b c, le a b = true → le b c = true → le a c = true)
    (htotal : ∀ a b, (le a b || le b a) = true) {keys ordered : List κ} (hnodup : ordered.Nodup)
    (hordered : ordered.Pairwise fun a b => le a b = true)
    (hantisymm : ∀ a ∈ ordered, ∀ b ∈ ordered, le a b = true → le b a = true → a = b)
    (hmem : ∀ a, a ∈ keys ↔ a ∈ ordered) : groupKeys le keys = ordered := by
  have hperm : keys.dedup.Perm ordered :=
    (List.perm_ext_iff_of_nodup (List.nodup_dedup keys) hnodup).mpr fun a =>
      List.mem_dedup.trans (hmem a)
  have hsorted : (groupKeys le keys).Perm ordered := (List.mergeSort_perm _ _).trans hperm
  refine hsorted.eq_of_pairwise ?_ (List.pairwise_mergeSort htrans htotal _) hordered
  intro a b ha hb
  exact hantisymm a (hsorted.mem_iff.mp ha) b hb

/-- Every left row stands in the left join. -/
theorem mem_map_fst_leftJoin {on : α → β → Bool} {left : List α} {right : List β} {a : α} :
    a ∈ (leftJoin on left right).map (·.1) ↔ a ∈ left := by
  unfold leftJoin
  rw [List.mem_map]
  constructor
  · intro h
    obtain ⟨item, hitem, rfl⟩ := h
    obtain ⟨b, hb, hitem⟩ := List.mem_flatMap.mp hitem
    split at hitem
    · rw [List.mem_singleton.mp hitem]
      exact hb
    · obtain ⟨c, -, rfl⟩ := List.mem_map.mp hitem
      exact hb
  · intro h
    by_cases hempty : (right.filter (on a)).isEmpty = true
    · exact ⟨(a, none), List.mem_flatMap.mpr ⟨a, h, by rw [if_pos hempty]; simp⟩, rfl⟩
    · cases hmatched : right.filter (on a) with
      | nil => simp [hmatched] at hempty
      | cons b rest =>
        exact ⟨(a, some b), List.mem_flatMap.mpr ⟨a, h, by simp [hmatched]⟩, rfl⟩

end ForensicData.Lib.Relational
