/-
ForensicData.Lib.Tiling — lists of regions that cover a domain exactly.

A region is any value with a membership test `covers`. `Tiles` says that a
list of regions covers a domain once: every point of the domain lies in one
region of the list, counted with position, and every other point in none.
Counting (`multiplicity`) rather than union and disjointness is what makes
replacing one region by a tiling of it a rewrite: the count of a list is a
sum over its entries. `tiles_iff` gives the two readings of the count.
-/
import Mathlib.Algebra.GroupWithZero.Nat
import Mathlib.Data.Finset.Card
import Mathlib.Data.List.Count
import Mathlib.Data.List.Pairwise
import Mathlib.Algebra.BigOperators.Group.List.Basic

namespace ForensicData.Lib

variable {κ β : Type*} (covers : β → κ → Bool)

/-- The number of regions of the list that contain the point. -/
def multiplicity (parts : List β) (k : κ) : ℕ :=
  parts.countP (fun p => covers p k)

/-- Every point of `whole` lies in exactly one region, every other point in
none. -/
def Tiles (parts : List β) (whole : κ → Bool) : Prop :=
  ∀ k, multiplicity covers parts k = if whole k then 1 else 0

/-! ## Counting -/

@[simp] theorem multiplicity_nil (k : κ) : multiplicity covers [] k = 0 := rfl

@[simp] theorem multiplicity_cons (p : β) (parts : List β) (k : κ) :
    multiplicity covers (p :: parts) k
      = (if covers p k then 1 else 0) + multiplicity covers parts k := by
  simp [multiplicity, List.countP_cons, Nat.add_comm]

@[simp] theorem multiplicity_append (l r : List β) (k : κ) :
    multiplicity covers (l ++ r) k = multiplicity covers l k + multiplicity covers r k := by
  simp [multiplicity]

theorem multiplicity_map {γ : Type*} (f : γ → β) (parts : List γ) (k : κ) :
    multiplicity covers (parts.map f) k = multiplicity (fun p => covers (f p)) parts k := by
  simp [multiplicity, List.countP_map, Function.comp_def]

theorem multiplicity_perm {l r : List β} (h : l.Perm r) (k : κ) :
    multiplicity covers l k = multiplicity covers r k :=
  h.countP_eq _

/-! ## Tilings -/

variable {covers}

theorem Tiles.perm {l r : List β} {whole : κ → Bool} (ht : Tiles covers l whole)
    (h : l.Perm r) : Tiles covers r whole := by
  intro k
  rw [← multiplicity_perm covers h k, ht k]

/-- Regions may be given through a map. -/
theorem tiles_map_iff {γ : Type*} {f : γ → β} {parts : List γ} {whole : κ → Bool} :
    Tiles covers (parts.map f) whole ↔ Tiles (fun p => covers (f p)) parts whole := by
  simp only [Tiles, multiplicity_map]

/-- One region tiles itself. -/
theorem tiles_singleton (p : β) : Tiles covers [p] (covers p) := by
  intro k
  simp

/-- A region of a tiling may be replaced by a tiling of it. -/
theorem Tiles.refine {l r sub : List β} {p : β} {whole : κ → Bool}
    (ht : Tiles covers (l ++ p :: r) whole) (hsub : Tiles covers sub (covers p)) :
    Tiles covers (l ++ sub ++ r) whole := by
  intro k
  have hk := ht k
  simp only [multiplicity_append, multiplicity_cons] at hk ⊢
  rw [hsub k]
  omega

/-- The two readings of the count: a tiling is a pairwise disjoint cover. -/
theorem tiles_iff {parts : List β} {whole : κ → Bool} :
    Tiles covers parts whole ↔
      parts.Pairwise (fun p q => ∀ k, ¬ (covers p k = true ∧ covers q k = true)) ∧
      ∀ k, whole k = true ↔ ∃ p ∈ parts, covers p k = true := by
  induction parts generalizing whole with
  | nil =>
    simp only [Tiles, multiplicity_nil, List.Pairwise.nil, true_and, List.not_mem_nil, false_and,
      exists_false, iff_false, Bool.not_eq_true]
    refine forall_congr' fun k => ?_
    cases whole k <;> simp
  | cons p parts ih =>
    -- what is left of the domain once `p` is taken out is tiled by the tail
    have hsplit : Tiles covers (p :: parts) whole ↔
        (∀ k, covers p k = true → whole k = true) ∧
          Tiles covers parts (fun k => whole k && !covers p k) := by
      constructor
      · intro h
        refine ⟨fun k hk => ?_, fun k => ?_⟩
        · have := h k
          cases hw : whole k <;> simp_all
        · have := h k
          simp only [multiplicity_cons] at this
          cases hw : whole k <;> cases hp : covers p k <;> simp_all
      · rintro ⟨hsub, h⟩ k
        have hk := h k
        rw [multiplicity_cons, hk]
        by_cases hp : covers p k = true
        · simp [hp, hsub k hp]
        · simp [hp]
    rw [hsplit, ih, List.pairwise_cons]
    constructor
    · rintro ⟨hsub, hpw, hcov⟩
      refine ⟨⟨fun q hq k hk => ?_, hpw⟩, fun k => ?_⟩
      · have := (hcov k).mpr ⟨q, hq, hk.2⟩
        simp [hk.1] at this
      · constructor
        · intro hw
          cases hp : covers p k
          · obtain ⟨q, hq, hqk⟩ := (hcov k).mp (by simp [hw, hp])
            exact ⟨q, List.mem_cons_of_mem _ hq, hqk⟩
          · exact ⟨p, List.mem_cons_self, hp⟩
        · rintro ⟨q, hq, hqk⟩
          rcases List.mem_cons.mp hq with rfl | hq
          · exact hsub k hqk
          · have := (hcov k).mpr ⟨q, hq, hqk⟩
            simp only [Bool.and_eq_true] at this
            exact this.1
    · rintro ⟨⟨hdis, hpw⟩, hcov⟩
      refine ⟨fun k hk => (hcov k).mpr ⟨p, List.mem_cons_self, hk⟩, hpw, fun k => ?_⟩
      simp only [Bool.and_eq_true, Bool.not_eq_true']
      constructor
      · rintro ⟨hw, hp⟩
        obtain ⟨q, hq, hqk⟩ := (hcov k).mp hw
        rcases List.mem_cons.mp hq with rfl | hq
        · simp [hp] at hqk
        · exact ⟨q, hq, hqk⟩
      · rintro ⟨q, hq, hqk⟩
        refine ⟨(hcov k).mpr ⟨q, List.mem_cons_of_mem _ hq, hqk⟩, ?_⟩
        cases hp : covers p k
        · rfl
        · exact absurd ⟨hp, hqk⟩ (hdis q hq k)

/-- Adding up an indicator over the regions counts the regions. -/
theorem sum_indicator (covers : β → κ → Bool) (parts : List β) (k : κ) :
    (parts.map fun p => if covers p k = true then 1 else 0).sum = multiplicity covers parts k := by
  induction parts with
  | nil => rfl
  | cons p parts ih => simp [ih]

/-- The points of a set that lie in one of several disjoint regions, counted
region by region. -/
theorem sum_card_filter {parts : List β}
    (hparts : parts.Pairwise fun p q => ∀ k, ¬ (covers p k = true ∧ covers q k = true))
    (s : Finset κ) :
    (parts.map fun p => (s.filter fun k => covers p k = true).card).sum
      = (s.filter fun k => (parts.any fun p => covers p k) = true).card := by
  induction parts with
  | nil => simp
  | cons p parts ih =>
    rw [List.pairwise_cons] at hparts
    have hdisjoint : Disjoint (s.filter fun k => covers p k = true)
        (s.filter fun k => (parts.any fun q => covers q k) = true) := by
      refine Finset.disjoint_filter.mpr fun k _ hp hany => ?_
      obtain ⟨q, hq, hcovers⟩ := List.any_eq_true.mp hany
      exact hparts.1 q hq k ⟨hp, hcovers⟩
    have hcons : (s.filter fun k => ((p :: parts).any fun q => covers q k) = true)
        = (s.filter fun k => covers p k = true).disjUnion
          (s.filter fun k => (parts.any fun q => covers q k) = true) hdisjoint := by
      ext k
      simp only [List.any_cons, Bool.or_eq_true, Finset.mem_filter, Finset.mem_disjUnion]
      exact and_or_left
    rw [List.map_cons, List.sum_cons, ih hparts.2, hcons, Finset.card_disjUnion]

end ForensicData.Lib
