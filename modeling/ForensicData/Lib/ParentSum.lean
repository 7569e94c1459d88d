/-
ForensicData.Lib.ParentSum — sums over the leaves of a parent-indexed forest.

A forest is given flat: a list of nodes, each with a key and at most one
parent key. When every branch node carries the sum of its children's values,
the terminal nodes carry the sum of the roots' values
(`sum_terminal_eq_sum_root`). The argument counts every non-root node twice,
once in the list and once below its parent, so it needs neither an order on
the nodes nor a bound on the depth: cancelling the branch nodes from

    all nodes = roots + children of branch nodes = roots + branch nodes
    all nodes = terminal nodes + branch nodes

leaves the claim.
-/
import Mathlib.Algebra.BigOperators.Group.Multiset.Basic
import Mathlib.Algebra.BigOperators.Group.List.Basic

namespace ForensicData.Lib

section Sums

variable {ν M : Type*} [AddCommMonoid M]

/-- A list sum splits along a test. -/
theorem sum_map_filter_add_not (p : ν → Bool) (value : ν → M) (nodes : List ν) :
    ((nodes.filter p).map value).sum + ((nodes.filter fun n => !p n).map value).sum
      = (nodes.map value).sum := by
  induction nodes with
  | nil => simp
  | cons n nodes ih =>
    cases hp : p n
    · simp only [List.filter_cons, hp, Bool.not_false, if_true, List.map_cons, List.sum_cons, ← ih]
      simp [add_left_comm]
    · simp only [List.filter_cons, hp, Bool.not_true, if_true, List.map_cons, List.sum_cons, ← ih]
      simp [add_assoc]

/-- A filtered sum is a sum of guarded values. -/
theorem sum_map_filter_eq_ite (p : ν → Bool) (value : ν → M) (nodes : List ν) :
    ((nodes.filter p).map value).sum = (nodes.map fun n => if p n = true then value n else 0).sum := by
  induction nodes with
  | nil => rfl
  | cons n nodes ih => cases hp : p n <;> simp [hp, ih]

/-- Two list sums may be exchanged. -/
theorem sum_map_sum_map {μ : Type*} (l : List ν) (r : List μ) (f : ν → μ → M) :
    (l.map fun a => (r.map fun b => f a b).sum).sum
      = (r.map fun b => (l.map fun a => f a b).sum).sum := by
  simpa using @Multiset.sum_map_sum_map ν μ M _ (l : Multiset ν) (r : Multiset μ) f

end Sums

section Forest

variable {ν ι M : Type*} [DecidableEq ι] [AddCommMonoid M]
variable (key : ν → ι) (parent : ν → Option ι) (branch : ν → Bool) (value : ν → M)

/-- The nodes of the list that name `s` as their parent. -/
def childrenOf (nodes : List ν) (s : ν) : List ν :=
  nodes.filter fun n => decide (parent n = some (key s))

variable {key parent branch value}

/-- Under distinct keys exactly one node of the list has a given key. -/
theorem sum_guard_key {nodes : List ν} (hkeys : (nodes.map key).Nodup) {s : ν} (hs : s ∈ nodes)
    (hbranch : branch s = true) (v : M) :
    ((nodes.filter branch).map fun b => if key s = key b then v else 0).sum = v := by
  induction nodes with
  | nil => simp at hs
  | cons n nodes ih =>
    rw [List.map_cons, List.nodup_cons] at hkeys
    obtain ⟨hnot, hkeys⟩ := hkeys
    have hzero : key s = key n →
        ((nodes.filter branch).map fun b => if key s = key b then v else 0).sum = 0 := by
      intro hk
      have : ∀ b ∈ nodes.filter branch, (if key s = key b then v else 0) = 0 := by
        intro b hb
        rw [if_neg]
        intro hkb
        exact hnot (hk ▸ hkb ▸ List.mem_map_of_mem (List.mem_of_mem_filter hb))
      rw [List.map_congr_left this]
      simp
    rcases List.mem_cons.mp hs with rfl | hs
    · simp [hbranch, hzero rfl]
    · have hne : key s ≠ key n := fun hk => hnot (hk ▸ List.mem_map_of_mem hs)
      cases hn : branch n
      · simpa [hn] using ih hkeys hs
      · simpa [hn, hne] using ih hkeys hs

/-- Every non-root node is a child of exactly one branch node. -/
theorem sum_children_eq_sum_nonroot {nodes : List ν} (hkeys : (nodes.map key).Nodup)
    (hparent : ∀ n ∈ nodes, ∀ p, parent n = some p → ∃ s ∈ nodes, key s = p ∧ branch s = true) :
    ((nodes.filter branch).map fun s => ((childrenOf key parent nodes s).map value).sum).sum
      = ((nodes.filter fun n => !(parent n).isNone).map value).sum := by
  simp only [childrenOf, sum_map_filter_eq_ite (fun n => decide (parent n = some (key _))),
    decide_eq_true_eq]
  rw [sum_map_sum_map, sum_map_filter_eq_ite]
  refine congrArg List.sum (List.map_congr_left fun n hn => ?_)
  cases hp : parent n with
  | none => simp
  | some p =>
    obtain ⟨s, hs, rfl, hbranch⟩ := hparent n hn p hp
    simpa using sum_guard_key hkeys hs hbranch (value n)

end Forest

/-- The terminal nodes of a forest carry what its roots carry, when every
branch node carries the sum of its children. -/
theorem sum_terminal_eq_sum_root {ν ι M : Type*} [DecidableEq ι] [AddCancelCommMonoid M]
    {key : ν → ι} {parent : ν → Option ι} {branch : ν → Bool} {value : ν → M} {nodes : List ν}
    (hkeys : (nodes.map key).Nodup)
    (hparent : ∀ n ∈ nodes, ∀ p, parent n = some p → ∃ s ∈ nodes, key s = p ∧ branch s = true)
    (hbranch : ∀ s ∈ nodes, branch s = true →
      ((childrenOf key parent nodes s).map value).sum = value s) :
    ((nodes.filter fun n => !branch n).map value).sum
      = ((nodes.filter fun n => (parent n).isNone).map value).sum := by
  have hchildren : ((nodes.filter branch).map fun s =>
      ((childrenOf key parent nodes s).map value).sum).sum
        = ((nodes.filter fun n => !(parent n).isNone).map value).sum :=
    sum_children_eq_sum_nonroot hkeys hparent
  have hsame : ((nodes.filter branch).map fun s => ((childrenOf key parent nodes s).map value).sum)
      = (nodes.filter branch).map value := by
    refine List.map_congr_left fun s hs => ?_
    exact hbranch s (List.mem_of_mem_filter hs) (List.of_mem_filter hs)
  rw [hsame] at hchildren
  have hbr := sum_map_filter_add_not branch value nodes
  have hroot := sum_map_filter_add_not (fun n => (parent n).isNone) value nodes
  rw [← hchildren, ← hbr, add_comm] at hroot
  exact (add_left_cancel hroot).symm

end ForensicData.Lib
