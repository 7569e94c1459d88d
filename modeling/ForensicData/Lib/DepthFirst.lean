/-
ForensicData.Lib.DepthFirst — depth-first search with an explicit stack.

An entry of the stack is a node to be entered, or the marker of a node to be
left. `active` are the nodes between the two, `reachable` those that were left;
entering an active node closes a cycle. The search ends, and either closes a
cycle of the graph or holds exactly the nodes reachable from its root, on none of
which there is a cycle (`search_spec`). `WellStacked` is the invariant: each
entry is a child of the marker below it, and each child of a marked node was left
or stands above the marker.
-/
import Mathlib.Algebra.BigOperators.Group.Finset.Basic
import Mathlib.Data.Finset.Basic
import Mathlib.Logic.Relation

namespace ForensicData.Lib.DepthFirst

variable {α : Type}

structure State (α : Type) where
  active : Finset α
  reachable : Finset α
  stack : List (α × Bool)

inductive Outcome (α : Type) where
  | done (reachable : Finset α)
  | cycle (node : α)
  | unmarked (node : α)

section Search

variable (children : α → List α)

/-! ## Stacks -/

def Edge (parent child : α) : Prop := child ∈ children parent

/-- The stack below the nodes `above`, which are children of its first marker.
At its bottom stands the root. -/
def WellStacked (root : α) (reachable : Finset α) : List α → List (α × Bool) → Prop
  | above, [] => (∀ child ∈ above, child = root) ∧ (root ∈ reachable ∨ root ∈ above)
  | above, (node, false) :: rest => WellStacked root reachable (node :: above) rest
  | above, (node, true) :: rest =>
    (∀ child ∈ above, Edge children node child) ∧
    (∀ child, Edge children node child → child ∈ reachable ∨ child ∈ above) ∧
    WellStacked root reachable [node] rest

/-- The marked nodes. -/
def marked (stack : List (α × Bool)) : List α :=
  (stack.filter fun entry => entry.2).map Prod.fst

section Stacks

variable {children} {root : α}

theorem WellStacked.mono {stack : List (α × Bool)} {above above' : List α}
    {reachable reachable' : Finset α} (h : WellStacked children root reachable above stack)
    (hreachable : reachable ⊆ reachable') (habove : ∀ child ∈ above', child ∈ above)
    (hleft : ∀ child ∈ above, child ∈ above' ∨ child ∈ reachable') :
    WellStacked children root reachable' above' stack := by
  induction stack generalizing above above' with
  | nil =>
    refine ⟨fun child hchild => h.1 child (habove child hchild), ?_⟩
    rcases h.2 with hroot | hroot
    · exact .inl (hreachable hroot)
    · exact (hleft root hroot).symm
  | cons entry rest ih =>
    rcases entry with ⟨node, isMarker⟩
    cases isMarker with
    | false =>
      apply ih h
      · intro child hchild
        rcases List.mem_cons.mp hchild with rfl | hchild
        · exact List.mem_cons_self
        · exact List.mem_cons_of_mem _ (habove child hchild)
      · intro child hchild
        rcases List.mem_cons.mp hchild with rfl | hchild
        · exact .inl List.mem_cons_self
        · exact (hleft child hchild).imp_left (List.mem_cons_of_mem _)
    | true =>
      rcases h with ⟨hchildren, hall, hrest⟩
      refine ⟨fun child hchild => hchildren child (habove child hchild), ?_, ?_⟩
      · intro child hedge
        rcases hall child hedge with hchild | hchild
        · exact .inl (hreachable hchild)
        · exact (hleft child hchild).symm
      · exact ih hrest (fun _ hchild => hchild) fun child hchild => .inl hchild

/-- The nodes above a marker are reached from it. -/
theorem WellStacked.transGen {stack : List (α × Bool)} {above : List α} {reachable : Finset α}
    (h : WellStacked children root reachable above stack) {child node : α} (hchild : child ∈ above)
    (hnode : node ∈ marked stack) : Relation.TransGen (Edge children) node child := by
  induction stack generalizing above child with
  | nil => simp [marked] at hnode
  | cons entry rest ih =>
    rcases entry with ⟨other, isMarker⟩
    cases isMarker with
    | false => exact ih h (List.mem_cons_of_mem _ hchild) (by simpa [marked] using hnode)
    | true =>
      rcases h with ⟨hchildren, -, hrest⟩
      have hedge : Edge children other child := hchildren child hchild
      have hmarked : node = other ∨ node ∈ marked rest := by simpa [marked] using hnode
      rcases hmarked with rfl | hbelow
      · exact .single hedge
      · exact (ih hrest (List.mem_singleton_self other) hbelow).tail hedge

/-- Entries to be entered are read off the top one by one. -/
theorem wellStacked_push {nodes above : List α} {reachable : Finset α} {rest : List (α × Bool)} :
    WellStacked children root reachable above (nodes.map (fun child => (child, false)) ++ rest) ↔
      WellStacked children root reachable (nodes.reverse ++ above) rest := by
  induction nodes generalizing above with
  | nil => exact Iff.rfl
  | cons node nodes ih =>
    rw [List.map_cons, List.cons_append, WellStacked, ih]
    simp

theorem marked_push {nodes : List α} {rest : List (α × Bool)} :
    marked (nodes.map (fun child => (child, false)) ++ rest) = marked rest := by
  simp [marked, List.filter_map]

/-- A node that a closed set is entered through leads nowhere else. -/
theorem mem_of_transGen {reachable : Finset α}
    (hclosed : ∀ node ∈ reachable, ∀ child, Edge children node child → child ∈ reachable)
    {node child : α} (hnode : ∀ next, Edge children node next → next ∈ reachable)
    (h : Relation.TransGen (Edge children) node child) : child ∈ reachable := by
  induction h with
  | single hedge => exact hnode _ hedge
  | tail _ hedge ih => exact hclosed _ ih _ hedge

end Stacks

variable [DecidableEq α]

/-! ## The loop -/

/-- Entering a node. -/
def enter (s : State α) (node : α) (rest : List (α × Bool)) : Outcome α ⊕ State α :=
  if node ∈ s.reachable then .inr { s with stack := rest }
  else if node ∈ s.active then .inl (.cycle node)
  else
    .inr
      { s with
        active := insert node s.active
        stack := (children node).map (fun child => (child, false)) ++ (node, true) :: rest }

/-- Leaving a node. -/
def leave (s : State α) (node : α) (rest : List (α × Bool)) : Outcome α ⊕ State α :=
  if node ∈ s.active then
    .inr
      { active := s.active.erase node, reachable := insert node s.reachable, stack := rest }
  else .inl (.unmarked node)

/-- One round of the loop. -/
def step (s : State α) : Outcome α ⊕ State α :=
  match s.stack with
  | [] => .inl (.done s.reachable)
  | (node, true) :: rest => leave s node rest
  | (node, false) :: rest => enter children s node rest

/-- The loop, of at most `fuel` rounds. -/
def search : ℕ → State α → Option (Outcome α)
  | 0, _ => none
  | fuel + 1, s =>
    match step children s with
    | .inl outcome => some outcome
    | .inr next => search fuel next

def start (root : α) : State α := { active := ∅, reachable := ∅, stack := [(root, false)] }

/-! ## The invariant -/

structure Inv (root : α) (s : State α) : Prop where
  stacked : WellStacked children root s.reachable [] s.stack
  active_eq : s.active = (marked s.stack).toFinset
  nodup : (marked s.stack).Nodup
  apart : Disjoint s.active s.reachable
  closed : ∀ node ∈ s.reachable, ∀ child, Edge children node child → child ∈ s.reachable
  acyclic : ∀ node ∈ s.reachable, ¬ Relation.TransGen (Edge children) node node
  reached : ∀ node, node ∈ s.reachable ∨ node ∈ s.stack.map Prod.fst →
    Relation.ReflTransGen (Edge children) root node

variable {children} {root : α}

theorem inv_start : Inv children root (start root) where
  stacked := by simp [start, WellStacked]
  active_eq := rfl
  nodup := List.nodup_nil
  apart := Finset.disjoint_empty_left _
  closed := by simp [start]
  acyclic := by simp [start]
  reached := by
    intro node hnode
    have hroot : node = root := by simpa [start] using hnode
    rw [hroot]

theorem Inv.leave {s next : State α} {node : α} {rest : List (α × Bool)}
    (h : Inv children root s) (hstack : s.stack = (node, true) :: rest)
    (hnext : leave s node rest = .inr next) : Inv children root next := by
  unfold DepthFirst.leave at hnext
  have hstacked := h.stacked
  rw [hstack] at hstacked
  rcases hstacked with ⟨-, hall, hrest⟩
  have hactive := h.active_eq
  have hnodup := h.nodup
  have hmarked : marked s.stack = node :: marked rest := by simp [hstack, marked]
  rw [hmarked] at hactive hnodup
  rw [List.nodup_cons] at hnodup
  split at hnext
  · rename_i hmem
    cases hnext
    have hfresh : node ∉ s.reachable := Finset.disjoint_left.mp h.apart hmem
    have hchildren : ∀ child, Edge children node child → child ∈ s.reachable := fun child hedge =>
      (hall child hedge).resolve_right (by simp)
    refine ⟨?_, ?_, hnodup.2, ?_, ?_, ?_, ?_⟩
    · refine hrest.mono (Finset.subset_insert _ _) (by simp) fun child hchild => .inr ?_
      rw [List.mem_singleton.mp hchild]
      exact Finset.mem_insert_self _ _
    · rw [hactive, List.toFinset_cons, Finset.erase_insert]
      simpa using hnodup.1
    · rw [Finset.disjoint_insert_right]
      exact ⟨Finset.notMem_erase _ _, h.apart.mono_left (Finset.erase_subset _ _)⟩
    · intro other hother child hedge
      rcases Finset.mem_insert.mp hother with rfl | hother
      · exact Finset.mem_insert_of_mem (hchildren child hedge)
      · exact Finset.mem_insert_of_mem (h.closed other hother child hedge)
    · intro other hother hcycle
      rcases Finset.mem_insert.mp hother with rfl | hother
      · exact hfresh (mem_of_transGen h.closed hchildren hcycle)
      · exact h.acyclic other hother hcycle
    · intro other hother
      apply h.reached
      rw [hstack]
      rcases hother with hother | hother
      · rcases Finset.mem_insert.mp hother with rfl | hother
        · exact .inr (by simp)
        · exact .inl hother
      · exact .inr (List.mem_cons_of_mem _ hother)
  · cases hnext

theorem Inv.enter {s next : State α} {node : α} {rest : List (α × Bool)}
    (h : Inv children root s) (hstack : s.stack = (node, false) :: rest)
    (hnext : enter children s node rest = .inr next) : Inv children root next := by
  unfold DepthFirst.enter at hnext
  have hstacked := h.stacked
  rw [hstack] at hstacked
  have hmarked : marked s.stack = marked rest := by simp [hstack, marked]
  have hactive := h.active_eq
  have hnodup := h.nodup
  rw [hmarked] at hactive hnodup
  have hnode : Relation.ReflTransGen (Edge children) root node :=
    h.reached node (.inr (by simp [hstack]))
  split at hnext
  · rename_i hleft
    cases hnext
    refine ⟨?_, hactive, hnodup, h.apart, h.closed, h.acyclic, ?_⟩
    · refine WellStacked.mono (show WellStacked children root s.reachable [node] rest from hstacked)
        (Finset.Subset.refl _) (by simp) fun child hchild => .inr ?_
      rwa [List.mem_singleton.mp hchild]
    · intro other hother
      apply h.reached
      rw [hstack]
      exact hother.imp_right (List.mem_cons_of_mem _)
  · rename_i hfresh
    split at hnext
    · cases hnext
    · rename_i hinactive
      cases hnext
      have hnew : marked ((children node).map (fun child => (child, false)) ++ (node, true) :: rest)
          = node :: marked rest := by
        rw [marked_push]
        simp [marked]
      refine ⟨?_, ?_, ?_, ?_, h.closed, h.acyclic, ?_⟩
      · rw [wellStacked_push]
        refine ⟨?_, ?_, hstacked⟩
        · intro child hchild
          have : child ∈ children node := by simpa using hchild
          exact this
        · intro child hedge
          have : child ∈ children node := hedge
          exact .inr (by simpa using this)
      · rw [hnew, List.toFinset_cons, hactive]
      · rw [hnew, List.nodup_cons]
        refine ⟨?_, hnodup⟩
        rw [hactive] at hinactive
        simpa using hinactive
      · rw [Finset.disjoint_insert_left]
        exact ⟨hfresh, h.apart⟩
      · intro other hother
        rcases hother with hother | hother
        · exact h.reached other (.inl hother)
        · rw [List.map_append, List.mem_append, List.map_cons, List.mem_cons] at hother
          rcases hother with hchild | rfl | hother
          · have hedge : other ∈ children node := by simpa using hchild
            exact hnode.tail hedge
          · exact hnode
          · apply h.reached
            rw [hstack]
            exact .inr (List.mem_cons_of_mem _ hother)

theorem Inv.step {s next : State α} (h : Inv children root s)
    (hnext : step children s = .inr next) : Inv children root next := by
  unfold DepthFirst.step at hnext
  split at hnext
  · cases hnext
  · rename_i node rest hstack
    exact h.leave hstack hnext
  · rename_i node rest hstack
    exact h.enter hstack hnext

/-! ## What the search finds -/

/-- What an outcome says of the graph. -/
def Outcome.Sound (children : α → List α) (root : α) : Outcome α → Prop
  | .done reachable =>
    (∀ node, node ∈ reachable ↔ Relation.ReflTransGen (Edge children) root node) ∧
      ∀ node ∈ reachable, ¬ Relation.TransGen (Edge children) node node
  | .cycle node =>
    Relation.ReflTransGen (Edge children) root node ∧
      Relation.TransGen (Edge children) node node
  | .unmarked _ => False

theorem Inv.outcome {s : State α} {outcome : Outcome α} (h : Inv children root s)
    (houtcome : DepthFirst.step children s = .inl outcome) : outcome.Sound children root := by
  unfold DepthFirst.step at houtcome
  split at houtcome
  · rename_i hstack
    cases houtcome
    have hstacked := h.stacked
    rw [hstack] at hstacked
    have hroot : root ∈ s.reachable := hstacked.2.resolve_right (by simp)
    refine ⟨fun node => ⟨fun hnode => h.reached node (.inl hnode), fun hnode => ?_⟩, h.acyclic⟩
    induction hnode with
    | refl => exact hroot
    | tail _ hedge ih => exact h.closed _ ih _ hedge
  · rename_i node rest hstack
    unfold DepthFirst.leave at houtcome
    split at houtcome
    · cases houtcome
    · rename_i hinactive
      rw [h.active_eq, hstack] at hinactive
      exact absurd (by simp [marked]) hinactive
  · rename_i node rest hstack
    unfold DepthFirst.enter at houtcome
    split at houtcome
    · cases houtcome
    · split at houtcome
      · rename_i hactive
        cases houtcome
        refine ⟨h.reached node (.inr (by simp [hstack])), ?_⟩
        have hstacked := h.stacked
        rw [hstack] at hstacked
        rw [h.active_eq, hstack] at hactive
        have hmarked : node ∈ marked rest := by simpa [marked] using hactive
        exact @WellStacked.transGen _ _ _ _ [node] _ hstacked _ _ (List.mem_singleton_self node)
          hmarked
      · cases houtcome

/-! ## The end of the search -/

/-- The rounds still to come: the entries of the stack, and for each node not yet
entered its children and its marker. -/
def remaining (children : α → List α) (nodes : Finset α) (s : State α) : ℕ :=
  s.stack.length + ∑ node ∈ nodes \ (s.active ∪ s.reachable), ((children node).length + 2)

theorem remaining_step {s next : State α} {nodes : Finset α} (h : Inv children root s)
    (hnodes : ∀ node, Relation.ReflTransGen (Edge children) root node → node ∈ nodes)
    (hnext : step children s = .inr next) :
    remaining children nodes next < remaining children nodes s := by
  unfold DepthFirst.step at hnext
  split at hnext
  · cases hnext
  · rename_i node rest hstack
    unfold DepthFirst.leave at hnext
    split at hnext
    · rename_i hmem
      cases hnext
      have hsame : s.active.erase node ∪ insert node s.reachable = s.active ∪ s.reachable := by
        ext other
        by_cases heq : other = node
        · simp [heq, hmem]
        · simp [heq]
      simp only [remaining, hsame, hstack, List.length_cons]
      omega
    · cases hnext
  · rename_i node rest hstack
    unfold DepthFirst.enter at hnext
    split at hnext
    · cases hnext
      simp only [remaining, hstack, List.length_cons]
      omega
    · rename_i hfresh
      split at hnext
      · cases hnext
      · rename_i hinactive
        cases hnext
        have hnode : node ∈ nodes \ (s.active ∪ s.reachable) := by
          rw [Finset.mem_sdiff, Finset.mem_union]
          exact ⟨hnodes node (h.reached node (.inr (by simp [hstack]))), by
            rintro (hactive | hleft)
            · exact hinactive hactive
            · exact hfresh hleft⟩
        have hsplit : nodes \ (insert node s.active ∪ s.reachable)
            = (nodes \ (s.active ∪ s.reachable)).erase node := by
          ext other
          simp only [Finset.mem_sdiff, Finset.mem_union, Finset.mem_insert, Finset.mem_erase]
          constructor
          · rintro ⟨hother, hout⟩
            exact ⟨fun heq => hout (.inl (.inl heq)), hother, fun hin =>
              hout (hin.imp_left .inr)⟩
          · rintro ⟨hne, hother, hout⟩
            exact ⟨hother, fun hin => hin.elim (fun hin => hin.elim hne fun hin =>
              hout (.inl hin)) fun hin => hout (.inr hin)⟩
        have hsum := Finset.add_sum_erase (nodes \ (s.active ∪ s.reachable))
          (fun node => (children node).length + 2) hnode
        simp only [remaining, hsplit, hstack, List.length_append, List.length_map, List.length_cons]
        omega

/-- With enough rounds the search ends, in an outcome that is sound. -/
theorem search_of_inv {nodes : Finset α} (fuel : ℕ) (s : State α) (h : Inv children root s)
    (hnodes : ∀ node, Relation.ReflTransGen (Edge children) root node → node ∈ nodes)
    (hfuel : remaining children nodes s < fuel) :
    ∃ outcome, search children fuel s = some outcome ∧ outcome.Sound children root := by
  induction fuel generalizing s with
  | zero => omega
  | succ fuel ih =>
    rw [search]
    cases hstep : DepthFirst.step children s with
    | inl outcome => exact ⟨outcome, rfl, h.outcome hstep⟩
    | inr next =>
      have hless := remaining_step h hnodes hstep
      exact ih next (h.step hstep) (by omega)

/-- The rounds of a whole search are bounded. -/
theorem search_spec {nodes : Finset α} {fuel : ℕ}
    (hnodes : ∀ node, Relation.ReflTransGen (Edge children) root node → node ∈ nodes)
    (hfuel : 1 + ∑ node ∈ nodes, ((children node).length + 2) < fuel) :
    ∃ outcome, search children fuel (start root) = some outcome ∧ outcome.Sound children root := by
  apply search_of_inv fuel (start root) inv_start hnodes
  simpa [remaining, start] using hfuel

end Search

end ForensicData.Lib.DepthFirst
