/-
ForensicData.Lib.Paging — reading a numbered list page by page.

A server answers a cursor with some items and the cursor of the next page, if
there is one. `Follows` is a whole traversal: it starts somewhere, asks with the
cursor it was given last, and ends at a page without one. A server that hands
out `all` in pieces (`Serves`) is traversed to its end from every cursor, and
the pieces make up what was left (`Serves.exists_follows`).

`filter_above_eq_drop` is why a keyset condition on the numbers is an offset.
-/
import Mathlib.Data.List.Basic
import Mathlib.Data.List.Range

namespace ForensicData.Lib

/-! ## Keyset conditions -/

section Keyset

variable {α : Type} {number : α → ℕ}

/-- In a list numbered without a gap, the items from a number on are those from
that offset on. -/
theorem filter_above_eq_drop {items : List α} {first n : ℕ}
    (h : items.map number = List.range' first items.length) :
    items.filter (fun item => decide (first + n ≤ number item)) = items.drop n := by
  induction items generalizing first n with
  | nil => simp
  | cons item items ih =>
    rw [List.map_cons, List.length_cons, List.range'_succ, List.cons.injEq] at h
    obtain ⟨hitem, hitems⟩ := h
    cases n with
    | zero =>
      rw [List.drop_zero, List.filter_eq_self]
      intro other hother
      rw [List.mem_cons] at hother
      rcases hother with rfl | hmem
      · simp [hitem]
      · have hnumber : number other ∈ List.range' (first + 1) items.length := by
          rw [← hitems]
          exact List.mem_map_of_mem hmem
        rw [List.mem_range'_1] at hnumber
        simp
        omega
    | succ n =>
      have hbelow : ¬ first + (n + 1) ≤ number item := by omega
      rw [List.filter_cons_of_neg (by simpa using hbelow), List.drop_succ_cons, ← ih hitems]
      simp [Nat.add_assoc, Nat.add_comm 1 n]

end Keyset

/-! ## Traversals -/

variable {α κ ε : Type}

/-- Some items, and where to go on. -/
structure Page (α κ : Type) where
  items : List α
  next : Option κ

/-- A traversal: `serve k` answers the `k`-th request, and the pages are those of
all requests up to the one that has no next cursor. -/
inductive Follows (serve : ℕ → Option κ → Except ε (Page α κ)) :
    ℕ → Option κ → List (Page α κ) → Prop where
  | last {k : ℕ} {cursor : Option κ} {page : Page α κ} (hpage : serve k cursor = .ok page)
      (hnext : page.next = none) : Follows serve k cursor [page]
  | more {k : ℕ} {cursor : Option κ} {page : Page α κ} {next : κ} {pages : List (Page α κ)}
      (hpage : serve k cursor = .ok page) (hnext : page.next = some next)
      (hrest : Follows serve (k + 1) (some next) pages) : Follows serve k cursor (page :: pages)

variable {serve : ℕ → Option κ → Except ε (Page α κ)}

/-- There is one traversal at most. -/
theorem Follows.unique {k : ℕ} {cursor : Option κ} {pages others : List (Page α κ)}
    (h : Follows serve k cursor pages) (hother : Follows serve k cursor others) :
    pages = others := by
  induction h generalizing others with
  | last hpage hnext =>
    cases hother with
    | last hpage' hnext' =>
      rw [hpage, Except.ok.injEq] at hpage'
      rw [hpage']
    | more hpage' hnext' hrest =>
      rw [hpage, Except.ok.injEq] at hpage'
      rw [← hpage', hnext] at hnext'
      cases hnext'
  | more hpage hnext hrest ih =>
    cases hother with
    | last hpage' hnext' =>
      rw [hpage, Except.ok.injEq] at hpage'
      rw [← hpage', hnext] at hnext'
      cases hnext'
    | more hpage' hnext' hrest' =>
      rw [hpage, Except.ok.injEq] at hpage'
      subst hpage'
      rw [hnext, Option.some.injEq] at hnext'
      subst hnext'
      rw [ih hrest']

/-- `serve` hands out `all`, the `k`-th request at most `limit k` items of it;
`position` is how many items come before those a valid cursor asks for. -/
structure Serves (serve : ℕ → Option κ → Except ε (Page α κ)) (all : List α) (limit : ℕ → ℕ)
    (valid : Option κ → Prop) (position : Option κ → ℕ) : Prop where
  page : ∀ k cursor, valid cursor → ∃ next, serve k cursor
    = .ok { items := (all.drop (position cursor)).take (limit k), next }  ∧
      if position cursor + limit k < all.length then
        valid next ∧ next.isSome = true ∧ position next = position cursor + limit k
      else next = none

variable {all : List α} {limit : ℕ → ℕ} {valid : Option κ → Prop} {position : Option κ → ℕ}

/-- Every traversal ends, after at most one request for each item that is left
and one more, and its pages make up these items. -/
theorem Serves.exists_follows (h : Serves serve all limit valid position)
    (hlimit : ∀ k, 0 < limit k) {k : ℕ} {cursor : Option κ} (hcursor : valid cursor) :
    ∃ pages, Follows serve k cursor pages ∧
      pages.flatMap Page.items = all.drop (position cursor) ∧
      pages.length ≤ all.length - position cursor + 1 := by
  generalize hleft : all.length - position cursor = left
  induction left using Nat.strong_induction_on generalizing k cursor with
  | _ left ih =>
    obtain ⟨next, hpage, hnext⟩ := h.page k cursor hcursor
    split at hnext
    · rename_i hmore
      obtain ⟨hvalid, hsome, hposition⟩ := hnext
      obtain ⟨found, hfound⟩ := Option.isSome_iff_exists.mp hsome
      subst hfound
      have hfewer : all.length - position (some found) < left := by
        have := hlimit k
        omega
      obtain ⟨pages, hfollows, hitems, hlength⟩ := ih _ hfewer hvalid rfl
      refine ⟨_, .more hpage rfl hfollows, ?_, ?_⟩
      · rw [List.flatMap_cons, hitems, hposition, ← List.drop_drop, List.take_append_drop]
      · rw [List.length_cons]
        omega
    · rename_i hmore
      subst hnext
      refine ⟨_, .last hpage rfl, ?_, ?_⟩
      · rw [List.flatMap_cons, List.flatMap_nil, List.append_nil]
        apply List.take_of_length_le
        rw [List.length_drop]
        omega
      · simp

end ForensicData.Lib
