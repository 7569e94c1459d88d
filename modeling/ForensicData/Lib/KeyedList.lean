/-
ForensicData.Lib.KeyedList — lists read as maps, and lists in labelled runs.

A list whose keys strictly ascend is the map from its keys to its items: an
item is found by its key (`itemAt_eq_some`), and the keys of the list are its
set of keys in order (`sort_keysOf`). A list whose labels follow the order of
a list of distinct labels is its runs, one after another
(`flatMap_filter_label`).
-/
import Mathlib.Data.Finset.Sort

namespace ForensicData.Lib

/-! ## Keys -/

section Keys

variable {α κ : Type} [LinearOrder κ] (key : α → κ)

/-- The keys strictly ascend. -/
def AscendingBy (items : List α) : Prop := items.Pairwise fun a b => key a < key b

/-- The keys of a list. -/
def keysOf (items : List α) : Finset κ := (items.map key).toFinset

/-- The item of a key. -/
def itemAt (items : List α) (k : κ) : Option α := items.find? fun item => decide (key item = k)

variable {key} {items : List α} {k : κ} {item : α}

theorem mem_keysOf : k ∈ keysOf key items ↔ ∃ item ∈ items, key item = k := by
  simp [keysOf]

theorem AscendingBy.nodup_map (h : AscendingBy key items) : (items.map key).Nodup :=
  List.pairwise_map.mpr (h.imp fun hlt => ne_of_lt hlt)

/-- Sorting by key puts any arrangement of an ascending list in order. -/
theorem AscendingBy.insertionSort_eq {sorted : List α} (h : AscendingBy key sorted)
    (hperm : items.Perm sorted) : items.insertionSort (fun a b => key a ≤ key b) = sorted := by
  refine List.Perm.eq_of_pairwise (fun a b ha hb hab hba => ?_)
    (List.pairwise_insertionSort _ _) (h.imp le_of_lt) ((List.perm_insertionSort _ _).trans hperm)
  have hmem : a ∈ sorted := ((List.perm_insertionSort _ _).trans hperm).subset ha
  exact List.inj_on_of_nodup_map h.nodup_map hmem hb (le_antisymm hab hba)

theorem itemAt_eq_some (h : AscendingBy key items) :
    itemAt key items k = some item ↔ item ∈ items ∧ key item = k := by
  constructor
  · intro hfound
    exact ⟨List.mem_of_find?_eq_some hfound, by simpa using List.find?_some hfound⟩
  · rintro ⟨hmem, hkey⟩
    cases hfound : itemAt key items k with
    | none =>
      have := List.find?_eq_none.mp hfound item hmem
      exact absurd hkey (by simpa using this)
    | some other =>
      have hother : other ∈ items := List.mem_of_find?_eq_some hfound
      have hkeys : key other = k := by simpa using List.find?_some hfound
      rw [List.inj_on_of_nodup_map h.nodup_map hother hmem (hkeys.trans hkey.symm)]

theorem itemAt_eq_none : itemAt key items k = none ↔ k ∉ keysOf key items := by
  rw [itemAt, List.find?_eq_none, mem_keysOf]
  simp

theorem itemAt_map {β : Type} (f : β → α) (items : List β) (k : κ) :
    itemAt key (items.map f) k = (itemAt (fun item => key (f item)) items k).map f := by
  simp [itemAt, List.find?_map, Function.comp_def]

/-- Leaving out keys leaves the others as they are. -/
theorem itemAt_filter (test : κ → Bool) (items : List α) (k : κ) :
    itemAt key (items.filter fun item => test (key item)) k
      = if test k = true then itemAt key items k else none := by
  induction items with
  | nil => simp [itemAt]
  | cons item items ih =>
    simp only [itemAt] at ih ⊢
    rw [List.filter_cons]
    by_cases hkey : key item = k
    · by_cases htest : test k = true
      · simp [hkey, htest]
      · rw [hkey, if_neg htest, ih, if_neg htest, if_neg htest]
    · rw [List.find?_cons_of_neg (by simpa using hkey), ← ih]
      split
      · rw [List.find?_cons_of_neg (by simpa using hkey)]
      · rfl

/-- A strictly ascending list of the members of a set is the set in order. -/
theorem sort_eq_of_mem {keys : List κ} {s : Finset κ} (hkeys : keys.Pairwise (· < ·))
    (hmem : ∀ k, k ∈ keys ↔ k ∈ s) : s.sort = keys := by
  have hnodup : keys.Nodup := hkeys.imp fun h => ne_of_lt h
  have hset : s = keys.toFinset := by
    ext k
    rw [List.mem_toFinset, hmem]
  rw [hset]
  exact (List.toFinset_sort _ hnodup).mpr (hkeys.imp fun h => le_of_lt h)

/-- The members of a set that pass a test, counted in order. -/
theorem card_filter_eq_countP (s : Finset κ) (test : κ → Bool) :
    (s.filter fun k => test k = true).card = s.sort.countP test := by
  have hset : (s.filter fun k => test k = true) = (s.sort.filter test).toFinset := by
    ext k
    simp
  rw [hset, List.toFinset_card_of_nodup (s.sort_nodup _ |>.filter _), List.countP_eq_length_filter]

end Keys

/-! ## Labelled runs -/

section Labels

variable {α β : Type} [DecidableEq β] (label : α → β)

/-- A list whose first items pass a test and whose others do not. -/
theorem filter_append_filter_not {test : α → Bool} {items : List α}
    (h : items.Pairwise fun a b => test b = true → test a = true) :
    (items.filter test ++ items.filter fun item => !test item) = items := by
  induction items with
  | nil => rfl
  | cons item items ih =>
    rw [List.pairwise_cons] at h
    by_cases htest : test item = true
    · simp only [List.filter_cons, htest, if_true, Bool.not_true, Bool.false_eq_true, if_false,
        List.cons_append, ih h.2]
    · have hrest : ∀ other ∈ items, ¬ test other = true :=
        fun other hother hpass => htest (h.1 other hother hpass)
      have hnone : items.filter test = [] := List.filter_eq_nil_iff.mpr hrest
      have hall : (items.filter fun item => !test item) = items :=
        List.filter_eq_self.mpr fun other hother => by simpa using hrest other hother
      rw [List.filter_cons_of_neg htest, List.filter_cons_of_pos (by simpa using htest), hnone,
        hall, List.nil_append]

/-- A list whose labels follow a list of distinct labels is its runs in that
order. -/
theorem flatMap_filter_label {labels : List β} (hlabels : labels.Nodup) {items : List α}
    (hmem : ∀ item ∈ items, label item ∈ labels)
    (horder : items.Pairwise fun a b => labels.idxOf (label a) ≤ labels.idxOf (label b)) :
    (labels.flatMap fun l => items.filter fun item => decide (label item = l)) = items := by
  induction labels generalizing items with
  | nil =>
    cases items with
    | nil => rfl
    | cons item items => exact absurd (hmem item List.mem_cons_self) (by simp)
  | cons l labels ih =>
    rw [List.nodup_cons] at hlabels
    have hfirst : items.Pairwise fun a b =>
        decide (label b = l) = true → decide (label a = l) = true := by
      refine horder.imp fun {a b} hab hb => ?_
      rw [decide_eq_true_eq] at hb ⊢
      by_contra ha
      rw [hb, List.idxOf_cons_self, List.idxOf_cons_ne labels (Ne.symm ha)] at hab
      omega
    -- what is left once the first run is gone follows the other labels
    have hrest := @ih hlabels.2 (items.filter fun item => !decide (label item = l)) ?_ ?_
    · have hothers : (labels.flatMap fun l' => items.filter fun item => decide (label item = l'))
          = items.filter fun item => !decide (label item = l) := by
        rw [← hrest]
        refine List.flatMap_congr fun l' hl' => ?_
        rw [List.filter_filter]
        refine List.filter_congr fun item _ => ?_
        have hne : l' ≠ l := fun h => hlabels.1 (h ▸ hl')
        by_cases h : label item = l'
        · rw [h, decide_eq_true rfl, decide_eq_false hne]
          rfl
        · rw [decide_eq_false h]
          rfl
      rw [List.flatMap_cons, hothers, filter_append_filter_not hfirst]
    · intro item hitem
      rw [List.mem_filter] at hitem
      have := hmem item hitem.1
      rw [List.mem_cons] at this
      cases this with
      | inl h => simp [h] at hitem
      | inr h => exact h
    · refine (horder.filter _).imp_of_mem ?_
      intro a b ha hb hab
      rw [List.mem_filter] at ha hb
      have ha' : label a ≠ l := by simpa using ha.2
      have hb' : label b ≠ l := by simpa using hb.2
      rw [List.idxOf_cons_ne labels (Ne.symm ha'), List.idxOf_cons_ne labels (Ne.symm hb')] at hab
      omega

end Labels

end ForensicData.Lib
