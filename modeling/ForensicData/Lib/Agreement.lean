/-
ForensicData.Lib.Agreement — dictionaries that are filled from agreeing entries.

`agree` puts an entry into a dictionary that holds no other value under its key.
Filling a dictionary so succeeds exactly when no two entries give one key two
values (`agreeAll_isSome`), and then it holds the entries, each key once; so the
order of the entries shows only in the order of the dictionary
(`agreeAll_perm`).
-/
import Mathlib.Data.List.Nodup
import Mathlib.Data.List.Perm.Basic
import Mathlib.Data.List.Sort

namespace ForensicData.Lib

section Agreement

variable {κ ν : Type} [DecidableEq κ] [DecidableEq ν]

/-- `entries[key] = value`, unless the key holds another value. -/
def agree (entries : List (κ × ν)) (key : κ) (value : ν) : Option (List (κ × ν)) :=
  match entries.find? fun entry => decide (entry.1 = key) with
  | none => some (entries ++ [(key, value)])
  | some previous => if previous.2 = value then some entries else none

def agreeAll (entries pairs : List (κ × ν)) : Option (List (κ × ν)) :=
  pairs.foldlM (fun entries pair => agree entries pair.1 pair.2) entries

/-- No key has two values. -/
def Functional (pairs : List (κ × ν)) : Prop :=
  ∀ p ∈ pairs, ∀ q ∈ pairs, p.1 = q.1 → p.2 = q.2

/-- A dictionary: each key stands once. -/
def KeysOnce (entries : List (κ × ν)) : Prop := (entries.map Prod.fst).Nodup

omit [DecidableEq κ] [DecidableEq ν] in
theorem KeysOnce.functional {entries : List (κ × ν)} (h : KeysOnce entries) :
    Functional entries := by
  intro p hp q hq hkey
  rw [List.inj_on_of_nodup_map h hp hq hkey]

theorem agree_eq_some {entries next : List (κ × ν)} {key : κ} {value : ν}
    (honce : KeysOnce entries) :
    agree entries key value = some next ↔
      (key, value) ∈ entries ∧ next = entries ∨
        key ∉ entries.map Prod.fst ∧ next = entries ++ [(key, value)] := by
  unfold agree
  cases hfound : entries.find? fun entry => decide (entry.1 = key) with
  | none =>
    have habsent : key ∉ entries.map Prod.fst := by
      intro hmem
      rcases List.mem_map.mp hmem with ⟨entry, hentry, hkey⟩
      have := List.find?_eq_none.mp hfound entry hentry
      exact this (by simpa using hkey)
    have hout : (key, value) ∉ entries := fun hmem =>
      habsent (List.mem_map.mpr ⟨(key, value), hmem, rfl⟩)
    simp [habsent, hout, eq_comm]
  | some previous =>
    have hmem : previous ∈ entries := List.mem_of_find?_eq_some hfound
    have hkey : previous.1 = key := by simpa using List.find?_some hfound
    have hpresent : key ∈ entries.map Prod.fst := List.mem_map.mpr ⟨previous, hmem, hkey⟩
    have hsame : (key, value) ∈ entries ↔ previous.2 = value := by
      refine ⟨fun hin => honce.functional previous hmem _ hin hkey, fun hvalue => ?_⟩
      rw [← hkey, ← hvalue]
      exact hmem
    dsimp only
    split
    · rename_i hvalue
      simp [hsame.mpr hvalue, hpresent, eq_comm]
    · rename_i hvalue
      simp only [reduceCtorEq, false_iff, not_or, not_and]
      exact ⟨fun hin => absurd (hsame.mp hin) hvalue, fun habsent => absurd hpresent habsent⟩

theorem agree_keysOnce {entries next : List (κ × ν)} {key : κ} {value : ν}
    (honce : KeysOnce entries) (h : agree entries key value = some next) :
    KeysOnce next ∧ ∀ p, p ∈ next ↔ p ∈ entries ∨ p = (key, value) := by
  rcases (agree_eq_some honce).mp h with ⟨hmem, rfl⟩ | ⟨habsent, rfl⟩
  · refine ⟨honce, fun p => ⟨.inl, fun hp => hp.elim id fun heq => heq ▸ hmem⟩⟩
  · refine ⟨?_, by simp⟩
    rw [KeysOnce, List.map_append, List.nodup_append]
    refine ⟨honce, by simp, fun other hother last hlast => ?_⟩
    rw [List.map_cons, List.map_nil, List.mem_singleton] at hlast
    intro heq
    rw [heq, hlast] at hother
    exact habsent hother

/-- A filled dictionary holds the entries, each key once. -/
theorem agreeAll_keysOnce {entries pairs next : List (κ × ν)} (honce : KeysOnce entries)
    (h : agreeAll entries pairs = some next) :
    KeysOnce next ∧ ∀ p, p ∈ next ↔ p ∈ entries ∨ p ∈ pairs := by
  induction pairs generalizing entries with
  | nil =>
    cases h
    exact ⟨honce, by simp⟩
  | cons pair pairs ih =>
    rcases Option.bind_eq_some_iff.mp h with ⟨mid, hmid, hrest⟩
    rcases agree_keysOnce honce hmid with ⟨hmidOnce, hmidMem⟩
    rcases ih hmidOnce hrest with ⟨hnextOnce, hnextMem⟩
    refine ⟨hnextOnce, fun p => ?_⟩
    rw [hnextMem, hmidMem, List.mem_cons, or_assoc]

theorem agreeAll_isSome {entries pairs : List (κ × ν)} (honce : KeysOnce entries) :
    (∃ next, agreeAll entries pairs = some next) ↔ Functional (entries ++ pairs) := by
  induction pairs generalizing entries with
  | nil =>
    rw [List.append_nil]
    exact ⟨fun _ => honce.functional, fun _ => ⟨entries, rfl⟩⟩
  | cons pair pairs ih =>
    have hstep : ∀ mid, agree entries pair.1 pair.2 = some mid →
        (Functional (mid ++ pairs) ↔ Functional (entries ++ pair :: pairs)) := by
      intro mid hmid
      have hmem : ∀ p, p ∈ mid ++ pairs ↔ p ∈ entries ++ pair :: pairs := by
        intro p
        rw [List.mem_append, (agree_keysOnce honce hmid).2 p, List.mem_append, List.mem_cons,
          or_assoc]
      simp only [Functional, hmem]
    constructor
    · rintro ⟨next, hnext⟩
      rcases Option.bind_eq_some_iff.mp hnext with ⟨mid, hmid, hrest⟩
      exact (hstep mid hmid).mp ((ih (agree_keysOnce honce hmid).1).mp ⟨next, hrest⟩)
    · intro hfunctional
      have hagree : ∃ mid, agree entries pair.1 pair.2 = some mid := by
        by_cases hpresent : pair.1 ∈ entries.map Prod.fst
        · rcases List.mem_map.mp hpresent with ⟨entry, hentry, hkey⟩
          have hvalue : entry.2 = pair.2 :=
            hfunctional entry (by simp [hentry]) pair (by simp) hkey
          have hin : (pair.1, pair.2) ∈ entries := by
            rw [← hkey, ← hvalue]
            exact hentry
          exact ⟨entries, (agree_eq_some honce).mpr (.inl ⟨hin, rfl⟩)⟩
        · exact ⟨_, (agree_eq_some honce).mpr (.inr ⟨hpresent, rfl⟩)⟩
      rcases hagree with ⟨mid, hmid⟩
      rcases (ih (agree_keysOnce honce hmid).1).mpr ((hstep mid hmid).mpr hfunctional)
        with ⟨next, hrest⟩
      exact ⟨next, Option.bind_eq_some_iff.mpr ⟨mid, hmid, hrest⟩⟩

omit [DecidableEq κ] [DecidableEq ν] in
theorem keysOnce_nil : KeysOnce ([] : List (κ × ν)) := List.nodup_nil

/-- The order of the entries shows only in the order of the dictionary. -/
theorem agreeAll_perm {pairs other next : List (κ × ν)} (hperm : pairs.Perm other)
    (h : agreeAll [] pairs = some next) :
    ∃ next', agreeAll [] other = some next' ∧ next.Perm next' := by
  have hfunctional := (agreeAll_isSome keysOnce_nil).mp ⟨next, h⟩
  have hother : Functional ([] ++ other) := by
    intro p hp q hq
    exact hfunctional p (by simpa using hperm.mem_iff.mpr hp) q (by simpa using hperm.mem_iff.mpr hq)
  rcases (agreeAll_isSome keysOnce_nil).mpr hother with ⟨next', hnext'⟩
  rcases agreeAll_keysOnce keysOnce_nil h with ⟨honce, hmem⟩
  rcases agreeAll_keysOnce keysOnce_nil hnext' with ⟨honce', hmem'⟩
  refine ⟨next', hnext', ?_⟩
  rw [List.perm_ext_iff_of_nodup (List.Nodup.of_map _ honce) (List.Nodup.of_map _ honce')]
  intro p
  rw [hmem, hmem', hperm.mem_iff]

omit [DecidableEq ν] in
theorem find?_key_eq_some {entries : List (κ × ν)} {key : κ} {entry : κ × ν}
    (honce : KeysOnce entries) :
    (entries.find? fun entry => decide (entry.1 = key)) = some entry ↔
      entry ∈ entries ∧ entry.1 = key := by
  constructor
  · intro h
    exact ⟨List.mem_of_find?_eq_some h, by simpa using List.find?_some h⟩
  · rintro ⟨hmem, hkey⟩
    cases hfound : entries.find? fun entry => decide (entry.1 = key) with
    | none => exact absurd hkey (by simpa using List.find?_eq_none.mp hfound entry hmem)
    | some first =>
      have hfirst : first.1 = key := by simpa using List.find?_some hfound
      rw [List.inj_on_of_nodup_map honce (List.mem_of_find?_eq_some hfound) hmem
        (hfirst.trans hkey.symm)]

omit [DecidableEq ν] in
/-- An entry is found wherever it stands. -/
theorem find?_perm {entries next : List (κ × ν)} {key : κ}
    (honce : KeysOnce entries) (hperm : entries.Perm next) :
    (entries.find? fun entry => decide (entry.1 = key))
      = next.find? fun entry => decide (entry.1 = key) := by
  have hother : KeysOnce next := (hperm.map Prod.fst).nodup_iff.mp honce
  ext entry
  rw [find?_key_eq_some honce, find?_key_eq_some hother, hperm.mem_iff]

end Agreement

/-! ## Sorting by key -/

/-- Two arrangements of items with different keys are sorted alike. -/
theorem insertionSort_perm {α κ : Type} [LinearOrder κ] {key : α → κ} {items other : List α}
    (hkeys : (items.map key).Nodup) (hperm : items.Perm other) :
    items.insertionSort (fun a b => key a ≤ key b)
      = other.insertionSort (fun a b => key a ≤ key b) := by
  refine List.Perm.eq_of_pairwise (fun a b ha hb hab hba => ?_) (List.pairwise_insertionSort _ _)
    (List.pairwise_insertionSort _ _) (((List.perm_insertionSort _ _).trans hperm).trans
      (List.perm_insertionSort _ _).symm)
  have ha : a ∈ items := (List.perm_insertionSort _ _).subset ha
  have hb : b ∈ items := hperm.symm.subset ((List.perm_insertionSort _ _).subset hb)
  exact List.inj_on_of_nodup_map hkeys ha hb (le_antisymm hab hba)

end ForensicData.Lib
