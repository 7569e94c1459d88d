/-
ForensicData.Lib.JsonSorted — values up to the order of their members.

`Json.sorted` puts the members of every object in the order of their names, and
`Json.Same` compares values up to that order. When no object repeats a name, two
values are the same exactly when they are sorted alike (`same_iff_sorted`), so
the text of the sorted value is a normal form.
-/
import ForensicData.Lib.Agreement
import ForensicData.Lib.Json
import Mathlib.Data.List.Forall2
import Mathlib.Data.String.Basic

namespace ForensicData.Lib.Json

/-! ## Definitions -/

/-- Members in the order of their names. -/
def sortByName (members : List (String × Json)) : List (String × Json) :=
  members.insertionSort fun a b => a.1 ≤ b.1

mutual

def sorted : Json → Json
  | .array items => .array (sortedItems items)
  | .object members => .object (sortByName (sortedMembers members))
  | v => v

def sortedItems : List Json → List Json
  | [] => []
  | item :: items => sorted item :: sortedItems items

def sortedMembers : List (String × Json) → List (String × Json)
  | [] => []
  | (name, value) :: members => (name, sorted value) :: sortedMembers members

end

mutual

/-- No object repeats a name. -/
def NamesOnce : Json → Prop
  | .array items => NamesOnceItems items
  | .object members => (members.map Prod.fst).Nodup ∧ NamesOnceMembers members
  | _ => True

def NamesOnceItems : List Json → Prop
  | [] => True
  | item :: items => NamesOnce item ∧ NamesOnceItems items

def NamesOnceMembers : List (String × Json) → Prop
  | [] => True
  | (_, value) :: members => NamesOnce value ∧ NamesOnceMembers members

end

mutual

/-- Values that differ in the order of members at most. -/
def Same : Json → Json → Prop
  | .null, .null => True
  | .bool b, .bool c => b = c
  | .int n, .int m => n = m
  | .string s, .string t => s = t
  | .array items, .array others => SameItems items others
  | .object members, .object others => ∃ rearranged, others.Perm rearranged ∧
      SameMembers members rearranged
  | _, _ => False

def SameItems : List Json → List Json → Prop
  | [], [] => True
  | item :: items, other :: others => Same item other ∧ SameItems items others
  | _, _ => False

def SameMembers : List (String × Json) → List (String × Json) → Prop
  | [], [] => True
  | (name, value) :: members, (name', value') :: others =>
    name = name' ∧ Same value value' ∧ SameMembers members others
  | _, _ => False

end

/-! ## Sorting -/

theorem sortedItems_eq (items : List Json) : sortedItems items = items.map sorted := by
  induction items with
  | nil => rfl
  | cons item items ih => rw [sortedItems, ih, List.map_cons]

theorem sortedMembers_eq (members : List (String × Json)) :
    sortedMembers members = members.map fun member => (member.1, sorted member.2) := by
  induction members with
  | nil => rfl
  | cons member members ih => rw [sortedMembers, ih, List.map_cons]

theorem namesOnceItems_iff {items : List Json} :
    NamesOnceItems items ↔ ∀ item ∈ items, NamesOnce item := by
  induction items with
  | nil => simp [NamesOnceItems]
  | cons item items ih => simp [NamesOnceItems, ih]

theorem namesOnceMembers_iff {members : List (String × Json)} :
    NamesOnceMembers members ↔ ∀ member ∈ members, NamesOnce member.2 := by
  induction members with
  | nil => simp [NamesOnceMembers]
  | cons member members ih => simp [NamesOnceMembers, ih]

theorem sameItems_iff {items others : List Json} :
    SameItems items others ↔ List.Forall₂ Same items others := by
  induction items generalizing others with
  | nil => cases others <;> simp [SameItems]
  | cons item items ih => cases others <;> simp [SameItems, ih]

theorem sameMembers_iff {members others : List (String × Json)} :
    SameMembers members others ↔
      List.Forall₂ (fun member other => member.1 = other.1 ∧ Same member.2 other.2)
        members others := by
  induction members generalizing others with
  | nil => cases others <;> simp [SameMembers]
  | cons member members ih => cases others <;> simp [SameMembers, ih, and_assoc]

theorem eq_map_of_forall₂ {members rearranged : List (String × Json)}
    (h : List.Forall₂ (fun a b => a = (b.1, sorted b.2)) members rearranged) :
    members = rearranged.map fun member => (member.1, sorted member.2) := by
  induction h with
  | nil => rfl
  | cons hhead _ ih => rw [List.map_cons, ← ih, hhead]

theorem names_sortedMembers (members : List (String × Json)) :
    (sortedMembers members).map Prod.fst = members.map Prod.fst := by
  rw [sortedMembers_eq, List.map_map]
  rfl

/-! ## The normal form -/

mutual

theorem same_iff_sorted (v w : Json) (hv : v.NamesOnce) (hw : w.NamesOnce) :
    Same v w ↔ v.sorted = w.sorted := by
  match v, w with
  | .null, w => cases w <;> simp [Same, sorted]
  | .bool _, w => cases w <;> simp [Same, sorted]
  | .int _, w => cases w <;> simp [Same, sorted]
  | .string _, w => cases w <;> simp [Same, sorted]
  | .array items, .array others =>
    simp only [Same, sorted, array.injEq]
    exact sameItems_iff_sorted items others hv hw
  | .object members, .object others =>
    simp only [Same, sorted, object.injEq]
    constructor
    · rintro ⟨rearranged, hperm, hsame⟩
      have hrearranged : NamesOnceMembers rearranged := by
        rw [namesOnceMembers_iff]
        intro member hmember
        exact namesOnceMembers_iff.mp hw.2 member (hperm.mem_iff.mpr hmember)
      rw [(sameMembers_iff_sorted members rearranged hv.2 hrearranged).mp hsame]
      have hnames : ((sortedMembers others).map Prod.fst).Nodup := by
        rw [names_sortedMembers]
        exact hw.1
      have hmembers : (sortedMembers others).Perm (sortedMembers rearranged) := by
        rw [sortedMembers_eq, sortedMembers_eq]
        exact hperm.map _
      exact (insertionSort_perm hnames hmembers).symm
    · intro heq
      have hperm : (sortedMembers others).Perm (sortedMembers members) := by
        refine (List.perm_insertionSort (fun a b : String × Json => a.1 ≤ b.1) _).symm.trans ?_
        have hsort : sortByName (sortedMembers others) = sortByName (sortedMembers members) :=
          heq.symm
        unfold sortByName at hsort
        rw [hsort]
        exact List.perm_insertionSort _ _
      have hmap : List.Forall₂ (fun a b => a = (b.1, sorted b.2)) (sortedMembers others)
          others := by
        rw [sortedMembers_eq, List.forall₂_map_left_iff]
        exact List.forall₂_same.mpr fun _ _ => rfl
      rcases List.perm_comp_forall₂ hperm.symm hmap with ⟨rearranged, hrearranged, hothers⟩
      refine ⟨rearranged, hothers.symm, ?_⟩
      have honce : NamesOnceMembers rearranged := by
        rw [namesOnceMembers_iff]
        intro member hmember
        exact namesOnceMembers_iff.mp hw.2 member (hothers.mem_iff.mp hmember)
      apply (sameMembers_iff_sorted members rearranged hv.2 honce).mpr
      rw [sortedMembers_eq rearranged]
      exact eq_map_of_forall₂ hrearranged
  | .array _, .null => simp [Same, sorted]
  | .array _, .bool _ => simp [Same, sorted]
  | .array _, .int _ => simp [Same, sorted]
  | .array _, .string _ => simp [Same, sorted]
  | .array _, .object _ => simp [Same, sorted]
  | .object _, .null => simp [Same, sorted]
  | .object _, .bool _ => simp [Same, sorted]
  | .object _, .int _ => simp [Same, sorted]
  | .object _, .string _ => simp [Same, sorted]
  | .object _, .array _ => simp [Same, sorted]

theorem sameItems_iff_sorted (items others : List Json) (hv : NamesOnceItems items)
    (hw : NamesOnceItems others) : SameItems items others ↔ sortedItems items = sortedItems others := by
  match items, others with
  | [], [] => simp [SameItems, sortedItems]
  | [], _ :: _ => simp [SameItems, sortedItems]
  | _ :: _, [] => simp [SameItems, sortedItems]
  | item :: items, other :: others =>
    rw [SameItems, sortedItems, sortedItems, List.cons.injEq, same_iff_sorted item other hv.1 hw.1,
      sameItems_iff_sorted items others hv.2 hw.2]

theorem sameMembers_iff_sorted (members others : List (String × Json))
    (hv : NamesOnceMembers members) (hw : NamesOnceMembers others) :
    SameMembers members others ↔ sortedMembers members = sortedMembers others := by
  match members, others with
  | [], [] => simp [SameMembers, sortedMembers]
  | [], _ :: _ => simp [SameMembers, sortedMembers]
  | _ :: _, [] => simp [SameMembers, sortedMembers]
  | (name, value) :: members, (name', value') :: others =>
    rw [SameMembers, sortedMembers, sortedMembers, List.cons.injEq, Prod.mk.injEq,
      same_iff_sorted value value' hv.1 hw.1, sameMembers_iff_sorted members others hv.2 hw.2,
      and_assoc]

end

mutual

/-- Sorting twice changes nothing. -/
theorem sorted_sorted (v : Json) : v.sorted.sorted = v.sorted := by
  match v with
  | .null => rfl
  | .bool _ => rfl
  | .int _ => rfl
  | .string _ => rfl
  | .array items =>
    rw [sorted, sorted, sortedItems_sortedItems items]
  | .object members =>
    have hsorted : sortedMembers (sortByName (sortedMembers members))
        = sortByName (sortedMembers members) := by
      have hmember : ∀ member ∈ sortByName (sortedMembers members),
          (member.1, sorted member.2) = member := by
        intro member hmember
        have hmem : member ∈ sortedMembers members :=
          (List.perm_insertionSort (fun a b : String × Json => a.1 ≤ b.1) _).mem_iff.mp hmember
        exact sortedMembers_sorted members member hmem
      rw [sortedMembers_eq]
      conv_rhs => rw [← List.map_id (sortByName (sortedMembers members))]
      exact List.map_congr_left hmember
    rw [sorted, sorted, hsorted]
    exact congrArg Json.object (List.pairwise_insertionSort _ _).insertionSort_eq

theorem sortedItems_sortedItems (items : List Json) :
    sortedItems (sortedItems items) = sortedItems items := by
  match items with
  | [] => rfl
  | item :: items =>
    rw [sortedItems, sortedItems, sorted_sorted item, sortedItems_sortedItems items]

theorem sortedMembers_sorted (members : List (String × Json)) :
    ∀ member ∈ sortedMembers members, (member.1, sorted member.2) = member := by
  match members with
  | [] =>
    intro member hmember
    cases hmember
  | (name, value) :: members =>
    intro member hmember
    rw [sortedMembers] at hmember
    rcases List.mem_cons.mp hmember with rfl | hmember
    · rw [sorted_sorted value]
    · exact sortedMembers_sorted members member hmember

end

mutual

theorem namesOnce_sorted (v : Json) (h : v.NamesOnce) : v.sorted.NamesOnce := by
  match v with
  | .null => trivial
  | .bool _ => trivial
  | .int _ => trivial
  | .string _ => trivial
  | .array items => exact namesOnceItems_sorted items h
  | .object members =>
    have hperm : (sortByName (sortedMembers members)).Perm (sortedMembers members) :=
      List.perm_insertionSort _ _
    constructor
    · rw [(hperm.map Prod.fst).nodup_iff, names_sortedMembers]
      exact h.1
    · rw [namesOnceMembers_iff]
      intro member hmember
      exact namesOnceMembers_iff.mp (namesOnceMembers_sorted members h.2) member
        (hperm.mem_iff.mp hmember)

theorem namesOnceItems_sorted (items : List Json) (h : NamesOnceItems items) :
    NamesOnceItems (sortedItems items) := by
  match items with
  | [] => trivial
  | item :: items => exact ⟨namesOnce_sorted item h.1, namesOnceItems_sorted items h.2⟩

theorem namesOnceMembers_sorted (members : List (String × Json)) (h : NamesOnceMembers members) :
    NamesOnceMembers (sortedMembers members) := by
  match members with
  | [] => trivial
  | (name, value) :: members =>
    exact ⟨namesOnce_sorted value h.1, namesOnceMembers_sorted members h.2⟩

end

end ForensicData.Lib.Json
