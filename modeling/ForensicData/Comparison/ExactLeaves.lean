/-
ForensicData.Comparison.ExactLeaves — an exact leaf is classified by key.

Two lists of rows in strictly ascending key order are two maps from keys to
rows. `classAt` says what a key is by the rows the maps have at it, and
`Classifies` what a leaf comparison must count and list: the keys of each class,
and the differences in ascending key order. The merge of `_compare_exact_rows`
computes just that for any two groups of accepted batches
(`exact_leaf_classification`); it pairs the keys of both maps, each once
(`align_eq_filterMap`).
-/
import Mathlib.Data.Int.ConditionallyCompleteOrder
import Mathlib.Order.ConditionallyCompleteLattice.Finset
import ForensicData.Comparison.PartialRuns
import ForensicData.Comparison.RowDecodingTheorems

namespace ForensicData.Comparison

open ForensicData.Canonical
open ForensicData.Lib
open ForensicData.Lib.Generator
open ForensicData.Result

/-! ## Classes of keys -/

inductive KeyClass where
  | matched
  | missing
  | extra
  | modified
  deriving DecidableEq, Repr

/-- What a key is, by the rows of both sides. -/
def classOf : Option ExactRow → Option ExactRow → Option KeyClass
  | none, none => none
  | some _, none => some .missing
  | none, some _ => some .extra
  | some reference, some target =>
    some (if reference.rowEnvelope = target.rowEnvelope then .matched else .modified)

/-- The difference of a key, by the rows of both sides. -/
def differenceOf (segmentSequence : ℕ) : Option ExactRow → Option ExactRow → Option ExactDifference
  | none, none => none
  | some row, none =>
    some { segmentSequence, kind := .missing, keyRow := row, referenceRow := some row
           targetRow := none }
  | none, some row =>
    some { segmentSequence, kind := .extra, keyRow := row, referenceRow := none
           targetRow := some row }
  | some reference, some target =>
    if reference.rowEnvelope = target.rowEnvelope then none
    else
      some { segmentSequence, kind := .modified, keyRow := reference
             referenceRow := some reference, targetRow := some target }

abbrev rowAt (rows : List ExactRow) (key : Int) : Option ExactRow :=
  itemAt ExactRow.keyValue rows key

/-- The keys of either side. -/
def allKeys (reference target : List ExactRow) : Finset Int :=
  keysOf ExactRow.keyValue reference ∪ keysOf ExactRow.keyValue target

def classAt (reference target : List ExactRow) (key : Int) : Option KeyClass :=
  classOf (rowAt reference key) (rowAt target key)

/-- The keys of one class. -/
def keysOfClass (reference target : List ExactRow) (keyClass : KeyClass) : Finset Int :=
  (allKeys reference target).filter fun key =>
    decide (classAt reference target key = some keyClass) = true

/-- The leaf comparison of two maps of rows. -/
structure Classifies (segmentSequence : ℕ) (reference target : List ExactRow)
    (leaf : LeafComparison) : Prop where
  matched_eq : leaf.counts.matched = (keysOfClass reference target .matched).card
  missing_eq : leaf.counts.missing = (keysOfClass reference target .missing).card
  extra_eq : leaf.counts.extra = (keysOfClass reference target .extra).card
  modified_eq : leaf.counts.modified = (keysOfClass reference target .modified).card
  differences_eq : leaf.differences = (allKeys reference target).sort.filterMap fun key =>
    differenceOf segmentSequence (rowAt reference key) (rowAt target key)
  ascending : leaf.differences.Pairwise fun first second =>
    first.keyRow.keyValue < second.keyRow.keyValue
  reference_eq : reference.length
    = leaf.counts.matched + leaf.counts.missing + leaf.counts.modified
  target_eq : target.length = leaf.counts.matched + leaf.counts.extra + leaf.counts.modified

/-! ## The merge by key -/

variable {reference target : List ExactRow}

theorem Pairing.key_of_reference {pair : Pairing} {row : ExactRow}
    (h : pair.reference = some row) : pair.key = row.keyValue := by
  cases pair with
  | missing other => exact congrArg ExactRow.keyValue (Option.some.inj h)
  | extra other => cases h
  | both other third => exact congrArg ExactRow.keyValue (Option.some.inj h)

theorem mem_reference_of_mem_align {pair : Pairing} (h : pair ∈ align reference target)
    {row : ExactRow} (hrow : pair.reference = some row) : row ∈ reference := by
  rw [← align_reference reference target]
  exact List.mem_filterMap.mpr ⟨pair, h, hrow⟩

theorem mem_target_of_mem_align {pair : Pairing} (h : pair ∈ align reference target)
    {row : ExactRow} (hrow : pair.target = some row) : row ∈ target := by
  rw [← align_target reference target]
  exact List.mem_filterMap.mpr ⟨pair, h, hrow⟩

theorem key_of_target {pair : Pairing} (h : pair ∈ align reference target) {row : ExactRow}
    (hrow : pair.target = some row) : pair.key = row.keyValue := by
  cases pair with
  | missing other => cases hrow
  | extra other => exact congrArg ExactRow.keyValue (Option.some.inj hrow)
  | both other third =>
    have hthird : third = row := Option.some.inj hrow
    rw [← hthird]
    exact align_both_key h

/-- The pairings of a merge are at the keys of both sides. -/
theorem mem_map_key_align (key : Int) :
    key ∈ (align reference target).map Pairing.key ↔ key ∈ allKeys reference target := by
  rw [allKeys, Finset.mem_union, mem_keysOf, mem_keysOf, List.mem_map]
  constructor
  · rintro ⟨pair, hpair, rfl⟩
    cases pair with
    | missing row => exact .inl ⟨row, mem_reference_of_mem_align hpair rfl, rfl⟩
    | extra row => exact .inr ⟨row, mem_target_of_mem_align hpair rfl, rfl⟩
    | both row other => exact .inl ⟨row, mem_reference_of_mem_align hpair rfl, rfl⟩
  · rintro (⟨row, hrow, rfl⟩ | ⟨row, hrow, rfl⟩)
    · rw [← align_reference reference target] at hrow
      obtain ⟨pair, hpair, hreference⟩ := List.mem_filterMap.mp hrow
      exact ⟨pair, hpair, Pairing.key_of_reference hreference⟩
    · rw [← align_target reference target] at hrow
      obtain ⟨pair, hpair, htarget⟩ := List.mem_filterMap.mp hrow
      exact ⟨pair, hpair, key_of_target hpair htarget⟩

/-- The merge meets the keys of ascending sides in ascending order. -/
theorem align_keys_ascending (hreference : Ascending reference) (htarget : Ascending target) :
    ((align reference target).map Pairing.key).Pairwise (· < ·) := by
  have hafter : ∀ {reference' target' : List ExactRow} {bound : Int},
      (∀ row ∈ reference', bound < row.keyValue) → (∀ row ∈ target', bound < row.keyValue) →
        ∀ key ∈ (align reference' target').map Pairing.key, bound < key := by
    intro reference' target' bound hr ht key hkey
    rw [mem_map_key_align, allKeys, Finset.mem_union, mem_keysOf, mem_keysOf] at hkey
    obtain ⟨row, hrow, rfl⟩ | ⟨row, hrow, rfl⟩ := hkey
    · exact hr row hrow
    · exact ht row hrow
  induction reference, target using align_induction with
  | nil target =>
    rw [align_nil_left, List.map_map]
    exact List.pairwise_map.mpr htarget
  | cons_nil row reference ih =>
    rw [Ascending, List.pairwise_cons] at hreference
    rw [align_cons_nil, List.map_cons, List.pairwise_cons]
    exact ⟨hafter hreference.1 (by simp), ih hreference.2 htarget⟩
  | lt row other reference target hlt ih =>
    rw [align_cons_cons, if_pos hlt, List.map_cons, List.pairwise_cons]
    rw [Ascending, List.pairwise_cons] at hreference
    refine ⟨hafter hreference.1 fun third hthird => ?_, ih hreference.2 htarget⟩
    rw [Ascending, List.pairwise_cons] at htarget
    rw [List.mem_cons] at hthird
    cases hthird with
    | inl heq => rwa [heq]
    | inr hmem => exact lt_trans hlt (htarget.1 third hmem)
  | gt row other reference target hgt ih =>
    rw [align_cons_cons, if_neg (by omega), if_pos hgt, List.map_cons, List.pairwise_cons]
    rw [Ascending, List.pairwise_cons] at htarget
    refine ⟨hafter (fun third hthird => ?_) htarget.1, ih hreference htarget.2⟩
    rw [Ascending, List.pairwise_cons] at hreference
    rw [List.mem_cons] at hthird
    cases hthird with
    | inl heq => rwa [heq]
    | inr hmem => exact lt_trans hgt (hreference.1 third hmem)
  | eq row other reference target heq ih =>
    rw [align_cons_cons, if_neg (by omega), if_neg (by omega), List.map_cons, List.pairwise_cons]
    rw [Ascending, List.pairwise_cons] at hreference htarget
    refine ⟨hafter hreference.1 fun third hthird => ?_, ih hreference.2 htarget.2⟩
    have := htarget.1 third hthird
    change row.keyValue < third.keyValue
    omega

/-- The pairing of a key, by the rows of both sides. -/
def pairingOf : Option ExactRow → Option ExactRow → Option Pairing
  | none, none => none
  | some row, none => some (.missing row)
  | none, some row => some (.extra row)
  | some reference, some target => some (.both reference target)

/-- A pairing of the merge is the one of its key. -/
theorem pairingOf_of_mem_align (hreference : Ascending reference) (htarget : Ascending target)
    {pair : Pairing} (h : pair ∈ align reference target) :
    pairingOf (rowAt reference pair.key) (rowAt target pair.key) = some pair := by
  have hat : ∀ {rows : List ExactRow} {row : ExactRow}, Ascending rows → row ∈ rows →
      ∀ key, row.keyValue = key → rowAt rows key = some row :=
    fun hrows hmem key hkey => (itemAt_eq_some hrows).mpr ⟨hmem, hkey⟩
  have hnone : ∀ {rows : List ExactRow} {key : Int},
      (∀ other ∈ rows, other.keyValue ≠ key) → rowAt rows key = none := by
    intro rows key hother
    rw [itemAt_eq_none, mem_keysOf]
    rintro ⟨other, hmem, hkey⟩
    exact hother other hmem hkey
  cases pair with
  | missing row =>
    change pairingOf (rowAt reference row.keyValue) (rowAt target row.keyValue) = _
    rw [hat hreference (mem_reference_of_mem_align h rfl) _ rfl,
      hnone (align_missing_key hreference htarget h)]
    rfl
  | extra row =>
    change pairingOf (rowAt reference row.keyValue) (rowAt target row.keyValue) = _
    rw [hat htarget (mem_target_of_mem_align h rfl) _ rfl,
      hnone (align_extra_key hreference htarget h)]
    rfl
  | both row other =>
    change pairingOf (rowAt reference row.keyValue) (rowAt target row.keyValue) = _
    rw [hat hreference (mem_reference_of_mem_align h rfl) _ rfl,
      hat htarget (mem_target_of_mem_align h rfl) _ (align_both_key h).symm]
    rfl

theorem sort_allKeys (hreference : Ascending reference) (htarget : Ascending target) :
    (allKeys reference target).sort = (align reference target).map Pairing.key :=
  sort_eq_of_mem (align_keys_ascending hreference htarget) mem_map_key_align

/-- The class of a pairing. -/
def Pairing.keyClass : Pairing → KeyClass
  | .missing _ => .missing
  | .extra _ => .extra
  | .both row other => if row.rowEnvelope = other.rowEnvelope then .matched else .modified

theorem classOf_of_pairingOf {first second : Option ExactRow} {pair : Pairing}
    (h : pairingOf first second = some pair) : classOf first second = some pair.keyClass := by
  cases first with
  | none =>
    cases second with
    | none => cases h
    | some other => cases h; rfl
  | some row =>
    cases second with
    | none => cases h; rfl
    | some other => cases h; rfl

theorem differenceOf_of_pairingOf {first second : Option ExactRow} {pair : Pairing}
    (segmentSequence : ℕ) (h : pairingOf first second = some pair) :
    differenceOf segmentSequence first second = pair.difference segmentSequence := by
  cases first with
  | none =>
    cases second with
    | none => cases h
    | some other => cases h; rfl
  | some row =>
    cases second with
    | none => cases h; rfl
    | some other => cases h; rfl

/-- The keys of a class are as many as the pairings of that class. -/
theorem card_keysOfClass (hreference : Ascending reference) (htarget : Ascending target)
    (keyClass : KeyClass) :
    (keysOfClass reference target keyClass).card
      = (align reference target).countP fun pair => decide (pair.keyClass = keyClass) := by
  rw [keysOfClass, card_filter_eq_countP, sort_allKeys hreference htarget, List.countP_map]
  refine List.countP_congr fun pair hpair => ?_
  have hclass : classAt reference target pair.key = some pair.keyClass :=
    classOf_of_pairingOf (pairingOf_of_mem_align hreference htarget hpair)
  simp [hclass]

/-- A difference of ascending sides is at its key. -/
theorem key_of_differenceOf (hreference : Ascending reference) (htarget : Ascending target)
    {segmentSequence : ℕ} {key : Int} {difference : ExactDifference}
    (h : differenceOf segmentSequence (rowAt reference key) (rowAt target key) = some difference) :
    difference.keyRow.keyValue = key := by
  cases hr : rowAt reference key with
  | none =>
    cases ht : rowAt target key with
    | none => rw [hr, ht] at h; cases h
    | some row =>
      rw [hr, ht] at h
      cases h
      exact ((itemAt_eq_some htarget).mp ht).2
  | some row =>
    have hkey := ((itemAt_eq_some hreference).mp hr).2
    cases ht : rowAt target key with
    | none =>
      rw [hr, ht] at h
      cases h
      exact hkey
    | some other =>
      rw [hr, ht, differenceOf] at h
      split at h
      · cases h
      · cases h
        exact hkey

/-- What the merge counts and lists is the classification of the two maps. -/
theorem classifies_leafOf (hreference : Ascending reference) (htarget : Ascending target)
    (segmentSequence : ℕ) :
    Classifies segmentSequence reference target
      (leafOf segmentSequence (align reference target)) := by
  have hcount : ∀ (keyClass : KeyClass) (test : Pairing → Bool),
      (∀ pair, test pair = decide (pair.keyClass = keyClass)) →
        (align reference target).countP test = (keysOfClass reference target keyClass).card := by
    intro keyClass test htest
    rw [card_keysOfClass hreference htarget, funext htest]
  have hcloses := pairingCounts_closes (align reference target) segmentSequence
  rw [align_reference, align_target] at hcloses
  have hdifferences : (leafOf segmentSequence (align reference target)).differences
      = (allKeys reference target).sort.filterMap fun key =>
        differenceOf segmentSequence (rowAt reference key) (rowAt target key) := by
    rw [sort_allKeys hreference htarget, List.filterMap_map]
    refine List.filterMap_congr fun pair hpair => ?_
    exact (differenceOf_of_pairingOf segmentSequence
      (pairingOf_of_mem_align hreference htarget hpair)).symm
  constructor
  · refine hcount .matched _ fun pair => ?_
    cases pair with
    | missing row => rfl
    | extra row => rfl
    | both row other => by_cases h : row.rowEnvelope = other.rowEnvelope <;>
        simp [Pairing.isMatched, Pairing.keyClass, h]
  · refine hcount .missing _ fun pair => ?_
    cases pair with
    | missing row => rfl
    | extra row => rfl
    | both row other => by_cases h : row.rowEnvelope = other.rowEnvelope <;>
        simp [Pairing.isMissing, Pairing.keyClass, h]
  · refine hcount .extra _ fun pair => ?_
    cases pair with
    | missing row => rfl
    | extra row => rfl
    | both row other => by_cases h : row.rowEnvelope = other.rowEnvelope <;>
        simp [Pairing.isExtra, Pairing.keyClass, h]
  · refine hcount .modified _ fun pair => ?_
    cases pair with
    | missing row => rfl
    | extra row => rfl
    | both row other => by_cases h : row.rowEnvelope = other.rowEnvelope <;>
        simp [Pairing.isModified, Pairing.keyClass, h]
  · exact hdifferences
  · rw [hdifferences, List.pairwise_filterMap]
    refine (Finset.sortedLT_sort _).pairwise.imp fun {a b} hlt first hfirst second hsecond => ?_
    rw [key_of_differenceOf hreference htarget hfirst,
      key_of_differenceOf hreference htarget hsecond]
    exact hlt
  · exact hcloses.1.symm
  · exact hcloses.2.1.symm

/-! ## Groups of accepted batches -/

variable {sha256 : Sha256} {schema : CanonicalSchema} {keyFieldIndex : ℕ}
  {ranges : List RangeRequest} {rows : List ExactRow}

theorem mem_rowsOf {segmentId : String} {row : ExactRow} :
    row ∈ rowsOf rows segmentId ↔ row ∈ rows ∧ row.segmentId = segmentId := by
  rw [rowsOf, List.mem_filter, decide_eq_true_eq]

/-- The keys of a group strictly increase. -/
theorem AcceptedBatch.ascending (hids : (ranges.map RangeRequest.segmentId).Nodup)
    (h : AcceptedBatch sha256 schema keyFieldIndex ranges rows) (segmentId : String) :
    Ascending (rowsOf rows segmentId) := by
  obtain ⟨field, placed, -, rfl, hordered, hitems⟩ := h.placed
  rw [Ascending, rowsOf, List.filter_map, List.pairwise_map]
  refine (hordered.filter _).imp_of_mem fun {a b} ha hb hab => ?_
  rw [List.mem_filter] at ha hb
  have hsame : a.2.segmentId = b.2.segmentId := by
    have hfirst : a.2.segmentId = segmentId := by simpa using ha.2
    have hsecond : b.2.segmentId = segmentId := by simpa using hb.2
    rw [hfirst, hsecond]
  have hordinal : a.1 = b.1 := by
    rw [← (hitems a ha.1).idxOf hids, ← (hitems b hb.1).idxOf hids, hsame]
  obtain hlt | hkey := hab
  · omega
  · exact hkey.2

/-- The rows of a group lie in its range. -/
theorem AcceptedBatch.covers (hids : (ranges.map RangeRequest.segmentId).Nodup)
    (h : AcceptedBatch sha256 schema keyFieldIndex ranges rows) {range : RangeRequest}
    (hrange : range ∈ ranges) {row : ExactRow} (hrow : row ∈ rowsOf rows range.segmentId) :
    range.covers row.keyValue = true := by
  obtain ⟨field, placed, -, rfl, -, hitems⟩ := h.placed
  rw [mem_rowsOf, List.mem_map] at hrow
  obtain ⟨⟨item, hitem, rfl⟩, hid⟩ := hrow
  obtain ⟨other, hother, hotherId, hcovers⟩ := (hitems item hitem).requested
  have heq : other = range := List.inj_on_of_nodup_map hids (List.mem_of_getElem? hother) hrange
    (hotherId.trans hid)
  rwa [heq] at hcovers

/-- The groups of a batch, range after range, are the batch. -/
theorem AcceptedBatch.regroup (hids : (ranges.map RangeRequest.segmentId).Nodup)
    (h : AcceptedBatch sha256 schema keyFieldIndex ranges rows) :
    (ranges.flatMap fun range => rowsOf rows range.segmentId) = rows := by
  obtain ⟨field, placed, -, rfl, hordered, hitems⟩ := h.placed
  have hlabels : ∀ row ∈ placed.map Prod.snd,
      row.segmentId ∈ ranges.map RangeRequest.segmentId := by
    intro row hrow
    obtain ⟨item, hitem, rfl⟩ := List.mem_map.mp hrow
    obtain ⟨range, hrange, hid, -⟩ := (hitems item hitem).requested
    exact List.mem_map.mpr ⟨range, List.mem_of_getElem? hrange, hid⟩
  have hsorted : (placed.map Prod.snd).Pairwise fun a b =>
      (ranges.map RangeRequest.segmentId).idxOf a.segmentId
        ≤ (ranges.map RangeRequest.segmentId).idxOf b.segmentId := by
    rw [List.pairwise_map]
    refine hordered.imp_of_mem fun {a b} ha hb hab => ?_
    rw [(hitems a ha).idxOf hids, (hitems b hb).idxOf hids]
    omega
  have := flatMap_filter_label ExactRow.segmentId hids hlabels hsorted
  rwa [List.flatMap_map] at this

/-- Two rows of one key have one key envelope: the envelope is what the key is
encoded to. -/
theorem AcceptedBatch.keyEnvelope_eq {otherRanges : List RangeRequest} {others : List ExactRow}
    (h : AcceptedBatch sha256 schema keyFieldIndex ranges rows)
    (hother : AcceptedBatch sha256 schema keyFieldIndex otherRanges others) {row other : ExactRow}
    (hrow : row ∈ rows) (hmem : other ∈ others) (hkey : row.keyValue = other.keyValue) :
    row.keyEnvelope = other.keyEnvelope := by
  obtain ⟨field, placed, hfield, rfl, -, hitems⟩ := h.placed
  obtain ⟨field', placed', hfield', rfl, -, hitems'⟩ := hother.placed
  obtain ⟨item, hitem, rfl⟩ := List.mem_map.mp hrow
  obtain ⟨item', hitem', rfl⟩ := List.mem_map.mp hmem
  have hsame : field = field' := Option.some.inj (hfield.symm.trans hfield')
  have hencode := encodeKey_of_decode (hitems item hitem).key
  have hencode' := encodeKey_of_decode (hitems' item' hitem').key
  rw [← hsame, ← hkey] at hencode'
  exact Except.ok.inj (hencode.symm.trans hencode')

/-- One round of the first loop of `_group_exact_rows`. -/
def appendToGroup (groups : List (String × List ExactRow)) (row : ExactRow) :
    List (String × List ExactRow) :=
  groups.map fun group => if group.1 = row.segmentId then (group.1, group.2 ++ [row]) else group

/-- The dictionary `_group_exact_rows` builds. -/
def groupedLists (rows : List ExactRow) (segmentIds : List String) :
    List (String × List ExactRow) :=
  rows.foldl appendToGroup (segmentIds.map fun segmentId => (segmentId, []))

theorem groupedLists_eq (rows : List ExactRow) (segmentIds : List String) :
    groupedLists rows segmentIds
      = segmentIds.map fun segmentId => (segmentId, rowsOf rows segmentId) := by
  have hloop : ∀ (before : String → List ExactRow) (rows : List ExactRow),
      rows.foldl appendToGroup (segmentIds.map fun segmentId => (segmentId, before segmentId))
        = segmentIds.map fun segmentId => (segmentId, before segmentId ++ rowsOf rows segmentId) := by
    intro before rows
    induction rows generalizing before with
    | nil => simp [rowsOf]
    | cons row rows ih =>
      have hstep : appendToGroup (segmentIds.map fun segmentId => (segmentId, before segmentId)) row
          = segmentIds.map fun segmentId =>
            (segmentId, before segmentId ++ rowsOf [row] segmentId) := by
        rw [appendToGroup, List.map_map]
        refine List.map_congr_left fun segmentId _ => ?_
        by_cases hid : segmentId = row.segmentId
        · simp [rowsOf, hid]
        · simp [rowsOf, hid, Ne.symm hid]
      rw [List.foldl_cons, hstep, ih]
      refine List.map_congr_left fun segmentId _ => ?_
      simp only [rowsOf, List.append_assoc, Prod.mk.injEq, true_and]
      rw [← List.filter_append, List.singleton_append]
  simpa [groupedLists] using hloop (fun _ => []) rows

/-! ## The classification of a leaf -/

/-- A group of a batch accepted for ranges of distinct identifiers. -/
structure IsGroup (sha256 : Sha256) (schema : CanonicalSchema) (keyFieldIndex : ℕ)
    (group : List ExactRow) : Prop where
  batch : ∃ ranges rows range, (ranges.map RangeRequest.segmentId).Nodup ∧
    AcceptedBatch sha256 schema keyFieldIndex ranges rows ∧ range ∈ ranges ∧
      group = rowsOf rows range.segmentId

/-- The deadline of the run passed. -/
def Expired {budgets : ExecutionBudgets} (sources : Sources budgets) (cause : Cause) : Prop :=
  cause = comparisonBudgetExceeded "integer comparison exceeded run_timeout_milliseconds" ∧
    ∃ reading, sources.deadlineNanoseconds ≤ sources.clock reading

theorem deadlineStops_expired {budgets : ExecutionBudgets} (sources : Sources budgets) :
    DeadlineStops sources (Expired sources) :=
  fun reading hpassed => ⟨rfl, reading, hpassed⟩

/-- The batches a decoder accepts for ranges of distinct identifiers are taken
apart into one group for each range, in which the keys strictly increase inside
the range, and which make up the batch again. Any two such groups are compared
to the classification of their keys. Only a deadline that has passed stops
either step. -/
theorem exact_leaf_classification (sha256 : Sha256) (schema : CanonicalSchema)
    (keyFieldIndex : ℕ) (Body : Type) (budgets : ExecutionBudgets) (sources : Sources budgets) :
    (∀ ranges rows, (ranges.map RangeRequest.segmentId).Nodup →
      AcceptedBatch sha256 schema keyFieldIndex ranges rows →
        (∀ world, Ensures (fun _ : Progress Body => False) (fun cause _ => Expired sources cause)
          (groupExactRows sources rows (ranges.map RangeRequest.segmentId)) world
          fun _ _ => True) ∧
        groupedLists rows (ranges.map RangeRequest.segmentId)
          = (ranges.map RangeRequest.segmentId).map
            (fun segmentId => (segmentId, rowsOf rows segmentId)) ∧
        (ranges.flatMap fun range => rowsOf rows range.segmentId) = rows ∧
        ∀ range ∈ ranges, Ascending (rowsOf rows range.segmentId) ∧
          ∀ row ∈ rowsOf rows range.segmentId, range.covers row.keyValue = true) ∧
    (∀ reference target, IsGroup sha256 schema keyFieldIndex reference →
      IsGroup sha256 schema keyFieldIndex target → ∀ segmentSequence world,
        Ensures (fun _ : Progress Body => False) (fun cause _ => Expired sources cause)
          (compareExactRows sources reference target segmentSequence) world
          fun leaf _ => Classifies segmentSequence reference target leaf) := by
  refine ⟨fun ranges rows hids hbatch => ⟨fun world => ?_, groupedLists_eq _ _,
    hbatch.regroup hids, fun range hrange => ⟨hbatch.ascending hids _, fun row hrow =>
      hbatch.covers hids hrange hrow⟩⟩, fun reference target hreference htarget sequence world => ?_⟩
  · refine ensures_groupExactRows (deadlineStops_expired sources) (fun row hrow hid => ?_)
      fun _ _ => trivial
    refine absurd ?_ hid
    rw [← hbatch.regroup hids, List.mem_flatMap] at hrow
    obtain ⟨range, hrange, hgroup⟩ := hrow
    exact List.mem_map.mpr ⟨range, hrange, (mem_rowsOf.mp hgroup).2.symm⟩
  · obtain ⟨ranges, rows, range, hids, hbatch, -, rfl⟩ := hreference.batch
    obtain ⟨ranges', rows', range', hids', hbatch', -, rfl⟩ := htarget.batch
    refine ensures_compareExactRows (deadlineStops_expired sources)
      (fun row hrow other hother hkey hdiffer => absurd ?_ hdiffer) fun _ _ => ?_
    · exact hbatch.keyEnvelope_eq hbatch' (mem_rowsOf.mp hrow).1 (mem_rowsOf.mp hother).1 hkey
    · exact classifies_leafOf (hbatch.ascending hids _) (hbatch'.ascending hids' _) sequence

/-! A batch of one record, whose key is five. -/

def idField : FieldSchema where
  name := "id"
  logicalType := .int64
  nullable := false
  parameters := .none
  normalization := .none
  fits := FieldParameters.fit_int64

def idSchema : CanonicalSchema where
  protocol := protocolName
  fields := [idField]
  protocol_eq := rfl
  count_le := by decide

/-- The key or the row envelope of five. -/
def fiveEnvelope (kind : Char) : Bytes :=
  asciiBytes (['D', 'F', 'E', '1', kind] ++ List.replicate 64 '0' ++ fixedDigits 16 8 1 ++
    ['0', '1', '1'] ++ fixedDigits 16 16 1 ++ ['3', '5'])

def fiveRow : ExactRow where
  segmentId := "s0"
  keyValue := 5
  keyEnvelope := fiveEnvelope 'K'
  rowEnvelope := fiveEnvelope 'R'
  values := [some (.integer 5)]
  key_int64 := by decide

def fiveRecord : ClickHouse.ExactRecord where
  segmentId := asciiBytes ['s', '0']
  keyEnvelope := fiveEnvelope 'K'
  rowEnvelope := fiveEnvelope 'R'
  invalid := asciiBytes ['0']
  oversized := asciiBytes ['0']

def fiveRange : RangeRequest :=
  { segmentId := "s0", lowerInclusive := 0, upperExclusive := some 10 }

theorem parse_five :
    ClickHouse.parseExactRows zeroDigest [fiveRange] 0 idSchema 1000 [fiveRecord]
      { deadlineNanoseconds := 1, monotonicNanoseconds := fun _ => 0 } = .ok [fiveRow] := by
  rfl

theorem five_classified :
    rowsOf [fiveRow] fiveRange.segmentId ++ [] = [fiveRow] ∧
      Ensures (fun _ : Progress Unit => False)
        (fun cause _ => Expired (sampleSources 0) cause)
        (compareExactRows (sampleSources 0) [fiveRow] [fiveRow] 0) (sampleSources 0).start
        fun leaf _ => Classifies 0 [fiveRow] [fiveRow] leaf :=
  have hbatch : AcceptedBatch zeroDigest idSchema 0 [fiveRange] [fiveRow] :=
    .clickHouse 1000 [fiveRecord] _ parse_five
  have hgroup : IsGroup zeroDigest idSchema 0 [fiveRow] :=
    ⟨[fiveRange], [fiveRow], fiveRange, by decide, hbatch, List.mem_cons_self, rfl⟩
  have hlaw := exact_leaf_classification zeroDigest idSchema 0 Unit sampleBudgets (sampleSources 0)
  ⟨(hlaw.1 [fiveRange] [fiveRow] (by decide) hbatch).2.2.1,
    hlaw.2 [fiveRow] [fiveRow] hgroup hgroup 0 (sampleSources 0).start⟩

end ForensicData.Comparison
