/-
ForensicData.Comparison.Leaves — the merge that classifies an exact leaf.

`align` pairs the rows of both sides by key, in the order of the merge; what a
leaf counts and lists is read off the pairing (`leafOf`), and the engine's loop
computes it (`ensures_compareExactRows`). The pairing uses up both lists,
whatever they hold, so the counts always close to their lengths. When both
lists are in strictly ascending key order it pairs two rows exactly when their
keys are equal (`align_both_key`, `align_missing_key`, `align_extra_key`).
-/
import ForensicData.Comparison.EngineRules

namespace ForensicData.Comparison

open ForensicData.Canonical
open ForensicData.Lib
open ForensicData.Lib.Generator
open ForensicData.Result

/-- One step of the merge. -/
inductive Pairing where
  | missing (reference : ExactRow)
  | extra (target : ExactRow)
  | both (reference target : ExactRow)
  deriving DecidableEq

def Pairing.reference : Pairing → Option ExactRow
  | .missing row => some row
  | .extra _ => none
  | .both row _ => some row

def Pairing.target : Pairing → Option ExactRow
  | .missing _ => none
  | .extra row => some row
  | .both _ row => some row

/-- The key of the pairing's row, the reference one where there are two. -/
def Pairing.key : Pairing → Int
  | .missing row => row.keyValue
  | .extra row => row.keyValue
  | .both row _ => row.keyValue

/-- Merge one reference row into the target rows; `rest` merges what follows. -/
def alignWith (row : ExactRow) (rest : List ExactRow → List Pairing) : List ExactRow → List Pairing
  | [] => .missing row :: rest []
  | other :: target =>
    if row.keyValue < other.keyValue then .missing row :: rest (other :: target)
    else if row.keyValue > other.keyValue then .extra other :: alignWith row rest target
    else .both row other :: rest target

def align : List ExactRow → List ExactRow → List Pairing
  | [], target => target.map .extra
  | row :: reference, target => alignWith row (align reference) target

@[simp] theorem align_nil_left (target : List ExactRow) : align [] target = target.map .extra := rfl

theorem align_cons_nil (row : ExactRow) (reference : List ExactRow) :
    align (row :: reference) [] = .missing row :: align reference [] := rfl

theorem align_cons_cons (row other : ExactRow) (reference target : List ExactRow) :
    align (row :: reference) (other :: target) =
      if row.keyValue < other.keyValue then .missing row :: align reference (other :: target)
      else if row.keyValue > other.keyValue then .extra other :: align (row :: reference) target
      else .both row other :: align reference target := rfl

/-- Induction along the merge. -/
theorem align_induction {motive : List ExactRow → List ExactRow → Prop}
    (nil : ∀ target, motive [] target)
    (cons_nil : ∀ row reference, motive reference [] → motive (row :: reference) [])
    (lt : ∀ row other reference target, row.keyValue < other.keyValue →
      motive reference (other :: target) → motive (row :: reference) (other :: target))
    (gt : ∀ row other reference target, row.keyValue > other.keyValue →
      motive (row :: reference) target → motive (row :: reference) (other :: target))
    (eq : ∀ row other reference target, row.keyValue = other.keyValue →
      motive reference target → motive (row :: reference) (other :: target))
    (reference target : List ExactRow) : motive reference target := by
  induction reference generalizing target with
  | nil => exact nil target
  | cons row reference ih =>
    induction target with
    | nil => exact cons_nil row reference (ih [])
    | cons other target iht =>
      obtain h | h | h := lt_trichotomy row.keyValue other.keyValue
      · exact lt row other reference target h (ih _)
      · exact eq row other reference target h (ih _)
      · exact gt row other reference target h iht

/-- The merge uses up the reference rows in order. -/
theorem align_reference (reference target : List ExactRow) :
    (align reference target).filterMap Pairing.reference = reference := by
  induction reference, target using align_induction with
  | nil target => simp [List.filterMap_map, Function.comp_def, Pairing.reference]
  | cons_nil row reference ih =>
    simp only [align_cons_nil, List.filterMap_cons, Pairing.reference, ih]
  | lt row other reference target h ih =>
    rw [align_cons_cons, if_pos h]
    simp only [List.filterMap_cons, Pairing.reference, ih]
  | gt row other reference target h ih =>
    rw [align_cons_cons, if_neg (by omega), if_pos h]
    simp only [List.filterMap_cons, Pairing.reference, ih]
  | eq row other reference target h ih =>
    rw [align_cons_cons, if_neg (by omega), if_neg (by omega)]
    simp only [List.filterMap_cons, Pairing.reference, ih]

/-- The merge uses up the target rows in order. -/
theorem align_target (reference target : List ExactRow) :
    (align reference target).filterMap Pairing.target = target := by
  induction reference, target using align_induction with
  | nil target => simp [List.filterMap_map, Function.comp_def, Pairing.target]
  | cons_nil row reference ih =>
    simp only [align_cons_nil, List.filterMap_cons, Pairing.target, ih]
  | lt row other reference target h ih =>
    rw [align_cons_cons, if_pos h]
    simp only [List.filterMap_cons, Pairing.target, ih]
  | gt row other reference target h ih =>
    rw [align_cons_cons, if_neg (by omega), if_pos h]
    simp only [List.filterMap_cons, Pairing.target, ih]
  | eq row other reference target h ih =>
    rw [align_cons_cons, if_neg (by omega), if_neg (by omega)]
    simp only [List.filterMap_cons, Pairing.target, ih]

/-- A pairing of two rows pairs equal keys. -/
theorem align_both_key {reference target : List ExactRow} {row other : ExactRow}
    (h : .both row other ∈ align reference target) : row.keyValue = other.keyValue := by
  induction reference, target using align_induction with
  | nil target => simp at h
  | cons_nil row' reference ih =>
    simp only [align_cons_nil, List.mem_cons, reduceCtorEq, false_or] at h
    exact ih h
  | lt row' other' reference target hlt ih =>
    rw [align_cons_cons, if_pos hlt] at h
    simp only [List.mem_cons, reduceCtorEq, false_or] at h
    exact ih h
  | gt row' other' reference target hgt ih =>
    rw [align_cons_cons, if_neg (by omega), if_pos hgt] at h
    simp only [List.mem_cons, reduceCtorEq, false_or] at h
    exact ih h
  | eq row' other' reference target heq ih =>
    rw [align_cons_cons, if_neg (by omega), if_neg (by omega)] at h
    simp only [List.mem_cons, Pairing.both.injEq] at h
    obtain ⟨rfl, rfl⟩ | h := h
    · exact heq
    · exact ih h

/-- Rows in strictly ascending key order. -/
def Ascending (rows : List ExactRow) : Prop := rows.Pairwise fun a b => a.keyValue < b.keyValue

/-- A row left over on the reference side has no partner among ascending target
rows. -/
theorem align_missing_key {reference target : List ExactRow} (hreference : Ascending reference)
    (htarget : Ascending target) {row : ExactRow} (h : .missing row ∈ align reference target) :
    ∀ other ∈ target, other.keyValue ≠ row.keyValue := by
  induction reference, target using align_induction with
  | nil target => simp at h
  | cons_nil row' reference ih => simp
  | lt row' other' reference target hlt ih =>
    rw [align_cons_cons, if_pos hlt, List.mem_cons] at h
    rw [Ascending, List.pairwise_cons] at hreference
    obtain h | h := h
    · rw [Pairing.missing.injEq] at h
      subst h
      rw [Ascending, List.pairwise_cons] at htarget
      intro other hother
      rw [List.mem_cons] at hother
      obtain rfl | hother := hother
      · omega
      · have := htarget.1 other hother
        omega
    · exact ih hreference.2 htarget h
  | gt row' other' reference target hgt ih =>
    rw [align_cons_cons, if_neg (by omega), if_pos hgt] at h
    simp only [List.mem_cons, reduceCtorEq, false_or] at h
    have hmem : row ∈ row' :: reference := by
      have := List.mem_filterMap.mpr ⟨_, h, (rfl : Pairing.reference (.missing row) = some row)⟩
      rwa [align_reference] at this
    have hge : row'.keyValue ≤ row.keyValue := by
      rw [Ascending, List.pairwise_cons] at hreference
      rw [List.mem_cons] at hmem
      obtain rfl | hmem := hmem
      · exact le_refl _
      · exact le_of_lt (hreference.1 row hmem)
    rw [Ascending, List.pairwise_cons] at htarget
    intro other hother
    rw [List.mem_cons] at hother
    obtain rfl | hother := hother
    · omega
    · exact ih hreference htarget.2 h other hother
  | eq row' other' reference target heq ih =>
    rw [align_cons_cons, if_neg (by omega), if_neg (by omega)] at h
    simp only [List.mem_cons, reduceCtorEq, false_or] at h
    have hmem : row ∈ reference := by
      have := List.mem_filterMap.mpr ⟨_, h, (rfl : Pairing.reference (.missing row) = some row)⟩
      rwa [align_reference] at this
    rw [Ascending, List.pairwise_cons] at hreference htarget
    have := hreference.1 row hmem
    intro other hother
    rw [List.mem_cons] at hother
    obtain rfl | hother := hother
    · omega
    · exact ih hreference.2 htarget.2 h other hother

/-- A row left over on the target side has no partner among ascending reference
rows. -/
theorem align_extra_key {reference target : List ExactRow} (hreference : Ascending reference)
    (htarget : Ascending target) {row : ExactRow} (h : .extra row ∈ align reference target) :
    ∀ other ∈ reference, other.keyValue ≠ row.keyValue := by
  induction reference, target using align_induction with
  | nil target => simp
  | cons_nil row' reference ih =>
    simp only [align_cons_nil, List.mem_cons, reduceCtorEq, false_or] at h
    have hmem := List.mem_filterMap.mpr ⟨_, h, (rfl : Pairing.target (.extra row) = some row)⟩
    rw [align_target] at hmem
    simp at hmem
  | lt row' other' reference target hlt ih =>
    rw [align_cons_cons, if_pos hlt] at h
    simp only [List.mem_cons, reduceCtorEq, false_or] at h
    have hmem : row ∈ other' :: target := by
      have := List.mem_filterMap.mpr ⟨_, h, (rfl : Pairing.target (.extra row) = some row)⟩
      rwa [align_target] at this
    have hge : other'.keyValue ≤ row.keyValue := by
      rw [Ascending, List.pairwise_cons] at htarget
      rw [List.mem_cons] at hmem
      obtain rfl | hmem := hmem
      · exact le_refl _
      · exact le_of_lt (htarget.1 row hmem)
    rw [Ascending, List.pairwise_cons] at hreference
    intro other hother
    rw [List.mem_cons] at hother
    obtain rfl | hother := hother
    · omega
    · exact ih hreference.2 htarget h other hother
  | gt row' other' reference target hgt ih =>
    rw [align_cons_cons, if_neg (by omega), if_pos hgt, List.mem_cons] at h
    obtain h | h := h
    · rw [Pairing.extra.injEq] at h
      subst h
      rw [Ascending, List.pairwise_cons] at hreference
      intro other hother
      rw [List.mem_cons] at hother
      obtain rfl | hother := hother
      · omega
      · have := hreference.1 other hother
        omega
    · rw [Ascending, List.pairwise_cons] at htarget
      exact ih hreference htarget.2 h
  | eq row' other' reference target heq ih =>
    rw [align_cons_cons, if_neg (by omega), if_neg (by omega)] at h
    simp only [List.mem_cons, reduceCtorEq, false_or] at h
    have hmem : row ∈ target := by
      have := List.mem_filterMap.mpr ⟨_, h, (rfl : Pairing.target (.extra row) = some row)⟩
      rwa [align_target] at this
    rw [Ascending, List.pairwise_cons] at hreference htarget
    have := htarget.1 row hmem
    intro other hother
    rw [List.mem_cons] at hother
    obtain rfl | hother := hother
    · omega
    · exact ih hreference.2 htarget.2 h other hother

/-! ## What a leaf counts -/

/-- The difference a pairing is, if it is one. -/
def Pairing.difference (segmentSequence : ℕ) : Pairing → Option ExactDifference
  | .missing row =>
    some { segmentSequence, kind := .missing, keyRow := row, referenceRow := some row
           targetRow := none }
  | .extra row =>
    some { segmentSequence, kind := .extra, keyRow := row, referenceRow := none
           targetRow := some row }
  | .both reference target =>
    if reference.rowEnvelope = target.rowEnvelope then none
    else
      some { segmentSequence, kind := .modified, keyRow := reference
             referenceRow := some reference, targetRow := some target }

def Pairing.isMatched : Pairing → Bool
  | .both reference target => decide (reference.rowEnvelope = target.rowEnvelope)
  | _ => false

def Pairing.isMissing : Pairing → Bool
  | .missing _ => true
  | _ => false

def Pairing.isExtra : Pairing → Bool
  | .extra _ => true
  | _ => false

def Pairing.isModified : Pairing → Bool
  | .both reference target => decide (reference.rowEnvelope ≠ target.rowEnvelope)
  | _ => false

/-- The counts of a pairing. -/
def pairingCounts (pairs : List Pairing) : ExactCounts where
  matched := pairs.countP Pairing.isMatched
  missing := pairs.countP Pairing.isMissing
  extra := pairs.countP Pairing.isExtra
  modified := pairs.countP Pairing.isModified

/-- What a leaf counts and lists. -/
def leafOf (segmentSequence : ℕ) (pairs : List Pairing) : LeafComparison where
  counts := pairingCounts pairs
  differences := pairs.filterMap (Pairing.difference segmentSequence)

theorem pairingCounts_cons (pair : Pairing) (pairs : List Pairing) :
    pairingCounts (pair :: pairs) = (pairingCounts [pair]).add (pairingCounts pairs) := by
  simp [pairingCounts, ExactCounts.add, List.countP_cons, Nat.add_comm]

theorem pairingCounts_missing (row : ExactRow) :
    pairingCounts [.missing row] = { matched := 0, missing := 1, extra := 0, modified := 0 } := rfl

theorem pairingCounts_extra (row : ExactRow) :
    pairingCounts [.extra row] = { matched := 0, missing := 0, extra := 1, modified := 0 } := rfl

theorem pairingCounts_both (reference target : ExactRow) :
    pairingCounts [.both reference target] =
      if reference.rowEnvelope = target.rowEnvelope then
        { matched := 1, missing := 0, extra := 0, modified := 0 }
      else { matched := 0, missing := 0, extra := 0, modified := 1 } := by
  split <;> rename_i h <;>
    simp [pairingCounts, Pairing.isMatched, Pairing.isMissing, Pairing.isExtra, Pairing.isModified,
      h]

/-- The counts close to the number of rows on either side, and to the number of
differences. -/
theorem pairingCounts_closes (pairs : List Pairing) (segmentSequence : ℕ) :
    (pairingCounts pairs).matched + (pairingCounts pairs).missing + (pairingCounts pairs).modified
        = (pairs.filterMap Pairing.reference).length ∧
      (pairingCounts pairs).matched + (pairingCounts pairs).extra + (pairingCounts pairs).modified
        = (pairs.filterMap Pairing.target).length ∧
      (pairingCounts pairs).differences
        = (pairs.filterMap (Pairing.difference segmentSequence)).length := by
  induction pairs with
  | nil => exact ⟨rfl, rfl, rfl⟩
  | cons pair pairs ih =>
    rw [pairingCounts_cons]
    simp only [ExactCounts.add, ExactCounts.differences] at ih ⊢
    cases pair with
    | missing row =>
      simp only [pairingCounts_missing, List.filterMap_cons, Pairing.reference, Pairing.target,
        Pairing.difference, List.length_cons]
      omega
    | extra row =>
      simp only [pairingCounts_extra, List.filterMap_cons, Pairing.reference, Pairing.target,
        Pairing.difference, List.length_cons]
      omega
    | both reference target =>
      rw [pairingCounts_both]
      split <;> rename_i h
      · simp only [List.filterMap_cons, Pairing.reference, Pairing.target, Pairing.difference,
          if_pos h, List.length_cons]
        omega
      · simp only [List.filterMap_cons, Pairing.reference, Pairing.target, Pairing.difference,
          if_neg h, List.length_cons]
        omega

/-- Every difference of a leaf lies in its segment. -/
theorem leafOf_segmentSequence {segmentSequence : ℕ} {pairs : List Pairing}
    {difference : ExactDifference} (h : difference ∈ (leafOf segmentSequence pairs).differences) :
    difference.segmentSequence = segmentSequence := by
  obtain ⟨pair, -, hpair⟩ := List.mem_filterMap.mp h
  cases pair with
  | missing row => simp only [Pairing.difference, Option.some.injEq] at hpair; rw [← hpair]
  | extra row => simp only [Pairing.difference, Option.some.injEq] at hpair; rw [← hpair]
  | both reference target =>
    simp only [Pairing.difference] at hpair
    split at hpair
    · simp at hpair
    · simp only [Option.some.injEq] at hpair
      rw [← hpair]

/-! ## The engine's loop -/

variable {budgets : ExecutionBudgets} {Body : Type} {inputs : ComparisonInputs Body}
  {sources : Sources budgets} {inv : Progress Body → Prop} {fail : Cause → Prop}
  {world : World budgets}

/-- The accumulator of the loop, extended by the pairings still to come. -/
def LeafComparison.extend (leaf : LeafComparison) (segmentSequence : ℕ) (pairs : List Pairing) :
    LeafComparison where
  counts := leaf.counts.add (pairingCounts pairs)
  differences := leaf.differences ++ pairs.filterMap (Pairing.difference segmentSequence)

theorem LeafComparison.extend_nil (leaf : LeafComparison) (segmentSequence : ℕ) :
    leaf.extend segmentSequence [] = leaf := by
  simp [LeafComparison.extend, ExactCounts.add, pairingCounts]

theorem LeafComparison.extend_missing (leaf : LeafComparison) (segmentSequence : ℕ) (row : ExactRow)
    (pairs : List Pairing) :
    (leaf.addMissing segmentSequence row).extend segmentSequence pairs
      = leaf.extend segmentSequence (.missing row :: pairs) := by
  rw [LeafComparison.extend, LeafComparison.extend, pairingCounts_cons (.missing row) pairs]
  simp only [LeafComparison.addMissing, pairingCounts_missing, ExactCounts.add, List.filterMap_cons, Pairing.difference,
    List.append_assoc, List.singleton_append, Nat.zero_add, Nat.add_assoc]

theorem LeafComparison.extend_extra (leaf : LeafComparison) (segmentSequence : ℕ) (row : ExactRow)
    (pairs : List Pairing) :
    (leaf.addExtra segmentSequence row).extend segmentSequence pairs
      = leaf.extend segmentSequence (.extra row :: pairs) := by
  rw [LeafComparison.extend, LeafComparison.extend, pairingCounts_cons (.extra row) pairs]
  simp only [LeafComparison.addExtra, pairingCounts_extra, ExactCounts.add, List.filterMap_cons, Pairing.difference,
    List.append_assoc, List.singleton_append, Nat.zero_add, Nat.add_assoc]

theorem LeafComparison.extend_both (leaf : LeafComparison) (segmentSequence : ℕ)
    (reference target : ExactRow) (pairs : List Pairing) :
    (leaf.addBoth segmentSequence reference target).extend segmentSequence pairs
      = leaf.extend segmentSequence (.both reference target :: pairs) := by
  rw [LeafComparison.extend, LeafComparison.extend,
    pairingCounts_cons (.both reference target) pairs]
  by_cases h : reference.rowEnvelope = target.rowEnvelope
  · simp only [LeafComparison.addBoth, if_pos h, pairingCounts_both, ExactCounts.add, List.filterMap_cons, Pairing.difference, Nat.zero_add,
      Nat.add_assoc]
  · simp only [LeafComparison.addBoth, if_neg h, pairingCounts_both, ExactCounts.add, List.filterMap_cons, Pairing.difference,
      List.append_assoc, List.singleton_append, Nat.zero_add, Nat.add_assoc]

/-- Two rows of one key with different key envelopes may stop the run. -/
def EnvelopesStop (fail : Cause → Prop) (reference target : List ExactRow) : Prop :=
  ∀ row ∈ reference, ∀ other ∈ target, row.keyValue = other.keyValue →
    row.keyEnvelope ≠ other.keyEnvelope →
      fail (protocolViolation
        "equal logical integer keys produced different canonical key envelopes")

theorem FailureSet.envelopes (hfail : FailureSet inputs sources fail)
    (reference target : List ExactRow) : EnvelopesStop fail reference target :=
  fun _ _ _ _ _ _ => hfail.protocol _

theorem EnvelopesStop.subset {reference target reference' target' : List ExactRow}
    (h : EnvelopesStop fail reference target) (hreference : reference' ⊆ reference)
    (htarget : target' ⊆ target) : EnvelopesStop fail reference' target' :=
  fun row hrow other hother => h row (hreference hrow) other (htarget hother)

/-- With a round for every row, the loop computes the pairing. Rows of one key
have one key envelope wherever it succeeds. -/
theorem ensures_compareExactRowsLoop (hstop : DeadlineStops sources fail)
    (segmentSequence : ℕ) (rounds classified : ℕ) (reference target : List ExactRow)
    (henvelopes : EnvelopesStop fail reference target)
    (leaf : LeafComparison) (hrounds : reference.length + target.length ≤ rounds) :
    Ensures inv (fun cause _ => fail cause)
      (compareExactRowsLoop sources segmentSequence rounds classified reference target leaf) world
      fun result after => world.Quiet after ∧
        result = leaf.extend segmentSequence (align reference target) := by
  induction rounds generalizing world classified reference target leaf with
  | zero =>
    have hr : reference = [] := List.eq_nil_of_length_eq_zero (by omega)
    have ht : target = [] := List.eq_nil_of_length_eq_zero (by omega)
    subst hr ht
    simp [compareExactRowsLoop, World.Quiet.refl, LeafComparison.extend_nil]
  | succ rounds ih =>
    cases reference with
    | nil =>
      cases target with
      | nil => simp [compareExactRowsLoop, World.Quiet.refl, LeafComparison.extend_nil]
      | cons other target =>
        simp only [compareExactRowsLoop, ensures_bind]
        refine ensures_deadlineEvery hstop fun current hquiet => ?_
        refine (ih _ _ _ (henvelopes.subset (List.Subset.refl _) (List.subset_cons_self _ _)) _
          (by simp at hrounds ⊢; omega)).mono fun result after h => ?_
        refine ⟨hquiet.trans h.1, ?_⟩
        rw [h.2, LeafComparison.extend_extra]
        rfl
    | cons row reference =>
      cases target with
      | nil =>
        simp only [compareExactRowsLoop, ensures_bind]
        refine ensures_deadlineEvery hstop fun current hquiet => ?_
        refine (ih _ _ _ (henvelopes.subset (List.subset_cons_self _ _) (List.Subset.refl _)) _
          (by simp at hrounds ⊢; omega)).mono fun result after h => ?_
        refine ⟨hquiet.trans h.1, ?_⟩
        rw [h.2, LeafComparison.extend_missing]
        rfl
      | cons other target =>
        simp only [compareExactRowsLoop, ensures_bind]
        refine ensures_deadlineEvery hstop fun current hquiet => ?_
        rw [align_cons_cons]
        simp only [List.length_cons] at hrounds
        split
        · rename_i hlt
          refine (ih _ _ _ (henvelopes.subset (List.subset_cons_self _ _) (List.Subset.refl _)) _
            (by simp only [List.length_cons]; omega)).mono fun result after h => ?_
          exact ⟨hquiet.trans h.1, by rw [h.2, LeafComparison.extend_missing]⟩
        · split
          · rename_i hlt hgt
            refine (ih _ _ _ (henvelopes.subset (List.Subset.refl _) (List.subset_cons_self _ _)) _
              (by simp only [List.length_cons]; omega)).mono fun result after h => ?_
            exact ⟨hquiet.trans h.1, by rw [h.2, LeafComparison.extend_extra]⟩
          · rename_i hlt hgt
            have hkeys : row.keyValue = other.keyValue := by omega
            rw [ensures_bind]
            refine ensures_refuseWhen' (fun hdiffer => henvelopes row List.mem_cons_self other
              List.mem_cons_self hkeys hdiffer) fun _ => ?_
            refine (ih _ _ _ (henvelopes.subset (List.subset_cons_self _ _)
              (List.subset_cons_self _ _)) _ (by omega)).mono fun result after h => ?_
            exact ⟨hquiet.trans h.1, by rw [h.2, LeafComparison.extend_both]⟩

/-- `_compare_exact_rows` returns what the pairing counts and lists. -/
theorem ensures_compareExactRows (hstop : DeadlineStops sources fail)
    {reference target : List ExactRow} (henvelopes : EnvelopesStop fail reference target)
    {segmentSequence : ℕ} {post : LeafComparison → World budgets → Prop}
    (hpost : ∀ after, world.Quiet after →
      post (leafOf segmentSequence (align reference target)) after) :
    Ensures inv (fun cause _ => fail cause)
      (compareExactRows sources reference target segmentSequence) world post := by
  simp only [compareExactRows, ensures_bind, ensures_pure]
  refine (ensures_compareExactRowsLoop hstop _ _ _ _ _ henvelopes _ (le_refl _)).mono
    fun leaf current h => ?_
  refine ensures_deadline hstop fun after hquiet => ?_
  have hleaf : leaf = leafOf segmentSequence (align reference target) := by
    rw [h.2]
    simp [LeafComparison.extend, LeafComparison.empty, leafOf, ExactCounts.add, ExactCounts.zero]
  rw [hleaf]
  exact hpost after (h.1.trans hquiet)

end ForensicData.Comparison
