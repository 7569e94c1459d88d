/-
ForensicData.Comparison.Exactness — the drill-down counts the true differences.

The connectors read two tables. An exact leaf counts the keys of its range by
their true class (`Leaf.Classified.count_of`), and the ranges of the leaves are
disjoint: what a run counts are the true differences in the segments it read
exactly, each once (`Accounts.exactCounts_eq`). The rows of a pruned segment are
the same on both sides where no two row multisets collide
(`rowsIn_eq_of_match`), and the terminal segments tile the root, in which all
keys lie; so the totals are then those of the two tables.
-/
import Mathlib.Tactic.FinCases
import ForensicData.Comparison.RetentionRuns
import ForensicData.Comparison.Snapshots

namespace ForensicData.Comparison

open ForensicData.Canonical
open ForensicData.Lib
open ForensicData.Lib.Generator
open ForensicData.Result

variable {budgets : ExecutionBudgets} {Body : Type} {inputs : ComparisonInputs Body}
  {sources : Sources budgets} {progress : Progress Body} {sha256 : Sha256}
  {schema : CanonicalSchema} {keyFieldIndex : ℕ}

/-! ## Counts and totals by class -/

def ExactCounts.of (counts : ExactCounts) : KeyClass → ℕ
  | .matched => counts.matched
  | .missing => counts.missing
  | .extra => counts.extra
  | .modified => counts.modified

def totalOf (totals : ComparisonTotals) : KeyClass → Total
  | .matched => totals.matched
  | .missing => totals.missing
  | .extra => totals.extra
  | .modified => totals.modified

def DifferenceKind.keyClass : DifferenceKind → KeyClass
  | .missing => .missing
  | .extra => .extra
  | .modified => .modified

/-- Pruned rows are counted as matched, all others by the exact leaves. -/
theorem Progress.completedCounts_of (keyClass : KeyClass) :
    progress.completedCounts.of keyClass
      = (if keyClass = .matched then progress.prunedMatched else 0)
        + progress.exactCounts.of keyClass := by
  cases keyClass <;> simp [Progress.completedCounts, ExactCounts.of]

/-- The key lies in a segment whose rows were read and compared. -/
def readExactly (segments : List ComparisonSegmentRecord) (key : Int) : Bool :=
  (exactRecords segments).any fun segment => segment.covers key

theorem readExactly_perm {segments others : List ComparisonSegmentRecord}
    (h : segments.Perm others) : readExactly segments = readExactly others := by
  funext key
  exact (h.filter _).any_eq

/-! ## Disjoint segments -/

section

variable {root : SegmentPlace} {topology : List ComparisonSegmentRecord} {key : Int}

theorem Frontier.terminal_tiles (h : Frontier root topology []) :
    Tiles (fun record : ComparisonSegmentRecord => record.covers) (terminalRecords topology)
      root.covers := by
  have htiles := h.tiles
  rwa [openPlaces, List.append_nil, tiles_map_iff] at htiles

/-- The exact segments are terminal, so no two of them share a key. -/
theorem Frontier.exact_disjoint (h : Frontier root topology []) :
    (exactRecords topology).Pairwise fun first second =>
      ∀ key, ¬ (first.covers key = true ∧ second.covers key = true) := by
  refine (tiles_iff.mp h.terminal_tiles).1.sublist (List.monotone_filter_right _ ?_)
  intro record hexact
  cases hstate : record.state <;> rw [hstate] at hexact <;>
    simp_all [ComparisonSegmentState.isExact, ComparisonSegmentState.isTerminal]

end

/-! ## What the leaves count -/

variable {snapshot : Side → Snapshot sha256 schema keyFieldIndex} {keyClass : KeyClass}

/-- A leaf counts the keys of its range by their true class. -/
theorem Leaf.Classified.count_of {leaf : Leaf} (h : leaf.Classified (truthOf snapshot))
    (keyClass : KeyClass) :
    leaf.counts.of keyClass = (trueKeysIn snapshot keyClass leaf.record.covers).card := by
  have hreference : leaf.referenceRows.map ExactRow.tableRow
      = (snapshot .reference).rowsIn leaf.record.covers := h.reference_known
  have htarget : leaf.targetRows.map ExactRow.tableRow
      = (snapshot .target).rowsIn leaf.record.covers := h.target_known
  have hclassifies := classifies_leafOf (ascending_of_answer hreference)
    (ascending_of_answer htarget) 0
  rw [← keysOfClass_of_answers hreference htarget]
  cases keyClass with
  | matched => exact hclassifies.matched_eq
  | missing => exact hclassifies.missing_eq
  | extra => exact hclassifies.extra_eq
  | modified => exact hclassifies.modified_eq

theorem Accounts.exactCounts_of (h : Accounts (truthOf snapshot) progress)
    (keyClass : KeyClass) :
    progress.exactCounts.of keyClass
      = ((exactRecords progress.topology).map fun record =>
          (trueKeysIn snapshot keyClass record.covers).card).sum :=
  h.sum_exactRecords (fun counts => counts.of keyClass) (by cases keyClass <;> rfl)
    (fun a b => by cases keyClass <;> rfl) _ fun leaf hleaf => hleaf.count_of keyClass

/-- Each true difference in the segments read exactly is counted, and once. -/
theorem Accounts.exactCounts_eq {root : SegmentPlace} (h : Accounts (truthOf snapshot) progress)
    (hfrontier : Frontier root progress.topology []) (keyClass : KeyClass) :
    progress.exactCounts.of keyClass
      = (trueKeysIn snapshot keyClass (readExactly progress.topology)).card := by
  rw [h.exactCounts_of]
  exact sum_card_filter hfrontier.exact_disjoint _

/-! ## What pruning leaves out -/

/-- No two different multisets of rows that the segments compare have one count
and the same limb sums. -/
def FingerprintsSeparate (snapshot : Side → Snapshot sha256 schema keyFieldIndex)
    (segments : List ComparisonSegmentRecord) : Prop :=
  ∀ segment ∈ segments,
    hashesWeight ((snapshot .reference).hashesIn segment.covers)
        = hashesWeight ((snapshot .target).hashesIn segment.covers) →
      (((snapshot .reference).rowsIn segment.covers).map TableRow.envelope).Perm
        (((snapshot .target).rowsIn segment.covers).map TableRow.envelope)

theorem FingerprintsSeparate.perm {segments others : List ComparisonSegmentRecord}
    (h : FingerprintsSeparate snapshot segments) (hperm : others.Perm segments) :
    FingerprintsSeparate snapshot others :=
  fun segment hsegment => h segment (hperm.subset hsegment)

section Pruned

variable {record : ComparisonSegmentRecord}

/-- The tables have the same rows in a segment that was pruned. -/
theorem rowsIn_eq_of_match (h : Accounts (truthOf snapshot) progress)
    (hseparate : FingerprintsSeparate snapshot progress.topology)
    (hrecord : record ∈ matchRecords progress.topology) :
    (snapshot .reference).rowsIn record.covers = (snapshot .target).rowsIn record.covers := by
  have hmem : record ∈ progress.topology := List.mem_of_mem_filter hrecord
  have hsame := fingerprints_eq_of_mem_matchRecords hrecord
  obtain ⟨hreference, htarget⟩ := h.known record hmem
  rw [hsame] at hreference
  exact Snapshot.rowsIn_eq_of_perm (hseparate record hmem (hreference.symm.trans htarget))

/-- All keys of a pruned segment are matched, and as many as its fingerprint
counts. -/
theorem card_trueKeysIn_of_match (h : Accounts (truthOf snapshot) progress)
    (hseparate : FingerprintsSeparate snapshot progress.topology)
    (hrecord : record ∈ matchRecords progress.topology) (keyClass : KeyClass) :
    (trueKeysIn snapshot keyClass record.covers).card
      = if keyClass = .matched then record.referenceFingerprint.count else 0 := by
  have hrows := rowsIn_eq_of_match h hseparate hrecord
  have hagree : ∀ key, record.covers key = true →
      (snapshot .reference).envelopeAt key = (snapshot .target).envelopeAt key :=
    fun key hkey => Snapshot.envelopeAt_eq_of_rowsIn_eq hrows hkey
  by_cases hclass : keyClass = .matched
  · rw [if_pos hclass, hclass]
    have hkeys : trueKeysIn snapshot .matched record.covers
        = keysOf TableRow.key ((snapshot .reference).rowsIn record.covers) := by
      ext key
      rw [mem_trueKeysIn, Snapshot.mem_keysOf_rowsIn]
      refine and_congr_left fun hkey => ?_
      exact trueClass_eq_matched (hagree key hkey)
    have hcount : record.referenceFingerprint.count
        = ((snapshot .reference).hashesIn record.covers).length := by
      rw [← hashesWeight_count]
      exact congrArg Prod.fst (h.known record (List.mem_of_mem_filter hrecord)).1
    rw [hkeys, hcount, keysOf, List.toFinset_card_of_nodup Snapshot.rowsIn_ascending.nodup_map,
      Snapshot.hashesIn, List.length_map, List.length_map]
  · rw [if_neg hclass, Finset.card_eq_zero, Finset.eq_empty_iff_forall_notMem]
    intro key hkey
    rw [mem_trueKeysIn] at hkey
    rcases envelopeAt_eq_iff.mp (hagree key hkey.2) with hnone | hmatched
    · rw [hnone] at hkey
      cases hkey.1
    · rw [hmatched, Option.some.injEq] at hkey
      exact hclass hkey.1.symm

theorem Accounts.prunedMatched_of (h : Accounts (truthOf snapshot) progress)
    (hseparate : FingerprintsSeparate snapshot progress.topology) (keyClass : KeyClass) :
    (if keyClass = .matched then progress.prunedMatched else 0)
      = ((matchRecords progress.topology).map fun record =>
          (trueKeysIn snapshot keyClass record.covers).card).sum := by
  rw [List.map_congr_left fun record hrecord =>
    card_trueKeysIn_of_match h hseparate hrecord keyClass]
  by_cases hclass : keyClass = .matched
  · simp only [hclass, if_true, h.pruned_matched]
  · simp [hclass]

end Pruned

/-! ## The root -/

/-- The key of a summarised table lies in the root. -/
theorem Snapshot.Summarised.covers {table : Snapshot sha256 schema keyFieldIndex}
    {reference target summary : KeySummary} (h : table.Summarised summary)
    (hsummary : summary ∈ [reference, target]) {key : Int} (hkey : key ∈ table.keys) :
    (rootSegment reference target).covers key = true := by
  obtain ⟨row, hrow, rfl⟩ := mem_keysOf.mp hkey
  have hmem : row.key ∈ table.rows.map TableRow.key := List.mem_map_of_mem hrow
  obtain ⟨minimum, hminimum⟩ := Option.isSome_iff_exists.mp (List.isSome_min?_of_mem hmem)
  obtain ⟨maximum, hmaximum⟩ := Option.isSome_iff_exists.mp (List.isSome_max?_of_mem hmem)
  refine rootSegment_covers hsummary (h.minimum_key.trans hminimum)
    (h.maximum_key.trans hmaximum) ?_ ?_
  · exact (List.min?_eq_some_iff.mp hminimum).2 _ hmem
  · exact (List.max?_eq_some_iff.mp hmaximum).2 _ hmem

/-- Where no two row multisets collide, the totals are those of the tables. -/
theorem Accounts.completedCounts_eq {reference target : KeySummary}
    (h : Accounts (truthOf snapshot) progress)
    (hfrontier : Frontier (rootSegment reference target) progress.topology [])
    (hreference : (snapshot .reference).Summarised reference)
    (htarget : (snapshot .target).Summarised target)
    (hseparate : FingerprintsSeparate snapshot progress.topology) (keyClass : KeyClass) :
    progress.completedCounts.of keyClass = (keysOfTrueClass snapshot keyClass).card := by
  obtain ⟨hdisjoint, hcovers⟩ := tiles_iff.mp hfrontier.terminal_tiles
  have hall : ∀ key ∈ keysOfTrueClass snapshot keyClass,
      (terminalRecords progress.topology).any (fun record => record.covers key) = true := by
    intro key hkey
    rw [List.any_eq_true]
    refine (hcovers key).mp ?_
    rw [keysOfTrueClass, Finset.mem_filter, Finset.mem_union] at hkey
    rcases hkey.1 with hkey | hkey
    · exact hreference.covers List.mem_cons_self hkey
    · exact htarget.covers (List.mem_cons_of_mem _ List.mem_cons_self) hkey
  calc progress.completedCounts.of keyClass
      = ((terminalRecords progress.topology).map fun record =>
          (trueKeysIn snapshot keyClass record.covers).card).sum := by
        rw [Progress.completedCounts_of, h.prunedMatched_of hseparate, h.exactCounts_of,
          sum_terminalRecords]
    _ = ((keysOfTrueClass snapshot keyClass).filter fun key =>
          (terminalRecords progress.topology).any (fun record => record.covers key) = true).card :=
        sum_card_filter hdisjoint _
    _ = (keysOfTrueClass snapshot keyClass).card := by rw [Finset.filter_true_of_mem hall]

/-! ## What the records record -/

/-- A difference of the two tables, of exactly its kind, in a segment that was
read exactly. -/
structure TrueDifference (snapshot : Side → Snapshot sha256 schema keyFieldIndex)
    (segments : List ComparisonSegmentRecord) (difference : ExactDifference) : Prop where
  kind_eq : trueClass snapshot difference.keyRow.keyValue = some difference.kind.keyClass
  reference_eq : difference.referenceRow.map ExactRow.rowEnvelope
    = (snapshot .reference).envelopeAt difference.keyRow.keyValue
  target_eq : difference.targetRow.map ExactRow.rowEnvelope
    = (snapshot .target).envelopeAt difference.keyRow.keyValue
  located : ∃ segment ∈ exactRecords segments,
    segment.segmentSequence = difference.segmentSequence ∧
      segment.covers difference.keyRow.keyValue = true

/-- What a difference says of the rows it was found from. -/
theorem differenceOf_eq_some {segmentSequence : ℕ} {reference target : Option ExactRow}
    {difference : ExactDifference}
    (h : differenceOf segmentSequence reference target = some difference) :
    difference.segmentSequence = segmentSequence ∧ difference.referenceRow = reference ∧
      difference.targetRow = target ∧
        classOf reference target = some difference.kind.keyClass := by
  cases reference with
  | none =>
    cases target with
    | none => cases h
    | some other =>
      cases h
      exact ⟨rfl, rfl, rfl, rfl⟩
  | some row =>
    cases target with
    | none =>
      cases h
      exact ⟨rfl, rfl, rfl, rfl⟩
    | some other =>
      rw [differenceOf] at h
      split at h
      · cases h
      · rename_i hdiffer
        cases h
        exact ⟨rfl, rfl, rfl, by simp [classOf, hdiffer, DifferenceKind.keyClass]⟩

/-- The differences of a leaf are differences of the tables. -/
theorem trueDifference_of_mem {leaf : Leaf} {segments : List ComparisonSegmentRecord}
    (hreference : leaf.referenceRows.map ExactRow.tableRow
      = (snapshot .reference).rowsIn leaf.record.covers)
    (htarget : leaf.targetRows.map ExactRow.tableRow
      = (snapshot .target).rowsIn leaf.record.covers)
    (hrecord : leaf.record ∈ exactRecords segments) {difference : ExactDifference}
    (h : difference ∈ leaf.differences) : TrueDifference snapshot segments difference := by
  have hfirst := ascending_of_answer hreference
  have hsecond := ascending_of_answer htarget
  have hlisted := (classifies_leafOf hfirst hsecond leaf.record.segmentSequence).differences_eq
  rw [Leaf.differences, hlisted, List.mem_filterMap] at h
  obtain ⟨key, -, hdifference⟩ := h
  have hkey := key_of_differenceOf hfirst hsecond hdifference
  obtain ⟨hsequence, hreferenceRow, htargetRow, hclass⟩ := differenceOf_eq_some hdifference
  have hcovers : leaf.record.covers key = true := by
    have hclassAt := classAt_of_answers hreference htarget key
    by_contra hout
    rw [if_neg hout, classAt, hclass] at hclassAt
    cases hclassAt
  refine ⟨?_, ?_, ?_, leaf.record, hrecord, hsequence.symm, ?_⟩
  · rw [hkey, ← hclass]
    exact ((classAt_of_answers hreference htarget key).trans (if_pos hcovers)).symm
  · rw [hkey, hreferenceRow, envelope_of_answer hreference, if_pos hcovers]
  · rw [hkey, htargetRow, envelope_of_answer htarget, if_pos hcovers]
  · rwa [hkey]

/-- Every record kept as evidence is one of a true difference, at a key of its
own. -/
theorem EvidenceKept.records_true (h : EvidenceKept budgets inputs (truthOf snapshot) progress) :
    ∃ found, RecordedAs inputs found progress.anomalies ∧
      (found.Pairwise fun first second => first.keyRow.keyValue < second.keyRow.keyValue) ∧
      ∀ difference ∈ found, TrueDifference snapshot progress.topology difference := by
  obtain ⟨leaves, records, hleaves, hretains⟩ := h
  have hreference : ∀ leaf ∈ leaves, leaf.referenceRows.map ExactRow.tableRow
      = (snapshot .reference).rowsIn leaf.record.covers := hleaves.reference_known
  have htarget : ∀ leaf ∈ leaves, leaf.targetRows.map ExactRow.tableRow
      = (snapshot .target).rowsIn leaf.record.covers := hleaves.target_known
  refine ⟨(leaves.flatMap Leaf.differences).take progress.anomalies.length, ?_, ?_, ?_⟩
  · have hstarts := List.prefix_iff_eq_take.mp hretains.kept.isPrefix
    rw [hstarts, List.length_take_of_le hretains.kept.isPrefix.length_le]
    exact hretains.recorded.take _
  · refine List.Pairwise.sublist (List.take_sublist _ _) ?_
    refine hleaves.differences_ascending_of (fun leaf hleaf => ?_) (fun leaf hleaf => ?_)
    · exact inside_of_answer (hreference leaf hleaf)
    · exact inside_of_answer (htarget leaf hleaf)
  · intro difference hdifference
    obtain ⟨leaf, hleaf, hmem⟩ := List.mem_flatMap.mp (List.mem_of_mem_take hdifference)
    refine trueDifference_of_mem (hreference leaf hleaf) (htarget leaf hleaf) ?_ hmem
    rw [← hleaves.records_eq]
    exact List.mem_map_of_mem hleaf

theorem TrueDifference.perm {segments others : List ComparisonSegmentRecord}
    {difference : ExactDifference} (h : TrueDifference snapshot segments difference)
    (hperm : segments.Perm others) : TrueDifference snapshot others difference where
  kind_eq := h.kind_eq
  reference_eq := h.reference_eq
  target_eq := h.target_eq
  located := by
    obtain ⟨segment, hsegment, hplace⟩ := h.located
    exact ⟨segment, (hperm.filter _).subset hsegment, hplace⟩

/-! ## Exactness -/

/-- A completed run against connectors that read two tables: where no two
different row multisets it compares collide, its totals are the numbers of keys
of each class, and it matches exactly when the tables are equal; and in any case
what it counts as differences are the true differences of that kind in the
segments it read exactly, each once, and what it records are such differences, at
a key each. -/
theorem drill_down_exactness (snapshot : Side → Snapshot sha256 schema keyFieldIndex)
    (inputs : ComparisonInputs Body) (sources : Sources budgets)
    (hanswers : (truthOf snapshot).Answers sources)
    (artifact : CompletedComparisonArtifact inputs.recordBytes)
    (hrun : (comparisonRun inputs sources).result = .ok (.completed artifact)) :
    (FingerprintsSeparate snapshot artifact.segments →
      (∀ keyClass, (totalOf artifact.totals keyClass).value
        = some (keysOfTrueClass snapshot keyClass).card) ∧
      (artifact.verdict = .match ↔
        ∀ key, (snapshot .reference).envelopeAt key = (snapshot .target).envelopeAt key)) ∧
    (∀ keyClass, keyClass ≠ .matched → (totalOf artifact.totals keyClass).value
      = some (trueKeysIn snapshot keyClass (readExactly artifact.segments)).card) ∧
    ∃ found, RecordedAs inputs found artifact.anomalies ∧
      (found.Pairwise fun first second => first.keyRow.keyValue < second.keyRow.keyValue) ∧
      ∀ difference ∈ found, TrueDifference snapshot artifact.segments difference := by
  have hruns : Ensures (fun _ => True) (fun _ _ => True)
      (executePostgresIntegerKeyComparison inputs sources (sources.initialProgress Body))
      (sources.snapshot sources.start).2 fun outcome now => ∀ artifact,
        outcome = .completed artifact → ∃ maxEncodedRowBytes reference target state last,
          CompletedRun inputs sources (truthOf snapshot) (fun _ _ _ _ => True)
            maxEncodedRowBytes reference target state last artifact now :=
    ensures_comparisonRun (FailureSet.all inputs sources) hanswers (.inr fun _ => trivial)
      (fun _ _ _ _ _ _ => trivial) (fun _ _ => trivial) (fun _ _ _ _ => True)
      (fun _ _ _ _ _ _ => trivial) fun _ _ _ _ _ _ _ _ _ _ _ _ => trivial
  obtain ⟨maxEncodedRowBytes, reference, target, state, last, hcompleted⟩ :=
    hruns.of_result hrun artifact rfl
  have haccounts := hcompleted.loop.sound.accounts
  have hfrontier := hcompleted.loop.finished hcompleted.done
  have hcompletes := hcompleted.completes
  have hperm : artifact.segments.Perm state.progress.topology := by
    rw [hcompletes.segments_eq]
    exact List.perm_insertionSort _ _
  have htotals : ∀ keyClass, (totalOf artifact.totals keyClass).value
      = some (state.progress.completedCounts.of keyClass) := by
    obtain ⟨hmatched, hmissing, hextra, hmodified⟩ := hcompletes.totals_eq
    intro keyClass
    cases keyClass with
    | matched => exact hmatched
    | missing => exact hmissing
    | extra => exact hextra
    | modified => exact hmodified
  refine ⟨fun hseparate => ?_, fun keyClass hclass => ?_, ?_⟩
  · have hcounts : ∀ keyClass, state.progress.completedCounts.of keyClass
        = (keysOfTrueClass snapshot keyClass).card :=
      haccounts.completedCounts_eq hfrontier hcompleted.reference_known hcompleted.target_known
        (hseparate.perm hperm.symm)
    refine ⟨fun keyClass => (htotals keyClass).trans (congrArg some (hcounts keyClass)), ?_⟩
    rw [hcompletes.verdict_eq, forall_envelopeAt_eq_iff]
    have hdifferences : state.progress.completedCounts.differences = 0 ↔
        ∀ keyClass, keyClass ≠ .matched → (keysOfTrueClass snapshot keyClass).card = 0 := by
      rw [ExactCounts.differences]
      constructor
      · intro hzero keyClass hclass
        rw [← hcounts]
        cases keyClass with
        | matched => exact absurd rfl hclass
        | missing => simp only [ExactCounts.of]; omega
        | extra => simp only [ExactCounts.of]; omega
        | modified => simp only [ExactCounts.of]; omega
      · intro hzero
        have hmissing := (hcounts .missing).trans (hzero .missing (by simp))
        have hextra := (hcounts .extra).trans (hzero .extra (by simp))
        have hmodified := (hcounts .modified).trans (hzero .modified (by simp))
        simp only [ExactCounts.of] at hmissing hextra hmodified
        omega
    rw [← hdifferences]
    split <;> simp_all
  · rw [htotals, readExactly_perm hperm, ← haccounts.exactCounts_eq hfrontier,
      Progress.completedCounts_of, if_neg hclass, Nat.zero_add]
  · have hkeeps : Ensures (EvidenceKept budgets inputs (truthOf snapshot)) (fun _ _ => True)
        (executePostgresIntegerKeyComparison inputs sources (sources.initialProgress Body))
        (sources.snapshot sources.start).2 fun outcome _ => ∀ artifact,
          outcome = .completed artifact → ∃ progress,
            EvidenceKept budgets inputs (truthOf snapshot) progress ∧
              artifact.segments = orderedTopology progress.topology ∧
              ReportsEvidence progress artifact.anomalies artifact.evidenceCoverage :=
      kept_comparisonRun hanswers
    obtain ⟨progress, hkept, hsegments, hreports⟩ := hkeeps.of_result hrun artifact rfl
    obtain ⟨found, hrecorded, hordered, htrue⟩ := hkept.records_true
    refine ⟨found, ?_, hordered, fun difference hmem => (htrue difference hmem).perm ?_⟩
    · rwa [hreports.anomalies_eq]
    · rw [hsegments]
      exact (List.perm_insertionSort _ _).symm

/-! The reference has the keys zero and one, the target only zero. -/

/-- The envelope of a row that consists of its key, zero or one. -/
def keyEnvelope (kind : Char) (key : Bool) : Bytes :=
  asciiBytes (['D', 'F', 'E', '1', kind] ++ List.replicate 64 '0' ++ fixedDigits 16 8 1 ++
    ['0', '1', '1'] ++ fixedDigits 16 16 1 ++ ['3', if key = true then '1' else '0'])

def keyRow (key : Bool) : TableRow where
  key := key.toNat
  envelope := keyEnvelope 'R' key

theorem keyRow_int64 (key : Bool) : IsInt64 (keyRow key).key := by
  cases key <;> simp [keyRow, IsInt64, int64Min, int64Max]

theorem keyRow_canonical (key : Bool) :
    IsRowEnvelope zeroDigest idSchema 0 (keyRow key).key (keyRow key).envelope := by
  refine ⟨[some (.integer key.toNat)], ?_, rfl⟩
  cases key <;> rfl

def tableKeys : Side → List Bool
  | .reference => [false, true]
  | .target => [false]

theorem tableKeys_ascending (side : Side) :
    AscendingBy TableRow.key ((tableKeys side).map keyRow) := by
  cases side <;> simp [tableKeys, AscendingBy, keyRow]

/-- The two tables. -/
def tables (side : Side) : Snapshot zeroDigest idSchema 0 where
  rows := (tableKeys side).map keyRow
  ascending := tableKeys_ascending side
  int64 := List.forall_mem_map.mpr fun key _ => keyRow_int64 key
  canonical := List.forall_mem_map.mpr fun key _ => keyRow_canonical key

def exactKeyRow (segmentId : String) (key : Bool) : ExactRow where
  segmentId
  keyValue := (keyRow key).key
  keyEnvelope := keyEnvelope 'K' key
  rowEnvelope := keyEnvelope 'R' key
  values := [some (.integer key.toNat)]
  key_int64 := keyRow_int64 key

/-- The keys of a side that lie in a range. -/
def keysIn (side : Side) (range : RangeRequest) : List Bool :=
  (tableKeys side).filter fun key => range.covers (keyRow key).key

theorem length_keysIn (side : Side) (range : RangeRequest) : (keysIn side range).length < 3 := by
  refine lt_of_le_of_lt (List.length_filter_le _ _) ?_
  cases side <;> simp [tableKeys]

/-- A fingerprint of at most two rows, all of whose limb sums are zero. -/
def countFingerprint (count : Fin 3) : Fingerprint where
  count := count
  limbSums := fun _ => 0
  count_le := le_trans (Fin.is_le count) (Nat.le_add_left 2 (int64Max - 2))
  limb_le := fun _ => Nat.zero_le _
  limb_le_count := fun _ => Nat.zero_le _

/-- Connectors that read the two tables. -/
def tableSources : Sources sampleBudgets :=
  { agreeingSources with
    summary := fun _ side _ =>
      { charges := [.query 1, .records [10]]
        answer := .ok (if side = .reference then sampleSummary else singleSummary) }
    fingerprints := fun _ side request =>
      { charges := [.query 1, .records (request.ranges.map fun _ => 10)]
        answer := .ok
          { ranges := request.ranges.map fun range =>
              { segmentId := range.segmentId
                fingerprint :=
                  countFingerprint ⟨(keysIn side range).length, length_keysIn side range⟩
                rowEnvelopeBytes := 98 * (keysIn side range).length
                keyEnvelopeBytes := 98 * (keysIn side range).length }
            metrics := { fetchedRecords := 0, resultBytes := 0 } } }
    rows := fun _ side request =>
      { charges := [.query 1]
        answer := match request.ranges with
          | [range] => .ok
            { rows := (keysIn side range).map (exactKeyRow range.segmentId)
              metrics :=
                { fetchedRecords := (keysIn side range).length
                  resultBytes := 200 * (keysIn side range).length } }
          | _ => .error (protocolViolation "one range is answered at a time") } }

theorem hashesWeight_tables (rows : List TableRow) :
    hashesWeight (rows.map fun row =>
        ⟨zeroDigest.digest row.envelope, zeroDigest.length_digest row.envelope⟩)
      = (rows.length, 0) := by
  have hlimbs : limbsOf (List.replicate 32 0) = 0 := by
    funext limb
    fin_cases limb <;> rfl
  induction rows with
  | nil => rfl
  | cons row rows ih =>
    change (1, limbsOf (List.replicate 32 0)) + hashesWeight _ = _
    rw [ih, hlimbs, List.length_cons, Prod.mk_add_mk, Nat.add_comm, add_zero]

theorem rowsIn_tables (side : Side) (range : RangeRequest) :
    (tables side).rowsIn range.covers = (keysIn side range).map keyRow := by
  change ((tableKeys side).map keyRow).filter _ = _
  rw [List.filter_map]
  rfl

theorem tableSources_answer : (truthOf tables).Answers tableSources where
  summary := by
    intro index side request answer h
    cases side with
    | reference =>
      have hanswer : sampleSummary = answer := Except.ok.inj h
      rw [← hanswer]
      exact ⟨rfl, rfl, rfl, rfl, rfl, rfl⟩
    | target =>
      have hanswer : singleSummary = answer := Except.ok.inj h
      rw [← hanswer]
      exact ⟨rfl, rfl, rfl, rfl, rfl, rfl⟩
  fingerprint := by
    intro index side request read h item hitem
    simp only [tableSources, Except.ok.injEq] at h
    rw [← h] at hitem
    dsimp only at hitem
    rw [← List.map_prod_left_eq_zip, List.mem_map] at hitem
    obtain ⟨range, -, rfl⟩ := hitem
    change ((keysIn side range).length, (0 : Sha256Limbs)) = hashesWeight _
    rw [Snapshot.hashesIn, hashesWeight_tables, rowsIn_tables, List.length_map]
  rows := by
    intro index side request read h range hrange
    simp only [tableSources] at h
    split at h
    · rename_i only honly
      rw [honly, List.mem_singleton] at hrange
      rw [← Except.ok.inj h, hrange]
      have hall : rowsOf ((keysIn side only).map (exactKeyRow only.segmentId)) only.segmentId
          = (keysIn side only).map (exactKeyRow only.segmentId) := by
        refine List.filter_eq_self.mpr fun row hrow => ?_
        obtain ⟨key, -, rfl⟩ := List.mem_map.mp hrow
        simp [exactKeyRow]
      change (rowsOf _ _).map ExactRow.tableRow = (tables side).rowsIn _
      rw [hall, rowsIn_tables, List.map_map]
      rfl
    · cases h

theorem drill_down_exactness_tables :
    ∃ artifact, (comparisonRun sampleInputs tableSources).result = .ok (.completed artifact) ∧
      (totalOf artifact.totals .missing).value = some 1 ∧
      (totalOf artifact.totals .matched).value = some 1 ∧ artifact.verdict ≠ .match ∧
      ∃ found, RecordedAs sampleInputs found artifact.anomalies ∧
        ∀ difference ∈ found, TrueDifference tables artifact.segments difference := by
  have hsegments : ((completedArtifact? sampleInputs tableSources).map fun artifact =>
      artifact.segments.map fun segment => (segment.lowerInclusive, segment.upperExclusive))
        = some [(0, some 2)] := by
    decide +kernel
  obtain ⟨artifact, hartifact, hplaces⟩ := Option.map_eq_some_iff.mp hsegments
  have hrun := completedArtifact?_eq_some hartifact
  obtain ⟨hexact, -, found, hrecorded, -, htrue⟩ :=
    drill_down_exactness tables sampleInputs tableSources tableSources_answer artifact hrun
  -- the root is the only range compared, and holds two rows and one
  have hseparate : FingerprintsSeparate tables artifact.segments := by
    intro segment hsegment hsame
    have hplace : (segment.lowerInclusive, segment.upperExclusive)
        ∈ [((0 : Int), some (2 : Int))] := hplaces ▸ List.mem_map_of_mem hsegment
    rw [List.mem_singleton, Prod.mk.injEq] at hplace
    have hcovers : segment.covers = inRange 0 (some 2) := by
      funext key
      rw [SegmentPlace.covers, hplace.1, hplace.2]
    rw [hcovers] at hsame
    have hcount := congrArg Prod.fst hsame
    rw [hashesWeight_count, hashesWeight_count] at hcount
    exact absurd hcount (by decide)
  obtain ⟨htotals, hverdict⟩ := hexact hseparate
  have hmissing : (keysOfTrueClass tables .missing).card = 1 := by decide +kernel
  have hmatched : (keysOfTrueClass tables .matched).card = 1 := by decide +kernel
  refine ⟨artifact, hrun, ?_, ?_, fun hmatch => ?_, found, hrecorded, htrue⟩
  · rw [htotals, hmissing]
  · rw [htotals, hmatched]
  · have hequal := hverdict.mp hmatch 1
    exact absurd hequal (by decide +kernel)

end ForensicData.Comparison
