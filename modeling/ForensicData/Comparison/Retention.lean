/-
ForensicData.Comparison.Retention — which differences a run keeps as evidence.

Every difference of every exact leaf is written down and counted; those whose
number and bytes fit the evidence budgets are kept until the first that does
not. `Retains` says so of a list of differences and a progress, one step of it
is `Retains.retain`, and `EvidenceKept` is what the loops over the leaves and
their differences keep: the differences are those of the exact leaves, one leaf
after another, and the leaves are in the order of their ranges.
-/
import ForensicData.Comparison.Recording
import ForensicData.Lib.AffordablePrefix

namespace ForensicData.Comparison

open ForensicData.Canonical
open ForensicData.Lib
open ForensicData.Lib.Generator
open ForensicData.Result

variable {budgets : ExecutionBudgets} {Body : Type} {inputs : ComparisonInputs Body}
  {sources : Sources budgets} {knowledge : Knowledge} {progress : Progress Body}

/-! ## Retention -/

/-- The differences of a leaf, in the order of its merge. -/
def Leaf.differences (leaf : Leaf) : List ExactDifference :=
  (leafOf leaf.record.segmentSequence (align leaf.referenceRows leaf.targetRows)).differences

/-- The records are those of the differences, numbered from zero. -/
def RecordedAs (inputs : ComparisonInputs Body) (found : List ExactDifference)
    (records : List (DifferenceRecord Body)) : Prop :=
  List.Forall₂ (fun item record => differenceRecord inputs item.2 item.1 = .ok record)
    found.zipIdx records

/-- The differences found so far are counted, and the longest prefix of their
records that fits the evidence budgets is kept. -/
structure Retains (budgets : ExecutionBudgets) (inputs : ComparisonInputs Body)
    (found : List ExactDifference) (records : List (DifferenceRecord Body))
    (progress : Progress Body) : Prop where
  recorded : RecordedAs inputs found records
  found_records : progress.foundRecords = records.length
  found_bytes : progress.foundBytes = (records.map inputs.recordBytes).sum
  kept : LongestAffordable inputs.recordBytes budgets.maxEvidenceRows budgets.maxEvidenceBytes
    records progress.anomalies
  retained_bytes : progress.retainedBytes = (progress.anomalies.map inputs.recordBytes).sum
  is_open : progress.retentionOpen = true ↔ progress.anomalies = records

variable {found : List ExactDifference} {records : List (DifferenceRecord Body)}

theorem RecordedAs.length_eq (h : RecordedAs inputs found records) :
    found.length = records.length := by
  rw [← List.Forall₂.length_eq h, List.length_zipIdx]

theorem RecordedAs.snoc {difference : ExactDifference} {record : DifferenceRecord Body}
    (h : RecordedAs inputs found records)
    (hrecord : differenceRecord inputs records.length difference = .ok record) :
    RecordedAs inputs (found ++ [difference]) (records ++ [record]) := by
  rw [RecordedAs, List.zipIdx_append, List.zipIdx_singleton, Nat.zero_add]
  refine List.rel_append h (.cons ?_ .nil)
  rw [h.length_eq]
  exact hrecord

/-- The first records are those of the first differences. -/
theorem RecordedAs.take (h : RecordedAs inputs found records) (count : ℕ) :
    RecordedAs inputs (found.take count) (records.take count) := by
  have hzip : (found.take count).zipIdx = found.zipIdx.take count := by
    refine List.ext_getElem? fun index => ?_
    simp only [List.getElem?_zipIdx, List.getElem?_take]
    split <;> rfl
  rw [RecordedAs, hzip]
  exact List.forall₂_take count h

/-- The records are numbered from zero. -/
theorem RecordedAs.sequences (h : RecordedAs inputs found records) :
    records.map (·.sequence) = List.range records.length := by
  have hsequence : ∀ {item : ExactDifference × ℕ} {record : DifferenceRecord Body},
      differenceRecord inputs item.2 item.1 = .ok record → item.2 = record.sequence := by
    intro item record hrecord
    simp only [differenceRecord, bind_eq_ok, pure_eq_ok] at hrecord
    obtain ⟨body, -, rfl⟩ := hrecord
    rfl
  have hmap : List.Forall₂ (· = ·) (found.zipIdx.map Prod.snd) (records.map (·.sequence)) := by
    rw [List.forall₂_map_left_iff, List.forall₂_map_right_iff]
    exact List.Forall₂.imp (fun _ _ => hsequence) h
  rw [List.forall₂_eq_eq_eq] at hmap
  rw [← hmap, List.zipIdx_map_snd, h.length_eq, List.range_eq_range']

/-- One difference is counted, and kept if everything before it was and it fits. -/
theorem Retains.retain {difference : ExactDifference} {record : DifferenceRecord Body}
    (h : Retains budgets inputs found records progress)
    (hrecord : differenceRecord inputs progress.foundRecords difference = .ok record) :
    Retains budgets inputs (found ++ [difference]) (records ++ [record])
      (progress.retain budgets record (inputs.recordBytes record)) := by
  rw [h.found_records] at hrecord
  have hrecorded := h.recorded.snoc hrecord
  have hcount : progress.foundRecords + 1 = (records ++ [record]).length := by
    rw [h.found_records, List.length_append, List.length_singleton]
  have hbytes : progress.foundBytes + inputs.recordBytes record
      = ((records ++ [record]).map inputs.recordBytes).sum := by
    rw [h.found_bytes, List.map_append, List.sum_append, List.map_singleton, List.sum_singleton]
  -- a record that is dropped leaves what is kept shorter than what is found
  have hshort : progress.anomalies ≠ records ++ [record] := by
    intro heq
    have hlength := h.kept.isPrefix.length_le
    rw [heq, List.length_append, List.length_singleton] at hlength
    omega
  have hdrop : ∀ isOpen : Bool, isOpen = false →
      (progress.anomalies = records → ¬ Affordable inputs.recordBytes budgets.maxEvidenceRows
        budgets.maxEvidenceBytes (records ++ [record])) →
      Retains budgets inputs (found ++ [difference]) (records ++ [record])
        { progress with
          foundRecords := progress.foundRecords + 1
          foundBytes := progress.foundBytes + inputs.recordBytes record
          retentionOpen := isOpen } := by
    intro isOpen hclosed hdropped
    exact
      { recorded := hrecorded
        found_records := hcount
        found_bytes := hbytes
        kept := h.kept.drop hdropped
        retained_bytes := h.retained_bytes
        is_open := by
          rw [hclosed]
          exact iff_of_false (by simp) hshort }
  unfold Progress.retain
  split
  · rename_i hclosed
    refine hdrop progress.retentionOpen hclosed fun hall => ?_
    have hopen := h.is_open.mpr hall
    rw [hclosed] at hopen
    cases hopen
  · rename_i hopen
    have hall : progress.anomalies = records := h.is_open.mp (by simpa using hopen)
    have hretained : progress.retainedBytes = (records.map inputs.recordBytes).sum := by
      rw [h.retained_bytes, hall]
    split
    · rename_i hrows
      refine hdrop false rfl fun _ haffordable => ?_
      have := (affordable_snoc.mp haffordable).1
      rw [hall] at hrows
      omega
    · split
      · rename_i hfits
        refine hdrop false rfl fun _ haffordable => ?_
        have := (affordable_snoc.mp haffordable).2
        omega
      · rename_i hrows hfits
        rw [hall] at hrows
        exact
          { recorded := hrecorded
            found_records := hcount
            found_bytes := hbytes
            kept := by
              simp only [hall]
              exact .keep (affordable_snoc.mpr ⟨by omega, by omega⟩)
            retained_bytes := by
              simp only [hall, List.map_append, List.sum_append, List.map_singleton,
                List.sum_singleton, hretained]
            is_open := iff_of_true (by simpa using hopen) (by simp only [hall]) }

/-- Only what is counted and kept matters. -/
theorem Retains.congr {other : Progress Body} (h : Retains budgets inputs found records progress)
    (hanomalies : other.anomalies = progress.anomalies)
    (hfound : other.foundRecords = progress.foundRecords ∧ other.foundBytes = progress.foundBytes)
    (hretained : other.retainedBytes = progress.retainedBytes ∧
      other.retentionOpen = progress.retentionOpen) :
    Retains budgets inputs found records other where
  recorded := h.recorded
  found_records := hfound.1.trans h.found_records
  found_bytes := hfound.2.trans h.found_bytes
  kept := by
    rw [hanomalies]
    exact h.kept
  retained_bytes := by
    rw [hretained.1, hanomalies]
    exact h.retained_bytes
  is_open := by
    rw [hretained.2, hanomalies]
    exact h.is_open

/-! ## Leaves in order -/

/-- The first place ends before the second begins. -/
def SegmentPlace.Before (first second : SegmentPlace) : Prop :=
  ∃ upper, first.upperExclusive = some upper ∧ upper ≤ second.lowerInclusive

/-- The leaves of a progress: one for each exact segment it recorded, in that
order, which is the order of their ranges. -/
structure LeavesOf (knowledge : Knowledge) (progress : Progress Body) (leaves : List Leaf) :
    Prop where
  records_eq : leaves.map (·.record) = exactRecords progress.topology
  reference_known : ∀ leaf ∈ leaves,
    knowledge.rows .reference (rangeRequest leaf.record.toSegmentPlace) leaf.referenceRows
  target_known : ∀ leaf ∈ leaves,
    knowledge.rows .target (rangeRequest leaf.record.toSegmentPlace) leaf.targetRows
  counts_eq : progress.exactCounts = totalCounts leaves
  ordered : leaves.Pairwise fun first second =>
    first.record.toSegmentPlace.Before second.record.toSegmentPlace

/-- What a progress keeps of the differences of its leaves. -/
def EvidenceKept (budgets : ExecutionBudgets) (inputs : ComparisonInputs Body)
    (knowledge : Knowledge) (progress : Progress Body) : Prop :=
  ∃ leaves records, LeavesOf knowledge progress leaves ∧
    Retains budgets inputs (leaves.flatMap Leaf.differences) records progress

theorem LeavesOf.congr {other : Progress Body} {leaves : List Leaf}
    (h : LeavesOf knowledge progress leaves)
    (htopology : exactRecords other.topology = exactRecords progress.topology)
    (hcounts : other.exactCounts = progress.exactCounts) : LeavesOf knowledge other leaves where
  records_eq := h.records_eq.trans htopology.symm
  reference_known := h.reference_known
  target_known := h.target_known
  counts_eq := hcounts.trans h.counts_eq
  ordered := h.ordered

/-- A step that leaves the exact segments and the evidence alone. -/
theorem EvidenceKept.congr {other : Progress Body}
    (h : EvidenceKept budgets inputs knowledge progress)
    (htopology : exactRecords other.topology = exactRecords progress.topology)
    (hcounts : other.exactCounts = progress.exactCounts)
    (hanomalies : other.anomalies = progress.anomalies)
    (hfound : other.foundRecords = progress.foundRecords ∧ other.foundBytes = progress.foundBytes)
    (hretained : other.retainedBytes = progress.retainedBytes ∧
      other.retentionOpen = progress.retentionOpen) :
    EvidenceKept budgets inputs knowledge other := by
  obtain ⟨leaves, records, hleaves, hretains⟩ := h
  exact ⟨leaves, records, hleaves.congr htopology hcounts,
    hretains.congr hanomalies hfound hretained⟩

theorem exactRecords_append_of_not {topology : List ComparisonSegmentRecord}
    {record : ComparisonSegmentRecord} (h : record.state.isExact = false) :
    exactRecords (topology ++ [record]) = exactRecords topology := by
  simp [exactRecords, h]

/-- Nothing is found in a progress without exact segments. -/
theorem evidenceKept_of_blank (htopology : progress.topology = [])
    (hcounts : progress.exactCounts = .zero) (hanomalies : progress.anomalies = [])
    (hfound : progress.foundRecords = 0 ∧ progress.foundBytes = 0)
    (hretained : progress.retainedBytes = 0 ∧ progress.retentionOpen = true) :
    EvidenceKept budgets inputs knowledge progress := by
  refine ⟨[], [], ⟨?_, by simp, by simp, hcounts, .nil⟩, ⟨.nil, hfound.1, hfound.2, ?_, ?_, ?_⟩⟩
  · rw [htopology]
    rfl
  · rw [hanomalies]
    exact .nil
  · rw [hanomalies]
    exact hretained.1
  · exact iff_of_true hretained.2 hanomalies

/-! ## The loops of a round -/

variable {inv : Progress Body → Prop} {world : World budgets}

/-- All differences of the list are counted, and kept as far as they fit. -/
theorem retains_retainExactDifferences {differences : List ExactDifference}
    (h : Retains budgets inputs found records progress)
    {post : Progress Body → World budgets → Prop}
    (hpost : ∀ after records now, Retains budgets inputs (found ++ differences) records after →
      after.topology = progress.topology → after.exactCounts = progress.exactCounts →
      post after now) :
    Ensures inv (fun _ _ => True) (retainExactDifferences inputs sources progress differences)
      world post := by
  have hfail := FailureSet.all inputs sources
  simp only [retainExactDifferences, ensures_bind, ensures_pure]
  refine Ensures.mono (ensures_fold (fun rest after _ => ∃ done records,
    done ++ rest.map Prod.fst = differences ∧
    Retains budgets inputs (found ++ done) records after ∧
    after.topology = progress.topology ∧ after.exactCounts = progress.exactCounts) ?_ ?_) ?_
  · intro item rest current now hcurrent
    obtain ⟨done, records, hdone, hretains, htopology, hcounts⟩ := hcurrent
    simp only [ensures_bind, ensures_pure]
    refine ensures_requireDeadlineEvery hfail fun w1 _ => ?_
    refine ensures_lift_of (fun _ _ => trivial) fun record hrecord => ?_
    have hnext := hretains.retain hrecord
    rw [List.append_assoc] at hnext
    obtain ⟨ht, -, hc, -⟩ :=
      @Progress.retain_frame budgets _ current record (inputs.recordBytes record)
    refine ⟨done ++ [item.1], _, ?_, hnext, ht.trans htopology, hc.trans hcounts⟩
    rw [← hdone, List.map_cons, List.append_assoc, List.singleton_append]
  · refine ⟨[], records, ?_, ?_, rfl, rfl⟩
    · rw [List.nil_append, List.zipIdx_map_fst]
    · rw [List.append_nil]
      exact h
  · intro after now hafter
    obtain ⟨done, records, hdone, hretains, htopology, hcounts⟩ := hafter
    rw [List.map_nil, List.append_nil] at hdone
    rw [hdone] at hretains
    exact ensures_requireDeadline hfail fun w2 _ =>
      hpost after records w2 hretains htopology hcounts

/-- A classified node becomes an exact segment of its range. -/
theorem exact_classifyExactLeaf {node : FingerprintNode} {referenceRows targetRows : List ExactRow}
    {post : LeafComparison × ComparisonSegmentRecord → World budgets → Prop}
    (hpost : ∀ record now, record.toSegmentPlace = node.segment → record.state.isExact = true →
      post (leafOf node.segment.segmentSequence (align referenceRows targetRows), record) now) :
    Ensures inv (fun _ _ => True) (classifyExactLeaf sources node referenceRows targetRows) world
      post := by
  have hfail : DeadlineStops sources fun _ => True := fun _ _ => trivial
  simp only [classifyExactLeaf, ensures_bind, ensures_pure]
  refine ensures_deadline hfail fun w1 _ => ?_
  refine ensures_refuseWhen trivial fun _ => ?_
  refine ensures_refuseWhen trivial fun _ => ?_
  refine ensures_compareExactRows hfail (fun _ _ _ _ _ _ => trivial) fun w2 _ => ?_
  refine ensures_refuseWhen trivial fun _ => ?_
  refine ensures_refuseWhen trivial fun _ => ?_
  refine ensures_refuseWhen trivial fun _ => ?_
  refine ensures_lift_of (fun _ _ => trivial) fun record hrecord => ?_
  cases hmake : segmentRecord node
      (if (leafOf node.segment.segmentSequence (align referenceRows targetRows)).counts.differences
        = 0 then .exactMatch else .exactMismatch) with
  | error refusal =>
    rw [hmake] at hrecord
    cases hrecord
  | ok made =>
    rw [hmake] at hrecord
    cases hrecord
    obtain ⟨hplace, hstate, -, -⟩ := segmentRecord_eq_ok.mp hmake
    refine hpost record w2 hplace ?_
    rw [hstate]
    split <;> rfl

theorem exactRecords_append_of_exact {topology : List ComparisonSegmentRecord}
    {record : ComparisonSegmentRecord} (h : record.state.isExact = true) :
    exactRecords (topology ++ [record]) = exactRecords topology ++ [record] := by
  simp [exactRecords, h]

/-- An exact segment whose differences are still to be counted joins the leaves. -/
theorem LeavesOf.snoc {other : Progress Body} {leaves : List Leaf} {leaf : Leaf}
    (h : LeavesOf knowledge progress leaves)
    (htopology : exactRecords other.topology = exactRecords progress.topology ++ [leaf.record])
    (hcounts : other.exactCounts = progress.exactCounts.add leaf.counts)
    (hreference : knowledge.rows .reference (rangeRequest leaf.record.toSegmentPlace)
      leaf.referenceRows)
    (htarget : knowledge.rows .target (rangeRequest leaf.record.toSegmentPlace) leaf.targetRows)
    (hbefore : ∀ earlier ∈ leaves,
      earlier.record.toSegmentPlace.Before leaf.record.toSegmentPlace) :
    LeavesOf knowledge other (leaves ++ [leaf]) where
  records_eq := by rw [List.map_append, List.map_singleton, h.records_eq, htopology]
  reference_known := by
    intro item hitem
    rw [List.mem_append, List.mem_singleton] at hitem
    cases hitem with
    | inl hold => exact h.reference_known item hold
    | inr hnew => rwa [hnew]
  target_known := by
    intro item hitem
    rw [List.mem_append, List.mem_singleton] at hitem
    cases hitem with
    | inl hold => exact h.target_known item hold
    | inr hnew => rwa [hnew]
  counts_eq := by rw [hcounts, h.counts_eq, totalCounts_append]
  ordered := by
    rw [List.pairwise_append]
    refine ⟨h.ordered, List.pairwise_singleton _ _, fun earlier hearlier item hitem => ?_⟩
    rw [List.mem_singleton] at hitem
    rw [hitem]
    exact hbefore earlier hearlier

/-- The leaves of an exact frontier, one after another. -/
theorem kept_recordExactLeaves
    (hinv : ∀ p, EvidenceKept budgets inputs knowledge p → inv p)
    {reference target : ExactRowsRead} {nodes : List FingerprintNode}
    (hkept : EvidenceKept budgets inputs knowledge progress)
    (hblank : exactRecords progress.topology = [])
    (hordered : nodes.Pairwise fun first second => first.segment.Before second.segment)
    (hreference : ∀ range ∈ nodes.map (fun node => rangeRequest node.segment),
      knowledge.rows .reference range (rowsOf reference.rows range.segmentId))
    (htarget : ∀ range ∈ nodes.map (fun node => rangeRequest node.segment),
      knowledge.rows .target range (rowsOf target.rows range.segmentId))
    {post : Progress Body → World budgets → Prop}
    (hpost : ∀ after now, EvidenceKept budgets inputs knowledge after → post after now) :
    Ensures inv (fun _ _ => True)
      (recordExactLeaves inputs sources progress reference target nodes) world post := by
  obtain ⟨leaves, records, hleaves, hretains⟩ := hkept
  have hnil : leaves = [] := by
    have := hleaves.records_eq
    rw [hblank, List.map_eq_nil_iff] at this
    exact this
  refine Ensures.mono (ensures_fold (fun rest after _ => rest <:+ nodes ∧ ∃ leaves records,
    LeavesOf knowledge after leaves ∧
    Retains budgets inputs (leaves.flatMap Leaf.differences) records after ∧
    ∀ leaf ∈ leaves, ∀ node ∈ rest, leaf.record.toSegmentPlace.Before node.segment) ?_ ?_) ?_
  · intro node rest current now hcurrent
    obtain ⟨hsuffix, leaves, records, hleaves, hretains, hbefore⟩ := hcurrent
    have hmem : node ∈ nodes := hsuffix.subset List.mem_cons_self
    have hafter : ∀ later ∈ rest, node.segment.Before later.segment :=
      (List.pairwise_cons.mp (hordered.sublist hsuffix.sublist)).1
    have hrange : rangeRequest node.segment ∈ nodes.map fun node => rangeRequest node.segment :=
      List.mem_map.mpr ⟨node, hmem, rfl⟩
    simp only [ensures_bind, ensures_yield, ensures_pure]
    refine exact_classifyExactLeaf fun record w1 hplace hexact => ?_
    let leaf : Leaf :=
      { record
        referenceRows := rowsOf reference.rows (segmentId node.segment.segmentSequence)
        targetRows := rowsOf target.rows (segmentId node.segment.segmentSequence) }
    have hdifferences : (leafOf node.segment.segmentSequence
        (align leaf.referenceRows leaf.targetRows)).differences = leaf.differences := by
      rw [Leaf.differences]
      change _ = (leafOf record.toSegmentPlace.segmentSequence _).differences
      rw [hplace]
    have hretained : Retains budgets inputs (leaves.flatMap Leaf.differences) records
        { current with
          exactCounts := current.exactCounts.add leaf.counts
          exactSegments := current.exactSegments + 1
          topology := current.topology ++ [record]
          pending := withoutPendingSequence current.pending node.segment.segmentSequence
          mismatchWitnesses := withoutMismatchWitness current.mismatchWitnesses
            node.segment.segmentSequence } :=
      hretains.congr rfl ⟨rfl, rfl⟩ ⟨rfl, rfl⟩
    refine retains_retainExactDifferences hretained fun after records' w2 hafterRetains htopology
      hcounts => ?_
    have hleaves' : LeavesOf knowledge after (leaves ++ [leaf]) := by
      refine hleaves.snoc ?_ hcounts ?_ ?_ fun earlier hearlier => ?_
      · rw [htopology, exactRecords_append_of_exact hexact]
      · rw [hplace]
        exact hreference _ hrange
      · rw [hplace]
        exact htarget _ hrange
      · rw [hplace]
        exact hbefore earlier hearlier node List.mem_cons_self
    have hfound : leaves.flatMap Leaf.differences
        ++ (leafOf node.segment.segmentSequence (align leaf.referenceRows leaf.targetRows)).differences
          = (leaves ++ [leaf]).flatMap Leaf.differences := by
      rw [hdifferences, List.flatMap_append, List.flatMap_singleton]
    have hretains' : Retains budgets inputs ((leaves ++ [leaf]).flatMap Leaf.differences) records'
        after := by
      rw [← hfound]
      exact hafterRetains
    refine ⟨hinv _ ⟨_, _, hleaves', hretains'⟩, (List.suffix_cons _ _).trans hsuffix, _, _, hleaves',
      hretains', fun item hitem later hlater => ?_⟩
    rw [List.mem_append, List.mem_singleton] at hitem
    cases hitem with
    | inl hold => exact hbefore item hold later (List.mem_cons_of_mem _ hlater)
    | inr hnew =>
      rw [hnew]
      change record.toSegmentPlace.Before later.segment
      rw [hplace]
      exact hafter later hlater
  · exact ⟨List.suffix_rfl, leaves, records, hleaves, hretains, by simp [hnil]⟩
  · intro after now hafter
    obtain ⟨-, leaves, records, hleaves, hretains, -⟩ := hafter
    exact hpost after now ⟨leaves, records, hleaves, hretains⟩

end ForensicData.Comparison
