/-
ForensicData.Comparison.Totals — what the totals of a finished loop add up to.

Every terminal segment is a fingerprint match or a classified leaf, and both
close to the row counts of their fingerprints (`Accounts.counts_reference`,
`Accounts.counts_target`); a run found a difference exactly when it recorded a
mismatching leaf (`Accounts.differences_pos_iff`). Where every split closes, the
terminal segments add up to the root (`Frontier.root_weight`).
-/
import ForensicData.Lib.ParentSum
import ForensicData.Comparison.Levels

namespace ForensicData.Comparison

open ForensicData.Canonical
open ForensicData.Result

variable {Body : Type} {knowledge : Knowledge} {progress : Progress Body}

/-! ## Terminal segments -/

/-- A sum over the terminal segments, matches and leaves apart. -/
theorem sum_terminalRecords {M : Type} [AddCommMonoid M] (value : ComparisonSegmentRecord → M)
    (topology : List ComparisonSegmentRecord) :
    ((terminalRecords topology).map value).sum
      = ((matchRecords topology).map value).sum + ((exactRecords topology).map value).sum := by
  rw [terminalRecords, matchRecords, exactRecords, Lib.sum_map_filter_eq_ite,
    Lib.sum_map_filter_eq_ite, Lib.sum_map_filter_eq_ite, ← List.sum_map_add]
  refine congrArg List.sum (List.map_congr_left fun record _ => ?_)
  cases record.state <;>
    simp [ComparisonSegmentState.isTerminal, ComparisonSegmentState.isExact]

/-- A matched segment has the same fingerprint on both sides. -/
theorem fingerprints_eq_of_mem_matchRecords {topology : List ComparisonSegmentRecord}
    {record : ComparisonSegmentRecord} (h : record ∈ matchRecords topology) :
    record.referenceFingerprint = record.targetFingerprint := by
  have hstate : record.state = .fingerprintMatch := by simpa using List.of_mem_filter h
  exact record.agrees.mp (by rw [hstate]; rfl)

/-- A field of the counts that every leaf closes to a value of its segment adds
up over the exact segments. -/
theorem Accounts.sum_exactRecords (h : Accounts knowledge progress) (field : ExactCounts → ℕ)
    (hzero : field .zero = 0) (hadd : ∀ a b, field (a.add b) = field a + field b)
    (value : ComparisonSegmentRecord → ℕ)
    (hleaf : ∀ leaf : Leaf, leaf.Classified knowledge → field leaf.counts = value leaf.record) :
    field progress.exactCounts = ((exactRecords progress.topology).map value).sum := by
  obtain ⟨leaves, hrecords, hclassified, hcounts⟩ := h.leaves
  rw [hcounts, totalCounts_sum field hzero hadd, ← hrecords, List.map_map]
  refine congrArg List.sum (List.map_congr_left fun leaf hmem => ?_)
  exact hleaf leaf (hclassified leaf hmem)

theorem Accounts.counts_reference (h : Accounts knowledge progress) :
    progress.completedCounts.matched + progress.completedCounts.missing
        + progress.completedCounts.modified
      = ((terminalRecords progress.topology).map fun record =>
          record.referenceFingerprint.count).sum := by
  have hexact := h.sum_exactRecords (fun counts => counts.matched + counts.missing + counts.modified)
    rfl (fun a b => by simp only [ExactCounts.add]; omega)
    (fun record => record.referenceFingerprint.count) fun leaf hleaf => hleaf.closes.1
  rw [sum_terminalRecords, ← h.pruned_matched, ← hexact]
  simp only [Progress.completedCounts]
  omega

theorem Accounts.counts_target (h : Accounts knowledge progress) :
    progress.completedCounts.matched + progress.completedCounts.extra
        + progress.completedCounts.modified
      = ((terminalRecords progress.topology).map fun record =>
          record.targetFingerprint.count).sum := by
  have hexact := h.sum_exactRecords (fun counts => counts.matched + counts.extra + counts.modified)
    rfl (fun a b => by simp only [ExactCounts.add]; omega)
    (fun record => record.targetFingerprint.count) fun leaf hleaf => hleaf.closes.2
  have hpruned : ((matchRecords progress.topology).map fun record =>
        record.targetFingerprint.count).sum = progress.prunedMatched := by
    rw [h.pruned_matched]
    refine congrArg List.sum (List.map_congr_left fun record hrecord => ?_)
    rw [fingerprints_eq_of_mem_matchRecords hrecord]
  rw [sum_terminalRecords, hpruned, ← hexact]
  simp only [Progress.completedCounts]
  omega

/-- Every exact segment is a mismatch. -/
theorem Accounts.exact_mismatch (h : Accounts knowledge progress) :
    ∀ record ∈ exactRecords progress.topology, record.state = .exactMismatch := by
  obtain ⟨leaves, hrecords, hclassified, -⟩ := h.leaves
  intro record hrecord
  rw [← hrecords, List.mem_map] at hrecord
  obtain ⟨leaf, hleaf, rfl⟩ := hrecord
  exact (hclassified leaf hleaf).state_eq

/-- A run has found differences exactly when it recorded a mismatching leaf. -/
theorem Accounts.differences_pos_iff (h : Accounts knowledge progress) :
    0 < progress.completedCounts.differences ↔
      ∃ record ∈ progress.topology, record.state = .exactMismatch := by
  obtain ⟨leaves, hrecords, hclassified, hcounts⟩ := h.leaves
  have hdifferences : progress.completedCounts.differences
      = (leaves.map fun leaf => leaf.counts.differences).sum := by
    rw [← totalCounts_sum ExactCounts.differences rfl
      (fun a b => by simp only [ExactCounts.add, ExactCounts.differences]; omega), ← hcounts]
    rfl
  have hmem : (∃ record ∈ progress.topology, record.state = .exactMismatch) ↔
      exactRecords progress.topology ≠ [] := by
    rw [ne_eq, List.eq_nil_iff_forall_not_mem, not_forall_not]
    constructor
    · rintro ⟨record, hrecord, hstate⟩
      refine ⟨record, List.mem_filter.mpr ⟨hrecord, ?_⟩⟩
      rw [hstate]
      rfl
    · rintro ⟨record, hrecord⟩
      exact ⟨record, List.mem_of_mem_filter hrecord, h.exact_mismatch record hrecord⟩
  rw [hdifferences, hmem, ← hrecords]
  cases leaves with
  | nil => simp
  | cons leaf rest =>
    have := (hclassified leaf List.mem_cons_self).differs
    simp only [List.map_cons, List.sum_cons, ne_eq, reduceCtorEq, not_false_eq_true, iff_true]
    omega

/-! ## The root -/

/-- The recorded root of a finished topology. -/
theorem Frontier.exists_root {root : SegmentPlace} {topology : List ComparisonSegmentRecord}
    (h : Frontier root topology []) :
    ∃ record ∈ topology, record.toSegmentPlace = root := by
  have hmem := h.root_mem
  rwa [places, List.append_nil, List.mem_map] at hmem

/-- Only the root has no parent. -/
theorem Frontier.filter_roots {root : SegmentPlace} {topology : List ComparisonSegmentRecord}
    (h : Frontier root topology []) (hroot : root.IsRoot) {record : ComparisonSegmentRecord}
    (hmem : record ∈ topology) (hplace : record.toSegmentPlace = root) :
    topology.filter (fun other => other.parentSegmentSequence.isNone) = [record] := by
  have hnodup := h.topology_nodup
  have hsame : ∀ other ∈ topology, other.parentSegmentSequence = none → other = record := by
    intro other hother hnone
    have hin : other.toSegmentPlace ∈ places topology [] :=
      List.mem_append_left _ (List.mem_map.mpr ⟨other, hother, rfl⟩)
    obtain heq | ⟨parent, -, -, hparent⟩ := h.rooted _ hin
    · refine List.inj_on_of_nodup_map hnodup hother hmem ?_
      rw [heq, hplace]
    · rw [hnone] at hparent
      simp at hparent
  have hself : record.parentSegmentSequence.isNone = true := by
    rw [hplace, hroot.2.1]
    rfl
  refine List.perm_singleton.mp ((List.perm_ext_iff_of_nodup ?_ (List.nodup_singleton _)).mpr ?_)
  · exact (List.Nodup.of_map _ hnodup).filter _
  · intro other
    rw [List.mem_filter, List.mem_singleton, Option.isNone_iff_eq_none]
    constructor
    · exact fun hother => hsame other hother.1 hother.2
    · rintro rfl
      exact ⟨hmem, by simpa using hself⟩

/-- Where every split closes, the terminal segments add up to the root. -/
theorem Frontier.root_weight {root : SegmentPlace} {topology : List ComparisonSegmentRecord}
    (h : Frontier root topology []) (hroot : root.IsRoot)
    (hclosed : ∀ record ∈ topology, record.state = .split → SplitCloses topology record)
    {record : ComparisonSegmentRecord} (hmem : record ∈ topology)
    (hplace : record.toSegmentPlace = root) :
    ((terminalRecords topology).map fun other => pairWeight (recordPair other).2).sum
      = pairWeight (recordPair record).2 := by
  have hnodup := h.topology_nodup
  have hsplit : ∀ other : ComparisonSegmentRecord,
      (!other.state.isTerminal) = true ↔ other.state = .split := by
    intro other
    cases other.state <;> simp [ComparisonSegmentState.isTerminal]
  have hsum : ((topology.filter fun r => !(!r.state.isTerminal)).map
        fun r => pairWeight (recordPair r).2).sum
      = ((topology.filter fun r => r.parentSegmentSequence.isNone).map
        fun r => pairWeight (recordPair r).2).sum := by
    refine Lib.sum_terminal_eq_sum_root hnodup ?_ ?_
    · intro other hother parent hparent
      have hin : other.toSegmentPlace ∈ places topology [] :=
        List.mem_append_left _ (List.mem_map.mpr ⟨other, hother, rfl⟩)
      obtain heq | ⟨above, habove, hstate, heq⟩ := h.rooted _ hin
      · rw [heq, hroot.2.1] at hparent
        simp at hparent
      · rw [hparent, Option.some.injEq] at heq
        exact ⟨above, habove, heq.symm, (hsplit above).mpr hstate⟩
    · intro other hother hstate
      have := hclosed other hother ((hsplit other).mp hstate)
      rw [SplitCloses, childWeight, List.filter_map, List.map_map] at this
      exact this
  rw [h.filter_roots hroot hmem hplace] at hsum
  simpa [terminalRecords] using hsum

end ForensicData.Comparison
