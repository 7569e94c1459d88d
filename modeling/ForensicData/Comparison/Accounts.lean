/-
ForensicData.Comparison.Accounts — what the counters of a run count.

`Accounts` ties the counters of a progress to its topology: pruned segments and
rows to the fingerprint matches, exact counts to the leaves that were merged.
`Evidence` ties the retained records to the found ones. `Sound` puts both
together with the frontier: it is what every progress satisfies that the
engine yields once the key summaries are verified.

A connector may be known to answer in a certain way. `Knowledge` is what is
known of the answers, `Knowledge.Answers` that the connectors keep to it; with
the trivial knowledge (`Knowledge.none`) every sequence of replies does.
-/
import ForensicData.Comparison.Frontier
import ForensicData.Comparison.Leaves

namespace ForensicData.Comparison

open ForensicData.Canonical
open ForensicData.Lib
open ForensicData.Result

variable {budgets : ExecutionBudgets} {Body : Type}

/-! ## Known answers -/

/-- What is known of the key summary a side answers, and of the fingerprint and
the rows it answers for a range. -/
structure Knowledge where
  summary : Side → KeySummary → Prop
  fingerprint : Side → RangeRequest → Fingerprint → Prop
  rows : Side → RangeRequest → List ExactRow → Prop

/-- Nothing is known. -/
def Knowledge.none : Knowledge where
  summary := fun _ _ => True
  fingerprint := fun _ _ _ => True
  rows := fun _ _ _ => True

/-- Every answer of the connectors is as the knowledge says. -/
structure Knowledge.Answers (knowledge : Knowledge) (sources : Sources budgets) : Prop where
  summary : ∀ index side request answer,
    (sources.summary index side request).answer = .ok answer → knowledge.summary side answer
  fingerprint : ∀ index side request read,
    (sources.fingerprints index side request).answer = .ok read →
      ∀ item ∈ request.ranges.zip read.ranges,
        knowledge.fingerprint side item.1 item.2.fingerprint
  rows : ∀ index side request read, (sources.rows index side request).answer = .ok read →
    ∀ range ∈ request.ranges, knowledge.rows side range (rowsOf read.rows range.segmentId)

theorem Knowledge.none_answers (sources : Sources budgets) : Knowledge.none.Answers sources where
  summary := fun _ _ _ _ _ => trivial
  fingerprint := fun _ _ _ _ _ _ _ => trivial
  rows := fun _ _ _ _ _ _ _ => trivial

/-! ## Leaves -/

/-- A recorded exact leaf with the rows it was classified from. -/
structure Leaf where
  record : ComparisonSegmentRecord
  referenceRows : List ExactRow
  targetRows : List ExactRow

def Leaf.counts (leaf : Leaf) : ExactCounts :=
  pairingCounts (align leaf.referenceRows leaf.targetRows)

/-- The leaf was recorded as a mismatch, from as many rows as its fingerprints
count, and its rows differ. -/
structure Leaf.Classified (knowledge : Knowledge) (leaf : Leaf) : Prop where
  state_eq : leaf.record.state = .exactMismatch
  reference_length : leaf.referenceRows.length = leaf.record.referenceFingerprint.count
  target_length : leaf.targetRows.length = leaf.record.targetFingerprint.count
  differs : 0 < leaf.counts.differences
  reference_known : knowledge.rows .reference (rangeRequest leaf.record.toSegmentPlace)
    leaf.referenceRows
  target_known : knowledge.rows .target (rangeRequest leaf.record.toSegmentPlace) leaf.targetRows

/-- The counts of several leaves. -/
def totalCounts (leaves : List Leaf) : ExactCounts :=
  leaves.foldl (fun counts leaf => counts.add leaf.counts) .zero

theorem totalCounts_append (leaves : List Leaf) (leaf : Leaf) :
    totalCounts (leaves ++ [leaf]) = (totalCounts leaves).add leaf.counts := by
  simp [totalCounts]

/-- Adding up a field of the counts. -/
theorem totalCounts_sum (field : ExactCounts → ℕ) (hzero : field .zero = 0)
    (hadd : ∀ a b, field (a.add b) = field a + field b) (leaves : List Leaf) :
    field (totalCounts leaves) = (leaves.map fun leaf => field leaf.counts).sum := by
  induction leaves using List.reverseRecOn with
  | nil => simpa [totalCounts] using hzero
  | append_singleton leaves leaf ih =>
    rw [totalCounts_append, hadd, ih]
    simp

/-- A leaf's counts close to the rows of its record. -/
theorem Leaf.Classified.closes {knowledge : Knowledge} {leaf : Leaf}
    (h : leaf.Classified knowledge) :
    leaf.counts.matched + leaf.counts.missing + leaf.counts.modified
        = leaf.record.referenceFingerprint.count ∧
      leaf.counts.matched + leaf.counts.extra + leaf.counts.modified
        = leaf.record.targetFingerprint.count := by
  obtain ⟨hreference, htarget, -⟩ :=
    pairingCounts_closes (align leaf.referenceRows leaf.targetRows) 0
  rw [align_reference] at hreference
  rw [align_target] at htarget
  exact ⟨hreference.trans h.reference_length, htarget.trans h.target_length⟩

/-! ## Counters -/

def matchRecords (topology : List ComparisonSegmentRecord) : List ComparisonSegmentRecord :=
  topology.filter fun record => decide (record.state = .fingerprintMatch)

def exactRecords (topology : List ComparisonSegmentRecord) : List ComparisonSegmentRecord :=
  topology.filter fun record => record.state.isExact

/-- The counters of a progress count its topology. -/
structure Accounts (knowledge : Knowledge) (progress : Progress Body) : Prop where
  known : ∀ record ∈ progress.topology,
    knowledge.fingerprint .reference (rangeRequest record.toSegmentPlace)
        record.referenceFingerprint ∧
      knowledge.fingerprint .target (rangeRequest record.toSegmentPlace) record.targetFingerprint
  pruned_segments : progress.prunedSegments = (matchRecords progress.topology).length
  pruned_matched : progress.prunedMatched =
    ((matchRecords progress.topology).map fun record => record.referenceFingerprint.count).sum
  exact_segments : progress.exactSegments = (exactRecords progress.topology).length
  leaves : ∃ leaves : List Leaf, leaves.map (·.record) = exactRecords progress.topology ∧
    (∀ leaf ∈ leaves, leaf.Classified knowledge) ∧ progress.exactCounts = totalCounts leaves

/-- The retained records are the first of the found ones and fit the evidence
budgets. -/
structure Evidence (budgets : ExecutionBudgets) (recordBytes : DifferenceRecord Body → ℕ)
    (progress : Progress Body) : Prop where
  numbered : progress.anomalies.map (·.sequence) = List.range progress.anomalies.length
  open_eq : progress.retentionOpen = true → progress.anomalies.length = progress.foundRecords
  length_le : progress.anomalies.length ≤ progress.foundRecords
  retained_eq : progress.retainedBytes = (progress.anomalies.map recordBytes).sum
  bytes_le : progress.retainedBytes ≤ progress.foundBytes
  rows_limit : progress.anomalies.length ≤ budgets.maxEvidenceRows
  bytes_limit : progress.retainedBytes ≤ budgets.maxEvidenceBytes
  in_mismatch : ∀ anomaly ∈ progress.anomalies, InExactMismatch progress.topology anomaly

/-- What every yielded progress satisfies once the summaries are verified.
`owed` differences are counted but not yet found: none at a yield. -/
structure Sound (budgets : ExecutionBudgets) (recordBytes : DifferenceRecord Body → ℕ)
    (knowledge : Knowledge) (root : SegmentPlace) (owed : ℕ) (progress : Progress Body) : Prop where
  verified : progress.summariesVerified = true
  frontier : Frontier root progress.topology progress.pending
  depth_le : ∀ place ∈ places progress.topology progress.pending, place.depth ≤ budgets.maxDepth
  witnesses : ∀ witness ∈ progress.mismatchWitnesses,
    witness.agrees = false ∧ witness.segment ∈ progress.pending
  accounts : Accounts knowledge progress
  evidence : Evidence budgets recordBytes progress
  found_eq : progress.foundRecords + owed = progress.exactCounts.differences

section

variable {owed : ℕ} {recordBytes : DifferenceRecord Body → ℕ} {knowledge : Knowledge} {root : SegmentPlace}
  {progress : Progress Body} {node : FingerprintNode} {record : ComparisonSegmentRecord}

/-- `_segment_record` gives a record of the node's place and fingerprints. -/
theorem segmentRecord_eq_ok {state : ComparisonSegmentState} :
    segmentRecord node state = .ok record ↔
      record.toSegmentPlace = node.segment ∧ record.state = state ∧
        record.referenceFingerprint = node.reference.fingerprint ∧
          record.targetFingerprint = node.target.fingerprint :=
  ComparisonSegmentRecord.make_eq_ok

/-- A node is recorded in a matched state when its fingerprints agree, in any
other when they differ. -/
theorem segmentRecord_of_wellPlaced (state : ComparisonSegmentState)
    (hplaced : node.segment.WellPlaced) (hagrees : state.isMatched = node.agrees) :
    ∃ record, segmentRecord node state = .ok record := by
  have hstate : state.isMatched = true ↔
      node.reference.fingerprint = node.target.fingerprint := by
    rw [hagrees, FingerprintNode.agrees, decide_eq_true_eq]
  refine ⟨{ node.segment with
      state, referenceFingerprint := node.reference.fingerprint
      targetFingerprint := node.target.fingerprint, placed := hplaced, agrees := hstate }, ?_⟩
  exact segmentRecord_eq_ok.mpr ⟨rfl, rfl, rfl, rfl⟩

/-- What is known of both fingerprints of a node. -/
def FingerprintNode.Known (knowledge : Knowledge) (node : FingerprintNode) : Prop :=
  knowledge.fingerprint .reference (rangeRequest node.segment) node.reference.fingerprint ∧
    knowledge.fingerprint .target (rangeRequest node.segment) node.target.fingerprint

theorem Accounts.known_append {state : ComparisonSegmentState} (h : Accounts knowledge progress)
    (hrecord : segmentRecord node state = .ok record) (hknown : node.Known knowledge) :
    ∀ other ∈ progress.topology ++ [record],
      knowledge.fingerprint .reference (rangeRequest other.toSegmentPlace)
          other.referenceFingerprint ∧
        knowledge.fingerprint .target (rangeRequest other.toSegmentPlace)
          other.targetFingerprint := by
  intro other hother
  rw [List.mem_append, List.mem_singleton] at hother
  cases hother with
  | inl hold => exact h.known other hold
  | inr heq =>
    obtain ⟨hplace, _, hreference, htarget⟩ := segmentRecord_eq_ok.mp hrecord
    rw [heq, hplace, hreference, htarget]
    exact hknown

/-! ## One step of the accounts -/

/-- A matching node is recorded and its rows are counted as matched. -/
theorem Accounts.recordMatch {pending : List PendingSegment} (h : Accounts knowledge progress)
    (hrecord : segmentRecord node .fingerprintMatch = .ok record) (hknown : node.Known knowledge) :
    Accounts knowledge
      { progress with
        topology := progress.topology ++ [record]
        pending
        prunedMatched := progress.prunedMatched + node.reference.fingerprint.count
        prunedSegments := progress.prunedSegments + 1 } := by
  obtain ⟨_, hstate, hreference, _⟩ := segmentRecord_eq_ok.mp hrecord
  have hmatch : matchRecords (progress.topology ++ [record])
      = matchRecords progress.topology ++ [record] := by
    simp [matchRecords, hstate]
  have hexact : exactRecords (progress.topology ++ [record]) = exactRecords progress.topology := by
    simp [exactRecords, hstate, ComparisonSegmentState.isExact]
  exact
    { known := h.known_append hrecord hknown
      pruned_segments := by
        simp only [hmatch, List.length_append, List.length_singleton, h.pruned_segments]
      pruned_matched := by
        simp only [hmatch, List.map_append, List.map_cons, List.map_nil, List.sum_append,
          List.sum_singleton, h.pruned_matched, hreference]
      exact_segments := by simp only [hexact, h.exact_segments]
      leaves := by
        simp only [hexact]
        exact h.leaves }

/-- A node is recorded as split; nothing is counted. -/
theorem Accounts.recordSplit {pending : List PendingSegment} {witnesses : List FingerprintNode}
    (h : Accounts knowledge progress) (hrecord : segmentRecord node .split = .ok record)
    (hknown : node.Known knowledge) :
    Accounts knowledge
      { progress with
        topology := progress.topology ++ [record], pending, mismatchWitnesses := witnesses } := by
  obtain ⟨_, hstate, _, _⟩ := segmentRecord_eq_ok.mp hrecord
  have hmatch : matchRecords (progress.topology ++ [record])
      = matchRecords progress.topology := by
    simp [matchRecords, hstate]
  have hexact : exactRecords (progress.topology ++ [record]) = exactRecords progress.topology := by
    simp [exactRecords, hstate, ComparisonSegmentState.isExact]
  exact
    { known := h.known_append hrecord hknown
      pruned_segments := by simp only [hmatch, h.pruned_segments]
      pruned_matched := by simp only [hmatch, h.pruned_matched]
      exact_segments := by simp only [hexact, h.exact_segments]
      leaves := by
        simp only [hexact]
        exact h.leaves }

/-- A classified leaf is recorded and its counts are added. -/
theorem Accounts.recordLeaf {pending : List PendingSegment} {witnesses : List FingerprintNode}
    {leaf : Leaf} (h : Accounts knowledge progress)
    (hrecord : segmentRecord node .exactMismatch = .ok record) (hknown : node.Known knowledge)
    (hleaf : leaf.record = record) (hclassified : leaf.Classified knowledge) :
    Accounts knowledge
      { progress with
        exactCounts := progress.exactCounts.add leaf.counts
        exactSegments := progress.exactSegments + 1
        topology := progress.topology ++ [record], pending, mismatchWitnesses := witnesses } := by
  obtain ⟨_, hstate, _, _⟩ := segmentRecord_eq_ok.mp hrecord
  have hmatch : matchRecords (progress.topology ++ [record])
      = matchRecords progress.topology := by
    simp [matchRecords, hstate]
  have hexact : exactRecords (progress.topology ++ [record])
      = exactRecords progress.topology ++ [record] := by
    simp [exactRecords, hstate, ComparisonSegmentState.isExact]
  obtain ⟨leaves, hmap, hall, hcounts⟩ := h.leaves
  exact
    { known := h.known_append hrecord hknown
      pruned_segments := by simp only [hmatch, h.pruned_segments]
      pruned_matched := by simp only [hmatch, h.pruned_matched]
      exact_segments := by
        simp only [hexact, List.length_append, List.length_singleton, h.exact_segments]
      leaves := by
        refine ⟨leaves ++ [leaf], ?_, ?_, ?_⟩
        · simp only [hexact, List.map_append, hmap, List.map_cons, List.map_nil, hleaf]
        · intro other hother
          rw [List.mem_append, List.mem_singleton] at hother
          obtain hother | rfl := hother
          · exact hall other hother
          · exact hclassified
        · simp only [totalCounts_append, hcounts] }

/-! ## One step of the evidence -/

/-- The topology only grows, so evidence stays in its segments. -/
theorem InExactMismatch.append {topology : List ComparisonSegmentRecord}
    {anomaly : DifferenceRecord Body} (h : InExactMismatch topology anomaly)
    (more : List ComparisonSegmentRecord) : InExactMismatch (topology ++ more) anomaly := by
  obtain ⟨segment, hmem, hsegment⟩ := h
  exact ⟨segment, List.mem_append_left _ hmem, hsegment⟩

/-- A difference is counted, and kept if it fits. -/
theorem Evidence.retain {difference : DifferenceRecord Body}
    (h : Evidence budgets recordBytes progress)
    (hsequence : difference.sequence = progress.foundRecords)
    (hmismatch : InExactMismatch progress.topology difference) :
    Evidence budgets recordBytes
      (progress.retain budgets difference (recordBytes difference)) := by
  unfold Progress.retain
  have hlength := h.length_le
  have hbytes := h.bytes_le
  have hdrop : ∀ isOpen : Bool, (isOpen = true → False) → Evidence budgets recordBytes
      { progress with
        foundRecords := progress.foundRecords + 1
        foundBytes := progress.foundBytes + recordBytes difference
        retentionOpen := isOpen } := by
    intro isOpen hclosed
    exact
      { numbered := h.numbered
        open_eq := fun hopen => (hclosed hopen).elim
        length_le := by simp only; omega
        retained_eq := h.retained_eq
        bytes_le := by simp only; omega
        rows_limit := h.rows_limit
        bytes_limit := h.bytes_limit
        in_mismatch := h.in_mismatch }
  split
  · rename_i hclosed
    have := hdrop progress.retentionOpen (by simp [hclosed])
    exact this
  · split
    · exact hdrop false (by simp)
    · split
      · exact hdrop false (by simp)
      · rename_i hopen hrows hfits
        have hfound := h.open_eq (by simpa using hopen)
        exact
          { numbered := by
              simp only [List.map_append, List.map_cons, List.map_nil, List.length_append,
                List.length_singleton, List.range_succ, h.numbered, hsequence, hfound]
            open_eq := fun _ => by simp only [List.length_append, List.length_singleton, hfound]
            length_le := by simp only [List.length_append, List.length_singleton]; omega
            retained_eq := by
              simp only [List.map_append, List.map_cons, List.map_nil, List.sum_append,
                List.sum_singleton, h.retained_eq]
            bytes_le := by simp only; omega
            rows_limit := by simp only [List.length_append, List.length_singleton]; omega
            bytes_limit := by simp only; omega
            in_mismatch := by
              intro anomaly hanomaly
              simp only [List.mem_append, List.mem_singleton] at hanomaly
              obtain hold | rfl := hanomaly
              · exact h.in_mismatch anomaly hold
              · exact hmismatch }

/-- What retaining a difference leaves alone. -/
theorem Progress.retain_frame (difference : DifferenceRecord Body) (bytes : ℕ) :
    (progress.retain budgets difference bytes).topology = progress.topology ∧
      (progress.retain budgets difference bytes).pending = progress.pending ∧
      (progress.retain budgets difference bytes).exactCounts = progress.exactCounts ∧
      (progress.retain budgets difference bytes).prunedMatched = progress.prunedMatched ∧
      (progress.retain budgets difference bytes).prunedSegments = progress.prunedSegments ∧
      (progress.retain budgets difference bytes).exactSegments = progress.exactSegments ∧
      (progress.retain budgets difference bytes).summariesVerified = progress.summariesVerified ∧
      (progress.retain budgets difference bytes).mismatchWitnesses
        = progress.mismatchWitnesses ∧
      (progress.retain budgets difference bytes).usage = progress.usage ∧
      (progress.retain budgets difference bytes).foundRecords = progress.foundRecords + 1 := by
  unfold Progress.retain
  split
  · exact ⟨rfl, rfl, rfl, rfl, rfl, rfl, rfl, rfl, rfl, rfl⟩
  · split
    · exact ⟨rfl, rfl, rfl, rfl, rfl, rfl, rfl, rfl, rfl, rfl⟩
    · split <;> exact ⟨rfl, rfl, rfl, rfl, rfl, rfl, rfl, rfl, rfl, rfl⟩

/-! ## One step of a sound progress -/

/-- Only the usage changed. -/
theorem Sound.withUsage (usage : Usage)
    (h : Sound budgets recordBytes knowledge root owed progress) :
    Sound budgets recordBytes knowledge root owed { progress with usage } where
  verified := h.verified
  frontier := h.frontier
  depth_le := h.depth_le
  witnesses := h.witnesses
  accounts := ⟨h.accounts.known, h.accounts.pruned_segments, h.accounts.pruned_matched,
    h.accounts.exact_segments, h.accounts.leaves⟩
  evidence := ⟨h.evidence.numbered, h.evidence.open_eq, h.evidence.length_le,
    h.evidence.retained_eq, h.evidence.bytes_le, h.evidence.rows_limit, h.evidence.bytes_limit,
    h.evidence.in_mismatch⟩
  found_eq := h.found_eq

/-- Only the witnesses changed, to pending nodes that do not agree. -/
theorem Sound.withWitnesses (witnesses : List FingerprintNode)
    (h : Sound budgets recordBytes knowledge root owed progress)
    (hwitnesses : ∀ witness ∈ witnesses,
      witness.agrees = false ∧ witness.segment ∈ progress.pending) :
    Sound budgets recordBytes knowledge root owed
      { progress with mismatchWitnesses := witnesses } where
  verified := h.verified
  frontier := h.frontier
  depth_le := h.depth_le
  witnesses := hwitnesses
  accounts := ⟨h.accounts.known, h.accounts.pruned_segments, h.accounts.pruned_matched,
    h.accounts.exact_segments, h.accounts.leaves⟩
  evidence := ⟨h.evidence.numbered, h.evidence.open_eq, h.evidence.length_le,
    h.evidence.retained_eq, h.evidence.bytes_le, h.evidence.rows_limit, h.evidence.bytes_limit,
    h.evidence.in_mismatch⟩
  found_eq := h.found_eq

/-- The mismatching nodes of a level become the witnesses. -/
theorem Sound.withMismatchWitnesses {nodes : List FingerprintNode}
    (h : Sound budgets recordBytes knowledge root owed progress)
    (hnodes : ∀ node ∈ nodes, node.agrees = false ∧ node.segment ∈ progress.pending) :
    Sound budgets recordBytes knowledge root owed (progress.withMismatchWitnesses nodes) := by
  refine h.withWitnesses _ fun witness hwitness => ?_
  rw [(List.perm_insertionSort _ _).mem_iff, List.mem_append, List.mem_filter] at hwitness
  obtain hold | hnew := hwitness
  · exact h.witnesses witness hold.1
  · exact hnodes witness hnew

/-- Removing the sequence of a pending place removes that place. -/
theorem withoutPendingSequence_perm {pending rest : List PendingSegment} {place : PendingSegment}
    (hperm : pending.Perm (place :: rest))
    (hnodup : (pending.map (·.segmentSequence)).Nodup) :
    (withoutPendingSequence pending place.segmentSequence).Perm rest := by
  have hnodup' : ((place :: rest).map (·.segmentSequence)).Nodup :=
    (hperm.map _).nodup_iff.mp hnodup
  rw [List.map_cons, List.nodup_cons] at hnodup'
  have hrest : rest.filter (fun item => decide (item.segmentSequence ≠ place.segmentSequence))
      = rest := by
    rw [List.filter_eq_self]
    intro item hitem
    rw [decide_eq_true_eq]
    intro heq
    exact hnodup'.1 (heq ▸ List.mem_map_of_mem hitem)
  have := hperm.filter fun item => decide (item.segmentSequence ≠ place.segmentSequence)
  rw [List.filter_cons_of_neg (by simp), hrest] at this
  exact this

theorem Sound.pending_nodup (h : Sound budgets recordBytes knowledge root owed progress) :
    (progress.pending.map (·.segmentSequence)).Nodup := by
  have := h.frontier.sequences_nodup
  rw [places, List.map_append, List.nodup_append] at this
  exact this.2.1

/-- Recording a pending node leaves the depths as they are. -/
theorem Sound.depth_record {rest : List PendingSegment} {state : ComparisonSegmentState}
    (h : Sound budgets recordBytes knowledge root owed progress)
    (hperm : progress.pending.Perm (node.segment :: rest))
    (hrecord : segmentRecord node state = .ok record) :
    ∀ place ∈ places (progress.topology ++ [record]) rest, place.depth ≤ budgets.maxDepth := by
  intro place hplace
  have hmoved := @places_record _ progress.topology rest _
    (segmentRecord_eq_ok.mp hrecord).1
  exact h.depth_le place ((hperm.append_left _).symm.subset (hmoved.symm.subset hplace))

/-- A matching node is recorded. -/
theorem Sound.recordMatch {rest : List PendingSegment}
    (h : Sound budgets recordBytes knowledge root owed progress)
    (hperm : progress.pending.Perm (node.segment :: rest))
    (hrecord : segmentRecord node .fingerprintMatch = .ok record) (hknown : node.Known knowledge)
    (hwitnesses : ∀ witness ∈ progress.mismatchWitnesses,
      witness.agrees = false ∧ witness.segment ∈ rest) :
    Sound budgets recordBytes knowledge root owed
      { progress with
        topology := progress.topology ++ [record]
        pending := withoutPendingSequence progress.pending node.segment.segmentSequence
        prunedMatched := progress.prunedMatched + node.reference.fingerprint.count
        prunedSegments := progress.prunedSegments + 1 } := by
  obtain ⟨hplace, hstate, _, _⟩ := segmentRecord_eq_ok.mp hrecord
  have hrest := withoutPendingSequence_perm hperm h.pending_nodup
  exact
    { verified := h.verified
      frontier := ((h.frontier.perm hperm).record hplace (by rw [hstate]; rfl)).perm hrest.symm
      depth_le := fun place hplace =>
        h.depth_record hperm hrecord place ((hrest.append_left _).subset hplace)
      witnesses := fun witness hwitness =>
        ⟨(hwitnesses witness hwitness).1, hrest.symm.subset (hwitnesses witness hwitness).2⟩
      accounts := h.accounts.recordMatch hrecord hknown
      evidence := ⟨h.evidence.numbered, h.evidence.open_eq, h.evidence.length_le,
        h.evidence.retained_eq, h.evidence.bytes_le, h.evidence.rows_limit,
        h.evidence.bytes_limit, fun anomaly hanomaly =>
          (h.evidence.in_mismatch anomaly hanomaly).append _⟩
      found_eq := h.found_eq }

/-- A classified leaf is recorded; its differences are owed to the evidence. -/
theorem Sound.recordLeaf {rest : List PendingSegment} {leaf : Leaf}
    (witnesses : List FingerprintNode) (h : Sound budgets recordBytes knowledge root 0 progress)
    (hperm : progress.pending.Perm (node.segment :: rest))
    (hrecord : segmentRecord node .exactMismatch = .ok record) (hknown : node.Known knowledge)
    (hleaf : leaf.record = record) (hclassified : leaf.Classified knowledge)
    (hwitnesses : ∀ witness ∈ witnesses, witness.agrees = false ∧ witness.segment ∈ rest) :
    Sound budgets recordBytes knowledge root leaf.counts.differences
      { progress with
        exactCounts := progress.exactCounts.add leaf.counts
        exactSegments := progress.exactSegments + 1
        topology := progress.topology ++ [record]
        pending := withoutPendingSequence progress.pending node.segment.segmentSequence
        mismatchWitnesses := witnesses } := by
  obtain ⟨hplace, hstate, _, _⟩ := segmentRecord_eq_ok.mp hrecord
  have hrest := withoutPendingSequence_perm hperm h.pending_nodup
  exact
    { verified := h.verified
      frontier := ((h.frontier.perm hperm).record hplace (by rw [hstate]; rfl)).perm hrest.symm
      depth_le := fun place hplace =>
        h.depth_record hperm hrecord place ((hrest.append_left _).subset hplace)
      witnesses := fun witness hwitness =>
        ⟨(hwitnesses witness hwitness).1, hrest.symm.subset (hwitnesses witness hwitness).2⟩
      accounts := h.accounts.recordLeaf hrecord hknown hleaf hclassified
      evidence := ⟨h.evidence.numbered, h.evidence.open_eq, h.evidence.length_le,
        h.evidence.retained_eq, h.evidence.bytes_le, h.evidence.rows_limit,
        h.evidence.bytes_limit, fun anomaly hanomaly =>
          (h.evidence.in_mismatch anomaly hanomaly).append _⟩
      found_eq := by
        have := h.found_eq
        simp only [ExactCounts.differences, ExactCounts.add] at this ⊢
        omega }

/-- A difference that was owed is found. -/
theorem Sound.retain (difference : DifferenceRecord Body)
    (h : Sound budgets recordBytes knowledge root (owed + 1) progress)
    (hsequence : difference.sequence = progress.foundRecords)
    (hmismatch : InExactMismatch progress.topology difference) :
    Sound budgets recordBytes knowledge root owed
      (progress.retain budgets difference (recordBytes difference)) := by
  obtain ⟨htopology, hpending, hcounts, hmatched, hpruned, hexact, hverified, hwitnesses, -,
    hfound⟩ := @Progress.retain_frame budgets _ progress difference (recordBytes difference)
  exact
    { verified := hverified.trans h.verified
      frontier := by
        rw [htopology, hpending]
        exact h.frontier
      depth_le := by
        rw [htopology, hpending]
        exact h.depth_le
      witnesses := by
        rw [hwitnesses, hpending]
        exact h.witnesses
      accounts :=
        { known := by
            rw [htopology]
            exact h.accounts.known
          pruned_segments := by rw [hpruned, htopology, h.accounts.pruned_segments]
          pruned_matched := by rw [hmatched, htopology, h.accounts.pruned_matched]
          exact_segments := by rw [hexact, htopology, h.accounts.exact_segments]
          leaves := by
            rw [htopology, hcounts]
            exact h.accounts.leaves }
      evidence := h.evidence.retain hsequence hmismatch
      found_eq := by
        have := h.found_eq
        rw [hfound, hcounts]
        omega }

/-- A mismatching node is recorded as split and its halves become pending. -/
theorem Sound.recordSplit {rest pending : List PendingSegment} {left right : PendingSegment}
    (witnesses : List FingerprintNode) (h : Sound budgets recordBytes knowledge root owed progress)
    (hperm : progress.pending.Perm (node.segment :: rest))
    (hrecord : segmentRecord node .split = .ok record) (hknown : node.Known knowledge)
    (hsplit : IsSplit node.segment left right
      (places progress.topology progress.pending).length)
    (hdepth : left.depth ≤ budgets.maxDepth ∧ right.depth ≤ budgets.maxDepth)
    (hpending : pending.Perm (left :: right :: rest))
    (hwitnesses : ∀ witness ∈ witnesses, witness.agrees = false ∧ witness.segment ∈ rest) :
    Sound budgets recordBytes knowledge root owed
      { progress with
        topology := progress.topology ++ [record], pending, mismatchWitnesses := witnesses } := by
  obtain ⟨hplace, hstate, _, _⟩ := segmentRecord_eq_ok.mp hrecord
  rw [(places_perm progress.topology hperm).length_eq] at hsplit
  exact
    { verified := h.verified
      frontier := ((h.frontier.perm hperm).split hplace hstate hsplit).perm hpending.symm
      depth_le := by
        intro place hplace'
        have hmem : place ∈ places (progress.topology ++ [record]) rest ∨
            place = left ∨ place = right := by
          have := (places_perm (progress.topology ++ [record]) hpending).subset hplace'
          simp only [places, List.mem_append, List.mem_cons] at this ⊢
          tauto
        obtain hold | rfl | rfl := hmem
        · exact h.depth_record hperm hrecord place hold
        · exact hdepth.1
        · exact hdepth.2
      witnesses := fun witness hwitness =>
        ⟨(hwitnesses witness hwitness).1, hpending.symm.subset
          (List.mem_cons_of_mem _ (List.mem_cons_of_mem _ (hwitnesses witness hwitness).2))⟩
      accounts := h.accounts.recordSplit hrecord hknown
      evidence := ⟨h.evidence.numbered, h.evidence.open_eq, h.evidence.length_le,
        h.evidence.retained_eq, h.evidence.bytes_le, h.evidence.rows_limit,
        h.evidence.bytes_limit, fun anomaly hanomaly =>
          (h.evidence.in_mismatch anomaly hanomaly).append _⟩
      found_eq := h.found_eq }

end

end ForensicData.Comparison
