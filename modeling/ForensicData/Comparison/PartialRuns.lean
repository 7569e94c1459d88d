/-
ForensicData.Comparison.PartialRuns — the partial artifacts of whole runs.

`partial_artifact_of_interruption`: whatever progress a run last yielded and
whatever listed cause interrupts it there, the partial artifact is built, its
lower bounds are the sums over the leaves classified so far, and it is a
mismatch exactly when a difference was recorded or the cause found one in the
keys. `downgrade_iff`: a completed artifact can be downgraded exactly when it
is a mismatch or has no range whose fingerprints differ.
-/
import ForensicData.Comparison.PartialTheorems
import ForensicData.Comparison.Totals

namespace ForensicData.Comparison

open ForensicData.Canonical
open ForensicData.Lib
open ForensicData.Lib.Generator
open ForensicData.Result

variable {budgets : ExecutionBudgets} {Body : Type} {inputs : ComparisonInputs Body}
  {sources : Sources budgets} {knowledge : Knowledge} {progress : Progress Body}

/-! ## Answered rows -/

/-- What is known of every source: its answers are the ones it gave. -/
def Sources.answered (sources : Sources budgets) : Knowledge where
  summary := fun side summary => ∃ index request,
    (sources.summary index side request).answer = .ok summary
  fingerprint := fun side range fingerprint => ∃ index request read,
    (sources.fingerprints index side request).answer = .ok read ∧
      ∃ item ∈ request.ranges.zip read.ranges, item.1 = range ∧ item.2.fingerprint = fingerprint
  rows := fun side range rows => ∃ index request read,
    (sources.rows index side request).answer = .ok read ∧ range ∈ request.ranges ∧
      rows = rowsOf read.rows range.segmentId

theorem Sources.answered_answers (sources : Sources budgets) : sources.answered.Answers sources where
  summary := fun index _ request _ h => ⟨index, request, h⟩
  fingerprint := fun index _ request read h item hitem =>
    ⟨index, request, read, h, item, hitem, rfl, rfl⟩
  rows := fun index _ request read h _ hrange => ⟨index, request, read, h, hrange, rfl⟩

/-- The leaves of the exact segments, each with the rows that were answered. -/
structure ClassifiedLeaves (sources : Sources budgets) (topology : List ComparisonSegmentRecord)
    (leaves : List Leaf) : Prop where
  records : (leaves.map (·.record)).Perm (exactRecords topology)
  classified : ∀ leaf ∈ leaves, leaf.Classified sources.answered

/-- The sums over some leaves as lower bounds; without a leaf there is none. -/
def leafBounds (leaves : List Leaf) (reason : ReasonCode) : ComparisonTotals :=
  if leaves = [] then .uniform (.unavailable reason)
  else
    { matched := .lowerBound (leaves.map (·.counts.matched)).sum
      missing := .lowerBound (leaves.map (·.counts.missing)).sum
      extra := .lowerBound (leaves.map (·.counts.extra)).sum
      modified := .lowerBound (leaves.map (·.counts.modified)).sum }

theorem partialTotals_totalCounts (leaves : List Leaf) (reason : ReasonCode) :
    partialTotals (totalCounts leaves) leaves.length reason = leafBounds leaves reason := by
  rw [partialTotals, leafBounds, totalCounts_sum ExactCounts.matched rfl fun _ _ => rfl,
    totalCounts_sum ExactCounts.missing rfl fun _ _ => rfl,
    totalCounts_sum ExactCounts.extra rfl fun _ _ => rfl,
    totalCounts_sum ExactCounts.modified rfl fun _ _ => rfl]
  cases leaves <;> simp

theorem exactSegmentCount_eq (topology : List ComparisonSegmentRecord) :
    exactSegmentCount topology = (exactRecords topology).length :=
  List.countP_eq_length_filter

/-- Sorting the topology keeps its exact segments. -/
theorem exactRecords_orderedTopology (topology : List ComparisonSegmentRecord) :
    (exactRecords (orderedTopology topology)).Perm (exactRecords topology) :=
  (List.perm_insertionSort _ _).filter _

/-- The counters of a progress are the sums over its leaves. -/
theorem Accounts.exists_leaves (h : Accounts sources.answered progress) :
    ∃ leaves, ClassifiedLeaves sources progress.topology leaves ∧
      progress.exactCounts = totalCounts leaves ∧
        leaves.length = exactSegmentCount (orderedTopology progress.topology) := by
  obtain ⟨leaves, hrecords, hclassified, hcounts⟩ := h.leaves
  refine ⟨leaves, ⟨List.Perm.of_eq hrecords, hclassified⟩, hcounts, ?_⟩
  rw [exactSegmentCount_eq, (exactRecords_orderedTopology _).length_eq, ← hrecords, List.length_map]

/-! ## Listed causes -/

/-- The caught classes `_interruption_reason_code` has no entry for. -/
def unlistedInterruptions : List ErrorClass :=
  [.comparisonExecutionError, .greenplumConnectorError, .greenplumCloseError]

theorem listed_of_caught (error : ErrorClass)
    (hcaught : [ErrorClass.comparisonExecutionError, .postgresConnectorError, .mssqlTransportError,
      .greenplumConnectorError, .clickHouseTransportError].any error.isInstance = true)
    (hlisted : error ∉ unlistedInterruptions) :
    [ErrorClass.comparisonBudgetExceededError, .comparisonKeyMappingError,
      .unsupportedComparisonError, .comparisonProtocolError, .greengageBudgetExceededError,
      .originalGreenplumBudgetExceededError, .greenplumContextLostError,
      .unsupportedGreenplumProfileError, .greenplumMetadataError, .greenplumContextClosedError,
      .greenplumDataValidationError, .postgresConnectorError, .mssqlTransportError,
      .greenplumConnectionError, .greenplumQueryError, .clickHouseTransportError].any
        error.isInstance = true := by
  cases error <;> revert hcaught hlisted <;> decide

/-- An entry of the table gives its reason code, or the entries below it do. -/
theorem exists_reasonCode_of_entry {applies : Prop} [Decidable applies] {reason : ReasonCode}
    {below : Except Cause ReasonCode} (h : ¬ applies → ∃ reason, below = .ok reason) :
    ∃ found, (if applies then .ok reason else below) = .ok found := by
  by_cases happlies : applies
  · exact ⟨reason, if_pos happlies⟩
  · rw [if_neg happlies]
    exact h happlies

/-- A caught cause has a reason code unless its class is an unlisted one. -/
theorem interruptionReasonCode_of_listed {cause : Cause} (hcaught : cause.isInterruption = true)
    (hlisted : cause.refusal.error ∉ unlistedInterruptions) :
    ∃ reason, interruptionReasonCode cause = .ok reason := by
  have hany := listed_of_caught _ hcaught hlisted
  unfold interruptionReasonCode
  iterate 5 refine exists_reasonCode_of_entry fun _ => ?_
  refine exists_reasonCode_of_entry fun hbudget => ?_
  iterate 2 refine exists_reasonCode_of_entry fun _ => ?_
  refine exists_reasonCode_of_entry fun hlost => ?_
  refine exists_reasonCode_of_entry fun hmapping => ?_
  refine exists_reasonCode_of_entry fun hunsupported => ?_
  refine exists_reasonCode_of_entry fun hprotocol => ?_
  refine exists_reasonCode_of_entry fun hquery => ?_
  -- No entry applies: the class is below none of the listed ones.
  simp only [Cause.isAny, List.any_cons, List.any_nil, Bool.or_eq_true, Bool.or_false,
    not_or] at hany hbudget hlost hmapping hunsupported hprotocol hquery
  simp [hbudget, hlost, hmapping, hunsupported, hprotocol, hquery] at hany

/-! ## Sample sources

Both sides have two rows, with keys 0 and 1. The reference answers its first
level with a limb sum of one, and with zero ever after. -/

def sampleBudgets : ExecutionBudgets where
  maxQueries := 100
  maxFetchedRecords := 100
  maxApplicationResultBytes := 100000
  maxEvidenceRows := 10
  maxEvidenceBytes := 1000
  maxFingerprintNodes := 100
  maxCoordinatorMemoryBytes := 1000000
  maxDepth := 8
  maxFullScansPerSide := 100
  statementTimeoutMilliseconds := 1000
  runTimeoutMilliseconds := 1000
  maxAttempts := 1
  queries_pos := by decide
  fetched_pos := by decide
  result_pos := by decide
  nodes_pos := by decide
  memory_pos := Nat.le_add_left 1 999999
  statement_pos := Nat.succ_pos 999
  run_pos := Nat.succ_pos 999
  attempts_pos := Nat.succ_pos 0

def sampleSizes : ObjectSizes where
  pendingSegment := 1
  rangeRequest := 1
  fingerprintNode := 1
  segmentRecord := 1
  fingerprint := 1
  readMetrics := 1
  keySummary := 1
  keySummaryRead := 1
  rangeFingerprint := 1
  rangeFingerprintRead := 1
  exactRow := 1
  exactRowsRead := 1
  segmentState := 1
  boolean := 1
  decimalZero := 1
  integer := fun _ => 1
  pointer := 1
  emptyTuple := 1
  emptyList := 1
  emptyDict := 1
  dictEntry := 1
  asciiHeader := 1
  bytesHeader := 1

def sampleSummary : KeySummary where
  rowCount := 2
  nullKeyCount := 0
  invalidKeyCount := 0
  validKeyCount := 2
  distinctKeyCount := 2
  minimumKey := some 0
  maximumKey := some 1
  usableAccessPath := true
  rows_le := by decide
  rows_eq := by decide
  distinct_le := by decide
  empty := by decide
  bounded := fun _ => ⟨0, 1, by decide⟩

def sampleInputs : ComparisonInputs Unit where
  checkId := ⟨"check", by decide⟩
  contractDigest := ⟨String.ofList (List.replicate 64 'a'), by decide⟩
  scopeDigest := ⟨String.ofList (List.replicate 64 'b'), by decide⟩
  inputCutDigest := ⟨String.ofList (List.replicate 64 'c'), by decide⟩
  assurancePolicy := .fingerprintAllowed
  schemaFieldCount := 1
  keyFieldIndex := 0
  checkClosure := .ok ()
  relationClosure := .ok ()
  datasetClosure := .ok ()
  scopeClosure := .ok ()
  sizes := sampleSizes
  evidenceBody := fun _ => .ok ()
  recordBytes := fun _ => 1

/-- A fingerprint of `count` rows, with `limb` as its first limb sum. -/
def limbFingerprint (count limb : Fin 3) : Fingerprint where
  count := count
  limbSums := fun i => if i = 0 ∧ 0 < count.val then limb else 0
  count_le := by unfold int64Max; omega
  limb_le := fun i => by split <;> unfold decimal38Max <;> omega
  limb_le_count := fun i => by
    split
    · have hlimb := limb.isLt
      unfold uint32Max
      omega
    · exact Nat.zero_le _

/-- A level of ranges with rows too wide to be read exactly; the root has two of
them, its halves have one each. -/
def sampleLevel (limb : Fin 3) (request : FingerprintRequest) : Reading RangeFingerprintRead where
  charges := [.query 1, .records (request.ranges.map fun _ => 10)]
  answer := .ok
    { ranges := request.ranges.map fun range =>
        { segmentId := range.segmentId
          fingerprint := limbFingerprint
            (if range.lowerInclusive = (0 : Int) ∧ range.upperExclusive = some (2 : Int) then 2
              else 1) limb
          rowEnvelopeBytes := 200000
          keyEnvelopeBytes := 10 }
      metrics := { fetchedRecords := 0, resultBytes := 0 } }

/-- The fingerprint of two rows, which differs between the sides. -/
def sidedFingerprint (side : Side) : Fingerprint :=
  limbFingerprint 2 (if side = .reference then 0 else 1)

/-- Two sources, of which the reference answers its first level with `limb`. -/
def sampleSources (limb : Fin 3) : Sources sampleBudgets where
  clock := fun reading => reading
  ledgerStartedNanoseconds := 0
  attemptStartedNanoseconds := 0
  baseline := .zero sampleBudgets
  context := fun side =>
    match side with
    | .reference => .clickHouse .asserted
    | .target => .postgres
  relation := fun side =>
    match side with
    | .reference => .clickHouse 1
    | .target => .postgres 1 1
  contextId := fun side =>
    match side with
    | .reference => 1
    | .target => 2
  contextActive := fun _ _ => true
  summary := fun _ _ _ => { charges := [.query 1, .records [10]], answer := .ok sampleSummary }
  fingerprints := fun index side request =>
    sampleLevel (if index = 2 ∧ side = .reference then limb else 0) request
  rows := fun _ _ _ =>
    { charges := [.query 1]
      answer := .ok { rows := [], metrics := { fetchedRecords := 0, resultBytes := 0 } } }

/-- Two sources with equal answers. -/
def agreeingSources : Sources sampleBudgets := sampleSources 0

/-- The artifact of a run, if it returned a completed one. -/
def completedArtifact? {budgets : ExecutionBudgets} (inputs : ComparisonInputs Body)
    (sources : Sources budgets) : Option (CompletedComparisonArtifact inputs.recordBytes) :=
  match (comparisonRun inputs sources).result with
  | .ok (.completed artifact) => some artifact
  | _ => none

theorem completedArtifact?_eq_some {inputs : ComparisonInputs Body} {sources : Sources budgets}
    {artifact : CompletedComparisonArtifact inputs.recordBytes}
    (h : completedArtifact? inputs sources = some artifact) :
    (comparisonRun inputs sources).result = .ok (.completed artifact) := by
  unfold completedArtifact? at h
  split at h
  · rename_i found hresult
    rw [hresult, Option.some.inj h]
  · simp at h

/-! ## Interrupted runs -/

/-- A difference is on record: an exact leaf that was classified as a mismatch, or
a range whose fingerprints (row count and limb sums) differ. -/
def Progress.RecordsDifference (progress : Progress Body) : Prop :=
  (∃ record ∈ progress.topology, record.state = .exactMismatch ∨
    record.referenceFingerprint ≠ record.targetFingerprint) ∨
  ∃ witness ∈ progress.mismatchWitnesses,
    witness.reference.fingerprint ≠ witness.target.fingerprint

/-- What the partial artifact of an interrupted progress says. -/
structure InterruptionFacts (sources : Sources budgets) (progress : Progress Body) (cause : Cause)
    (artifact : PartialFields Body) : Prop where
  never_match : artifact.verdict ≠ .match
  mismatch_iff : artifact.verdict = .mismatch ↔ progress.RecordsDifference ∨
    (cause.keyMapping.bind (·.contractViolationReason)).isSome = true
  bounds : ∃ leaves reason, ClassifiedLeaves sources progress.topology leaves ∧
    interruptionReasonCode cause = .ok reason ∧ artifact.totals = leafBounds leaves reason

/-- What is needed of a progress for its partial artifact to be sound. -/
structure Interruptible (sources : Sources budgets) (recordBytes : DifferenceRecord Body → ℕ)
    (progress : Progress Body) : Prop where
  reportable : ∃ root, Reportable budgets recordBytes root progress
  accounts : Accounts sources.answered progress
  pending : ∀ witness ∈ progress.mismatchWitnesses, witness.segment ∈ progress.pending
  levels : ∀ replyCount, ∃ level,
    comparisonStableReadLevel sources replyCount progress.summariesVerified = .ok level

theorem Progress.Fresh.interruptible {recordBytes : DifferenceRecord Body → ℕ}
    (h : progress.Fresh) : Interruptible sources recordBytes progress where
  reportable := ⟨wholeDomain, h.reportable⟩
  accounts :=
    { known := by simp [h.topology]
      pruned_segments := by simp [h.topology, h.pruned.2, matchRecords]
      pruned_matched := by simp [h.topology, h.pruned.1, matchRecords]
      exact_segments := by simp [h.topology, h.exactSegments, exactRecords]
      leaves := ⟨[], by simp [h.topology, exactRecords], by simp,
        by simp [h.exactCounts, totalCounts]⟩ }
  pending := by simp [h.witnesses]
  levels := fun _ => ⟨.unknown, by simp [comparisonStableReadLevel, h.unverified]⟩

/-- Contexts that were accepted have a stable-read level at every later moment. -/
theorem ContextsAccepted.exists_level (h : ContextsAccepted sources) (replyCount : ℕ)
    (readsEstablished : Bool) :
    ∃ level, comparisonStableReadLevel sources replyCount readsEstablished = .ok level := by
  unfold comparisonStableReadLevel
  split
  · exact ⟨_, rfl⟩
  · obtain ⟨reference, hreference⟩ := h.levels .reference (sources.contextActive replyCount .reference)
    obtain ⟨target, htarget⟩ := h.levels .target (sources.contextActive replyCount .target)
    simp only [hreference, htarget, bind, Except.bind]
    split_ifs <;> exact ⟨_, rfl⟩

theorem Sound.interruptible {recordBytes : DifferenceRecord Body → ℕ} {root : SegmentPlace}
    (h : Sound budgets recordBytes sources.answered root 0 progress)
    (hcontexts : ContextsAccepted sources) : Interruptible sources recordBytes progress where
  reportable := ⟨root, h.reportable⟩
  accounts := h.accounts
  pending := fun witness hwitness => (h.witnesses witness hwitness).2
  levels := fun replyCount => hcontexts.exists_level replyCount _

/-- Every progress a run yields can be interrupted. -/
theorem comparisonRun_interruptible (inputs : ComparisonInputs Body) (sources : Sources budgets) :
    ∀ progress ∈ (comparisonRun inputs sources).yielded,
      Interruptible sources inputs.recordBytes progress := by
  intro progress hmem
  obtain hfresh | ⟨maxEncodedRowBytes, reference, target, hanswered, hsound⟩ :=
    comparisonRun_yielded inputs sources sources.answered_answers progress hmem
  · exact hfresh.interruptible
  · exact hsound.interruptible (validateInputs_contexts hanswered.inputs_ok)

theorem lastProgress_mem (inputs : ComparisonInputs Body) (sources : Sources budgets) :
    lastProgress inputs sources ∈ (comparisonRun inputs sources).yielded ∨
      lastProgress inputs sources = sources.initialProgress Body := by
  unfold lastProgress
  cases hlast : (comparisonRun inputs sources).yielded.getLast? with
  | none => exact .inr rfl
  | some progress => exact .inl (List.mem_of_getLast? hlast)

/-- The artifact reports a fingerprinted range that is open when there is a witness. -/
theorem Interruptible.witnessed {recordBytes : DifferenceRecord Body → ℕ}
    (h : Interruptible sources recordBytes progress) :
    ((unresolvedPending progress).any fun item =>
        (progress.witness item.segmentSequence).isSome) = true ↔
      ∃ witness ∈ progress.mismatchWitnesses,
        witness.reference.fingerprint ≠ witness.target.fingerprint := by
  obtain ⟨root, hreportable⟩ := h.reportable
  have hperm := unresolvedPending_perm hreportable.frontier
  rw [List.any_eq_true]
  constructor
  · rintro ⟨item, -, hsome⟩
    obtain ⟨witness, hwitness⟩ := Option.isSome_iff_exists.mp hsome
    have hmem : witness ∈ progress.mismatchWitnesses := by
      simpa using List.mem_of_find?_eq_some hwitness
    refine ⟨witness, hmem, ?_⟩
    simpa [FingerprintNode.agrees] using hreportable.witnesses witness hmem
  · rintro ⟨witness, hwitness, -⟩
    refine ⟨witness.segment, hperm.symm.subset (h.pending witness hwitness), ?_⟩
    rw [Progress.witness, List.find?_isSome]
    exact ⟨witness, List.mem_reverse.mpr hwitness, by simp⟩

/-- A progress has counted differences when it recorded a mismatching leaf. -/
theorem Accounts.exactCounts_pos_iff (h : Accounts knowledge progress) :
    progress.exactCounts.differences ≠ 0 ↔
      ∃ record ∈ progress.topology, record.state = .exactMismatch := by
  rw [← h.differences_pos_iff, Nat.pos_iff_ne_zero]
  rfl

theorem partialVerdict_eq_mismatch {counts : ExactCounts} {frontierMismatch : Bool}
    {contractViolation : Option ResultReason} :
    partialVerdict counts frontierMismatch contractViolation = .mismatch ↔
      counts.differences ≠ 0 ∨ frontierMismatch = true ∨ contractViolation.isSome = true := by
  unfold partialVerdict
  split <;> simp [*]

theorem ReportsInterruption.facts {recordBytes : DifferenceRecord Body → ℕ} {cause : Cause}
    {reason : ReasonCode} {artifact : PartialFields Body}
    (hreports : ReportsInterruption progress cause reason artifact)
    (hreason : interruptionReasonCode cause = .ok reason)
    (h : Interruptible sources recordBytes progress) :
    InterruptionFacts sources progress cause artifact where
  never_match := by
    rw [hreports.verdict_eq]
    exact partialVerdict_ne_match
  mismatch_iff := by
    have hrecorded : (artifact.frontier.topology.any fun item =>
        decide (item.referenceFingerprint ≠ item.targetFingerprint)) = true ↔
        ∃ record ∈ progress.topology, record.referenceFingerprint ≠ record.targetFingerprint := by
      rw [hreports.segments.topology_eq, orderedTopology, List.any_eq_true]
      simp only [(List.perm_insertionSort _ progress.topology).mem_iff, decide_eq_true_eq]
    rw [hreports.verdict_eq, partialVerdict_eq_mismatch, h.accounts.exactCounts_pos_iff,
      PartialComparisonFrontier.hasFingerprintMismatch, Bool.or_eq_true, hrecorded,
      hreports.witnessed, h.witnessed, Progress.RecordsDifference]
    simp only [and_or_left, exists_or, or_assoc]
  bounds := by
    obtain ⟨leaves, hleaves, hcounts, hlength⟩ := h.accounts.exists_leaves
    refine ⟨leaves, reason, hleaves, hreason, ?_⟩
    rw [hreports.totals_eq, hcounts, ← hlength, partialTotals_totalCounts]

/-- The artifact of an interruptible progress is built for every listed cause and
in every world. -/
theorem partialComparisonArtifact_sound
    (hdistinct : sources.contextId .reference ≠ sources.contextId .target)
    (h : Interruptible sources inputs.recordBytes progress) {cause : Cause}
    (hcaught : cause.isInterruption = true)
    (hlisted : cause.refusal.error ∉ unlistedInterruptions) (world : World budgets) :
    ∃ artifact, (partialComparisonArtifact inputs sources progress cause world).result
        = .ok artifact ∧
      InterruptionFacts sources progress cause artifact.toPartialFields := by
  obtain ⟨reason, hreason⟩ := interruptionReasonCode_of_listed hcaught hlisted
  obtain ⟨root, hreportable⟩ := h.reportable
  have hensures : Ensures (fun _ => True) (fun _ _ => False)
      (partialComparisonArtifact inputs sources progress cause) world fun artifact _ =>
        InterruptionFacts sources progress cause artifact.toPartialFields := by
    refine ensures_partialComparisonArtifact (fun raised hraised => ?_)
      (fun replyCount raised hraised => ?_) (.inl hdistinct) hreportable
      fun artifact _ reason hreason hreports => hreports.facts hreason h
    · simp [hreason] at hraised
    · obtain ⟨level, hlevel⟩ := h.levels replyCount
      simp [hlevel] at hraised
  cases hresult : (partialComparisonArtifact inputs sources progress cause world).result with
  | ok artifact => exact ⟨artifact, rfl, hensures.of_result hresult⟩
  | error raised => exact (hensures.of_error hresult).elim

/-- Wherever a run is interrupted, and by whatever listed cause, its partial
artifact is built and sound; so every run that such a cause stops ends with one. -/
theorem partial_artifact_of_interruption (inputs : ComparisonInputs Body)
    (sources : Sources budgets)
    (hdistinct : sources.contextId .reference ≠ sources.contextId .target) :
    (∀ progress, progress ∈ (comparisonRun inputs sources).yielded ∨
        progress = sources.initialProgress Body →
      ∀ cause, cause.isInterruption = true → cause.refusal.error ∉ unlistedInterruptions →
      ∀ world, ∃ artifact,
        (partialComparisonArtifact inputs sources progress cause world).result = .ok artifact ∧
        InterruptionFacts sources progress cause artifact.toPartialFields) ∧
    ∀ cause, (comparisonRun inputs sources).result = .error cause →
      cause.isInterruption = true → cause.refusal.error ∉ unlistedInterruptions →
      ∃ artifact, executeIntegerKeyComparison inputs sources = .interrupted cause artifact ∧
        InterruptionFacts sources (lastProgress inputs sources) cause artifact.toPartialFields := by
  have hall : ∀ progress, progress ∈ (comparisonRun inputs sources).yielded ∨
      progress = sources.initialProgress Body →
      Interruptible sources inputs.recordBytes progress := by
    rintro progress (hmem | rfl)
    · exact comparisonRun_interruptible inputs sources progress hmem
    · exact (initialProgress_fresh sources).interruptible
  constructor
  · intro progress hprogress cause hcaught hlisted world
    exact partialComparisonArtifact_sound hdistinct (hall progress hprogress) hcaught hlisted world
  · intro cause hcause hcaught hlisted
    obtain ⟨artifact, hartifact, hfacts⟩ := partialComparisonArtifact_sound hdistinct
      (hall _ (lastProgress_mem inputs sources)) hcaught hlisted (comparisonRun inputs sources).world
    refine ⟨artifact, ?_, hfacts⟩
    simp only [executeIntegerKeyComparison, hcause, hcaught, if_true, hartifact]

/-- Three rows: one without a key, one whose key is no INT64, one with key 0. -/
def keylessSummary : KeySummary where
  rowCount := 3
  nullKeyCount := 1
  invalidKeyCount := 1
  validKeyCount := 1
  distinctKeyCount := 1
  minimumKey := some 0
  maximumKey := some 0
  usableAccessPath := true
  rows_le := by decide
  rows_eq := by decide
  distinct_le := Nat.le_add_left 1 0
  empty := by decide
  bounded := fun _ => ⟨0, 0, by decide⟩

/-- One row, with key 0. -/
def singleSummary : KeySummary where
  rowCount := 1
  nullKeyCount := 0
  invalidKeyCount := 0
  validKeyCount := 1
  distinctKeyCount := 1
  minimumKey := some 0
  maximumKey := some 0
  usableAccessPath := true
  rows_le := by decide
  rows_eq := by decide
  distinct_le := Nat.le_add_left 1 0
  empty := by decide
  bounded := fun _ => ⟨0, 0, by decide⟩

/-- Sources with the given summaries that lose their connection afterwards. -/
def summarizedSources (reference target : KeySummary) : Sources sampleBudgets :=
  { sampleSources 0 with
    summary := fun _ side _ =>
      { charges := [.query 1, .records [10]]
        answer := .ok (match side with
          | .reference => reference
          | .target => target) }
    fingerprints := fun _ _ _ =>
      { charges := [], answer := .error (Cause.of .postgresQueryError "connection lost") } }

/-- How a run was interrupted, if it was. -/
def ComparisonEnd.interruption? {recordBytes : DifferenceRecord Body → ℕ} :
    ComparisonEnd recordBytes → Option (Cause × PartialComparisonArtifact recordBytes)
  | .interrupted cause artifact => some (cause, artifact)
  | _ => none

theorem ComparisonEnd.interruption?_eq_some {recordBytes : DifferenceRecord Body → ℕ}
    {found : ComparisonEnd recordBytes} {cause : Cause}
    {artifact : PartialComparisonArtifact recordBytes}
    (h : found.interruption? = some (cause, artifact)) : found = .interrupted cause artifact := by
  cases found <;> simp_all [ComparisonEnd.interruption?]

/-- A run that is interrupted with a verdict and without a record of a difference. -/
theorem interrupted_of_decided {sources : Sources sampleBudgets} {verdict : Verdict}
    (hverdict : (executeIntegerKeyComparison sampleInputs sources).interruption?.map
      (fun found => found.2.verdict) = some verdict)
    (hnone : ((lastProgress sampleInputs sources).topology.isEmpty
      && (lastProgress sampleInputs sources).mismatchWitnesses.isEmpty) = true) :
    ∃ cause artifact, executeIntegerKeyComparison sampleInputs sources
        = .interrupted cause artifact ∧ artifact.verdict = verdict ∧
      ¬ (lastProgress sampleInputs sources).RecordsDifference := by
  obtain ⟨⟨cause, artifact⟩, hfound, hverdict⟩ := Option.map_eq_some_iff.mp hverdict
  rw [Bool.and_eq_true, List.isEmpty_iff, List.isEmpty_iff] at hnone
  refine ⟨cause, artifact, ComparisonEnd.interruption?_eq_some hfound, hverdict, ?_⟩
  simp [Progress.RecordsDifference, hnone.1, hnone.2]

/-- Two sides with the same three rows: that a key is missing is a mismatch of its
own. Two sides with two rows and with one: their row counts alone are none. -/
theorem mismatch_without_difference :
    (∃ cause artifact, executeIntegerKeyComparison sampleInputs
        (summarizedSources keylessSummary keylessSummary) = .interrupted cause artifact ∧
      artifact.verdict = .mismatch ∧ ¬ (lastProgress sampleInputs
        (summarizedSources keylessSummary keylessSummary)).RecordsDifference) ∧
    ∃ cause artifact, executeIntegerKeyComparison sampleInputs
        (summarizedSources sampleSummary singleSummary) = .interrupted cause artifact ∧
      artifact.verdict = .inconclusive ∧ ¬ (lastProgress sampleInputs
        (summarizedSources sampleSummary singleSummary)).RecordsDifference :=
  ⟨interrupted_of_decided (by decide +kernel) (by decide +kernel),
    interrupted_of_decided (by decide +kernel) (by decide +kernel)⟩

/-- The cause that stopped the run, if the table lists it. -/
def listedCause? (sources : Sources sampleBudgets) : Option Cause :=
  match (comparisonRun sampleInputs sources).result with
  | .ok _ => none
  | .error cause =>
    if cause.isInterruption = true ∧ cause.refusal.error ∉ unlistedInterruptions then some cause
    else none

/-- The keyless run is interrupted with a sound artifact. -/
theorem keyless_run_interrupted :
    ∃ cause artifact, executeIntegerKeyComparison sampleInputs
        (summarizedSources keylessSummary keylessSummary) = .interrupted cause artifact ∧
      InterruptionFacts (summarizedSources keylessSummary keylessSummary)
        (lastProgress sampleInputs (summarizedSources keylessSummary keylessSummary)) cause
        artifact.toPartialFields := by
  have hsome : (listedCause? (summarizedSources keylessSummary keylessSummary)).isSome = true := by
    decide +kernel
  obtain ⟨cause, hcause⟩ := Option.isSome_iff_exists.mp hsome
  unfold listedCause? at hcause
  split at hcause
  · simp at hcause
  · rename_i found hresult
    split at hcause
    · rename_i hlisted
      refine ⟨found, ?_⟩
      exact (partial_artifact_of_interruption sampleInputs
        (summarizedSources keylessSummary keylessSummary) (by decide)).2 found hresult hlisted.1
        hlisted.2
    · simp at hcause

/-! ## Downgraded runs -/

/-- A run that returned a completed artifact, with what is known of the answers. -/
theorem comparisonRun_completed (hanswers : knowledge.Answers sources)
    {artifact : CompletedComparisonArtifact inputs.recordBytes}
    (hrun : (comparisonRun inputs sources).result = .ok (.completed artifact)) :
    ∃ maxEncodedRowBytes reference target state last,
      CompletedRun inputs sources knowledge (fun _ _ _ _ => True) maxEncodedRowBytes reference
        target state last artifact (comparisonRun inputs sources).world :=
  (ensures_comparisonRun (FailureSet.all inputs sources) hanswers (.inr fun _ => trivial)
    (fun _ _ _ _ _ _ => trivial) (fun _ _ => trivial) (fun _ _ _ _ => True)
    (fun _ _ _ _ _ _ => trivial) fun _ _ _ _ _ _ _ _ _ _ _ _ => trivial).of_result hrun artifact rfl

/-- What the partial artifact of a completed one keeps of it. -/
structure DowngradesCompleted {recordBytes : DifferenceRecord Body → ℕ} (sources : Sources budgets)
    (completed : CompletedComparisonArtifact recordBytes) (reason : ReasonCode)
    (artifact : PartialFields Body) : Prop where
  topology_eq : artifact.frontier.topology = completed.segments
  unresolved_eq : artifact.frontier.unresolved = []
  anomalies_eq : artifact.anomalies = completed.anomalies
  evidence_eq : artifact.evidenceCoverage = completed.evidenceCoverage
  verdict_eq : artifact.verdict
    = if completed.verdict = .mismatch then .mismatch else .inconclusive
  bounds : ∃ leaves, ClassifiedLeaves sources completed.segments leaves ∧
    artifact.totals = leafBounds leaves reason
  differences_eq : 0 < completed.comparisonCoverage.exactSegments →
    artifact.totals.missing.value = completed.totals.missing.value ∧
    artifact.totals.extra.value = completed.totals.extra.value ∧
    artifact.totals.modified.value = completed.totals.modified.value
  matched_eq : completed.guarantee = .exact →
    artifact.totals.matched.value = completed.totals.matched.value ∧
      artifact.totals.matched.isLowerBound = true

/-- What the partial artifact of a structural one keeps of it: the contract
violation, which has no segment, no evidence and no total. -/
structure DowngradesStructural (artifact : PartialFields Body) : Prop where
  topology_eq : artifact.frontier.topology = []
  unresolved_eq : artifact.frontier.unresolved = []
  anomalies_eq : artifact.anomalies = []
  evidence_eq : artifact.evidenceCoverage = noEvidence
  verdict_eq : artifact.verdict = .mismatch
  totals_eq : artifact.totals = unavailableContractTotals

def Downgrades {recordBytes : DifferenceRecord Body → ℕ} (sources : Sources budgets)
    (outcome : ComparisonOutcome recordBytes) (reason : ReasonCode)
    (artifact : PartialFields Body) : Prop :=
  match outcome with
  | .completed completed => DowngradesCompleted sources completed reason artifact
  | .structural _ => DowngradesStructural artifact

/-- Either the comparison found a mismatch or no range had unequal fingerprints. -/
def ComparisonOutcome.Settled {recordBytes : DifferenceRecord Body → ℕ} :
    ComparisonOutcome recordBytes → Prop
  | .completed artifact => artifact.verdict = .mismatch ∨
      ∀ segment ∈ artifact.segments, segment.referenceFingerprint = segment.targetFingerprint
  | .structural _ => True

theorem availableTotalInteger_eq_ok {total : Total} {name : String} {value : ℕ} :
    availableTotalInteger total name = .ok value ↔ total.value = some value := by
  unfold availableTotalInteger
  split <;> simp [*, raiseValueError]

/-- The partial artifact of a frontier without open segments. -/
theorem hasFingerprintMismatch_resolved {frontier : PartialComparisonFrontier}
    (hresolved : frontier.unresolved = []) :
    frontier.hasFingerprintMismatch = true ↔
      ∃ segment ∈ frontier.topology, segment.referenceFingerprint ≠ segment.targetFingerprint := by
  rw [PartialComparisonFrontier.hasFingerprintMismatch, hresolved, List.any_nil, Bool.or_false,
    List.any_eq_true]
  simp only [decide_eq_true_eq]

theorem PartialComparisonFrontier.make_resolved {topology : List ComparisonSegmentRecord}
    (hsorted : (topology.map (·.segmentSequence)).Pairwise (· < ·)) :
    ∃ frontier, PartialComparisonFrontier.make topology [] = .ok frontier ∧
      frontier.topology = topology ∧ frontier.unresolved = [] := by
  refine ⟨{ topology, unresolved := [], topology_sorted := hsorted
            unresolved_sorted := .nil, disjoint := by simp }, ?_, rfl, rfl⟩
  have hnodup : (topology.map (·.segmentSequence)).Nodup :=
    hsorted.imp fun hab => Nat.ne_of_lt hab
  rw [PartialComparisonFrontier.make, if_neg (not_not.mpr hnodup), if_neg (by simp),
    dif_pos (by simp), dif_pos hsorted, dif_pos .nil]

/-- A partial artifact with unequal fingerprints is a mismatch. -/
theorem PartialComparisonArtifact.mismatch_of {recordBytes : DifferenceRecord Body → ℕ}
    (artifact : PartialComparisonArtifact recordBytes)
    (h : artifact.frontier.hasFingerprintMismatch = true) : artifact.verdict = .mismatch := by
  have hvalid := artifact.valid
  simp only [PartialFields.validate, bind_unit_eq_ok] at hvalid
  obtain ⟨-, -, -, -, -, -, hcoverage, -⟩ := hvalid
  simp only [validatePartialFrontierCoverage, bind_unit_eq_ok, refuseIf_eq_ok] at hcoverage
  obtain ⟨-, -, -, -, hverdict, -⟩ := hcoverage
  by_contra hne
  exact hverdict ⟨h, hne⟩

/-- Without a matched segment no row is matched by fingerprint. -/
theorem Accounts.prunedMatched_eq_zero (h : Accounts knowledge progress)
    (hnone : progress.prunedSegments = 0) : progress.prunedMatched = 0 := by
  have hmatches : matchRecords progress.topology = [] :=
    List.eq_nil_of_length_eq_zero (h.pruned_segments.symm.trans hnone)
  rw [h.pruned_matched, hmatches]
  rfl

section CompletedRuns

variable {kept : KeySummary → KeySummary → LoopState Body → World budgets → Prop}
  {maxEncodedRowBytes : ℕ} {reference target : KeySummary} {state : LoopState Body}
  {last now : World budgets} {artifact : CompletedComparisonArtifact inputs.recordBytes}

/-- The rows of the exact leaves close to the counted differences. -/
theorem CompletedRun.exactReferenceRows
    (h : CompletedRun inputs sources knowledge kept maxEncodedRowBytes reference target state last
      artifact now) :
    ((artifact.segments.filter fun segment => segment.state.isExact).map
        fun segment => segment.referenceFingerprint.count).sum
      = state.progress.exactCounts.matched + state.progress.exactCounts.missing
        + state.progress.exactCounts.modified := by
  have hperm := exactRecords_orderedTopology state.progress.topology
  rw [h.completes.segments_eq]
  refine ((hperm.map _).sum_eq).trans ?_
  exact (h.loop.sound.accounts.sum_exactRecords
    (fun counts => counts.matched + counts.missing + counts.modified) rfl
    (fun a b => by simp only [ExactCounts.add]; omega)
    (fun record => record.referenceFingerprint.count) fun leaf hleaf => hleaf.closes.1).symm

theorem CompletedRun.coversFrontier
    (h : CompletedRun inputs sources knowledge kept maxEncodedRowBytes reference target state last
      artifact now)
    {frontier : PartialComparisonFrontier} (htopology : frontier.topology = artifact.segments)
    (hresolved : frontier.unresolved = []) :
    CoversFrontier artifact.comparisonCoverage frontier := by
  obtain ⟨hpos, hcoverage⟩ := h.completes.coverage_eq
  have haccounts := h.loop.sound.accounts
  rw [hcoverage]
  exact
    { pruned_eq := by
        rw [htopology, h.completes.segments_eq, prunedSegmentCount, List.countP_eq_length_filter]
        refine haccounts.pruned_segments.trans ?_
        exact ((List.perm_insertionSort _ _).filter _).length_eq.symm
      exact_eq := by
        rw [htopology, h.completes.segments_eq, exactSegmentCount_eq,
          (exactRecords_orderedTopology _).length_eq]
        exact haccounts.exact_segments
      unresolved_eq := by rw [hresolved]; rfl
      reasons_eq := by rw [hresolved]; rfl
      total_eq := rfl
      covered_eq := by
        rw [hresolved, if_pos ⟨rfl, hpos⟩]
        rfl }

/-- The fields of the partial artifact of a completed one. -/
def downgradedFields {recordBytes : DifferenceRecord Body → ℕ}
    (artifact : CompletedComparisonArtifact recordBytes) (frontier : PartialComparisonFrontier)
    (counts : ExactCounts) (reason : ReasonCode) : PartialFields Body where
  checkId := artifact.checkId
  contractDigest := artifact.contractDigest
  scopeDigest := artifact.scopeDigest
  inputCutDigest := artifact.inputCutDigest
  verdict := if artifact.verdict = .mismatch then .mismatch else .inconclusive
  consistency := artifact.consistency
  guarantee := .notEstablished
  comparisonCoverage := artifact.comparisonCoverage
  totals := partialTotals counts artifact.comparisonCoverage.exactSegments reason
  evidenceCoverage := artifact.evidenceCoverage
  metrics := artifact.metrics
  frontier := frontier
  anomalies := artifact.anomalies
  referenceFullScans := artifact.referenceFullScans
  targetFullScans := artifact.targetFullScans

/-- A settled completed artifact is downgraded. -/
theorem CompletedRun.downgrades
    (h : CompletedRun inputs sources sources.answered kept maxEncodedRowBytes reference target state
      last artifact now)
    (hsettled : (ComparisonOutcome.completed artifact).Settled) (reason : ReasonCode) :
    ∃ partialArtifact, partialComparisonArtifactFromCompleted (.completed artifact) reason
        = .ok partialArtifact ∧
      DowngradesCompleted sources artifact reason partialArtifact.toPartialFields := by
  obtain ⟨hpos, hcoverage⟩ := h.completes.coverage_eq
  obtain ⟨hmatched, hmissing, hextra, hmodified⟩ := h.completes.totals_eq
  obtain ⟨leaves, hleaves, hcounts, hlength⟩ := h.loop.sound.accounts.exists_leaves
  have hexact : artifact.comparisonCoverage.exactSegments = leaves.length := by
    rw [hcoverage, hlength, exactSegmentCount_eq, (exactRecords_orderedTopology _).length_eq]
    exact h.loop.sound.accounts.exact_segments
  have hsorted : (artifact.segments.map (·.segmentSequence)).Pairwise (· < ·) := by
    rw [artifact.contiguous]
    exact List.pairwise_lt_range
  obtain ⟨frontier, hfrontier, htopology, hresolved⟩ :=
    PartialComparisonFrontier.make_resolved hsorted
  have hverdict : state.progress.exactCounts.differences ≠ 0 ∨
      frontier.hasFingerprintMismatch = true →
      (if artifact.verdict = .mismatch then Verdict.mismatch else .inconclusive) = .mismatch := by
    intro hdiffers
    refine if_pos ?_
    cases hdiffers with
    | inl hdifferences =>
      rw [h.completes.verdict_eq]
      exact if_neg hdifferences
    | inr hwitness =>
      refine hsettled.resolve_right fun hequal => ?_
      obtain ⟨segment, hsegment, hne⟩ := (hasFingerprintMismatch_resolved hresolved).mp hwitness
      rw [htopology] at hsegment
      exact hne (hequal segment hsegment)
  have hvalid : (downgradedFields artifact frontier state.progress.exactCounts reason).validate
      inputs.recordBytes = .ok () := by
    refine PartialFields.validate_of ?_ hverdict ?_
      h.completes.consistency.2.1 rfl artifact.retained (h.coversFrontier htopology hresolved) ?_ rfl
    · simp only [downgradedFields]
      split <;> simp
    · simp only [downgradedFields, h.completes.consistency.2.2]
      rfl
    · simp only [downgradedFields, htopology]
      exact artifact.in_mismatch
  refine ⟨{ downgradedFields artifact frontier state.progress.exactCounts reason with
            valid := hvalid }, ?_, ?_⟩
  · have hrows := h.exactReferenceRows
    simp only [partialComparisonArtifactFromCompleted, bind_eq_ok]
    refine ⟨_, availableTotalInteger_eq_ok.mpr hmissing, _,
      availableTotalInteger_eq_ok.mpr hextra, _, availableTotalInteger_eq_ok.mpr hmodified, (),
      refuseIf_eq_ok.mpr ?_, frontier, hfrontier, ?_⟩
    · rw [hrows]
      simp only [Progress.completedCounts]
      omega
    · have hmatchedRows : state.progress.exactCounts.matched + state.progress.exactCounts.missing
          + state.progress.exactCounts.modified - state.progress.completedCounts.missing
          - state.progress.completedCounts.modified = state.progress.exactCounts.matched := by
        simp only [Progress.completedCounts]
        omega
      rw [hrows, hmatchedRows]
      exact PartialComparisonArtifact.make_of hvalid
  · exact
      { topology_eq := htopology
        unresolved_eq := hresolved
        anomalies_eq := rfl
        evidence_eq := rfl
        verdict_eq := rfl
        bounds := by
          refine ⟨leaves, ⟨hleaves.records.trans ?_, hleaves.classified⟩, ?_⟩
          · rw [h.completes.segments_eq]
            exact (exactRecords_orderedTopology _).symm
          · simp only [downgradedFields]
            rw [hexact, hcounts, partialTotals_totalCounts]
        differences_eq := fun hexactSegments => by
          simp only [downgradedFields, partialTotals, if_pos hexactSegments]
          exact ⟨hmissing.symm, hextra.symm, hmodified.symm⟩
        matched_eq := fun hguarantee => by
          have hpruned : ¬ 0 < state.progress.prunedSegments := fun hpruned => by
            rw [h.completes.guarantee_eq, if_pos hpruned] at hguarantee
            simp at hguarantee
          have hexactSegments : 0 < artifact.comparisonCoverage.exactSegments := by
            rw [hcoverage]
            exact Nat.pos_of_ne_zero fun hzero => by
              simp only [ComparisonCoverage.complete] at hzero
              omega
          have hnone := h.loop.sound.accounts.prunedMatched_eq_zero (Nat.eq_zero_of_not_pos hpruned)
          simp only [downgradedFields, partialTotals, if_pos hexactSegments]
          rw [hmatched]
          simp only [Total.value, Progress.completedCounts, hnone, Nat.zero_add, Total.isLowerBound,
            and_self] }

end CompletedRuns

/-- The structural artifact is always downgraded. -/
theorem downgrades_structural {recordBytes : DifferenceRecord Body → ℕ}
    (artifact : CompletedStructuralComparisonArtifact) (reason : ReasonCode) :
    ∃ partialArtifact, partialComparisonArtifactFromCompleted
        (.structural artifact : ComparisonOutcome recordBytes) reason = .ok partialArtifact ∧
      DowngradesStructural partialArtifact.toPartialFields := by
  obtain ⟨frontier, hfrontier, htopology, hresolved⟩ :=
    @PartialComparisonFrontier.make_resolved [] .nil
  simp only [partialComparisonArtifactFromCompleted, hfrontier, bind, Except.bind]
  have hvalid : @PartialFields.validate Body recordBytes
      { checkId := artifact.checkId
        contractDigest := artifact.contractDigest
        scopeDigest := artifact.scopeDigest
        inputCutDigest := artifact.inputCutDigest
        verdict := .mismatch
        consistency := artifact.consistency
        guarantee := .notEstablished
        comparisonCoverage := structuralCoverage
        totals := unavailableContractTotals
        evidenceCoverage := noEvidence
        metrics := artifact.metrics
        frontier
        anomalies := []
        referenceFullScans := artifact.referenceFullScans
        targetFullScans := artifact.targetFullScans } = .ok () := by
    simp [PartialFields.validate, validateEvidenceCoverage, validatePartialFrontierCoverage,
      validatePartialTotals, artifact.two_contexts, artifact.aligned, htopology, hresolved,
      structuralCoverage, ComparisonCoverage.complete, noEvidence, unavailableContractTotals,
      ComparisonTotals.uniform, ComparisonTotals.values, Total.isUnavailable, Total.isExact,
      Total.isInferred, Total.isLowerBound]
  exact ⟨_, PartialComparisonArtifact.make_of hvalid, htopology, hresolved, rfl, rfl, rfl, rfl⟩

/-- A completed comparison is downgraded exactly when it is settled. -/
theorem downgrade_iff {outcome : ComparisonOutcome inputs.recordBytes}
    (hrun : (comparisonRun inputs sources).result = .ok outcome) (reason : ReasonCode) :
    (∃ artifact, partialComparisonArtifactFromCompleted outcome reason = .ok artifact ∧
      Downgrades sources outcome reason artifact.toPartialFields) ↔ outcome.Settled := by
  cases outcome with
  | structural artifact =>
    exact ⟨fun _ => trivial, fun _ => downgrades_structural artifact reason⟩
  | completed completed =>
    obtain ⟨maxEncodedRowBytes, reference, target, state, last, h⟩ :=
      comparisonRun_completed sources.answered_answers hrun
    refine ⟨?_, fun hsettled => h.downgrades hsettled reason⟩
    rintro ⟨artifact, -, hdowngrades⟩
    by_cases hmismatch : completed.verdict = .mismatch
    · exact .inl hmismatch
    · refine .inr fun segment hsegment => ?_
      by_contra hne
      have hverdict := artifact.mismatch_of
        ((hasFingerprintMismatch_resolved hdowngrades.unresolved_eq).mpr ⟨segment, by
          rwa [hdowngrades.topology_eq], hne⟩)
      rw [hdowngrades.verdict_eq, if_neg hmismatch] at hverdict
      simp at hverdict

/-- The reference changes between the two levels: the run completes as a match
with a split root, and its downgrade is refused. -/
theorem drifting_run_not_downgraded :
    ∃ artifact, (comparisonRun sampleInputs (sampleSources 1)).result = .ok (.completed artifact) ∧
      (match partialComparisonArtifactFromCompleted (.completed artifact) .snapshotLost with
        | .ok _ => none
        | .error refusal => some refusal)
        = some { error := .valueError
                 message := "partial fingerprint mismatch witness requires mismatch verdict" } := by
  have hrefused : (completedArtifact? sampleInputs (sampleSources 1)).map (fun artifact =>
        match partialComparisonArtifactFromCompleted (.completed artifact) .snapshotLost with
        | .ok _ => none
        | .error refusal => some refusal)
      = some (some { error := .valueError
                     message := "partial fingerprint mismatch witness requires mismatch verdict" }) := by
    decide +kernel
  obtain ⟨artifact, hartifact, hrefusal⟩ := Option.map_eq_some_iff.mp hrefused
  exact ⟨artifact, completedArtifact?_eq_some hartifact, hrefusal⟩

/-- A source that stays as it is: the completed run is downgraded. -/
theorem settled_run_downgraded :
    ∃ outcome, (comparisonRun sampleInputs (sampleSources 0)).result = .ok outcome ∧
      ∃ artifact, partialComparisonArtifactFromCompleted outcome .snapshotLost = .ok artifact ∧
        Downgrades (sampleSources 0) outcome .snapshotLost artifact.toPartialFields := by
  have hsettled : ((completedArtifact? sampleInputs (sampleSources 0)).map fun artifact =>
      artifact.segments.all fun segment =>
        decide (segment.referenceFingerprint = segment.targetFingerprint)) = some true := by
    decide +kernel
  obtain ⟨artifact, hartifact, hall⟩ := Option.map_eq_some_iff.mp hsettled
  have hrun := completedArtifact?_eq_some hartifact
  refine ⟨.completed artifact, hrun, (downgrade_iff hrun .snapshotLost).mpr (.inr ?_)⟩
  simpa using hall

end ForensicData.Comparison
