/-
ForensicData.Comparison.Artifact — what a comparison leaves behind.

A completed run leaves an artifact with its whole segment topology, a run that
found null or duplicate keys a structural one, an interrupted run a partial one
with its frontier. Each validates itself when it is built; `make` is that
constructor, and what it checks are the proof fields.

How a difference is rendered as evidence is a parameter: `Body` is what the
record holds beside its place, and `recordBytes` the length of its canonical
form.
-/
import Mathlib.Algebra.BigOperators.Group.List.Basic
import ForensicData.Comparison.Connectors
import ForensicData.Text

namespace ForensicData.Comparison

open ForensicData.Canonical
open ForensicData.Result

/-! ## Differences -/

/-- `_ExactCounts`. -/
structure ExactCounts where
  matched : ℕ
  missing : ℕ
  extra : ℕ
  modified : ℕ
  deriving DecidableEq, Repr

def ExactCounts.zero : ExactCounts := { matched := 0, missing := 0, extra := 0, modified := 0 }

/-- `_add_exact_counts`. -/
def ExactCounts.add (left right : ExactCounts) : ExactCounts where
  matched := left.matched + right.matched
  missing := left.missing + right.missing
  extra := left.extra + right.extra
  modified := left.modified + right.modified

/-- The rows on which the sides differ. -/
def ExactCounts.differences (counts : ExactCounts) : ℕ :=
  counts.missing + counts.extra + counts.modified

inductive DifferenceKind where
  | missing
  | extra
  | modified
  deriving DecidableEq, Repr

def DifferenceKind.value : DifferenceKind → String
  | .missing => "missing"
  | .extra => "extra"
  | .modified => "modified"

/-- `_ExactDifference`. -/
structure ExactDifference where
  segmentSequence : ℕ
  kind : DifferenceKind
  keyRow : ExactRow
  referenceRow : Option ExactRow
  targetRow : Option ExactRow
  deriving DecidableEq

/-- `DifferenceRecord`: a numbered difference with its rendered evidence. -/
structure DifferenceRecord (Body : Type) where
  sequence : ℕ
  segmentSequence : ℕ
  kind : DifferenceKind
  body : Body
  deriving DecidableEq

variable {Body : Type}

/-! ## Totals and reasons -/

/-- `_comparison_totals`. -/
def comparisonTotals (counts : ExactCounts) (guarantee : Guarantee) :
    Except Refusal ComparisonTotals :=
  match guarantee with
  | .fingerprint =>
    .ok { matched := .inferred counts.matched, missing := .inferred counts.missing
          extra := .inferred counts.extra, modified := .inferred counts.modified }
  | .exact =>
    .ok { matched := .exact counts.matched, missing := .exact counts.missing
          extra := .exact counts.extra, modified := .exact counts.modified }
  | _ => .error
    { error := .assertionError
      message := "completed integer comparison has an unsupported guarantee" }

/-- `_comparison_reasons`. -/
def comparisonReasons (counts : ExactCounts) : List ResultReason :=
  if counts.differences = 0 then []
  else
    [{ code := .dataMismatch
       operation := "compare_integer_key_rows"
       message := "exact terminal leaves established row differences"
       safeParameters :=
         [{ name := "missing_count", value := toString counts.missing },
          { name := "extra_count", value := toString counts.extra },
          { name := "modified_count", value := toString counts.modified }]
       nativeErrorCode := none
       queryId := none
       redactedResponse := none }]

/-- `_partial_totals`. -/
def partialTotals (counts : ExactCounts) (exactSegments : ℕ) (reason : ReasonCode) :
    ComparisonTotals :=
  if 0 < exactSegments then
    { matched := .lowerBound counts.matched, missing := .lowerBound counts.missing
      extra := .lowerBound counts.extra, modified := .lowerBound counts.modified }
  else .uniform (.unavailable reason)

/-- `_key_summary_safe_parameters`. -/
def keySummarySafeParameters (reference target : KeySummary) : List SafeParameter :=
  [{ name := "reference_row_count", value := toString reference.rowCount },
   { name := "reference_null_key_count", value := toString reference.nullKeyCount },
   { name := "reference_invalid_key_count", value := toString reference.invalidKeyCount },
   { name := "reference_valid_key_count", value := toString reference.validKeyCount },
   { name := "reference_distinct_key_count", value := toString reference.distinctKeyCount },
   { name := "target_row_count", value := toString target.rowCount },
   { name := "target_null_key_count", value := toString target.nullKeyCount },
   { name := "target_invalid_key_count", value := toString target.invalidKeyCount },
   { name := "target_valid_key_count", value := toString target.validKeyCount },
   { name := "target_distinct_key_count", value := toString target.distinctKeyCount }]

/-- Every key of the summary is present and occurs once. -/
def KeySummary.uniqueKeys (summary : KeySummary) : Bool :=
  summary.nullKeyCount == 0 && summary.validKeyCount == summary.distinctKeyCount

/-- `_structural_contract_violation_reason`. -/
def structuralContractViolationReason (reference target : KeySummary) : Option ResultReason :=
  if reference.uniqueKeys && target.uniqueKeys then none
  else
    some
      { code := .contractViolation
        operation := "validate_integer_key_contract"
        message := "scoped integer-key validation found null or duplicate keys"
        safeParameters := keySummarySafeParameters reference target
        nativeErrorCode := none
        queryId := none
        redactedResponse := none }

/-! ## Completed artifacts -/

/-- The evidence an artifact kept is numbered from zero and counted. -/
structure RetainedEvidence (recordBytes : DifferenceRecord Body → ℕ)
    (coverage : EvidenceCoverage) (anomalies : List (DifferenceRecord Body)) : Prop where
  numbered : anomalies.map (·.sequence) = List.range anomalies.length
  records_eq : coverage.retainedRecords = anomalies.length
  bytes_eq : coverage.retainedBytes = (anomalies.map recordBytes).sum

/-- `_validate_evidence_coverage`. -/
def validateEvidenceCoverage (recordBytes : DifferenceRecord Body → ℕ)
    (coverage : EvidenceCoverage) (anomalies : List (DifferenceRecord Body)) :
    Except Refusal Unit := do
  refuseIf (anomalies.map (·.sequence) ≠ List.range anomalies.length)
    { error := .valueError
      message := "retained anomaly sequences must be contiguous from zero" }
  refuseIf (coverage.retainedRecords ≠ anomalies.length)
    { error := .valueError, message := "retained evidence count differs from anomaly records" }
  refuseIf (coverage.retainedBytes ≠ (anomalies.map recordBytes).sum)
    { error := .valueError, message := "retained evidence bytes differ from anomaly payloads" }

theorem validateEvidenceCoverage_eq_ok {recordBytes : DifferenceRecord Body → ℕ}
    {coverage : EvidenceCoverage} {anomalies : List (DifferenceRecord Body)} {u : Unit} :
    validateEvidenceCoverage recordBytes coverage anomalies = .ok u ↔
      RetainedEvidence recordBytes coverage anomalies := by
  simp only [validateEvidenceCoverage, bind_unit_eq_ok, refuseIf_eq_ok, not_not, ne_eq]
  constructor
  · intro h
    exact ⟨h.1, h.2.1, h.2.2⟩
  · intro h
    exact ⟨h.numbered, h.records_eq, h.bytes_eq⟩

/-- The anomaly lies in a segment recorded as an exact mismatch. -/
def InExactMismatch (segments : List ComparisonSegmentRecord) (anomaly : DifferenceRecord Body) :
    Prop :=
  ∃ segment ∈ segments,
    segment.segmentSequence = anomaly.segmentSequence ∧ segment.state = .exactMismatch

instance (segments : List ComparisonSegmentRecord) (anomaly : DifferenceRecord Body) :
    Decidable (InExactMismatch segments anomaly) :=
  inferInstanceAs (Decidable (∃ segment ∈ segments, _))

/-- `CompletedComparisonArtifact`. -/
structure CompletedComparisonArtifact (recordBytes : DifferenceRecord Body → ℕ) where
  checkId : NonblankText
  contractDigest : Sha256Hex
  scopeDigest : Sha256Hex
  inputCutDigest : Sha256Hex
  verdict : Verdict
  consistency : ConsistencyStatus
  guarantee : Guarantee
  comparisonCoverage : ComparisonCoverage
  totals : ComparisonTotals
  evidenceCoverage : EvidenceCoverage
  metrics : ResultMetrics
  reasons : List ResultReason
  segments : List ComparisonSegmentRecord
  anomalies : List (DifferenceRecord Body)
  referenceKeySummary : KeySummary
  targetKeySummary : KeySummary
  referenceFullScans : ℕ
  targetFullScans : ℕ
  established : guarantee = .exact ∨ guarantee = .fingerprint
  nonempty : segments ≠ []
  contiguous : segments.map (·.segmentSequence) = List.range segments.length
  retained : RetainedEvidence recordBytes evidenceCoverage anomalies
  in_mismatch : ∀ anomaly ∈ anomalies, InExactMismatch segments anomaly
  nodes_eq : metrics.fingerprintNodes = segments.length

/-- The fields of an artifact before they are checked. -/
structure CompletedFields (Body : Type) where
  checkId : NonblankText
  contractDigest : Sha256Hex
  scopeDigest : Sha256Hex
  inputCutDigest : Sha256Hex
  verdict : Verdict
  consistency : ConsistencyStatus
  guarantee : Guarantee
  comparisonCoverage : ComparisonCoverage
  totals : ComparisonTotals
  evidenceCoverage : EvidenceCoverage
  metrics : ResultMetrics
  reasons : List ResultReason
  segments : List ComparisonSegmentRecord
  anomalies : List (DifferenceRecord Body)
  referenceKeySummary : KeySummary
  targetKeySummary : KeySummary
  referenceFullScans : ℕ
  targetFullScans : ℕ

/-- `CompletedComparisonArtifact(...)`. -/
def CompletedComparisonArtifact.make (recordBytes : DifferenceRecord Body → ℕ)
    (fields : CompletedFields Body) : Except Refusal (CompletedComparisonArtifact recordBytes) :=
  if established : fields.guarantee = .exact ∨ fields.guarantee = .fingerprint then
    if nonempty : fields.segments ≠ [] then
      if contiguous : fields.segments.map (·.segmentSequence)
          = List.range fields.segments.length then
        match hretained : validateEvidenceCoverage recordBytes fields.evidenceCoverage
            fields.anomalies with
        | .error refusal => .error refusal
        | .ok _ =>
          if in_mismatch : ∀ anomaly ∈ fields.anomalies,
              InExactMismatch fields.segments anomaly then
            if nodes_eq : fields.metrics.fingerprintNodes = fields.segments.length then
              .ok { fields with established, nonempty, contiguous
                                retained := validateEvidenceCoverage_eq_ok.mp hretained
                                in_mismatch, nodes_eq }
            else raiseValueError "fingerprint_nodes must equal the logical segment topology size"
          else raiseValueError "completed anomalies require exact-mismatch segments"
      else raiseValueError "completed segment sequences must be contiguous from zero"
    else raiseValueError "completed comparison requires a nonempty segment topology"
  else raiseValueError "completed integer comparison requires exact or fingerprint guarantee"

/-- The fields of an artifact that was built are the ones it was built from. -/
theorem CompletedComparisonArtifact.make_eq_ok {recordBytes : DifferenceRecord Body → ℕ}
    {fields : CompletedFields Body} {artifact : CompletedComparisonArtifact recordBytes}
    (h : CompletedComparisonArtifact.make recordBytes fields = .ok artifact) :
    fields =
      { checkId := artifact.checkId, contractDigest := artifact.contractDigest
        scopeDigest := artifact.scopeDigest, inputCutDigest := artifact.inputCutDigest
        verdict := artifact.verdict, consistency := artifact.consistency
        guarantee := artifact.guarantee, comparisonCoverage := artifact.comparisonCoverage
        totals := artifact.totals, evidenceCoverage := artifact.evidenceCoverage
        metrics := artifact.metrics, reasons := artifact.reasons, segments := artifact.segments
        anomalies := artifact.anomalies, referenceKeySummary := artifact.referenceKeySummary
        targetKeySummary := artifact.targetKeySummary
        referenceFullScans := artifact.referenceFullScans
        targetFullScans := artifact.targetFullScans } := by
  unfold CompletedComparisonArtifact.make at h
  split at h
  · split at h
    · split at h
      · split at h
        · simp at h
        · split at h
          · split at h
            · rw [Except.ok.injEq] at h
              subst h
              rfl
            · simp [raiseValueError] at h
          · simp [raiseValueError] at h
      · simp [raiseValueError] at h
    · simp [raiseValueError] at h
  · simp [raiseValueError] at h

/-- Fields that pass the checks make an artifact. -/
theorem CompletedComparisonArtifact.make_of {recordBytes : DifferenceRecord Body → ℕ}
    {fields : CompletedFields Body}
    (established : fields.guarantee = .exact ∨ fields.guarantee = .fingerprint)
    (nonempty : fields.segments ≠ [])
    (contiguous : fields.segments.map (·.segmentSequence) = List.range fields.segments.length)
    (retained : RetainedEvidence recordBytes fields.evidenceCoverage fields.anomalies)
    (in_mismatch : ∀ anomaly ∈ fields.anomalies, InExactMismatch fields.segments anomaly)
    (nodes_eq : fields.metrics.fingerprintNodes = fields.segments.length) :
    ∃ artifact, CompletedComparisonArtifact.make recordBytes fields = .ok artifact := by
  unfold CompletedComparisonArtifact.make
  rw [dif_pos established, dif_pos nonempty, dif_pos contiguous]
  split
  · rename_i refusal hrefusal
    have hok : validateEvidenceCoverage recordBytes fields.evidenceCoverage fields.anomalies
        = .ok () := validateEvidenceCoverage_eq_ok.mpr retained
    simp [hok] at hrefusal
  · rw [dif_pos in_mismatch, dif_pos nodes_eq]
    exact ⟨_, rfl⟩

/-- `CompletedStructuralComparisonArtifact`, once `_validate_structural_artifact`
has fixed everything but its identity, stability, metrics and summaries. -/
structure CompletedStructuralComparisonArtifact where
  checkId : NonblankText
  contractDigest : Sha256Hex
  scopeDigest : Sha256Hex
  inputCutDigest : Sha256Hex
  consistency : ConsistencyStatus
  metrics : ResultMetrics
  reason : ResultReason
  referenceKeySummary : KeySummary
  targetKeySummary : KeySummary
  referenceFullScans : ℕ
  targetFullScans : ℕ
  stable : consistency.stableReads = .asserted ∨ consistency.stableReads = .verified
  aligned : consistency.cutAlignment = .verified
  two_contexts : consistency.readContextIds.length = 2
  both_summaries : 2 ≤ metrics.queries ∧ 2 ≤ metrics.fetchedRecords ∧ metrics.fingerprintNodes = 0
  reference_mapped : referenceKeySummary.invalidKeyCount = 0
  target_mapped : targetKeySummary.invalidKeyCount = 0
  reason_eq : structuralContractViolationReason referenceKeySummary targetKeySummary = some reason

/-- `CompletedStructuralComparisonArtifact(...)` as `_completed_structural_artifact`
calls it: the verdict, guarantee, coverage, totals and evidence it passes are
the ones the validator asks for. -/
def CompletedStructuralComparisonArtifact.make (checkId : NonblankText)
    (contractDigest scopeDigest inputCutDigest : Sha256Hex) (consistency : ConsistencyStatus)
    (metrics : ResultMetrics) (reason : ResultReason) (reference target : KeySummary)
    (referenceFullScans targetFullScans : ℕ) :
    Except Refusal CompletedStructuralComparisonArtifact :=
  if stable : consistency.stableReads = .asserted ∨ consistency.stableReads = .verified then
    if aligned : consistency.cutAlignment = .verified then
      if two_contexts : consistency.readContextIds.length = 2 then
        if both_summaries : 2 ≤ metrics.queries ∧ 2 ≤ metrics.fetchedRecords ∧
            metrics.fingerprintNodes = 0 then
          if reference_mapped : reference.invalidKeyCount = 0 then
            if target_mapped : target.invalidKeyCount = 0 then
              if reason_eq : structuralContractViolationReason reference target = some reason then
                .ok { checkId, contractDigest, scopeDigest, inputCutDigest, consistency, metrics,
                      reason, referenceKeySummary := reference, targetKeySummary := target,
                      referenceFullScans, targetFullScans, stable, aligned, two_contexts,
                      both_summaries, reference_mapped, target_mapped, reason_eq }
              else raiseValueError
                "completed structural comparison reason must exactly encode its key summaries"
            else raiseValueError "target structural result cannot include invalid mapped keys"
          else raiseValueError "reference structural result cannot include invalid mapped keys"
        else raiseValueError
          "completed structural comparison requires both summary-read receipts"
      else raiseValueError "completed structural comparison requires two read contexts"
    else raiseValueError "completed structural comparison requires verified cut alignment"
  else raiseValueError "completed structural comparison requires known stable reads"

/-! ## Partial artifacts -/

/-- The fields of a partial artifact before they are checked. -/
structure PartialFields (Body : Type) where
  checkId : NonblankText
  contractDigest : Sha256Hex
  scopeDigest : Sha256Hex
  inputCutDigest : Sha256Hex
  verdict : Verdict
  consistency : ConsistencyStatus
  guarantee : Guarantee
  comparisonCoverage : ComparisonCoverage
  totals : ComparisonTotals
  evidenceCoverage : EvidenceCoverage
  metrics : ResultMetrics
  frontier : PartialComparisonFrontier
  anomalies : List (DifferenceRecord Body)
  referenceFullScans : ℕ
  targetFullScans : ℕ

def prunedSegmentCount (segments : List ComparisonSegmentRecord) : ℕ :=
  segments.countP fun segment => decide (segment.state = .fingerprintMatch)

def exactSegmentCount (segments : List ComparisonSegmentRecord) : ℕ :=
  segments.countP fun segment => segment.state.isExact

/-- A recorded segment with unequal fingerprints, or an unresolved one that was
fingerprinted. -/
def PartialComparisonFrontier.hasFingerprintMismatch (frontier : PartialComparisonFrontier) :
    Bool :=
  (frontier.topology.any fun item => decide (item.referenceFingerprint ≠ item.targetFingerprint)) ||
    frontier.unresolved.any fun item => item.referenceFingerprint.isSome

/-- `_validate_partial_frontier_coverage`. -/
def validatePartialFrontierCoverage (artifact : PartialFields Body) :
    Except Refusal Unit := do
  let coverage := artifact.comparisonCoverage
  let topology := artifact.frontier.topology
  let unresolved := artifact.frontier.unresolved
  let pruned := prunedSegmentCount topology
  let exact := exactSegmentCount topology
  let structuralEmptyFrontier := topology.isEmpty && unresolved.isEmpty &&
    coverage.resolvedSegments == 1 && coverage.prunedSegments == 0 &&
    coverage.exactSegments == 1 && artifact.totals.values.all (·.isUnavailable)
  refuseIf (structuralEmptyFrontier = false ∧ (coverage.prunedSegments ≠ pruned ∨
      coverage.exactSegments ≠ exact ∨ coverage.resolvedSegments ≠ pruned + exact))
    { error := .valueError
      message := "partial comparison coverage differs from its terminal topology" }
  refuseIf (coverage.unresolvedSegments ≠ unresolved.length)
    { error := .valueError, message := "partial unresolved coverage differs from its frontier" }
  refuseIf (coverage.unresolvedReasons ≠ (unresolved.map (·.reason)).reverse.dedup.reverse)
    { error := .valueError, message := "partial unresolved reasons differ from its frontier" }
  refuseIf (coverage.totalPartitions ≠ 1 ∨ coverage.coveredPartitions ≠
      if unresolved.isEmpty ∧ 0 < coverage.resolvedSegments then 1 else 0)
    { error := .valueError
      message := "partial comparison partition coverage differs from its frontier" }
  refuseIf (artifact.frontier.hasFingerprintMismatch = true ∧ artifact.verdict ≠ .mismatch)
    { error := .valueError
      message := "partial fingerprint mismatch witness requires mismatch verdict" }
  refuseIf (¬ ∀ anomaly ∈ artifact.anomalies, InExactMismatch topology anomaly)
    { error := .valueError
      message := "partial anomaly requires an exact-mismatch topology segment" }

/-- `_validate_partial_totals`. -/
def validatePartialTotals (artifact : PartialFields Body) : Except Refusal Unit := do
  let totals := artifact.totals.values
  refuseIf (totals.any (fun total => total.isExact || total.isInferred) = true)
    { error := .valueError
      message := "partial comparison totals cannot claim exact or inferred precision" }
  refuseIf (totals.any (·.isLowerBound) = true ∧ artifact.comparisonCoverage.exactSegments = 0)
    { error := .valueError
      message := "partial lower bounds require a completed exact segment" }
  refuseIf (artifact.totals.differences.any (fun total =>
      total.isLowerBound && total.value != some 0) = true ∧ artifact.verdict ≠ .mismatch)
    { error := .valueError
      message := "positive partial difference lower bound requires mismatch verdict" }

/-- The checks of `PartialComparisonArtifact.__post_init__`. -/
def PartialFields.validate (recordBytes : DifferenceRecord Body → ℕ)
    (artifact : PartialFields Body) : Except Refusal Unit := do
  refuseIf (artifact.verdict = .match)
    { error := .valueError, message := "partial comparison cannot claim a match" }
  refuseIf (artifact.consistency.readContextIds.length ≠ 2)
    { error := .valueError
      message := "partial comparison requires both protected context identities" }
  refuseIf (artifact.consistency.cutAlignment = .asserted)
    { error := .valueError
      message := "partial comparison cannot invent asserted cut-alignment proof" }
  refuseIf (artifact.consistency.stableReads ≠ .unknown ∧
      artifact.consistency.cutAlignment ≠ .verified)
    { error := .valueError
      message := "known partial stable reads require a verified aligned cut" }
  refuseIf (artifact.guarantee ≠ .notEstablished)
    { error := .valueError
      message := "partial comparison requires not_established guarantee" }
  validateEvidenceCoverage recordBytes artifact.evidenceCoverage artifact.anomalies
  validatePartialFrontierCoverage artifact
  validatePartialTotals artifact

/-- `PartialComparisonArtifact`. -/
structure PartialComparisonArtifact (recordBytes : DifferenceRecord Body → ℕ)
    extends PartialFields Body where
  valid : toPartialFields.validate recordBytes = .ok ()

/-- `PartialComparisonArtifact(...)`. -/
def PartialComparisonArtifact.make (recordBytes : DifferenceRecord Body → ℕ)
    (fields : PartialFields Body) : Except Refusal (PartialComparisonArtifact recordBytes) :=
  match valid : fields.validate recordBytes with
  | .error refusal => .error refusal
  | .ok _ => .ok { fields with valid }

theorem PartialComparisonArtifact.make_of {recordBytes : DifferenceRecord Body → ℕ}
    {fields : PartialFields Body} (valid : fields.validate recordBytes = .ok ()) :
    PartialComparisonArtifact.make recordBytes fields = .ok { fields with valid } := by
  unfold PartialComparisonArtifact.make
  split
  · rename_i refusal hrefusal
    simp [valid] at hrefusal
  · rfl

theorem PartialComparisonArtifact.make_eq_ok {recordBytes : DifferenceRecord Body → ℕ}
    {fields : PartialFields Body} {artifact : PartialComparisonArtifact recordBytes}
    (h : PartialComparisonArtifact.make recordBytes fields = .ok artifact) :
    artifact.toPartialFields = fields := by
  unfold PartialComparisonArtifact.make at h
  split at h
  · cases h
  · cases h
    rfl

end ForensicData.Comparison
