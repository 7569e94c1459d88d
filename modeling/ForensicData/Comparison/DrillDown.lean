/-
ForensicData.Comparison.DrillDown — the work loop ends, and numbers its segments.

The loop of the source runs while ranges are pending; the model's loop counts
rounds. `drillDown` is a comparison up to the end of its loop, for any number of
rounds: with more rounds than fingerprint nodes it is the same run whatever the
number (`drillDown_fuel`), and nothing is pending when it returns.

  * cutting a range gives two non-empty ranges that are strictly narrower;
  * no range is fingerprinted beyond the bound, also in a run that raises;
  * a range of one key that does not fit raises the budget error;
  * the recorded segments are numbered from 0 without a gap, one for each
    fingerprinted node.
-/
import ForensicData.Comparison.Runs

namespace ForensicData.Comparison

open ForensicData.Canonical
open ForensicData.Lib
open ForensicData.Lib.Generator
open ForensicData.Result

variable {budgets : ExecutionBudgets} {Body : Type} {inputs : ComparisonInputs Body}
  {sources : Sources budgets} {reference target : KeySummary}

/-! ## Bisection -/

/-- Both halves of a range hold a key, and neither holds all of its keys. -/
theorem splitSegment_narrows {segment left right : PendingSegment} {nextSequence : ℕ}
    (h : splitSegment segment nextSequence = some (left, right)) :
    (0 < left.width ∧ left.width < segment.width) ∧
      (0 < right.width ∧ right.width < segment.width) := by
  obtain ⟨_, _, _, _, _, hwide, hleft, hright⟩ := splitSegment_eq_some h
  rw [hleft, hright]
  omega

/-- Exactly the ranges of at most one key are not cut. -/
theorem splitSegment_eq_none {segment : PendingSegment} {nextSequence : ℕ} :
    splitSegment segment nextSequence = none ↔ segment.width ≤ 1 := by
  rw [splitSegment, SegmentPlace.width]
  dsimp only
  split
  · rename_i hnarrow
    exact ⟨fun _ => hnarrow, fun _ => rfl⟩
  · rename_i hwide
    exact ⟨fun h => (Option.some_ne_none _ h).elim, fun h => absurd h hwide⟩

/-! ## A range of one key -/

/-- The cause is a spent budget. -/
def IsBudgetExceeded (cause : Cause) : Prop := ∃ message, cause = comparisonBudgetExceeded message

theorem ensures_requireDeadlineEvery_budget {index : ℕ} {world : World budgets}
    {post : Unit → World budgets → Prop} (hpost : ∀ now, post () now) :
    Ensures (fun _ : Progress Body => True) (fun cause _ => IsBudgetExceeded cause)
      (requireDeadlineEvery sources index) world post := by
  rw [requireDeadlineEvery]
  split
  · refine ensures_act.mpr ⟨fun _ _ => hpost _, fun cause h => ?_⟩
    split at h
    · exact ⟨_, (Except.error.inj h).symm⟩
    · cases h
  · exact ensures_pure.mpr (hpost _)

theorem ensures_splitNodes_narrow {nextSequence : ℕ} {mismatching : List FingerprintNode}
    {world : World budgets} (h : ∃ node ∈ mismatching, node.segment.width ≤ 1) :
    Ensures (fun _ : Progress Body => True) (fun cause _ => IsBudgetExceeded cause)
      (splitNodes sources nextSequence mismatching) world fun _ _ => False := by
  refine Ensures.mono (ensures_fold
    (fun rest _ _ => ∃ item ∈ rest, item.1.segment.width ≤ 1) ?_ ?_) ?_
  · intro item rest done now hitem
    rw [List.exists_mem_cons_iff] at hitem
    simp only [ensures_bind]
    refine ensures_requireDeadlineEvery_budget fun now' => ?_
    cases hsplit : splitSegment item.1.segment (nextSequence + 2 * item.2) with
    | none => exact ensures_raise.mpr ⟨_, rfl⟩
    | some halves =>
      refine ensures_pure.mpr (hitem.resolve_left fun hnarrow => ?_)
      rw [splitSegment_eq_none.mpr hnarrow] at hsplit
      cases hsplit
  · obtain ⟨node, hnode, hnarrow⟩ := h
    obtain ⟨index, hindex⟩ := List.mem_iff_getElem?.mp hnode
    exact ⟨(node, index), List.mem_zipIdx_iff_getElem?.mpr (by simpa using hindex), hnarrow⟩
  · intro _ _ hnone
    simp at hnone

/-- A range of one key cannot be cut: the budgets are spent. -/
theorem subdivideFrontier_single_key {mismatching : List FingerprintNode} {state : LoopState Body}
    {world : World budgets} (h : ∃ node ∈ mismatching, node.segment.width ≤ 1) :
    ∃ message, (subdivideFrontier sources mismatching state world).result
      = .error (comparisonBudgetExceeded message) := by
  have hensures : Ensures (fun _ : Progress Body => True) (fun cause _ => IsBudgetExceeded cause)
      (subdivideFrontier sources mismatching state) world fun _ _ => False := by
    simp only [subdivideFrontier, ensures_bind]
    exact (ensures_splitNodes_narrow h).mono fun _ _ hfalse => hfalse.elim
  cases hresult : (subdivideFrontier sources mismatching state world).result with
  | ok after => exact (hensures.of_result hresult).elim
  | error cause =>
    obtain ⟨message, rfl⟩ := hensures.of_error hresult
    exact ⟨message, rfl⟩

/-! ## Rounds -/

/-- The loop has ended: it raised, or nothing is pending. -/
def LoopEnded (run : Run (World budgets) (Progress Body) Cause (LoopState Body)) : Prop :=
  ∀ after, run.result = .ok after → after.pending = []

section

variable {maxEncodedRowBytes : ℕ}

theorem workLoop_done {state : LoopState Body} (hdone : state.pending = []) (fuel : ℕ) :
    workLoop inputs sources maxEncodedRowBytes reference target fuel state = pure state := by
  cases fuel with
  | zero => rfl
  | succ fuel => rw [workLoop, if_pos hdone]

/-- A loop that has ended has nothing to do in one more round. -/
theorem workLoop_succ {fuel : ℕ} {state : LoopState Body} {world : World budgets}
    (h : LoopEnded (workLoop inputs sources maxEncodedRowBytes reference target fuel state world)) :
    workLoop inputs sources maxEncodedRowBytes reference target (fuel + 1) state world
      = workLoop inputs sources maxEncodedRowBytes reference target fuel state world := by
  induction fuel generalizing state world with
  | zero =>
    have hdone : state.pending = [] := h state rfl
    rw [workLoop_done hdone, workLoop_done hdone]
  | succ fuel ih =>
    by_cases hdone : state.pending = []
    · rw [workLoop_done hdone, workLoop_done hdone]
    · rw [workLoop, if_neg hdone] at h
      rw [workLoop, workLoop, if_neg hdone, if_neg hdone]
      cases hround : (workRound inputs sources maxEncodedRowBytes reference target state
          world).result with
      | error cause => rw [bind_of_error hround, bind_of_error hround]
      | ok after =>
        rw [bind_of_ok hround, bind_of_ok hround]
        rw [bind_of_ok hround] at h
        rw [ih fun last hlast => h last hlast]

theorem workLoop_add {fuel : ℕ} {state : LoopState Body} {world : World budgets}
    (h : LoopEnded (workLoop inputs sources maxEncodedRowBytes reference target fuel state world))
    (extra : ℕ) :
    workLoop inputs sources maxEncodedRowBytes reference target (fuel + extra) state world
      = workLoop inputs sources maxEncodedRowBytes reference target fuel state world := by
  induction extra with
  | zero => rfl
  | succ extra ih =>
    rw [← ih] at h
    rw [← Nat.add_assoc, workLoop_succ h, ih]

end

/-! ## Fingerprinted ranges -/

/-- The ranges of a side that a reply gave fingerprints of. -/
def Reply.fingerprinted (side : Side) : Reply → ℕ
  | .fingerprints answered requests _ => if answered = side then requests.length else 0
  | _ => 0

/-- The ranges of a side that were fingerprinted so far. -/
def World.fingerprinted (side : Side) (world : World budgets) : ℕ :=
  (world.replies.map (·.fingerprinted side)).sum

section

variable {side : Side} {n : ℕ} {α : Type}

theorem growsBy_refuseWhen {condition : Prop} [Decidable condition] {cause : Cause} :
    GrowsBy (World.fingerprinted side) n
      (refuseWhen condition cause : Engine budgets Body Unit) := .lift _

theorem growsBy_requireDeadline :
    GrowsBy (World.fingerprinted side) n
      (requireDeadline sources : Engine budgets Body Unit) :=
  .act fun _ => Nat.le_add_right _ _

theorem growsBy_requireDeadlineEvery {index : ℕ} :
    GrowsBy (World.fingerprinted side) n
      (requireDeadlineEvery sources index : Engine budgets Body Unit) := by
  rw [requireDeadlineEvery]
  split
  · exact growsBy_requireDeadline
  · exact .pure _

theorem growsBy_visit {step : ℕ → α → Engine budgets Body Unit} {items : List α}
    (h : ∀ index item, GrowsBy (World.fingerprinted side) 0 (step index item)) :
    GrowsBy (World.fingerprinted side) 0 (visit step items) := by
  rw [visit]
  exact .fold (fun _ item => h _ _) () _

theorem growsBy_applyCharge {read : Side} {charge : Charge} :
    GrowsBy (World.fingerprinted side) 0
      (applyCharge sources read charge : Engine budgets Body Unit) := by
  have hdeadline (message : String) : GrowsBy (World.fingerprinted side) 0
      (requireSourceDeadline sources message : Engine budgets Body Unit) :=
    .act fun _ => Nat.le_refl _
  cases charge with
  | query fullScans =>
    refine (hdeadline _).after fun _ => .act fun world => ?_
    split <;> exact Nat.le_refl _
  | records recordBytes =>
    exact .after (.act fun _ => Nat.le_refl _) fun _ => (hdeadline _).after fun _ =>
      .act fun _ => Nat.le_refl _
  | observedBytes resultBytes =>
    exact .after (.act fun _ => Nat.le_refl _) fun _ => (hdeadline _).after fun _ =>
      .act fun _ => Nat.le_refl _

/-- A read adds what its reply gives. -/
theorem growsBy_readSource {read : Side} {reading : ℕ → Reading α} {reply : α → Reply}
    (h : ∀ answer, (reply answer).fingerprinted side ≤ n) :
    GrowsBy (World.fingerprinted side) n
      (readSource sources read reading reply : Engine budgets Body α) := by
  refine .after (.act fun _ => Nat.le_refl _) fun index => ?_
  refine .after (.fold (fun _ _ => growsBy_applyCharge) () _) fun _ => ?_
  refine .after (.lift _) fun answer => ?_
  have hreply : GrowsBy (World.fingerprinted side) n
      (act fun world => (.ok (), { world with replies := world.replies ++ [reply answer] })
        : Engine budgets Body Unit) := by
    refine .act fun world => ?_
    simp only [World.fingerprinted, List.map_append, List.sum_append, List.map_cons, List.map_nil,
      List.sum_cons, List.sum_nil, Nat.add_zero]
    exact Nat.add_le_add_left (h answer) _
  exact hreply.bind (n := 0) fun _ => .pure answer

theorem growsBy_consumeSourceUsage {usage : Usage} {nodes peak : ℕ} :
    GrowsBy (World.fingerprinted side) 0
      (consumeSourceUsage sources usage nodes peak : Engine budgets Body Usage) :=
  .after (.act fun _ => Nat.le_refl _) fun _ => .pure _

theorem growsBy_requireFullScanCapacity {referenceFullScans targetFullScans : ℕ} :
    GrowsBy (World.fingerprinted side) 0
      (requireFullScanCapacity referenceFullScans targetFullScans : Engine budgets Body Unit) :=
  .after (.act fun _ => Nat.le_refl _) fun _ => growsBy_refuseWhen.after fun _ =>
    growsBy_refuseWhen

theorem growsBy_requireBudgetCapacity {queries records resultBytes coordinatorBytes : ℕ} :
    GrowsBy (World.fingerprinted side) 0
      (requireBudgetCapacity queries records resultBytes coordinatorBytes
        : Engine budgets Body Unit) :=
  .after (.act fun _ => Nat.le_refl _) fun _ => growsBy_refuseWhen.after fun _ =>
    growsBy_refuseWhen.after fun _ => growsBy_refuseWhen.after fun _ => growsBy_refuseWhen

/-! ### A level -/

theorem growsBy_readIntegerRangeFingerprints {read : Side} {maxEncodedRowBytes : ℕ}
    {plan : FingerprintLevelPlan} :
    GrowsBy (World.fingerprinted side) (if read = side then plan.requests.length else 0)
      (readIntegerRangeFingerprints inputs sources read maxEncodedRowBytes plan) :=
  .after (.lift _) fun _ => growsBy_readSource fun _ => Nat.le_refl _

theorem growsBy_readFingerprintLevel {maxEncodedRowBytes : ℕ} {usage : Usage}
    {plan : FingerprintLevelPlan} :
    GrowsBy (World.fingerprinted side) plan.requests.length
      (readFingerprintLevel inputs sources maxEncodedRowBytes usage plan) := by
  refine growsBy_requireFullScanCapacity.after fun _ =>
    growsBy_requireBudgetCapacity.after fun _ => growsBy_requireDeadline.after fun _ => ?_
  -- Only one of the two reads is the side's own.
  cases side with
  | reference =>
    exact growsBy_readIntegerRangeFingerprints.bind (n := 0) fun _ =>
      growsBy_requireDeadline.after fun _ => growsBy_readIntegerRangeFingerprints.after fun _ =>
        growsBy_consumeSourceUsage.after fun _ => .pure _
  | target =>
    refine growsBy_readIntegerRangeFingerprints.after fun _ =>
      growsBy_requireDeadline.after fun _ => ?_
    exact growsBy_readIntegerRangeFingerprints.bind (n := 0) fun _ =>
      growsBy_consumeSourceUsage.after fun _ => .pure _

theorem growsBy_fingerprintNodes {pending : List PendingSegment}
    {referenceRead targetRead : RangeFingerprintRead} :
    GrowsBy (World.fingerprinted side) 0
      (fingerprintNodes sources pending referenceRead targetRead
        : Engine budgets Body (List FingerprintNode)) :=
  growsBy_refuseWhen.after fun _ =>
    (growsBy_visit fun _ _ => growsBy_requireDeadlineEvery.after fun _ =>
      growsBy_refuseWhen).after fun _ => growsBy_requireDeadline.after fun _ => .pure _

/-- A level is fingerprinted only when it fits the bound on nodes. -/
theorem growsBy_fingerprintLevel {maxEncodedRowBytes : ℕ} {state : LoopState Body} :
    GrowsBy (World.fingerprinted side) (budgets.maxFingerprintNodes - state.usage.fingerprintNodes)
      (fingerprintLevel inputs sources maxEncodedRowBytes reference target state) := by
  refine .after (.lift _) fun _ => ?_
  refine (GrowsBy.bind_result (m := 0) (.lift _) fun world plan hplan => ?_).mono
    (Nat.zero_add _).le
  obtain ⟨hrequests, hfits⟩ := planFingerprintLevel_eq_ok hplan
  refine .after (.yield _) fun _ => ?_
  have hread : GrowsBy (World.fingerprinted side)
      (budgets.maxFingerprintNodes - state.usage.fingerprintNodes)
      (readFingerprintLevel inputs sources maxEncodedRowBytes
        (state.usage.withCoordinatorPeak plan.coordinatorPeakBytes) plan) := by
    refine growsBy_readFingerprintLevel.mono ?_
    rw [hrequests, List.length_map]
    omega
  exact hread.bind (n := 0) fun _ => .after (.yield _) fun _ =>
    growsBy_fingerprintNodes.after fun _ => .after (.lift _) fun _ => .pure _

/-! ### The rest of a round -/

theorem growsBy_partitionFingerprintNodes {nodes : List FingerprintNode} :
    GrowsBy (World.fingerprinted side) 0
      (partitionFingerprintNodes sources nodes
        : Engine budgets Body (List FingerprintNode × List FingerprintNode)) :=
  (growsBy_visit fun _ _ => growsBy_requireDeadlineEvery).after fun _ =>
    growsBy_requireDeadline.after fun _ => .pure _

theorem growsBy_recordMatching {progress : Progress Body} {matching : List FingerprintNode} :
    GrowsBy (World.fingerprinted side) 0 (recordMatching sources progress matching) :=
  .fold (fun _ _ => growsBy_requireDeadlineEvery.after fun _ => .after (.lift _) fun _ =>
    .after (.yield _) fun _ => .pure _) _ _

theorem growsBy_announceMismatches {progress : Progress Body} {nodes : List FingerprintNode} :
    GrowsBy (World.fingerprinted side) 0
      (announceMismatches progress nodes : Engine budgets Body (Progress Body)) := by
  rw [announceMismatches]
  split
  · exact .pure _
  · exact .after (.yield _) fun _ => .pure _

theorem growsBy_readIntegerRangeRows {read : Side} {maxEncodedRowBytes : ℕ}
    {requests : List RangeRequest} {reservation : ExactSideReservation} :
    GrowsBy (World.fingerprinted side) 0
      (readIntegerRangeRows inputs sources read maxEncodedRowBytes requests reservation) :=
  .after (.lift _) fun _ => growsBy_readSource fun _ => Nat.le_refl _

theorem growsBy_readExactFrontier {maxEncodedRowBytes : ℕ} {nodes : List FingerprintNode}
    {reservation : ExactFrontierReservation} {usage : Usage} :
    GrowsBy (World.fingerprinted side) 0
      (readExactFrontier inputs sources maxEncodedRowBytes nodes reservation usage) :=
  growsBy_requireFullScanCapacity.after fun _ => growsBy_requireBudgetCapacity.after fun _ =>
    growsBy_requireDeadline.after fun _ => growsBy_readIntegerRangeRows.after fun _ =>
    growsBy_requireDeadline.after fun _ => growsBy_readIntegerRangeRows.after fun _ =>
    growsBy_requireDeadline.after fun _ => growsBy_refuseWhen.after fun _ =>
    growsBy_refuseWhen.after fun _ => growsBy_refuseWhen.after fun _ =>
    growsBy_refuseWhen.after fun _ => growsBy_consumeSourceUsage.after fun _ => .pure _

theorem growsBy_groupExactFrontierRows {nodes : List FingerprintNode}
    {referenceRead targetRead : ExactRowsRead} :
    GrowsBy (World.fingerprinted side) 0
      (groupExactFrontierRows sources nodes referenceRead targetRead
        : Engine budgets Body Unit) := by
  have hgroup (rows : List ExactRow) (segmentIds : List String) :
      GrowsBy (World.fingerprinted side) 0
        (groupExactRows sources rows segmentIds : Engine budgets Body Unit) :=
    (growsBy_visit fun _ _ => growsBy_requireDeadlineEvery.after fun _ =>
      growsBy_refuseWhen).after fun _ =>
        (growsBy_visit fun _ _ => growsBy_requireDeadlineEvery).after fun _ =>
          growsBy_requireDeadline
  exact growsBy_requireDeadline.after fun _ => (hgroup _ _).after fun _ =>
    (hgroup _ _).after fun _ => growsBy_requireDeadline

theorem growsBy_compareExactRowsLoop {sequence rounds classified : ℕ}
    {referenceRows targetRows : List ExactRow} {leaf : LeafComparison} :
    GrowsBy (World.fingerprinted side) 0
      (compareExactRowsLoop sources sequence rounds classified referenceRows targetRows leaf
        : Engine budgets Body LeafComparison) := by
  induction rounds generalizing classified referenceRows targetRows leaf with
  | zero => exact .pure _
  | succ rounds ih =>
    cases referenceRows with
    | nil =>
      cases targetRows with
      | nil => exact .pure _
      | cons row targetRows => exact growsBy_requireDeadlineEvery.after fun _ => ih
    | cons row referenceRows =>
      cases targetRows with
      | nil => exact growsBy_requireDeadlineEvery.after fun _ => ih
      | cons other targetRows =>
        refine growsBy_requireDeadlineEvery.after fun _ => ?_
        split
        · exact ih
        · split
          · exact ih
          · exact growsBy_refuseWhen.after fun _ => ih

theorem growsBy_recordExactLeaves {progress : Progress Body} {nodes : List FingerprintNode}
    {referenceRead targetRead : ExactRowsRead} :
    GrowsBy (World.fingerprinted side) 0
      (recordExactLeaves inputs sources progress referenceRead targetRead nodes) := by
  have hcompare (referenceRows targetRows : List ExactRow) (sequence : ℕ) :
      GrowsBy (World.fingerprinted side) 0
        (compareExactRows sources referenceRows targetRows sequence
          : Engine budgets Body LeafComparison) :=
    growsBy_compareExactRowsLoop.after fun _ => growsBy_requireDeadline.after fun _ => .pure _
  have hclassify (node : FingerprintNode) (referenceRows targetRows : List ExactRow) :
      GrowsBy (World.fingerprinted side) 0
        (classifyExactLeaf sources node referenceRows targetRows
          : Engine budgets Body (LeafComparison × ComparisonSegmentRecord)) :=
    growsBy_requireDeadline.after fun _ => growsBy_refuseWhen.after fun _ =>
      growsBy_refuseWhen.after fun _ => (hcompare _ _ _).after fun _ =>
      growsBy_refuseWhen.after fun _ => growsBy_refuseWhen.after fun _ =>
      growsBy_refuseWhen.after fun _ => .after (.lift _) fun _ => .pure _
  have hretain (progress : Progress Body) (differences : List ExactDifference) :
      GrowsBy (World.fingerprinted side) 0
        (retainExactDifferences inputs sources progress differences) :=
    .after (.fold (fun _ _ => growsBy_requireDeadlineEvery.after fun _ =>
      .after (.lift _) fun _ => .pure _) _ _) fun _ =>
        growsBy_requireDeadline.after fun _ => .pure _
  exact .fold (fun _ _ => (hclassify _ _ _).after fun _ => (hretain _ _).after fun _ =>
    .after (.yield _) fun _ => .pure _) _ _

theorem growsBy_resolveExactFrontier {maxEncodedRowBytes : ℕ}
    {reservation : ExactFrontierReservation} {mismatching : List FingerprintNode}
    {state : LoopState Body} :
    GrowsBy (World.fingerprinted side) 0
      (resolveExactFrontier inputs sources maxEncodedRowBytes reservation mismatching state) :=
  .after (.yield _) fun _ => growsBy_readExactFrontier.after fun _ => .after (.yield _) fun _ =>
    growsBy_groupExactFrontierRows.after fun _ => growsBy_recordExactLeaves.after fun _ => .pure _

theorem growsBy_recordSplits {progress : Progress Body} {processed : List PendingSegment}
    {items : List SplitNode} :
    GrowsBy (World.fingerprinted side) 0
      (recordSplits progress processed items : Engine budgets Body (Progress Body)) := by
  induction items generalizing progress processed with
  | nil => exact .pure _
  | cons item rest ih => exact .after (.lift _) fun _ => .after (.yield _) fun _ => ih

theorem growsBy_subdivideFrontier {mismatching : List FingerprintNode} {state : LoopState Body} :
    GrowsBy (World.fingerprinted side) 0 (subdivideFrontier sources mismatching state) := by
  have hsplit : GrowsBy (World.fingerprinted side) 0
      (splitNodes sources state.usage.fingerprintNodes mismatching
        : Engine budgets Body (List SplitNode)) := by
    refine .fold (fun done item => growsBy_requireDeadlineEvery.after fun _ => ?_) _ _
    split
    · exact .raise _
    · exact .pure _
  exact hsplit.after fun _ => growsBy_refuseWhen.after fun _ => growsBy_refuseWhen.after fun _ =>
    growsBy_recordSplits.after fun _ => .pure _

theorem growsBy_workRound {maxEncodedRowBytes : ℕ} {state : LoopState Body} :
    GrowsBy (World.fingerprinted side) (budgets.maxFingerprintNodes - state.usage.fingerprintNodes)
      (workRound inputs sources maxEncodedRowBytes reference target state) := by
  refine growsBy_fingerprintLevel.bind (n := 0) fun level => ?_
  refine growsBy_partitionFingerprintNodes.after fun parts => ?_
  refine growsBy_announceMismatches.after fun _ => growsBy_requireDeadline.after fun _ =>
    growsBy_recordMatching.after fun _ => ?_
  split
  · exact .pure _
  · refine .after (.lift _) fun _ => .after (.act fun _ => Nat.le_refl _) fun _ => ?_
    split
    · exact growsBy_resolveExactFrontier
    · exact growsBy_subdivideFrontier

end

/-! ### Before and after the loop -/

section

variable {side : Side}

theorem growsBy_completedStableReadLevel :
    GrowsBy (World.fingerprinted side) 0
      (completedStableReadLevel sources : Engine budgets Body ConsistencyLevel) :=
  .after (.act fun _ => Nat.le_refl _) fun _ => .after (.lift _) fun _ =>
    growsBy_refuseWhen.after fun _ => .pure _

theorem growsBy_completeComparison {state : LoopState Body} :
    GrowsBy (World.fingerprinted side) 0
      (completeComparison inputs sources reference target state) :=
  growsBy_refuseWhen.after fun _ => .after (.lift _) fun _ => growsBy_requireDeadline.after
    fun _ => growsBy_consumeSourceUsage.after fun _ => .after (.yield _) fun _ =>
    growsBy_refuseWhen.after fun _ => growsBy_completedStableReadLevel.after fun _ =>
    .after (.lift _) fun _ => .after (.lift _) fun _ => .after (.lift _) fun _ => .lift _

theorem growsBy_beforeLoop {progress : Progress Body} :
    GrowsBy (World.fingerprinted side) 0 (beforeLoop inputs sources progress) := by
  have hsummary (read : Side) (maxEncodedRowBytes : ℕ) :
      GrowsBy (World.fingerprinted side) 0
        (readIntegerKeySummary inputs sources read maxEncodedRowBytes) :=
    .after (.lift _) fun _ => growsBy_readSource fun _ => Nat.le_refl _
  have hread (maxEncodedRowBytes : ℕ) : GrowsBy (World.fingerprinted side) 0
      (readSummaries inputs sources maxEncodedRowBytes progress) :=
    .after (.yield _) fun _ => growsBy_requireFullScanCapacity.after fun _ =>
      growsBy_requireBudgetCapacity.after fun _ => (hsummary _ _).after fun _ =>
      growsBy_requireDeadline.after fun _ => (hsummary _ _).after fun _ =>
      growsBy_consumeSourceUsage.after fun _ => .after (.yield _) fun _ => .pure _
  refine .after (.lift _) fun _ => growsBy_requireDeadline.after fun _ => (hread _).after
    fun read => growsBy_requireDeadline.after fun _ => growsBy_refuseWhen.after fun _ => ?_
  split
  · exact growsBy_consumeSourceUsage.after fun _ => .after (.yield _) fun _ =>
      .after (growsBy_completedStableReadLevel.after fun _ => .after (.lift _) fun _ => .lift _)
        fun _ => .pure _
  · exact .after (.lift _) fun _ => .pure _

end

/-- A round that returns has fingerprinted its pending ranges. -/
theorem RoundStep.fingerprinted {state after : LoopState Body} {world now : World budgets}
    {referenceRead targetRead : RangeFingerprintRead}
    (h : RoundStep state after world now referenceRead targetRead) (side : Side) :
    now.fingerprinted side = world.fingerprinted side + state.pending.length := by
  obtain ⟨rows, hrows, hreplies⟩ := h.replies
  have hnone : (rows.map (·.fingerprinted side)).sum = 0 := by
    refine List.sum_eq_zero fun count hcount => ?_
    obtain ⟨reply, hmem, rfl⟩ := List.mem_map.mp hcount
    have := hrows reply hmem
    cases reply with
    | rows _ _ _ => rfl
    | summary _ _ => exact this.elim
    | fingerprints _ _ _ => exact this.elim
  rw [World.fingerprinted, hreplies]
  simp only [List.map_append, List.sum_append, hnone, World.fingerprinted]
  cases side <;> simp [Reply.fingerprinted]

/-- The loop fingerprints no range beyond the bound, whichever way it ends. -/
theorem workLoop_fingerprinted {maxEncodedRowBytes fuel : ℕ} {state : LoopState Body}
    {world : World budgets} {side : Side}
    (hstate : LoopInv inputs .none reference target state world)
    (hcount : world.fingerprinted side = state.usage.fingerprintNodes) :
    (workLoop inputs sources maxEncodedRowBytes reference target fuel state
      world).world.fingerprinted side ≤ budgets.maxFingerprintNodes := by
  have hle := hstate.nodes_le
  induction fuel generalizing state world with
  | zero =>
    change world.fingerprinted side ≤ _
    omega
  | succ fuel ih =>
    by_cases hdone : state.pending = []
    · rw [workLoop_done hdone]
      change world.fingerprinted side ≤ _
      omega
    · rw [workLoop, if_neg hdone]
      cases hround : (workRound inputs sources maxEncodedRowBytes reference target state
          world).result with
      | error cause =>
        rw [bind_of_error hround]
        have hgrows : GrowsBy (World.fingerprinted side) _
            (workRound inputs sources maxEncodedRowBytes reference target state) :=
          growsBy_workRound
        have hgrown := hgrows world
        dsimp only
        omega
      | ok after =>
        rw [bind_of_ok hround]
        have hensures : Ensures (fun _ => True) (fun _ _ => True)
            (workRound inputs sources maxEncodedRowBytes reference target state) world
            fun after now => LoopInv inputs .none reference target after now ∧
              ∃ referenceRead targetRead,
                RoundStep state after world now referenceRead targetRead :=
          ensures_workRound (FailureSet.all inputs sources) (Knowledge.none_answers sources)
            (fun _ _ => trivial) hstate hdone
            fun _ _ referenceRead targetRead hloop hstep =>
              ⟨hloop, referenceRead, targetRead, hstep⟩
        obtain ⟨hloop, referenceRead, targetRead, hstep⟩ := hensures.of_result hround
        refine ih hloop ?_ hloop.nodes_le
        rw [hstep.fingerprinted, hcount, hstate.nodes_eq, hloop.nodes_eq, hstep.topology_length]

/-! ## The drill-down -/

/-- A comparison whose loop runs for at most so many rounds. -/
def drillDown (inputs : ComparisonInputs Body) (sources : Sources budgets) (fuel : ℕ) :
    Run (World budgets) (Progress Body) Cause (ComparisonOutcome inputs.recordBytes) :=
  (beforeLoop inputs sources (sources.initialProgress Body) >>= fromLoop inputs sources fuel)
    (sources.snapshot sources.start).2

/-- A comparison reaches its work loop in a world. -/
structure ReachesLoop (inputs : ComparisonInputs Body) (sources : Sources budgets)
    (maxEncodedRowBytes : ℕ) (reference target : KeySummary) (progress : Progress Body)
    (now : World budgets) : Prop where
  result_eq : (beforeLoop inputs sources (sources.initialProgress Body)
    (sources.snapshot sources.start).2).result
      = .ok (.comparable maxEncodedRowBytes reference target progress)
  world_eq : (beforeLoop inputs sources (sources.initialProgress Body)
    (sources.snapshot sources.start).2).world = now

section

variable {maxEncodedRowBytes : ℕ} {progress : Progress Body} {now : World budgets}

theorem ReachesLoop.comparable
    (h : ReachesLoop inputs sources maxEncodedRowBytes reference target progress now) :
    Comparable inputs sources .none maxEncodedRowBytes reference target progress now := by
  have hensures : Ensures (fun _ => True) (fun _ _ => True)
      (beforeLoop inputs sources (sources.initialProgress Body)) (sources.snapshot sources.start).2
      fun start now => ∀ maxEncodedRowBytes reference target progress,
        start = .comparable maxEncodedRowBytes reference target progress →
        Comparable inputs sources .none maxEncodedRowBytes reference target progress now := by
    refine ensures_beforeLoop (FailureSet.all inputs sources) (Knowledge.none_answers sources)
      (.inr fun _ => trivial) (fun _ _ _ _ _ _ => trivial) (fun _ _ => trivial)
      (fun artifact now => ?_) fun maxEncodedRowBytes reference target progress now hstart => ?_
    · intro _ _ _ _ heq
      cases heq
    · intro _ _ _ _ heq
      cases heq
      exact hstart
  rw [← h.world_eq]
  exact hensures.of_result h.result_eq _ _ _ _ rfl

/-- What holds when the loop returns: nothing is pending, and the recorded
segments are numbered without a gap. -/
structure LoopDone (after : LoopState Body) : Prop where
  done : after.pending = []
  numbered : (orderedTopology after.progress.topology).map (·.segmentSequence)
    = List.range after.usage.fingerprintNodes
  contiguous : (orderedTopology after.progress.topology).map (·.segmentSequence)
    = List.range (orderedTopology after.progress.topology).length

theorem ReachesLoop.loopDone
    (h : ReachesLoop inputs sources maxEncodedRowBytes reference target progress now) {fuel : ℕ}
    (hfuel : budgets.maxFingerprintNodes < fuel) {after : LoopState Body}
    (hresult : (workLoop inputs sources maxEncodedRowBytes reference target fuel
      (rootState reference target progress) now).result = .ok after) : LoopDone after := by
  have hensures : Ensures (fun _ => True) (fun _ _ => True)
      (workLoop inputs sources maxEncodedRowBytes reference target fuel
        (rootState reference target progress)) now fun after _ => LoopDone after := by
    refine ensures_workLoop (FailureSet.all inputs sources) (Knowledge.none_answers sources)
      (fun _ _ => trivial) (fun _ _ => True) (fun _ _ _ _ _ _ _ _ _ _ => trivial) ?_
      h.comparable.read.loop trivial fun after now hloop hdone _ => ?_
    · omega
    · have hlength : (orderedTopology after.progress.topology).length
          = after.progress.topology.length := (List.perm_insertionSort _ _).length_eq
      have hsequences := hloop.sequences hdone
      exact
        { done := hdone
          numbered := by rw [hloop.nodes_eq, hsequences]
          contiguous := by rw [hlength, hsequences] }
  exact hensures.of_result hresult

/-- More rounds than fingerprint nodes are all the same. -/
theorem ReachesLoop.fuel
    (h : ReachesLoop inputs sources maxEncodedRowBytes reference target progress now) {fuel : ℕ}
    (hfuel : budgets.maxFingerprintNodes < fuel) :
    workLoop inputs sources maxEncodedRowBytes reference target fuel
        (rootState reference target progress) now
      = workLoop inputs sources maxEncodedRowBytes reference target
          (budgets.maxFingerprintNodes + 1) (rootState reference target progress) now := by
  have hended : LoopEnded (workLoop inputs sources maxEncodedRowBytes reference target
      (budgets.maxFingerprintNodes + 1) (rootState reference target progress) now) :=
    fun after hresult => (h.loopDone (Nat.lt_succ_self _) hresult).done
  obtain ⟨extra, rfl⟩ := Nat.exists_eq_add_of_le hfuel
  exact workLoop_add hended extra

end

theorem drillDown_fuel {fuel : ℕ} (hfuel : budgets.maxFingerprintNodes < fuel) :
    drillDown inputs sources fuel = comparisonRun inputs sources := by
  rw [comparisonRun, executePostgresIntegerKeyComparison_eq, drillDown]
  cases hstart : (beforeLoop inputs sources (sources.initialProgress Body)
      (sources.snapshot sources.start).2).result with
  | error cause => rw [bind_of_error hstart, bind_of_error hstart]
  | ok start =>
    rw [bind_of_ok hstart, bind_of_ok hstart]
    cases start with
    | structural artifact => rfl
    | comparable maxEncodedRowBytes reference target progress =>
      have hloop := ReachesLoop.fuel ⟨hstart, rfl⟩ hfuel
      simp only [fromLoop, bind, Generator.bind, hloop]

theorem comparisonRun_fingerprinted (inputs : ComparisonInputs Body) (sources : Sources budgets)
    (side : Side) :
    (comparisonRun inputs sources).world.fingerprinted side ≤ budgets.maxFingerprintNodes := by
  rw [comparisonRun, executePostgresIntegerKeyComparison_eq]
  have hgrows : GrowsBy (World.fingerprinted side) 0
      (beforeLoop inputs sources (sources.initialProgress Body)) := growsBy_beforeLoop
  have hbefore := hgrows (sources.snapshot sources.start).2
  have hstarted : (sources.snapshot sources.start).2.fingerprinted side = 0 := rfl
  cases hstart : (beforeLoop inputs sources (sources.initialProgress Body)
      (sources.snapshot sources.start).2).result with
  | error cause =>
    rw [bind_of_error hstart]
    dsimp only
    omega
  | ok start =>
    rw [bind_of_ok hstart]
    generalize hnow : (beforeLoop inputs sources (sources.initialProgress Body)
      (sources.snapshot sources.start).2).world = now at hbefore ⊢
    cases start with
    | structural artifact =>
      change now.fingerprinted side ≤ _
      omega
    | comparable maxEncodedRowBytes reference target progress =>
      have hread := (ReachesLoop.comparable ⟨hstart, hnow⟩).read
      have hnodes := hread.loop.nodes_eq
      rw [hread.topology_nil] at hnodes
      have hloop : (workLoop inputs sources maxEncodedRowBytes reference target
          (budgets.maxFingerprintNodes + 1) (rootState reference target progress)
            now).world.fingerprinted side ≤ budgets.maxFingerprintNodes := by
        refine workLoop_fingerprinted hread.loop ?_
        change now.fingerprinted side = progress.usage.fingerprintNodes
        change progress.usage.fingerprintNodes = 0 at hnodes
        omega
      rw [fromLoop]
      cases hresult : (workLoop inputs sources maxEncodedRowBytes reference target
          (budgets.maxFingerprintNodes + 1) (rootState reference target progress) now).result with
      | error cause =>
        rw [bind_of_error hresult]
        exact hloop
      | ok after =>
        rw [bind_of_ok hresult]
        have hcomplete : GrowsBy (World.fingerprinted side) 0
            (completeComparison inputs sources reference target after >>= fun artifact =>
              pure (ComparisonOutcome.completed artifact)) :=
          growsBy_completeComparison.after fun _ => .pure _
        exact (hcomplete _).trans hloop

/-! ## Depth and numbers -/

/-- No segment lies deeper than the bound. -/
def Progress.WithinDepth (budgets : ExecutionBudgets) (progress : Progress Body) : Prop :=
  (∀ record ∈ progress.topology, record.depth ≤ budgets.maxDepth) ∧
    ∀ segment ∈ progress.pending, segment.depth ≤ budgets.maxDepth

theorem Sound.withinDepth {recordBytes : DifferenceRecord Body → ℕ} {knowledge : Knowledge}
    {root : SegmentPlace} {owed : ℕ} {progress : Progress Body}
    (h : Sound budgets recordBytes knowledge root owed progress) :
    progress.WithinDepth budgets :=
  ⟨fun _ hrecord => h.depth_le _ (List.mem_append_left _ (List.mem_map_of_mem hrecord)),
    fun _ hsegment => h.depth_le _ (List.mem_append_right _ hsegment)⟩

/-- The segments of an artifact, numbered by the fingerprinted nodes. -/
structure Numbered (budgets : ExecutionBudgets) {recordBytes : DifferenceRecord Body → ℕ}
    (artifact : CompletedComparisonArtifact recordBytes) : Prop where
  sequences : artifact.segments.map (·.segmentSequence)
    = List.range artifact.metrics.fingerprintNodes
  nodes_le : artifact.metrics.fingerprintNodes ≤ budgets.maxFingerprintNodes
  depth_le : ∀ record ∈ artifact.segments, record.depth ≤ budgets.maxDepth

theorem ensures_comparisonRun_numbered (inputs : ComparisonInputs Body)
    (sources : Sources budgets) :
    Ensures (Progress.WithinDepth budgets) (fun _ _ => True)
      (executePostgresIntegerKeyComparison inputs sources (sources.initialProgress Body))
      (sources.snapshot sources.start).2 fun outcome _ => ∀ artifact,
        outcome = .completed artifact → Numbered budgets artifact := by
  have hfresh (progress : Progress Body) (h : progress.Fresh) : progress.WithinDepth budgets := by
    rw [Progress.WithinDepth, h.topology, h.pending]
    simp [wholeDomain]
  refine (ensures_comparisonRun (FailureSet.all inputs sources) (Knowledge.none_answers sources)
    (.inr fun _ => trivial) (fun _ _ _ _ _ hsound => hsound.withinDepth) hfresh
    (fun _ _ _ _ => True) (fun _ _ _ _ _ _ => trivial)
    (fun _ _ _ _ _ _ _ _ _ _ _ _ => trivial)).mono fun outcome now h artifact heq => ?_
  obtain ⟨maxEncodedRowBytes, reference, target, state, last, hrun⟩ := h artifact heq
  obtain ⟨usage, hsnapshot, hmetrics, -⟩ := hrun.completes.metrics_eq
  have hnodes : artifact.metrics.fingerprintNodes = state.usage.fingerprintNodes := by
    rw [hmetrics, Usage.metrics, hsnapshot.nodes_eq, Nat.add_zero]
  refine { sequences := ?_, nodes_le := ?_, depth_le := ?_ }
  · rw [hrun.completes.segments_eq, hnodes, hrun.loop.nodes_eq]
    exact hrun.loop.sequences hrun.done
  · rw [hnodes]
    exact hrun.loop.nodes_le
  · rw [hrun.completes.segments_eq]
    intro record hrecord
    refine hrun.loop.sound.withinDepth.1 record ?_
    exact (List.perm_insertionSort _ _).subset hrecord

/-- One round's choice between reading its ranges and cutting them. -/
def resolveFrontier (inputs : ComparisonInputs Body) (sources : Sources budgets)
    (maxEncodedRowBytes : ℕ) (reservation : ExactFrontierReservation)
    (mismatching : List FingerprintNode) (state : LoopState Body) :
    Engine budgets Body (LoopState Body) := do
  let fits ← exactFrontierFits reservation
  if fits = true then
    resolveExactFrontier inputs sources maxEncodedRowBytes reservation mismatching state
  else subdivideFrontier sources mismatching state

/-- A range of one key among those that do not fit spends the budgets. -/
theorem resolveFrontier_single_key {maxEncodedRowBytes : ℕ}
    {reservation : ExactFrontierReservation} {mismatching : List FingerprintNode}
    {state : LoopState Body} {world : World budgets}
    (hfits : (exactFrontierFits reservation : Engine budgets Body Bool) world
      = { yielded := [], world, result := .ok false })
    (hsingle : ∃ node ∈ mismatching, node.segment.width ≤ 1) :
    ∃ message, (resolveFrontier inputs sources maxEncodedRowBytes reservation mismatching state
      world).result = .error (comparisonBudgetExceeded message) := by
  have hresult : ((exactFrontierFits reservation : Engine budgets Body Bool) world).result
      = .ok false := by rw [hfits]
  rw [resolveFrontier, bind_of_ok hresult, hfits]
  exact subdivideFrontier_single_key hsingle

/-! ## The law -/

/-- How a comparison drills down. -/
structure DrillDownLaw (inputs : ComparisonInputs Body) (sources : Sources budgets) : Prop where
  narrows : ∀ (segment left right : PendingSegment) (nextSequence : ℕ),
    splitSegment segment nextSequence = some (left, right) →
      (0 < left.width ∧ left.width < segment.width) ∧
        (0 < right.width ∧ right.width < segment.width)
  ends : ∀ fuel, budgets.maxFingerprintNodes < fuel →
    drillDown inputs sources fuel = comparisonRun inputs sources
  loop : ∀ maxEncodedRowBytes reference target progress now fuel after,
    ReachesLoop inputs sources maxEncodedRowBytes reference target progress now →
    budgets.maxFingerprintNodes < fuel →
    (workLoop inputs sources maxEncodedRowBytes reference target fuel
      (rootState reference target progress) now).result = .ok after → LoopDone after
  depth : ∀ progress ∈ (comparisonRun inputs sources).yielded, progress.WithinDepth budgets
  fingerprinted : ∀ side,
    (comparisonRun inputs sources).world.fingerprinted side ≤ budgets.maxFingerprintNodes
  singleKey : ∀ maxEncodedRowBytes reservation mismatching state world,
    (exactFrontierFits reservation : Engine budgets Body Bool) world
      = { yielded := [], world, result := .ok false } →
    (∃ node ∈ mismatching, node.segment.width ≤ 1) →
    ∃ message, (resolveFrontier inputs sources maxEncodedRowBytes reservation mismatching state
      world).result = .error (comparisonBudgetExceeded message)
  numbered : ∀ artifact, (comparisonRun inputs sources).result = .ok (.completed artifact) →
    Numbered budgets artifact

end ForensicData.Comparison
