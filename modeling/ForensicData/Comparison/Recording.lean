/-
ForensicData.Comparison.Recording — what the loops of a round do.

One rule for each loop between two levels: reading a level, recording its
matches, reading and classifying the leaves of an exact frontier, cutting the
rest. Each keeps `Sound` at every yield, and says which records it appended
(`RecordsNodes`) and which replies it received.
-/
import ForensicData.Comparison.Accounts

namespace ForensicData.Comparison

open ForensicData.Canonical
open ForensicData.Lib
open ForensicData.Lib.Generator
open ForensicData.Result

variable {budgets : ExecutionBudgets} {Body : Type} {inputs : ComparisonInputs Body}
  {sources : Sources budgets} {inv : Progress Body → Prop} {fail : Cause → Prop}
  {world : World budgets} {knowledge : Knowledge} {root : SegmentPlace}
  {progress : Progress Body}

/-! ## Reading a level -/

theorem requireSameEngine_error (hfail : FailureSet inputs sources fail) {context : ReadContext}
    {relation : Relation} {cause : Cause} (h : requireSameEngine context relation = .error cause) :
    fail cause := by
  unfold requireSameEngine at h
  split at h <;> first
    | (simp at h; done)
    | (rw [← Except.error.inj h]; exact hfail.protocol _)

/-- The nodes of a level have its ranges and both sides' answers. -/
theorem levelNodes_map {pending : List PendingSegment} {reference target : List RangeFingerprint}
    (hreference : reference.length = pending.length) (htarget : target.length = pending.length) :
    (levelNodes pending reference target).map (·.segment) = pending ∧
      (levelNodes pending reference target).map (·.reference) = reference ∧
      (levelNodes pending reference target).map (·.target) = target := by
  induction pending generalizing reference target with
  | nil =>
    rw [List.length_nil, List.length_eq_zero_iff] at hreference htarget
    subst hreference htarget
    exact ⟨rfl, rfl, rfl⟩
  | cons segment pending ih =>
    cases reference with
    | nil => simp at hreference
    | cons r reference =>
      cases target with
      | nil => simp at htarget
      | cons t target =>
        simp only [List.length_cons, Nat.add_right_cancel_iff] at hreference htarget
        obtain ⟨hsegment, href, htgt⟩ := ih hreference htarget
        simp only [levelNodes, List.map_cons, hsegment, href, htgt, and_self]

/-- Both answers to the range of a node are known. -/
theorem levelNodes_known {pending : List PendingSegment} {reference target : List RangeFingerprint}
    (hreference : ∀ item ∈ (pending.map rangeRequest).zip reference,
      knowledge.fingerprint .reference item.1 item.2.fingerprint)
    (htarget : ∀ item ∈ (pending.map rangeRequest).zip target,
      knowledge.fingerprint .target item.1 item.2.fingerprint) :
    ∀ node ∈ levelNodes pending reference target, node.Known knowledge := by
  induction pending generalizing reference target with
  | nil => simp [levelNodes]
  | cons segment pending ih =>
    cases reference with
    | nil => simp [levelNodes]
    | cons r reference =>
      cases target with
      | nil => simp [levelNodes]
      | cons t target =>
        simp only [List.map_cons, List.zip_cons_cons, List.forall_mem_cons] at hreference htarget
        intro node hnode
        rw [levelNodes, List.mem_cons] at hnode
        obtain rfl | hnode := hnode
        · exact ⟨hreference.1, htarget.1⟩
        · exact ih hreference.2 htarget.2 node hnode

/-- A level plan asks for the pending ranges, within the node budget. -/
theorem planFingerprintLevel_eq_ok {nodes : ℕ} {pending : List PendingSegment}
    {plan : FingerprintLevelPlan}
    (h : planFingerprintLevel inputs.sizes sources nodes pending = .ok plan) :
    plan.requests = pending.map rangeRequest ∧
      nodes + pending.length ≤ budgets.maxFingerprintNodes := by
  unfold planFingerprintLevel at h
  split at h
  · simp at h
  · rename_i hnodes
    rw [Except.ok.injEq] at h
    subst h
    exact ⟨rfl, Nat.not_lt.mp hnodes⟩

/-- What a level read leaves. -/
structure LevelRead (knowledge : Knowledge) (requests : List RangeRequest) (usage : Usage)
    (world : World budgets) (reference target : RangeFingerprintRead) (after : Usage)
    (now : World budgets) : Prop where
  replies_eq : now.replies = world.replies ++
    [.fingerprints .reference requests reference, .fingerprints .target requests target]
  reference_known : ∀ item ∈ requests.zip reference.ranges,
    knowledge.fingerprint .reference item.1 item.2.fingerprint
  target_known : ∀ item ∈ requests.zip target.ranges,
    knowledge.fingerprint .target item.1 item.2.fingerprint
  nodes_eq : after.fingerprintNodes = usage.fingerprintNodes + requests.length
  peak_le : usage.coordinatorPeakBytes ≤ budgets.maxCoordinatorMemoryBytes →
    after.coordinatorPeakBytes ≤ budgets.maxCoordinatorMemoryBytes
  received : world.usage.ReceivedWithin → now.usage.ReceivedWithin

theorem ensures_readIntegerRangeFingerprints (hfail : FailureSet inputs sources fail)
    (hanswers : knowledge.Answers sources) {side : Side} {maxEncodedRowBytes : ℕ}
    {plan : FingerprintLevelPlan} {post : RangeFingerprintRead → World budgets → Prop}
    (hpost : ∀ read after,
      after.replies = world.replies ++ [.fingerprints side plan.requests read] →
      (∀ item ∈ plan.requests.zip read.ranges,
        knowledge.fingerprint side item.1 item.2.fingerprint) →
      (world.usage.ReceivedWithin → after.usage.ReceivedWithin) → post read after) :
    Ensures inv (fun cause _ => fail cause)
      (readIntegerRangeFingerprints inputs sources side maxEncodedRowBytes plan) world post := by
  simp only [readIntegerRangeFingerprints, ensures_bind]
  refine ensures_lift_of (fun cause h => requireSameEngine_error hfail h) fun _ _ => ?_
  refine ensures_readSource hfail (fun index cause h => hfail.fingerprints _ _ _ _ h) ?_
  intro read after hanswer hreceived
  exact hpost read after hreceived.replies_eq (hanswers.fingerprint _ _ _ _ hanswer)
    hreceived.received

theorem ensures_readFingerprintLevel (hfail : FailureSet inputs sources fail)
    (hanswers : knowledge.Answers sources) {maxEncodedRowBytes : ℕ} {usage : Usage}
    {plan : FingerprintLevelPlan}
    {post : RangeFingerprintRead × RangeFingerprintRead × Usage → World budgets → Prop}
    (hpost : ∀ reference target after now,
      plan.coordinatorPeakBytes ≤ budgets.maxCoordinatorMemoryBytes →
      LevelRead knowledge plan.requests usage world reference target after now →
        post (reference, target, after) now) :
    Ensures inv (fun cause _ => fail cause)
      (readFingerprintLevel inputs sources maxEncodedRowBytes usage plan) world post := by
  simp only [readFingerprintLevel, ensures_bind, ensures_pure]
  refine ensures_requireFullScanCapacity hfail ?_
  refine ensures_requireBudgetCapacity hfail fun _ hmemory => ?_
  refine ensures_requireDeadline hfail fun w1 hq1 => ?_
  refine ensures_readIntegerRangeFingerprints hfail hanswers fun reference w2 hr2 hk2 hb2 => ?_
  refine ensures_requireDeadline hfail fun w3 hq3 => ?_
  refine ensures_readIntegerRangeFingerprints hfail hanswers fun target w4 hr4 hk4 hb4 => ?_
  refine ensures_consumeSourceUsage fun after now hq5 hsnapshot => ?_
  refine hpost reference target after now (by omega) ?_
  exact
    { replies_eq := by
        rw [hq5.2, hr4, hq3.2, hr2, hq1.2, List.append_assoc]
        rfl
      reference_known := hk2
      target_known := hk4
      nodes_eq := hsnapshot.nodes_eq
      peak_le := fun hpeak => by
        rw [hsnapshot.peak_eq]
        omega
      received := fun hwithin => by
        rw [hq5.1]
        refine hb4 ?_
        rw [hq3.1]
        refine hb2 ?_
        rw [hq1.1]
        exact hwithin }

theorem ensures_fingerprintNodes (hfail : FailureSet inputs sources fail)
    {pending : List PendingSegment} {reference target : RangeFingerprintRead}
    {post : List FingerprintNode → World budgets → Prop}
    (hpost : ∀ after, world.Quiet after → reference.ranges.length = pending.length →
      target.ranges.length = pending.length →
      post (levelNodes pending reference.ranges target.ranges) after) :
    Ensures inv (fun cause _ => fail cause) (fingerprintNodes sources pending reference target)
      world post := by
  simp only [fingerprintNodes, ensures_bind, ensures_pure]
  refine ensures_refuseWhen (hfail.protocol _) fun hlength => ?_
  rw [not_or, not_not, not_not] at hlength
  refine ensures_visit (fun _ => True) ?_ fun w1 hq1 _ => ?_
  · intro index node _ current
    rw [ensures_bind]
    refine ensures_requireDeadlineEvery hfail fun after hquiet => ?_
    exact ensures_refuseWhen (hfail.protocol _) fun _ => ⟨hquiet, trivial⟩
  · refine ensures_requireDeadline hfail fun w2 hq2 => ?_
    exact hpost w2 (hq1.trans hq2) hlength.1 hlength.2

theorem ensures_partitionFingerprintNodes (hfail : FailureSet inputs sources fail)
    {nodes : List FingerprintNode}
    {post : List FingerprintNode × List FingerprintNode → World budgets → Prop}
    (hpost : ∀ after, world.Quiet after →
      post (nodes.filter (·.agrees), nodes.filter fun node => !node.agrees) after) :
    Ensures inv (fun cause _ => fail cause) (partitionFingerprintNodes sources nodes) world post := by
  simp only [partitionFingerprintNodes, ensures_bind, ensures_pure]
  refine ensures_visit (fun _ => True) ?_ fun w1 hq1 _ => ?_
  · intro index node _ current
    exact ensures_requireDeadlineEvery hfail fun after hquiet => ⟨hquiet, trivial⟩
  · refine ensures_requireDeadline hfail fun w2 hq2 => ?_
    exact hpost w2 (hq1.trans hq2)

/-! ## Recording -/

/-- The topology grew by one record for each node, all in one state. -/
def RecordsNodes (before after : List ComparisonSegmentRecord) (state : ComparisonSegmentState)
    (nodes : List FingerprintNode) : Prop :=
  ∃ records, after = before ++ records ∧
    List.Forall₂ (fun node record => segmentRecord node state = .ok record) nodes records

theorem RecordsNodes.nil (before : List ComparisonSegmentRecord) (state : ComparisonSegmentState) :
    RecordsNodes before before state [] :=
  ⟨[], (List.append_nil before).symm, .nil⟩

theorem RecordsNodes.snoc {before after : List ComparisonSegmentRecord}
    {state : ComparisonSegmentState} {nodes : List FingerprintNode} {node : FingerprintNode}
    {record : ComparisonSegmentRecord} (h : RecordsNodes before after state nodes)
    (hrecord : segmentRecord node state = .ok record) :
    RecordsNodes before (after ++ [record]) state (nodes ++ [node]) := by
  obtain ⟨records, rfl, hall⟩ := h
  refine ⟨records ++ [record], by rw [List.append_assoc], ?_⟩
  exact List.rel_append hall (.cons hrecord .nil)

theorem RecordsNodes.length_eq {before after : List ComparisonSegmentRecord}
    {state : ComparisonSegmentState} {nodes : List FingerprintNode}
    (h : RecordsNodes before after state nodes) : after.length = before.length + nodes.length := by
  obtain ⟨records, rfl, hall⟩ := h
  rw [List.length_append, hall.length_eq]

/-- What a loop that records nodes leaves alone, and what it appends. -/
structure RecordedLevel (progress after : Progress Body) (state : ComparisonSegmentState)
    (nodes : List FingerprintNode) (world now : World budgets) : Prop where
  usage_eq : after.usage = progress.usage
  records : RecordsNodes progress.topology after.topology state nodes
  quiet : world.Quiet now

theorem ensures_recordMatching (hfail : FailureSet inputs sources fail)
    (hinv : ∀ p, Sound budgets inputs.recordBytes knowledge root 0 p → inv p)
    {matching mismatching : List FingerprintNode}
    (hsound : Sound budgets inputs.recordBytes knowledge root 0 progress)
    (hpending : progress.pending.Perm ((matching ++ mismatching).map (·.segment)))
    (hwitnesses : ∀ witness ∈ progress.mismatchWitnesses, witness ∈ mismatching)
    (hmatching : ∀ node ∈ matching, node.agrees = true)
    (hmismatching : ∀ node ∈ mismatching, node.agrees = false)
    (hknown : ∀ node ∈ matching, node.Known knowledge)
    {post : Progress Body → World budgets → Prop}
    (hpost : ∀ after now, Sound budgets inputs.recordBytes knowledge root 0 after →
      after.pending.Perm (mismatching.map (·.segment)) →
      after.mismatchWitnesses = progress.mismatchWitnesses →
      RecordedLevel progress after .fingerprintMatch matching world now → post after now) :
    Ensures inv (fun cause _ => fail cause) (recordMatching sources progress matching) world post := by
  have hloop : Ensures inv (fun cause _ => fail cause) (recordMatching sources progress matching)
      world fun after now => ∃ done, done ++ ([] : List (FingerprintNode × ℕ)).map Prod.fst = matching ∧
        Sound budgets inputs.recordBytes knowledge root 0 after ∧
        after.pending.Perm ((([] : List (FingerprintNode × ℕ)).map Prod.fst ++ mismatching).map
          (·.segment)) ∧
        after.mismatchWitnesses = progress.mismatchWitnesses ∧
        RecordedLevel progress after .fingerprintMatch done world now := by
    refine ensures_fold (fun rest after now => ∃ done, done ++ rest.map Prod.fst = matching ∧
      Sound budgets inputs.recordBytes knowledge root 0 after ∧
      after.pending.Perm ((rest.map Prod.fst ++ mismatching).map (·.segment)) ∧
      after.mismatchWitnesses = progress.mismatchWitnesses ∧
      RecordedLevel progress after .fingerprintMatch done world now) ?_ ?_
    · intro item rest current now h
      obtain ⟨done, hdone, hcurrent, hperm, hsame, hrecorded⟩ := h
      have hmem : item.1 ∈ matching := by
        rw [← hdone]
        simp
      simp only [ensures_bind, ensures_yield, ensures_pure]
      refine ensures_requireDeadlineEvery hfail fun w1 hq1 => ?_
      rw [List.map_cons, List.cons_append, List.map_cons] at hperm
      have hplaced : item.1.segment.WellPlaced := by
        refine hcurrent.frontier.placed _ (List.mem_append_right _ ?_)
        exact hperm.symm.subset List.mem_cons_self
      obtain ⟨record, hrecord⟩ := segmentRecord_of_wellPlaced .fingerprintMatch hplaced
        (by rw [hmatching _ hmem]; rfl)
      refine ensures_liftRefusal hrecord ?_
      have hnext := hcurrent.recordMatch hperm hrecord (hknown _ hmem) fun witness hwitness => by
        rw [hsame] at hwitness
        have hmis := hwitnesses witness hwitness
        exact ⟨hmismatching _ hmis, List.mem_map_of_mem (List.mem_append_right _ hmis)⟩
      refine ⟨hinv _ hnext, done ++ [item.1], by simpa using hdone, hnext, ?_, hsame, ?_⟩
      · exact withoutPendingSequence_perm hperm hcurrent.pending_nodup
      · exact
          { usage_eq := hrecorded.usage_eq
            records := hrecorded.records.snoc hrecord
            quiet := hrecorded.quiet.trans hq1 }
    · refine ⟨[], by rw [List.nil_append, List.zipIdx_map_fst], hsound, ?_, rfl, rfl, .nil _ _,
        .refl world⟩
      rw [List.zipIdx_map_fst]
      exact hpending
  refine hloop.mono fun after now h => ?_
  obtain ⟨done, hdone, hafter, hperm, hsame, hrecorded⟩ := h
  rw [List.map_nil, List.append_nil] at hdone
  subst hdone
  exact hpost after now hafter hperm hsame hrecorded

/-! ## Exact leaves -/

/-- What the two reads of an exact frontier leave. -/
structure FrontierRead (knowledge : Knowledge) (requests : List RangeRequest) (usage : Usage)
    (world : World budgets) (reference target : ExactRowsRead) (after : Usage)
    (now : World budgets) : Prop where
  replies_eq : now.replies = world.replies ++
    [.rows .reference requests reference, .rows .target requests target]
  reference_known : ∀ range ∈ requests,
    knowledge.rows .reference range (rowsOf reference.rows range.segmentId)
  target_known : ∀ range ∈ requests,
    knowledge.rows .target range (rowsOf target.rows range.segmentId)
  nodes_eq : after.fingerprintNodes = usage.fingerprintNodes
  peak_le : usage.coordinatorPeakBytes ≤ budgets.maxCoordinatorMemoryBytes →
    after.coordinatorPeakBytes ≤ budgets.maxCoordinatorMemoryBytes
  received : world.usage.ReceivedWithin → now.usage.ReceivedWithin

theorem ensures_readIntegerRangeRows (hfail : FailureSet inputs sources fail)
    (hanswers : knowledge.Answers sources) {side : Side} {maxEncodedRowBytes : ℕ}
    {requests : List RangeRequest} {reservation : ExactSideReservation}
    {post : ExactRowsRead → World budgets → Prop}
    (hpost : ∀ read after, after.replies = world.replies ++ [.rows side requests read] →
      (∀ range ∈ requests, knowledge.rows side range (rowsOf read.rows range.segmentId)) →
      (world.usage.ReceivedWithin → after.usage.ReceivedWithin) → post read after) :
    Ensures inv (fun cause _ => fail cause)
      (readIntegerRangeRows inputs sources side maxEncodedRowBytes requests reservation) world
      post := by
  simp only [readIntegerRangeRows, ensures_bind]
  refine ensures_lift_of (fun cause h => requireSameEngine_error hfail h) fun _ _ => ?_
  refine ensures_readSource hfail (fun index cause h => hfail.rows _ _ _ _ h) ?_
  intro read after hanswer hreceived
  exact hpost read after hreceived.replies_eq (hanswers.rows _ _ _ _ hanswer) hreceived.received

theorem ensures_readExactFrontier (hfail : FailureSet inputs sources fail)
    (hanswers : knowledge.Answers sources) {maxEncodedRowBytes : ℕ} {nodes : List FingerprintNode}
    {reservation : ExactFrontierReservation} {usage : Usage}
    {post : ExactRowsRead × ExactRowsRead × Usage → World budgets → Prop}
    (hpost : ∀ reference target after now,
      reservation.coordinatorPeakBytes ≤ budgets.maxCoordinatorMemoryBytes →
      FrontierRead knowledge (nodes.map fun node => rangeRequest node.segment) usage world
        reference target after now → post (reference, target, after) now) :
    Ensures inv (fun cause _ => fail cause)
      (readExactFrontier inputs sources maxEncodedRowBytes nodes reservation usage) world post := by
  simp only [readExactFrontier, ensures_bind, ensures_pure]
  refine ensures_requireFullScanCapacity hfail ?_
  refine ensures_requireBudgetCapacity hfail fun _ hmemory => ?_
  refine ensures_requireDeadline hfail fun w1 hq1 => ?_
  refine ensures_readIntegerRangeRows hfail hanswers fun reference w2 hr2 hk2 hb2 => ?_
  refine ensures_requireDeadline hfail fun w3 hq3 => ?_
  refine ensures_readIntegerRangeRows hfail hanswers fun target w4 hr4 hk4 hb4 => ?_
  refine ensures_requireDeadline hfail fun w5 hq5 => ?_
  refine ensures_refuseWhen (hfail.protocol _) fun _ => ?_
  refine ensures_refuseWhen (hfail.protocol _) fun _ => ?_
  refine ensures_refuseWhen (hfail.protocol _) fun _ => ?_
  refine ensures_refuseWhen (hfail.protocol _) fun _ => ?_
  refine ensures_consumeSourceUsage fun after now hq6 hsnapshot => ?_
  refine hpost reference target after now hmemory ?_
  exact
    { replies_eq := by
        rw [hq6.2, hq5.2, hr4, hq3.2, hr2, hq1.2, List.append_assoc]
        rfl
      reference_known := hk2
      target_known := hk4
      nodes_eq := hsnapshot.nodes_eq
      peak_le := fun hpeak => by
        rw [hsnapshot.peak_eq]
        omega
      received := fun hwithin => by
        rw [hq6.1, hq5.1]
        refine hb4 ?_
        rw [hq3.1]
        refine hb2 ?_
        rw [hq1.1]
        exact hwithin }

/-- A row of an unrequested segment may stop the run. -/
def UnrequestedStops (fail : Cause → Prop) (rows : List ExactRow) (segmentIds : List String) :
    Prop :=
  ∀ row ∈ rows, row.segmentId ∉ segmentIds →
    fail (protocolViolation "exact frontier receipt contains an unrequested segment ID")

theorem FailureSet.unrequested (hfail : FailureSet inputs sources fail) (rows : List ExactRow)
    (segmentIds : List String) : UnrequestedStops fail rows segmentIds :=
  fun _ _ _ => hfail.protocol _

theorem ensures_groupExactRows (hstop : DeadlineStops sources fail) {rows : List ExactRow}
    {segmentIds : List String} (hunrequested : UnrequestedStops fail rows segmentIds)
    {post : Unit → World budgets → Prop} (hpost : ∀ after, world.Quiet after → post () after) :
    Ensures inv (fun cause _ => fail cause) (groupExactRows sources rows segmentIds) world post := by
  simp only [groupExactRows, ensures_bind]
  refine ensures_visit (fun _ => True) ?_ fun w1 hq1 _ => ?_
  · intro index row hrow current
    rw [ensures_bind]
    refine ensures_deadlineEvery hstop fun after hquiet => ?_
    exact ensures_refuseWhen' (hunrequested row hrow) fun _ => ⟨hquiet, trivial⟩
  · refine ensures_visit (fun _ => True) ?_ fun w2 hq2 _ => ?_
    · intro index id _ current
      exact ensures_deadlineEvery hstop fun after hquiet => ⟨hquiet, trivial⟩
    · exact ensures_deadline hstop fun w3 hq3 => hpost w3 ((hq1.trans hq2).trans hq3)

theorem ensures_groupExactFrontierRows (hfail : FailureSet inputs sources fail)
    {nodes : List FingerprintNode} {reference target : ExactRowsRead}
    {post : Unit → World budgets → Prop} (hpost : ∀ after, world.Quiet after → post () after) :
    Ensures inv (fun cause _ => fail cause) (groupExactFrontierRows sources nodes reference target)
      world post := by
  simp only [groupExactFrontierRows, ensures_bind]
  refine ensures_requireDeadline hfail fun w1 hq1 => ?_
  refine ensures_groupExactRows hfail.deadline (hfail.unrequested _ _) fun w2 hq2 => ?_
  refine ensures_groupExactRows hfail.deadline (hfail.unrequested _ _) fun w3 hq3 => ?_
  exact ensures_requireDeadline hfail fun w4 hq4 =>
    hpost w4 (((hq1.trans hq2).trans hq3).trans hq4)

/-- A mismatching node whose rows were read is recorded as an exact mismatch:
rows that do not differ contradict its fingerprints. -/
theorem ensures_classifyExactLeaf (hfail : FailureSet inputs sources fail) {node : FingerprintNode}
    {referenceRows targetRows : List ExactRow} (hplaced : node.segment.WellPlaced)
    (hdiffers : node.agrees = false)
    (hreference : knowledge.rows .reference (rangeRequest node.segment) referenceRows)
    (htarget : knowledge.rows .target (rangeRequest node.segment) targetRows)
    {post : LeafComparison × ComparisonSegmentRecord → World budgets → Prop}
    (hpost : ∀ record after, world.Quiet after →
      segmentRecord node .exactMismatch = .ok record →
      Leaf.Classified knowledge { record, referenceRows, targetRows } →
      post (leafOf node.segment.segmentSequence (align referenceRows targetRows), record) after) :
    Ensures inv (fun cause _ => fail cause)
      (classifyExactLeaf sources node referenceRows targetRows) world post := by
  simp only [classifyExactLeaf, ensures_bind, ensures_pure]
  refine ensures_requireDeadline hfail fun w1 hq1 => ?_
  refine ensures_refuseWhen (hfail.protocol _) fun hrlength => ?_
  refine ensures_refuseWhen (hfail.protocol _) fun htlength => ?_
  refine ensures_compareExactRows hfail.deadline (hfail.envelopes _ _) fun w2 hq2 => ?_
  refine ensures_refuseWhen (hfail.protocol _) fun _ => ?_
  refine ensures_refuseWhen (hfail.protocol _) fun _ => ?_
  refine ensures_refuseWhen (hfail.protocol _) fun hequal => ?_
  have hne : node.reference.fingerprint ≠ node.target.fingerprint := by
    simpa [FingerprintNode.agrees] using hdiffers
  have hpos : (leafOf node.segment.segmentSequence
      (align referenceRows targetRows)).counts.differences ≠ 0 := fun hzero => hequal ⟨hzero, hne⟩
  rw [if_neg hpos]
  obtain ⟨record, hrecord⟩ := segmentRecord_of_wellPlaced .exactMismatch hplaced
    (by rw [hdiffers]; rfl)
  refine ensures_liftRefusal hrecord ?_
  obtain ⟨hplace, hstate, hrfp, htfp⟩ := segmentRecord_eq_ok.mp hrecord
  refine hpost record w2 (hq1.trans hq2) hrecord ?_
  exact
    { state_eq := hstate
      reference_length := by rw [hrfp]; exact not_not.mp hrlength
      target_length := by rw [htfp]; exact not_not.mp htlength
      differs := Nat.pos_of_ne_zero hpos
      reference_known := by rw [hplace]; exact hreference
      target_known := by rw [hplace]; exact htarget }

/-- Every difference of the list is found, and the rest of the progress stays. -/
theorem ensures_retainExactDifferences (hfail : FailureSet inputs sources fail)
    {differences : List ExactDifference}
    (hsound : Sound budgets inputs.recordBytes knowledge root differences.length progress)
    (hmismatch : ∀ difference ∈ differences, ∃ segment ∈ progress.topology,
      segment.segmentSequence = difference.segmentSequence ∧ segment.state = .exactMismatch)
    {post : Progress Body → World budgets → Prop}
    (hpost : ∀ after now, world.Quiet now →
      Sound budgets inputs.recordBytes knowledge root 0 after →
      after.topology = progress.topology → after.pending = progress.pending →
      after.mismatchWitnesses = progress.mismatchWitnesses → after.usage = progress.usage →
      post after now) :
    Ensures inv (fun cause _ => fail cause)
      (retainExactDifferences inputs sources progress differences) world post := by
  simp only [retainExactDifferences, ensures_bind, ensures_pure]
  refine Ensures.mono (ensures_fold (fun rest after now => world.Quiet now ∧
    (∀ item ∈ rest, item.1 ∈ differences) ∧
    Sound budgets inputs.recordBytes knowledge root rest.length after ∧
    after.topology = progress.topology ∧ after.pending = progress.pending ∧
    after.mismatchWitnesses = progress.mismatchWitnesses ∧ after.usage = progress.usage) ?_ ?_) ?_
  · intro item rest current now h
    obtain ⟨hquiet, hrest, hcurrent, htopology, hpending, hwitnesses, husage⟩ := h
    rw [List.forall_mem_cons] at hrest
    simp only [ensures_bind, ensures_pure]
    refine ensures_requireDeadlineEvery hfail fun w1 hq1 => ?_
    refine ensures_lift_of (fun cause h => ?_) fun difference hdifference => ?_
    · cases hbody : inputs.evidenceBody item.1 with
      | error cause' =>
        simp only [differenceRecord, hbody, bind, Except.bind, Except.error.injEq] at h
        rw [← h]
        exact hfail.evidence _ _ hbody
      | ok body => simp [differenceRecord, hbody, bind, Except.bind, pure, Except.pure] at h
    · simp only [differenceRecord, bind_eq_ok, pure_eq_ok] at hdifference
      obtain ⟨body, -, rfl⟩ := hdifference
      rw [List.length_cons] at hcurrent
      obtain ⟨segment, hsegment, hsequence, hstate⟩ := hmismatch _ hrest.1
      let record : DifferenceRecord Body :=
        { sequence := current.foundRecords, segmentSequence := item.1.segmentSequence
          kind := item.1.kind, body }
      have hin : InExactMismatch current.topology record :=
        ⟨segment, by rw [htopology]; exact hsegment, hsequence, hstate⟩
      have hnext := hcurrent.retain record rfl hin
      obtain ⟨ht, hp, -, -, -, -, -, hw, hu, -⟩ :=
        @Progress.retain_frame budgets _ current record (inputs.recordBytes record)
      exact ⟨hquiet.trans hq1, hrest.2, hnext, ht.trans htopology, hp.trans hpending,
        hw.trans hwitnesses, hu.trans husage⟩
  · refine ⟨.refl world, fun item hitem => ?_, ?_, rfl, rfl, rfl, rfl⟩
    · have := List.mem_map_of_mem (f := Prod.fst) hitem
      rwa [List.zipIdx_map_fst] at this
    · rw [List.length_zipIdx]
      exact hsound
  · intro after now h
    obtain ⟨hquiet, -, hafter, htopology, hpending, hwitnesses, husage⟩ := h
    refine ensures_requireDeadline hfail fun w2 hq2 => ?_
    exact hpost after w2 (hquiet.trans hq2) hafter htopology hpending hwitnesses husage

theorem ensures_recordExactLeaves (hfail : FailureSet inputs sources fail)
    (hinv : ∀ p, Sound budgets inputs.recordBytes knowledge root 0 p → inv p)
    {reference target : ExactRowsRead} {nodes : List FingerprintNode}
    (hsound : Sound budgets inputs.recordBytes knowledge root 0 progress)
    (hpending : progress.pending.Perm (nodes.map (·.segment)))
    (hwitnesses : ∀ witness ∈ progress.mismatchWitnesses, witness ∈ nodes)
    (hdiffer : ∀ node ∈ nodes, node.agrees = false)
    (hknown : ∀ node ∈ nodes, node.Known knowledge)
    (hreference : ∀ range ∈ nodes.map (fun node => rangeRequest node.segment),
      knowledge.rows .reference range (rowsOf reference.rows range.segmentId))
    (htarget : ∀ range ∈ nodes.map (fun node => rangeRequest node.segment),
      knowledge.rows .target range (rowsOf target.rows range.segmentId))
    {post : Progress Body → World budgets → Prop}
    (hpost : ∀ after now, Sound budgets inputs.recordBytes knowledge root 0 after →
      after.pending = [] → after.mismatchWitnesses = [] →
      RecordedLevel progress after .exactMismatch nodes world now → post after now) :
    Ensures inv (fun cause _ => fail cause)
      (recordExactLeaves inputs sources progress reference target nodes) world post := by
  refine Ensures.mono (ensures_fold (fun rest after now => ∃ done, done ++ rest = nodes ∧
    Sound budgets inputs.recordBytes knowledge root 0 after ∧
    after.pending.Perm (rest.map (·.segment)) ∧
    (∀ witness ∈ after.mismatchWitnesses, witness ∈ rest) ∧
    RecordedLevel progress after .exactMismatch done world now) ?_ ?_) ?_
  · intro node rest current now h
    obtain ⟨done, hdone, hcurrent, hperm, hwits, hrecorded⟩ := h
    have hmem : node ∈ nodes := by
      rw [← hdone]
      simp
    rw [List.map_cons] at hperm
    have hplaced : node.segment.WellPlaced := by
      refine hcurrent.frontier.placed _ (List.mem_append_right _ ?_)
      exact hperm.symm.subset List.mem_cons_self
    have hrange : rangeRequest node.segment ∈ nodes.map fun node => rangeRequest node.segment :=
      List.mem_map.mpr ⟨node, hmem, rfl⟩
    have hreferenceRows : knowledge.rows .reference (rangeRequest node.segment)
        (rowsOf reference.rows (segmentId node.segment.segmentSequence)) := hreference _ hrange
    have htargetRows : knowledge.rows .target (rangeRequest node.segment)
        (rowsOf target.rows (segmentId node.segment.segmentSequence)) := htarget _ hrange
    simp only [ensures_bind, ensures_yield, ensures_pure]
    generalize rowsOf reference.rows (segmentId node.segment.segmentSequence) = referenceRows
      at hreferenceRows
    generalize rowsOf target.rows (segmentId node.segment.segmentSequence) = targetRows
      at htargetRows
    refine ensures_classifyExactLeaf hfail hplaced (hdiffer _ hmem) hreferenceRows htargetRows
      fun record w1 hq1 hrecord hclassified => ?_
    have hsubset : ∀ witness ∈ withoutMismatchWitness current.mismatchWitnesses
        node.segment.segmentSequence, witness ∈ rest := by
      intro witness hwitness
      rw [withoutMismatchWitness, List.mem_filter, decide_eq_true_eq] at hwitness
      obtain hhead | hrest := List.mem_cons.mp (hwits witness hwitness.1)
      · exact absurd (by rw [hhead]) hwitness.2
      · exact hrest
    have hleaf := hcurrent.recordLeaf
      (withoutMismatchWitness current.mismatchWitnesses node.segment.segmentSequence)
      hperm hrecord (hknown _ hmem) rfl hclassified fun witness hwitness => by
        have hin := hsubset witness hwitness
        refine ⟨hdiffer witness ?_, List.mem_map_of_mem hin⟩
        rw [← hdone]
        exact List.mem_append_right _ (List.mem_cons_of_mem _ hin)
    obtain ⟨hplace, hstate, -, -⟩ := segmentRecord_eq_ok.mp hrecord
    have howed : (Leaf.counts { record, referenceRows, targetRows }).differences
        = (leafOf node.segment.segmentSequence (align referenceRows targetRows)).differences.length :=
      (pairingCounts_closes _ _).2.2
    rw [howed] at hleaf
    refine ensures_retainExactDifferences hfail hleaf ?_ ?_
    · intro difference hdifference
      refine ⟨record, by simp, ?_, hstate⟩
      rw [leafOf_segmentSequence hdifference, hplace]
    · intro after w2 hq2 hafter htopology hpend hwit husage
      refine ⟨hinv _ hafter, done ++ [node], by simpa using hdone, hafter, ?_, ?_, ?_⟩
      · rw [hpend]
        exact withoutPendingSequence_perm hperm hcurrent.pending_nodup
      · rw [hwit]
        exact hsubset
      · exact
          { usage_eq := husage.trans hrecorded.usage_eq
            records := by
              rw [htopology]
              exact hrecorded.records.snoc hrecord
            quiet := (hrecorded.quiet.trans hq1).trans hq2 }
  · exact ⟨[], rfl, hsound, hpending, hwitnesses, rfl, .nil _ _, .refl world⟩
  · intro after now h
    obtain ⟨done, hdone, hafter, hperm, hwits, hrecorded⟩ := h
    rw [List.append_nil] at hdone
    subst hdone
    refine hpost after now hafter (List.perm_nil.mp hperm) ?_ hrecorded
    exact List.eq_nil_iff_forall_not_mem.mpr fun witness hwitness =>
      List.not_mem_nil (hwits witness hwitness)

/-! ## Splitting -/

/-- The halves of the nodes are numbered in pairs from `nextSequence`. -/
def NumberedSplits : ℕ → List SplitNode → Prop
  | _, [] => True
  | nextSequence, item :: rest =>
    splitSegment item.1.segment nextSequence = some item.2 ∧ NumberedSplits (nextSequence + 2) rest

theorem NumberedSplits.snoc {nextSequence : ℕ} {done : List SplitNode} {item : SplitNode}
    (hdone : NumberedSplits nextSequence done)
    (hitem : splitSegment item.1.segment (nextSequence + 2 * done.length) = some item.2) :
    NumberedSplits nextSequence (done ++ [item]) := by
  induction done generalizing nextSequence with
  | nil => exact ⟨by simpa using hitem, trivial⟩
  | cons first done ih =>
    refine ⟨hdone.1, ih hdone.2 ?_⟩
    rw [List.length_cons] at hitem
    rw [← hitem]
    congr 1
    omega

theorem ensures_splitNodes (hfail : FailureSet inputs sources fail) {nextSequence : ℕ}
    {mismatching : List FingerprintNode} {post : List SplitNode → World budgets → Prop}
    (hpost : ∀ splits now, world.Quiet now → splits.map Prod.fst = mismatching →
      NumberedSplits nextSequence splits → post splits now) :
    Ensures inv (fun cause _ => fail cause) (splitNodes sources nextSequence mismatching) world
      post := by
  refine Ensures.mono (ensures_fold (fun rest done now => world.Quiet now ∧
    NumberedSplits nextSequence done ∧
    ∃ tail : List FingerprintNode, rest = tail.zipIdx done.length ∧
      done.map Prod.fst ++ tail = mismatching) ?_ ?_) ?_
  · intro item rest done now h
    obtain ⟨hquiet, hnumbered, tail, hrest, hdone⟩ := h
    cases tail with
    | nil => simp at hrest
    | cons node tail =>
      rw [List.zipIdx_cons, List.cons.injEq] at hrest
      obtain ⟨rfl, rfl⟩ := hrest
      simp only [ensures_bind]
      refine ensures_requireDeadlineEvery hfail fun w1 hq1 => ?_
      cases hsplit : splitSegment node.segment (nextSequence + 2 * done.length) with
      | none => exact ensures_raise.mpr (hfail.budget _)
      | some halves =>
        refine ensures_pure.mpr ⟨hquiet.trans hq1, hnumbered.snoc hsplit, tail, ?_, ?_⟩
        · rw [List.length_append, List.length_singleton]
        · simpa using hdone
  · exact ⟨.refl world, trivial, mismatching, rfl, rfl⟩
  · intro splits now h
    obtain ⟨hquiet, hnumbered, tail, htail, hsplits⟩ := h
    have hnil : tail = [] := List.zipIdx_eq_nil_iff.mp htail.symm
    rw [hnil, List.append_nil] at hsplits
    exact hpost splits now hquiet hsplits hnumbered

theorem RecordsNodes.cons {before after : List ComparisonSegmentRecord}
    {state : ComparisonSegmentState} {nodes : List FingerprintNode} {node : FingerprintNode}
    {record : ComparisonSegmentRecord} (hrecord : segmentRecord node state = .ok record)
    (h : RecordsNodes (before ++ [record]) after state nodes) :
    RecordsNodes before after state (node :: nodes) := by
  obtain ⟨records, rfl, hall⟩ := h
  exact ⟨record :: records, by rw [List.append_assoc]; rfl, .cons hrecord hall⟩

theorem ensures_recordSplits
    (hinv : ∀ p, Sound budgets inputs.recordBytes knowledge root 0 p → inv p)
    {processed : List PendingSegment} {items : List SplitNode}
    (hsound : Sound budgets inputs.recordBytes knowledge root 0 progress)
    (hpending : progress.pending.Perm (processed ++ items.map fun item => item.1.segment))
    (hnumbered : NumberedSplits (places progress.topology progress.pending).length items)
    (hdepth : ∀ item ∈ items, ∀ child ∈ SplitNode.children item, child.depth ≤ budgets.maxDepth)
    (hwitnesses : ∀ witness ∈ progress.mismatchWitnesses, ∃ item ∈ items, witness = item.1)
    (hdiffer : ∀ item ∈ items, item.1.agrees = false)
    (hknown : ∀ item ∈ items, item.1.Known knowledge)
    {post : Progress Body → World budgets → Prop}
    (hpost : ∀ after now, Sound budgets inputs.recordBytes knowledge root 0 after →
      after.pending.Perm (processed ++ items.flatMap SplitNode.children) →
      after.mismatchWitnesses = [] →
      RecordedLevel progress after .split (items.map Prod.fst) world now → post after now) :
    Ensures inv (fun cause _ => fail cause) (recordSplits progress processed items) world post := by
  induction items generalizing progress processed with
  | nil =>
    refine ensures_pure.mpr (hpost progress world hsound (by simpa using hpending) ?_
      ⟨rfl, .nil _ _, .refl world⟩)
    exact List.eq_nil_iff_forall_not_mem.mpr fun witness hwitness => by
      simpa using hwitnesses witness hwitness
  | cons item rest ih =>
    simp only [recordSplits, ensures_bind, ensures_yield]
    rw [List.forall_mem_cons] at hdepth hdiffer hknown
    have hmoved : progress.pending.Perm
        (item.1.segment :: (processed ++ rest.map fun node => node.1.segment)) :=
      hpending.trans List.perm_middle
    have hplaced : item.1.segment.WellPlaced :=
      hsound.frontier.placed _ (List.mem_append_right _ (hmoved.symm.subset List.mem_cons_self))
    obtain ⟨record, hrecord⟩ := segmentRecord_of_wellPlaced .split hplaced (by rw [hdiffer.1]; rfl)
    refine ensures_liftRefusal hrecord ?_
    have hsubset : ∀ witness ∈ withoutMismatchWitness progress.mismatchWitnesses
        item.1.segment.segmentSequence, ∃ other ∈ rest, witness = other.1 := by
      intro witness hwitness
      rw [withoutMismatchWitness, List.mem_filter, decide_eq_true_eq] at hwitness
      obtain ⟨other, hother, rfl⟩ := hwitnesses witness hwitness.1
      obtain rfl | hrest := List.mem_cons.mp hother
      · exact absurd rfl hwitness.2
      · exact ⟨other, hrest, rfl⟩
    have hchildren : (processed ++ item.children ++ rest.map fun node => node.1.segment).Perm
        (item.2.1 :: item.2.2 :: (processed ++ rest.map fun node => node.1.segment)) := by
      rw [List.append_assoc]
      refine (List.perm_append_comm_assoc processed item.children _).trans ?_
      exact List.Perm.refl _
    have hnext := hsound.recordSplit
      (withoutMismatchWitness progress.mismatchWitnesses item.1.segment.segmentSequence)
      hmoved hrecord hknown.1 (splitSegment_eq_some hnumbered.1)
      ⟨hdepth.1 _ (by simp [SplitNode.children]), hdepth.1 _ (by simp [SplitNode.children])⟩
      hchildren fun witness hwitness => by
          obtain ⟨other, hother, rfl⟩ := hsubset witness hwitness
          refine ⟨hdiffer.2 other hother, List.mem_append_right _ ?_⟩
          exact List.mem_map.mpr ⟨other, hother, rfl⟩
    have hcount : (places (progress.topology ++ [record])
        (processed ++ item.children ++ rest.map fun node => node.1.segment)).length
          = (places progress.topology progress.pending).length + 2 := by
      have := hmoved.length_eq
      simp only [places, List.length_append, List.length_map, List.length_cons, List.length_nil,
        SplitNode.children] at this ⊢
      omega
    refine ⟨hinv _ hnext, ih hnext (List.Perm.refl _) ?_ hdepth.2 hsubset hdiffer.2 hknown.2 ?_⟩
    · rw [hcount]
      exact hnumbered.2
    · intro after now hafter hperm hwits hrecorded
      refine hpost after now hafter ?_ hwits ?_
      · rw [List.flatMap_cons, ← List.append_assoc]
        exact hperm
      · exact
          { usage_eq := hrecorded.usage_eq
            records := RecordsNodes.cons hrecord hrecorded.records
            quiet := hrecorded.quiet }

end ForensicData.Comparison
