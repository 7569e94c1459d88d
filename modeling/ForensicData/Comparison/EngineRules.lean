/-
ForensicData.Comparison.EngineRules — one rule for each operation of the engine.

A rule reduces a postcondition of an operation to what the operation leaves:
a quiet step (`World.Quiet`) reads the clock and nothing else, a read appends
its reply. `FailureSet` says which causes may stop a run: those the engine
raises itself and whatever the parameters raise. Refusals of the records the
engine builds are not among them, so a proof through these rules also shows
that none of them occurs.
-/
import ForensicData.Comparison.Engine

namespace ForensicData.Comparison

open ForensicData.Lib
open ForensicData.Lib.Generator
open ForensicData.Result

variable {budgets : ExecutionBudgets} {Body : Type} {inputs : ComparisonInputs Body}
  {sources : Sources budgets} {inv : Progress Body → Prop} {fail : Cause → Prop}

/-- The causes `fail` include all a run can stop with, but for refusals of the
engine's own records. -/
structure FailureSet (inputs : ComparisonInputs Body) (sources : Sources budgets)
    (fail : Cause → Prop) : Prop where
  comparison : ∀ cause : Cause,
    cause.refusal.error.isInstance .comparisonExecutionError = true → fail cause
  connector : ∀ cause : Cause,
    cause.refusal.error.isInstance .postgresConnectorError = true → fail cause
  summary : ∀ index side request cause,
    (sources.summary index side request).answer = .error cause → fail cause
  fingerprints : ∀ index side request cause,
    (sources.fingerprints index side request).answer = .error cause → fail cause
  rows : ∀ index side request cause,
    (sources.rows index side request).answer = .error cause → fail cause
  evidence : ∀ difference cause, inputs.evidenceBody difference = .error cause → fail cause
  checkClosure : ∀ cause, inputs.checkClosure = .error cause → fail cause
  relationClosure : ∀ cause, inputs.relationClosure = .error cause → fail cause
  datasetClosure : ∀ cause, inputs.datasetClosure = .error cause → fail cause
  scopeClosure : ∀ cause, inputs.scopeClosure = .error cause → fail cause

/-- Every cause is one. -/
theorem FailureSet.all (inputs : ComparisonInputs Body) (sources : Sources budgets) :
    FailureSet inputs sources fun _ => True := by
  constructor <;> intros <;> trivial

theorem FailureSet.protocol (hfail : FailureSet inputs sources fail) (message : String) :
    fail (protocolViolation message) :=
  hfail.comparison _ rfl

theorem FailureSet.budget (hfail : FailureSet inputs sources fail) (message : String) :
    fail (comparisonBudgetExceeded message) :=
  hfail.comparison _ rfl

theorem FailureSet.unsupported (hfail : FailureSet inputs sources fail) (message : String) :
    fail (unsupportedComparison message) :=
  hfail.comparison _ rfl

/-! ## Quiet steps -/

/-- Only the clock was read. -/
def World.Quiet (world after : World budgets) : Prop :=
  after.usage = world.usage ∧ after.replies = world.replies

theorem World.Quiet.refl (world : World budgets) : world.Quiet world := ⟨rfl, rfl⟩

theorem World.Quiet.trans {a b c : World budgets} (hab : a.Quiet b) (hbc : b.Quiet c) :
    a.Quiet c :=
  ⟨hbc.1.trans hab.1, hbc.2.trans hab.2⟩

@[simp] theorem causeIf_eq_ok {condition : Prop} [Decidable condition] {cause : Cause} {u : Unit} :
    causeIf condition cause = .ok u ↔ ¬ condition := by
  unfold causeIf
  split <;> simp [*]

theorem causeIf_eq_error {condition : Prop} [Decidable condition] {cause cause' : Cause}
    (h : causeIf condition cause = .error cause') : cause' = cause := by
  unfold causeIf at h
  split at h
  · simpa using h.symm
  · simp at h

variable {world : World budgets}

/-- A pure step that cannot fail wrongly. -/
theorem ensures_lift_of {α : Type} {r : Except Cause α} {post : α → World budgets → Prop}
    (herror : ∀ cause, r = .error cause → fail cause) (hpost : ∀ a, r = .ok a → post a world) :
    Ensures inv (fun cause _ => fail cause) (lift r) world post :=
  ensures_lift.mpr ⟨hpost, herror⟩

/-- A check that may stop the run where its condition holds. -/
theorem ensures_refuseWhen' {condition : Prop} [Decidable condition] {cause : Cause}
    {post : Unit → World budgets → Prop} (hcause : condition → fail cause)
    (hpost : ¬ condition → post () world) :
    Ensures inv (fun cause _ => fail cause) (refuseWhen condition cause) world post := by
  refine ensures_lift_of (fun cause' h => ?_) fun u h => hpost (causeIf_eq_ok.mp h)
  rw [causeIf_eq_error h]
  by_cases hcondition : condition
  · exact hcause hcondition
  · rw [causeIf, if_neg hcondition] at h
    cases h

theorem ensures_refuseWhen {condition : Prop} [Decidable condition] {cause : Cause}
    {post : Unit → World budgets → Prop} (hcause : fail cause)
    (hpost : ¬ condition → post () world) :
    Ensures inv (fun cause _ => fail cause) (refuseWhen condition cause) world post :=
  ensures_refuseWhen' (fun _ => hcause) hpost

/-- A validating constructor whose checks pass. -/
theorem ensures_liftRefusal {α : Type} {r : Except Refusal α} {a : α}
    {post : α → World budgets → Prop} (hok : r = .ok a) (hpost : post a world) :
    Ensures inv (fun cause _ => fail cause) (liftRefusal r) world post := by
  subst hok
  refine ensures_lift_of (fun cause h => ?_) fun b h => ?_
  · simp [Except.mapError] at h
  · simp only [Except.mapError, Except.ok.injEq] at h
    rwa [← h]

/-- A value object that may be refused. -/
theorem ensures_liftRefusal_of {α : Type} {r : Except Refusal α}
    {post : α → World budgets → Prop}
    (herror : ∀ refusal, r = .error refusal → fail (Cause.ofRefusal refusal))
    (hpost : ∀ a, r = .ok a → post a world) :
    Ensures inv (fun cause _ => fail cause) (liftRefusal r) world post := by
  cases r with
  | ok a => exact ensures_liftRefusal rfl (hpost a rfl)
  | error refusal =>
    refine ensures_lift_of (fun cause h => ?_) fun a h => ?_
    · simp only [Except.mapError, Except.error.injEq] at h
      rw [← h]
      exact herror refusal rfl
    · simp [Except.mapError] at h

/-- A validating constructor whose checks pass, whatever it builds. -/
theorem ensures_liftRefusal_exists {α : Type} {r : Except Refusal α}
    {post : α → World budgets → Prop} (hok : ∃ a, r = .ok a)
    (hpost : ∀ a, r = .ok a → post a world) :
    Ensures inv (fun cause _ => fail cause) (liftRefusal r) world post := by
  obtain ⟨a, ha⟩ := hok
  exact ensures_liftRefusal ha (hpost a ha)

/-- A deadline that has passed may stop the run. -/
def DeadlineStops (sources : Sources budgets) (fail : Cause → Prop) : Prop :=
  ∀ reading, sources.deadlineNanoseconds ≤ sources.clock reading →
    fail (comparisonBudgetExceeded "integer comparison exceeded run_timeout_milliseconds")

theorem FailureSet.deadline (hfail : FailureSet inputs sources fail) :
    DeadlineStops sources fail :=
  fun _ _ => hfail.budget _

theorem ensures_deadline (hstop : DeadlineStops sources fail)
    {post : Unit → World budgets → Prop} (hpost : ∀ after, world.Quiet after → post () after) :
    Ensures inv (fun cause _ => fail cause) (requireDeadline sources) world post := by
  refine ensures_act.mpr ⟨fun u h => hpost _ ⟨rfl, rfl⟩, fun cause h => ?_⟩
  split at h
  · rename_i hpassed
    rw [← Except.error.inj h]
    exact hstop _ hpassed
  · simp at h

theorem ensures_deadlineEvery (hstop : DeadlineStops sources fail) {index : ℕ}
    {post : Unit → World budgets → Prop} (hpost : ∀ after, world.Quiet after → post () after) :
    Ensures inv (fun cause _ => fail cause) (requireDeadlineEvery sources index) world post := by
  unfold requireDeadlineEvery
  split
  · exact ensures_deadline hstop hpost
  · exact ensures_pure.mpr (hpost world (.refl world))

theorem ensures_requireDeadline (hfail : FailureSet inputs sources fail)
    {post : Unit → World budgets → Prop} (hpost : ∀ after, world.Quiet after → post () after) :
    Ensures inv (fun cause _ => fail cause) (requireDeadline sources) world post :=
  ensures_deadline hfail.deadline hpost

theorem ensures_requireDeadlineEvery (hfail : FailureSet inputs sources fail) {index : ℕ}
    {post : Unit → World budgets → Prop} (hpost : ∀ after, world.Quiet after → post () after) :
    Ensures inv (fun cause _ => fail cause) (requireDeadlineEvery sources index) world post :=
  ensures_deadlineEvery hfail.deadline hpost

/-- A visit of quiet steps is quiet, and leaves what every step checked. -/
theorem ensures_visit {α : Type} {step : ℕ → α → Engine budgets Body Unit} {items : List α}
    {post : Unit → World budgets → Prop} (checked : α → Prop)
    (hstep : ∀ index, ∀ item ∈ items, ∀ world,
      Ensures inv (fun cause _ => fail cause) (step index item) world
        fun _ after => world.Quiet after ∧ checked item)
    (hpost : ∀ after, world.Quiet after → (∀ item ∈ items, checked item) → post () after) :
    Ensures inv (fun cause _ => fail cause) (visit step items) world post := by
  have hloop : Ensures inv (fun cause _ => fail cause)
      (fold (fun _ item => step item.2 item.1) () items.zipIdx) world
      fun _ after => world.Quiet after ∧
        (∀ item ∈ ([] : List (α × ℕ)), item.1 ∈ items) ∧
        ∀ item ∈ items, item ∈ ([] : List (α × ℕ)).map Prod.fst ∨ checked item := by
    refine ensures_fold (fun rest _ after => world.Quiet after ∧ (∀ item ∈ rest, item.1 ∈ items) ∧
      ∀ item ∈ items, item ∈ rest.map Prod.fst ∨ checked item) ?_ ⟨.refl world, ?_, ?_⟩
    · intro item rest _ current h
      obtain ⟨hquiet, hitems, hchecked⟩ := h
      rw [List.forall_mem_cons] at hitems
      refine (hstep item.2 item.1 hitems.1 current).mono fun _ after hafter => ?_
      refine ⟨hquiet.trans hafter.1, hitems.2, fun other hother => ?_⟩
      cases hchecked other hother with
      | inl hmem =>
        rw [List.map_cons, List.mem_cons] at hmem
        cases hmem with
        | inl heq =>
          rw [heq]
          exact .inr hafter.2
        | inr hrest => exact .inl hrest
      | inr hdone => exact .inr hdone
    · intro item hitem
      exact List.fst_mem_of_mem_zipIdx hitem
    · intro item hitem
      rw [List.zipIdx_map_fst]
      exact .inl hitem
  refine hloop.mono fun _ after h => hpost after h.1 fun item hitem => ?_
  simpa using h.2.2 item hitem

/-! ## Reads -/

def Charge.queryCount : Charge → ℕ
  | .query _ => 1
  | _ => 0

def Charge.recordCount : Charge → ℕ
  | .records recordBytes => recordBytes.length
  | _ => 0

/-- The ledger was charged, and what passed the charges is within the budgets. -/
structure Charged (charges : List Charge) (world after : World budgets) : Prop where
  replies_eq : after.replies = world.replies
  queries_eq : after.usage.queries = world.usage.queries + (charges.map Charge.queryCount).sum
  records_eq : after.usage.fetchedRecords
    = world.usage.fetchedRecords + (charges.map Charge.recordCount).sum
  received : world.usage.ReceivedWithin → after.usage.ReceivedWithin

theorem Charged.nil (world : World budgets) : Charged [] world world := ⟨rfl, rfl, rfl, id⟩

theorem Charged.snoc {charges : List Charge} {charge : Charge} {a b c : World budgets}
    (hab : Charged charges a b) (hbc : Charged [charge] b c) : Charged (charges ++ [charge]) a c where
  replies_eq := hbc.replies_eq.trans hab.replies_eq
  queries_eq := by
    rw [hbc.queries_eq, hab.queries_eq, List.map_append, List.sum_append, Nat.add_assoc]
  records_eq := by
    rw [hbc.records_eq, hab.records_eq, List.map_append, List.sum_append, Nat.add_assoc]
  received := fun hwithin => hbc.received (hab.received hwithin)

theorem ensures_applyCharge (hfail : FailureSet inputs sources fail) {side : Side}
    {charge : Charge} :
    Ensures inv (fun cause _ => fail cause) (applyCharge sources side charge) world
      fun _ after => Charged [charge] world after := by
  have hdeadline : ∀ (message : String) (start : World budgets)
      (post : Unit → World budgets → Prop), (∀ after, start.Quiet after → post () after) →
        Ensures inv (fun cause _ => fail cause) (requireSourceDeadline sources message) start post := by
    intro message start post hpost
    refine ensures_act.mpr ⟨fun u h => hpost _ ⟨rfl, rfl⟩, fun cause h => ?_⟩
    split at h
    · rw [← Except.error.inj h]
      exact hfail.connector _ rfl
    · simp at h
  have hreceived : ∀ (current : World budgets) (checkRecords : Bool) (cause : Cause),
      (current.usage.checkReceived checkRecords).mapError Cause.ofRefusal = .error cause →
        fail cause := by
    intro current checkRecords cause h
    cases hcheck : current.usage.checkReceived checkRecords with
    | ok u => simp [hcheck, Except.mapError] at h
    | error refusal =>
      simp only [hcheck, Except.mapError, Except.error.injEq] at h
      subst h
      refine hfail.connector _ ?_
      simp only [SourceUsage.checkReceived, refuseIf] at hcheck
      split at hcheck
      · rw [← Except.error.inj hcheck]
        rfl
      · simp only [bind, Except.bind] at hcheck
        split at hcheck
        · rw [← Except.error.inj hcheck]
          rfl
        · simp at hcheck
  have hok : ∀ (current : World budgets) (checkRecords : Bool) (u : Unit),
      (current.usage.checkReceived checkRecords).mapError Cause.ofRefusal = .ok u →
        current.usage.checkReceived checkRecords = .ok () := by
    intro current checkRecords u h
    cases hcheck : current.usage.checkReceived checkRecords with
    | ok v => rfl
    | error refusal => simp [hcheck, Except.mapError] at h
  cases charge with
  | query fullScans =>
    simp only [applyCharge]
    rw [ensures_bind]
    refine hdeadline _ world _ fun current hquiet => ?_
    refine ensures_act.mpr ?_
    cases hdispatch : current.usage.dispatchQuery side fullScans with
    | ok usage =>
      obtain ⟨hqueries, hrecords, -⟩ := SourceUsage.dispatchQuery_eq_ok hdispatch
      refine ⟨fun u _ => ⟨hquiet.2, ?_, ?_, fun hwithin => ?_⟩, fun cause h => by simp at h⟩
      · rw [← hquiet.1]
        exact hqueries
      · rw [← hquiet.1]
        exact hrecords
      · exact SourceUsage.ReceivedWithin.dispatchQuery (hquiet.1 ▸ hwithin) hdispatch
    | error refusal =>
      refine ⟨fun u h => by simp at h, fun cause h => ?_⟩
      simp only [Except.error.injEq] at h
      subst h
      refine hfail.connector _ ?_
      unfold SourceUsage.dispatchQuery at hdispatch
      split at hdispatch
      · cases side with
        | reference =>
          simp only at hdispatch
          split at hdispatch
          · simp at hdispatch
          · rw [← Except.error.inj hdispatch]
            rfl
        | target =>
          simp only at hdispatch
          split at hdispatch
          · simp at hdispatch
          · rw [← Except.error.inj hdispatch]
            rfl
      · rw [← Except.error.inj hdispatch]
        rfl
  | records recordBytes =>
    simp only [applyCharge, ensures_bind]
    refine ensures_act.mpr ⟨fun _ _ => ?_, fun cause h => by simp at h⟩
    refine hdeadline _ _ _ fun current hquiet => ?_
    refine ensures_act.mpr ⟨fun u h => ⟨hquiet.2, ?_, ?_, fun hwithin => ?_⟩, fun cause h => ?_⟩
    · rw [hquiet.1]
      rfl
    · rw [hquiet.1]
      rfl
    · have hcheck := hok _ _ _ h
      rw [hquiet.1] at hcheck ⊢
      exact hwithin.receive (fun hfalse => by simp at hfalse) hcheck
    · exact hreceived _ _ _ h
  | observedBytes resultBytes =>
    simp only [applyCharge, ensures_bind]
    refine ensures_act.mpr ⟨fun _ _ => ?_, fun cause h => by simp at h⟩
    refine hdeadline _ _ _ fun current hquiet => ?_
    refine ensures_act.mpr ⟨fun u h => ⟨hquiet.2, ?_, ?_, fun hwithin => ?_⟩, fun cause h => ?_⟩
    · rw [hquiet.1]
      rfl
    · rw [hquiet.1]
      rfl
    · have hcheck := hok _ _ _ h
      rw [hquiet.1] at hcheck ⊢
      exact hwithin.receive (fun _ => rfl) hcheck
    · exact hreceived _ _ _ h

/-- What a read leaves: its charges on the ledger, and the reply at the end of
the log. -/
structure Received (charges : List Charge) (reply : Reply) (world after : World budgets) :
    Prop where
  replies_eq : after.replies = world.replies ++ [reply]
  queries_eq : after.usage.queries = world.usage.queries + (charges.map Charge.queryCount).sum
  records_eq : after.usage.fetchedRecords
    = world.usage.fetchedRecords + (charges.map Charge.recordCount).sum
  received : world.usage.ReceivedWithin → after.usage.ReceivedWithin

theorem ensures_readSource (hfail : FailureSet inputs sources fail) {α : Type} {side : Side}
    {reading : ℕ → Reading α} {reply : α → Reply} {post : α → World budgets → Prop}
    (herror : ∀ index cause, (reading index).answer = .error cause → fail cause)
    (hpost : ∀ answer after, (reading world.replies.length).answer = .ok answer →
      Received (reading world.replies.length).charges (reply answer) world after →
      post answer after) :
    Ensures inv (fun cause _ => fail cause) (readSource sources side reading reply) world post := by
  simp only [readSource, ensures_bind, ensures_pure]
  refine ensures_act.mpr ⟨fun index hindex => ?_, fun cause h => by simp at h⟩
  simp only [Except.ok.injEq] at hindex
  subst hindex
  have hcharges : Ensures inv (fun cause _ => fail cause)
      (fold (fun _ charge => applyCharge sources side charge) ()
        (reading world.replies.length).charges) world
      fun _ after => Charged (reading world.replies.length).charges world after := by
    refine Ensures.mono (ensures_fold (fun rest _ (after : World budgets) =>
      ∃ done, done ++ rest = (reading world.replies.length).charges ∧ Charged done world after)
      ?_ ⟨[], rfl, .nil world⟩) ?_
    · intro charge rest _ current h
      obtain ⟨done, hdone, hcharged⟩ := h
      refine (ensures_applyCharge hfail).mono fun _ after hafter => ?_
      exact ⟨done ++ [charge], by simpa using hdone, hcharged.snoc hafter⟩
    · intro _ after h
      obtain ⟨done, hdone, hcharged⟩ := h
      rw [List.append_nil] at hdone
      rw [← hdone]
      exact hcharged
  refine hcharges.mono fun _ current hcurrent => ?_
  refine ensures_lift_of (herror _) fun answer hanswer => ?_
  refine ensures_act.mpr ⟨fun _ _ => ?_, fun cause h => by simp at h⟩
  exact hpost answer _ hanswer ⟨by rw [hcurrent.replies_eq], hcurrent.queries_eq,
    hcurrent.records_eq, hcurrent.received⟩

/-! ## Capacity -/

theorem ensures_requireFullScanCapacity (hfail : FailureSet inputs sources fail)
    {reference target : ℕ} {post : Unit → World budgets → Prop} (hpost : post () world) :
    Ensures inv (fun cause _ => fail cause) (requireFullScanCapacity reference target) world post := by
  simp only [requireFullScanCapacity, ensures_bind]
  refine ensures_act.mpr ⟨fun remaining _ => ?_, fun cause h => by simp at h⟩
  refine ensures_refuseWhen (hfail.budget _) fun _ => ?_
  exact ensures_refuseWhen (hfail.budget _) fun _ => hpost

/-- Room for one more record and one more byte means that what was received
fits; and the planned memory does. -/
theorem ensures_requireBudgetCapacity (hfail : FailureSet inputs sources fail)
    {queries records resultBytes coordinatorBytes : ℕ} {post : Unit → World budgets → Prop}
    (hpost : (0 < records → 0 < resultBytes → world.usage.ReceivedWithin) →
      coordinatorBytes ≤ budgets.maxCoordinatorMemoryBytes → post () world) :
    Ensures inv (fun cause _ => fail cause)
      (requireBudgetCapacity queries records resultBytes coordinatorBytes) world post := by
  simp only [requireBudgetCapacity, ensures_bind]
  refine ensures_act.mpr ⟨fun remaining hremaining => ?_, fun cause h => by simp at h⟩
  simp only [Except.ok.injEq] at hremaining
  refine ensures_refuseWhen (hfail.budget _) fun _ => ?_
  refine ensures_refuseWhen (hfail.budget _) fun hrecords => ?_
  refine ensures_refuseWhen (hfail.budget _) fun hbytes => ?_
  refine ensures_refuseWhen (hfail.budget _) fun hmemory => ?_
  refine hpost (fun hpos hposBytes => ?_) (Nat.not_lt.mp hmemory)
  rw [← hremaining] at hrecords hbytes
  simp only [SourceUsage.remaining] at hrecords hbytes
  unfold SourceUsage.ReceivedWithin
  omega

/-- What the usage of an attempt is after a snapshot; the clock was last read
for it. -/
structure Usage.Snapshot (sources : Sources budgets) (usage after : Usage) (now : World budgets)
    (nodes peak : ℕ) : Prop where
  elapsed_eq : after.elapsedMilliseconds =
    elapsedMillisecondsSince sources.attemptStartedNanoseconds
      (sources.clock (now.clockReadings - 1))
  nodes_eq : after.fingerprintNodes = usage.fingerprintNodes + nodes
  peak_eq : after.coordinatorPeakBytes = max usage.coordinatorPeakBytes peak
  queries_eq : after.queries = now.usage.queries - sources.baseline.queries
  records_eq : after.fetchedRecords = now.usage.fetchedRecords - sources.baseline.fetchedRecords
  queries_le : after.queries ≤ budgets.maxQueries
  records_le : after.fetchedRecords ≤ now.usage.fetchedRecords
  bytes_le : after.resultBytes ≤ now.usage.resultBytes
  reference_le : after.referenceFullScans ≤ budgets.maxFullScansPerSide
  target_le : after.targetFullScans ≤ budgets.maxFullScansPerSide

theorem ensures_consumeSourceUsage {usage : Usage} {nodes peak : ℕ}
    {post : Usage → World budgets → Prop}
    (hpost : ∀ after now, world.Quiet now → Usage.Snapshot sources usage after now nodes peak →
      post after now) :
    Ensures inv (fun cause _ => fail cause) (consumeSourceUsage sources usage nodes peak) world
      post := by
  simp only [consumeSourceUsage, ensures_bind, ensures_pure, attemptSnapshot, Sources.snapshot]
  refine ensures_act.mpr ⟨fun snapshot hsnapshot => ?_, fun cause h => by simp at h⟩
  simp only [Except.ok.injEq] at hsnapshot
  subst hsnapshot
  obtain ⟨hqueries, hrecords, hbytes, hreference, htarget⟩ :=
    @SourceUsage.since_le _ sources.baseline world.usage
      (elapsedMillisecondsSince sources.attemptStartedNanoseconds
        (sources.clock (world.clockReadings + 1)))
  exact hpost _ _ ⟨rfl, rfl⟩
    { elapsed_eq := rfl, nodes_eq := rfl, peak_eq := rfl, queries_eq := rfl, records_eq := rfl
      queries_le := hqueries, records_le := hrecords, bytes_le := hbytes, reference_le := hreference, target_le := htarget }

end ForensicData.Comparison
