/-
ForensicData.ClickHouse.TransportSteps — what the steps of a transport do.

One specification for each step, from the clock to the cancellation of a query.
`Kept` says what a step leaves alone. The steps between the dispatch of a query
and the end of the transport all either give back a value or leave the transport
retired.
-/
import ForensicData.ClickHouse.HttpRequestTheorems
import ForensicData.ClickHouse.Transport
import ForensicData.SourceLedgerTheorems

namespace ForensicData.ClickHouse

open ForensicData.Application (uuidText)
open ForensicData.Lib
open ForensicData.Lib.Generator
open ForensicData.Result (Uuid)

/-! ## Frames -/

/-- The queries the ledger has counted. -/
def TransportWorld.queries (world : TransportWorld) : ℕ := world.ledger.ledger.usage.queries

/-- No request was sent, and no query charged. -/
structure SameTraffic (s s' : TransportWorld) : Prop where
  count : s'.physicalRequestCount = s.physicalRequestCount
  exchanges : s'.exchanges = s.exchanges
  queries : s'.queries = s.queries

theorem SameTraffic.trans {s between s' : TransportWorld} (h : SameTraffic s between)
    (h' : SameTraffic between s') : SameTraffic s s' where
  count := h'.count.trans h.count
  exchanges := h'.exchanges.trans h.exchanges
  queries := h'.queries.trans h.queries

/-- Nothing but the clock, the received sizes and the fresh identifiers moved, and
`n` queries were charged. -/
structure Kept (n : ℕ) (s s' : TransportWorld) : Prop where
  state : s'.state = s.state
  dataWorker : s'.dataWorker = s.dataWorker
  controlWorker : s'.controlWorker = s.controlWorker
  count : s'.physicalRequestCount = s.physicalRequestCount
  exchanges : s'.exchanges = s.exchanges
  queries : s'.queries = s.queries + n

theorem Kept.refl (s : TransportWorld) : Kept 0 s s := ⟨rfl, rfl, rfl, rfl, rfl, rfl⟩

theorem Kept.trans {m n : ℕ} {s between s' : TransportWorld} (h : Kept m s between)
    (h' : Kept n between s') : Kept (m + n) s s' where
  state := h'.state.trans h.state
  dataWorker := h'.dataWorker.trans h.dataWorker
  controlWorker := h'.controlWorker.trans h.controlWorker
  count := h'.count.trans h.count
  exchanges := h'.exchanges.trans h.exchanges
  queries := by
    have := h.queries
    have := h'.queries
    omega

theorem Kept.sameTraffic {s s' : TransportWorld} (h : Kept 0 s s') : SameTraffic s s' :=
  ⟨h.count, h.exchanges, h.queries⟩

theorem Kept.workerState {n : ℕ} {s s' : TransportWorld} (h : Kept n s s') (worker : Worker) :
    s'.workerState worker = s.workerState worker := by
  cases worker with
  | data => exact h.dataWorker
  | control => exact h.controlWorker

/-- A change of the ledger alone. -/
theorem Kept.onLedger {n : ℕ} {s : TransportWorld} {ledger : LedgerWorld}
    (h : ledger.ledger.usage.queries = s.queries + n) : Kept n s { s with ledger := ledger } :=
  ⟨rfl, rfl, rfl, rfl, rfl, h⟩

/-! ## Small steps -/

section

variable {α : Type} {fail : Raised → TransportWorld → Prop} {s : TransportWorld}

theorem ensures_raised {error : TransportError} {post : α → TransportWorld → Prop} :
    Ensures (fun _ => True) fail (raised error : TransportM α) s post ↔
      fail (Raised.of error) s := ensures_raise

theorem ensures_readWorld {post : TransportWorld → TransportWorld → Prop} :
    Ensures (fun _ => True) fail readWorld s post ↔ post s s := by
  simp [readWorld, ensures_act]

theorem ensures_modifyWorld {change : TransportWorld → TransportWorld}
    {post : Unit → TransportWorld → Prop} :
    Ensures (fun _ => True) fail (modifyWorld change) s post ↔ post () (change s) := by
  simp [modifyWorld, Ensures, act]

theorem ensures_checked {outcome : Except Refusal α} {post : α → TransportWorld → Prop} :
    Ensures (fun _ => True) fail (checked outcome) s post ↔
      (∀ a, outcome = .ok a → post a s) ∧
        ∀ refusal, outcome = .error refusal → fail (Raised.of (.refusal refusal)) s := by
  rw [checked, ensures_lift]
  cases outcome with
  | ok a => simp [Except.mapError]
  | error refusal => simp [Except.mapError]

theorem ensures_onLedger {work : LedgerM α} {post : α → TransportWorld → Prop} :
    Ensures (fun _ => True) fail (onLedger work) s post ↔
      Ensures (fun _ => True)
        (fun refusal ledger => fail (Raised.of (.refusal refusal)) { s with ledger := ledger })
        work s.ledger (fun a ledger => post a { s with ledger := ledger }) := by
  unfold Ensures onLedger
  cases (work s.ledger).result with
  | ok a => simp [Except.mapError]
  | error refusal => simp [Except.mapError]

/-- The exceptions that are caught, and the others. -/
theorem ensures_catchAccounting {work : TransportM Unit}
    {post : Option Refusal → TransportWorld → Prop}
    (h : Ensures (fun _ => True)
      (fun raised now => ∃ refusal, raised = Raised.of (.refusal refusal) ∧
        isAccountingFailure refusal = true ∧ post (some refusal) now)
      work s (fun _ now => post none now)) :
    Ensures (fun _ => True) fail (catchAccounting work) s post := by
  have hend := h.2
  unfold Ensures catchAccounting
  cases hresult : (work s).result with
  | ok u =>
    rw [hresult] at hend
    simpa using hend
  | error raised =>
    rw [hresult] at hend
    obtain ⟨refusal, rfl, hcaught, hpost⟩ := hend
    simpa [Raised.of, hcaught] using hpost

theorem noted_error (accountingError : Option Refusal) (raised : Raised) :
    (preserveSourceAccountingFailure accountingError raised).error = raised.error := by
  cases accountingError with
  | none => rfl
  | some refusal => rfl

/-- A note does not change what is raised. -/
theorem ensures_noteAccounting {accountingError : Option Refusal} {work : TransportM α}
    {post : α → TransportWorld → Prop}
    (hnoted : ∀ raised now, fail raised now →
      fail (preserveSourceAccountingFailure accountingError raised) now)
    (h : Ensures (fun _ => True) fail work s post) :
    Ensures (fun _ => True) fail (noteAccounting accountingError work) s post := by
  have hend := h.2
  unfold Ensures noteAccounting
  cases hresult : (work s).result with
  | ok a =>
    rw [hresult] at hend
    simpa [Except.mapError] using hend
  | error raised =>
    rw [hresult] at hend
    by_cases htransport : raised.error.isTransportError = true
    · simpa [Except.mapError, htransport] using hnoted raised _ hend
    · simpa [Except.mapError, htransport] using hend

end

variable {transport : ClickHouseTransport} {fail : Raised → TransportWorld → Prop}
  {s : TransportWorld}

/-- The clock moves on. -/
theorem ensures_monotonicNs {post : ℕ → TransportWorld → Prop}
    (h : ∀ now s', Kept 0 s s' → post now s') :
    Ensures (fun _ => True) fail transport.monotonicNs s post := by
  rw [ClickHouseTransport.monotonicNs, ensures_onLedger,
    SourceBudgetLedger.ensures_monotonicNs]
  exact h _ _ (Kept.onLedger rfl)

theorem ensures_freshUuid {post : Uuid → TransportWorld → Prop}
    (h : ∀ queryId s', Kept 0 s s' → post queryId s') :
    Ensures (fun _ => True) fail transport.freshUuid s post := by
  rw [ClickHouseTransport.freshUuid, ensures_act]
  refine ⟨fun queryId hqueryId => ?_, fun e he => by cases he⟩
  exact h queryId _ ⟨rfl, rfl, rfl, rfl, rfl, rfl⟩

/-! ## Reaping the workers -/

/-- What ending one worker leaves. -/
structure Reaping (worker : Worker) (s : TransportWorld) (cause : Option String)
    (s' : TransportWorld) : Prop extends SameTraffic s s' where
  state : s'.state = s.state
  closed : cause = none → s'.workerState worker = .closed
  others : ∀ other, other ≠ worker → s'.workerState other = s.workerState other

section

variable (world : TransportWorld) (state : ClickHouseHttpWorkerState) (worker : Worker)

@[simp] theorem setWorker_state : (world.setWorker state worker).state = world.state := by
  cases worker <;> rfl

theorem setWorker_sameTraffic : SameTraffic world (world.setWorker state worker) := by
  cases worker <;> exact ⟨rfl, rfl, rfl⟩

@[simp] theorem setWorker_workerState :
    (world.setWorker state worker).workerState worker = state := by
  cases worker <;> rfl

theorem setWorker_other {other : Worker} (h : other ≠ worker) :
    (world.setWorker state worker).workerState other = world.workerState other := by
  cases worker <;> cases other <;> first | rfl | exact absurd rfl h

end

/-- Setting the state of a worker whose process was to be ended. -/
theorem Reaping.of_setWorker {worker : Worker} {state : ClickHouseHttpWorkerState}
    {cause : Option String} {cleanups : ℕ} (h : cause = none → state = .closed) :
    Reaping worker s cause { s.setWorker state worker with cleanups := cleanups } where
  toSameTraffic := (setWorker_sameTraffic s state worker).trans ⟨rfl, rfl, rfl⟩
  state := by simp
  closed := fun hcause => (setWorker_workerState s state worker).trans (h hcause)
  others := fun other hother => setWorker_other s state worker hother

theorem ensures_endProcess (worker : Worker) :
    Ensures (fun _ => True) fail (transport.endProcess worker) s (Reaping worker s) := by
  rw [ClickHouseTransport.endProcess, ensures_act]
  by_cases hreaped : transport.reaped s.cleanups = true
  · simp only [hreaped, if_true]
    refine ⟨fun cause hcause => ?_, fun e he => by cases he⟩
    cases hcause
    exact .of_setWorker fun _ => rfl
  · simp only [hreaped]
    refine ⟨fun cause hcause => ?_, fun e he => by cases he⟩
    cases hcause
    exact .of_setWorker fun hcause => by cases hcause

theorem Reaping.already {worker : Worker} (h : s.workerState worker = .closed) :
    Reaping worker s none s :=
  ⟨⟨rfl, rfl, rfl⟩, rfl, fun _ => h, fun _ _ => rfl⟩

theorem ensures_terminateWorker (worker : Worker) :
    Ensures (fun _ => True) fail (transport.terminateWorker worker) s (Reaping worker s) := by
  rw [ClickHouseTransport.terminateWorker, ensures_bind, ensures_readWorld]
  by_cases hclosed : s.workerState worker = .closed
  · rw [if_pos hclosed, ensures_pure]
    exact .already hclosed
  · rw [if_neg hclosed]
    exact ensures_endProcess worker

theorem ensures_closeWorker (worker : Worker) :
    Ensures (fun _ => True) fail (transport.closeWorker worker) s (Reaping worker s) := by
  rw [ClickHouseTransport.closeWorker, ensures_bind, ensures_readWorld]
  cases hstate : s.workerState worker with
  | ready => exact ensures_endProcess worker
  | cleanupUnconfirmed => exact ensures_endProcess worker
  | closed => exact ensures_pure.mpr (.already hstate)
  | busy =>
    rw [ensures_bind]
    refine (ensures_terminateWorker worker).mono fun cause s' hreaping => ensures_pure.mpr ?_
    exact { hreaping with closed := fun h => by cases h }

theorem ensures_retireWorker (graceful : Bool) (worker : Worker) :
    Ensures (fun _ => True) fail (transport.retireWorker graceful worker) s (Reaping worker s) := by
  cases graceful with
  | true => exact ensures_closeWorker worker
  | false => exact ensures_terminateWorker worker

/-- What ending both workers leaves. -/
structure Retiring (s : TransportWorld) (cause : Option String) (s' : TransportWorld) : Prop
    extends SameTraffic s s' where
  state : s'.state = s.state
  closed : cause = none → s'.dataWorker = .closed ∧ s'.controlWorker = .closed

theorem ensures_retireWorkers (graceful : Bool) :
    Ensures (fun _ => True) fail (transport.retireWorkers graceful) s (Retiring s) := by
  rw [ClickHouseTransport.retireWorkers, ensures_bind]
  refine (ensures_retireWorker graceful .data).mono fun dataCause between hdata => ?_
  rw [ensures_bind]
  refine (ensures_retireWorker graceful .control).mono fun controlCause s' hcontrol => ?_
  rw [ensures_pure]
  refine ⟨hdata.toSameTraffic.trans hcontrol.toSameTraffic, hcontrol.state.trans hdata.state,
    fun hcause => ?_⟩
  obtain ⟨hdataCause, hcontrolCause⟩ : dataCause = none ∧ controlCause = none := by
    cases dataCause with
    | none => exact ⟨rfl, hcause⟩
    | some cause => cases hcause
  have hkept : s'.dataWorker = between.dataWorker := hcontrol.others .data (by decide)
  exact ⟨hkept.trans (hdata.closed hdataCause), hcontrol.closed hcontrolCause⟩

/-- What retiring a transport leaves: the asked state with both workers reaped, or
an unconfirmed cancellation. -/
structure Retired (state : ClickHouseTransportState) (s : TransportWorld) (cause : Option String)
    (s' : TransportWorld) : Prop extends SameTraffic s s' where
  reached : cause = none →
    s'.state = state ∧ s'.dataWorker = .closed ∧ s'.controlWorker = .closed
  uncertain : cause ≠ none → s'.state = .cancellationUnconfirmed

theorem ensures_retire (state : ClickHouseTransportState) :
    Ensures (fun _ => True) fail (transport.retire state) s (Retired state s) := by
  rw [ClickHouseTransport.retire, ensures_bind]
  refine (ensures_retireWorkers false).mono fun cause s' hretiring => ?_
  rw [ensures_bind, ensures_modifyWorld, ensures_pure]
  refine ⟨hretiring.toSameTraffic.trans ⟨rfl, rfl, rfl⟩, fun hcause => ?_, fun hcause => ?_⟩
  · exact ⟨if_pos hcause, hretiring.closed hcause⟩
  · exact if_neg hcause

/-! ## Sending a request -/

/-- What handing a request to a ready worker leaves. -/
structure Executed (worker : Worker) (request : ClickHouseWireRequest) (target : Option Uuid)
    (s : TransportWorld) (execution : ClickHouseHttpExecution) (s' : TransportWorld) : Prop where
  state : s'.state = s.state
  count : s'.physicalRequestCount = s.physicalRequestCount
  queries : s'.queries = s.queries
  exchanges : s'.exchanges = s.exchanges ++ [⟨worker, request, target, execution⟩]
  others : ∀ other, other ≠ worker → s'.workerState other = s.workerState other
  ready : ∀ outcome, execution.outcome = some outcome → outcome.kind ≠ .transportError →
    s'.workerState worker = .ready

/-- What the worker's own steps leave, before the exchange is recorded. -/
structure Answered (worker : Worker) (s : TransportWorld) (execution : ClickHouseHttpExecution)
    (s' : TransportWorld) : Prop extends SameTraffic s s' where
  state : s'.state = s.state
  others : ∀ other, other ≠ worker → s'.workerState other = s.workerState other
  ready : ∀ outcome, execution.outcome = some outcome → outcome.kind ≠ .transportError →
    s'.workerState worker = .ready

/-- A worker left busy gives no reply of the server. -/
theorem Answered.busy {worker : Worker} {execution : ClickHouseHttpExecution}
    (h : ∀ outcome, execution.outcome = some outcome → outcome.kind = .transportError) :
    Answered worker s execution (s.setWorker .busy worker) where
  toSameTraffic := setWorker_sameTraffic s .busy worker
  state := by simp
  others := fun other hother => setWorker_other s .busy worker hother
  ready := fun outcome houtcome hkind => absurd (h outcome houtcome) hkind

theorem Answered.trans {worker : Worker} {execution : ClickHouseHttpExecution}
    {between s' : TransportWorld} (hkept : Kept 0 s between)
    (h : Answered worker between execution s') : Answered worker s execution s' where
  toSameTraffic := hkept.sameTraffic.trans h.toSameTraffic
  state := h.state.trans hkept.state
  others := fun other hother => (h.others other hother).trans (hkept.workerState other)
  ready := h.ready

theorem ensures_awaitOutcome (worker : Worker) (deadline : ℕ) (receive : ReceiveEvent) :
    Ensures (fun _ => True) fail (transport.awaitOutcome worker deadline receive) s
      (Answered worker s) := by
  rw [ClickHouseTransport.awaitOutcome, ensures_bind, ensures_modifyWorld]
  cases hreceived : ClickHouseTransport.receivedOutcome receive with
  | none => exact ensures_pure.mpr (.busy fun outcome h => by cases h)
  | some outcome =>
    rw [ensures_bind, ensures_modifyWorld, ensures_bind]
    refine ensures_monotonicNs fun now s' hkept => ensures_pure.mpr ?_
    have hset := (setWorker_sameTraffic s .busy worker).trans (setWorker_sameTraffic _ .ready worker)
    refine ⟨hset.trans hkept.sameTraffic, ?_, fun other hother => ?_, fun _ _ _ => ?_⟩
    · simpa using hkept.state
    · rw [hkept.workerState, setWorker_other _ _ _ hother, setWorker_other _ _ _ hother]
    · rw [hkept.workerState, setWorker_workerState]

theorem ensures_sendRequest (worker : Worker) (deadline : ℕ) (h : s.workerState worker = .ready) :
    Ensures (fun _ => True) fail (transport.sendRequest worker deadline) s
      (Answered worker s) := by
  rw [ClickHouseTransport.sendRequest, ensures_bind, ensures_readWorld]
  dsimp only
  cases (transport.answer s.exchanges.length).send with
  | sent => exact ensures_awaitOutcome worker deadline _
  | oversized =>
    exact ensures_pure.mpr ⟨⟨rfl, rfl, rfl⟩, rfl, fun _ _ => rfl, fun _ _ _ => h⟩
  | timedOut =>
    rw [ensures_bind, ensures_modifyWorld]
    exact ensures_pure.mpr (.busy fun outcome houtcome => by cases houtcome)
  | broken causeType =>
    rw [ensures_bind, ensures_modifyWorld]
    refine ensures_pure.mpr (.busy fun outcome houtcome => ?_)
    cases houtcome
    rfl

theorem ensures_executeReady (worker : Worker) (deadline : ℕ)
    (h : s.workerState worker = .ready) :
    Ensures (fun _ => True) fail (transport.executeReady worker deadline) s
      (Answered worker s) := by
  rw [ClickHouseTransport.executeReady, ensures_bind]
  refine ensures_monotonicNs fun now between hkept => ?_
  have hready : between.workerState worker = .ready := (hkept.workerState worker).trans h
  by_cases hlate : deadline ≤ now
  · rw [if_pos hlate, ensures_pure]
    exact .trans hkept ⟨⟨rfl, rfl, rfl⟩, rfl, fun _ _ => rfl, fun _ _ _ => hready⟩
  · rw [if_neg hlate]
    exact (ensures_sendRequest worker deadline hready).mono fun _ _ h => .trans hkept h

/-- A ready worker takes the request. -/
theorem ensures_executeOn {worker : Worker} (request : ClickHouseWireRequest)
    (target : Option Uuid) (deadline : ℕ) (h : s.workerState worker = .ready) :
    Ensures (fun _ => True) fail (transport.executeOn worker request target deadline) s
      (Executed worker request target s) := by
  rw [ClickHouseTransport.executeOn, ensures_bind, ensures_readWorld, if_neg (not_not.mpr h),
    ensures_bind]
  refine (ensures_executeReady worker deadline h).mono fun execution s' hanswered => ?_
  rw [ensures_bind, ensures_modifyWorld, ensures_pure]
  exact
    { state := hanswered.state
      count := hanswered.count
      queries := hanswered.queries
      exchanges := by simp [hanswered.exchanges]
      others := hanswered.others
      ready := hanswered.ready }

/-! ## Accounting -/

theorem isAccountingFailure_of_class {refusal : Refusal}
    (h : refusal.error = .clickHouseSourceAccountingError ∨
      refusal.error = .postgresReadDeadlineExceededError ∨
      refusal.error = .postgresSourceBudgetExceededError) : isAccountingFailure refusal = true := by
  unfold isAccountingFailure
  rcases h with h | h | h <;> rw [h] <;> rfl

section Ledger

variable {ledger : SourceBudgetLedger} {now : LedgerWorld}

/-- A dispatch counts one query, which the budget affords; a refused one counts
none, and without a negative reservation it is refused for the deadline or the
budget. -/
theorem dispatchQuery_counts (direction : Side) (fullScans : ℤ) :
    Ensures (fun _ => True)
      (fun refusal after => after.ledger.usage.queries = now.ledger.usage.queries ∧
        (0 ≤ fullScans → isAccountingFailure refusal = true))
      (ledger.dispatchQuery direction fullScans) now
      (fun _ after => after.ledger.usage.queries = now.ledger.usage.queries + 1 ∧
        after.ledger.usage.queries ≤ ledger.budgets.maxQueries) := by
  simp only [SourceBudgetLedger.dispatchQuery, SourceBudgetLedger.chargeFullScans, ensures_bind,
    SourceBudgetLedger.ensures_validateNonnegativeInteger,
    SourceBudgetLedger.ensures_requireDeadline, SourceBudgetLedger.ensures_readUsage,
    SourceBudgetLedger.ensures_refuseIf, SourceBudgetLedger.ensures_modifyUsage]
  refine ⟨fun _ => ⟨fun _ => ⟨fun hqueries => ⟨fun _ => ?_, fun _ => ?_⟩, fun _ => ?_⟩,
    fun _ => ?_⟩, fun hnegative => ?_⟩
  · have hlt := not_le.mp hqueries
    cases direction <;> exact ⟨rfl, hlt⟩
  · exact ⟨trivial, fun _ => isAccountingFailure_of_class (.inr (.inr rfl))⟩
  · exact ⟨trivial, fun _ => isAccountingFailure_of_class (.inr (.inr rfl))⟩
  · exact ⟨trivial, fun _ => isAccountingFailure_of_class (.inr (.inl rfl))⟩
  · exact ⟨trivial, fun h => absurd h (not_le.mpr hnegative)⟩

/-- Sizes of records count no query and are refused for the deadline or the
budget. -/
theorem consumeRecords_counts (recordBytes : List ℕ) :
    Ensures (fun _ => True)
      (fun refusal after => after.ledger.usage.queries = now.ledger.usage.queries ∧
        isAccountingFailure refusal = true)
      (ledger.consumeRecords (recordBytes.map Int.ofNat)) now
      (fun _ after => after.ledger.usage.queries = now.ledger.usage.queries) := by
  have hvalid : (recordBytes.map Int.ofNat).forM
      (fun value => validateNonnegativeInteger value "source result record_bytes")
        = Except.ok () := by
    refine forM_eq_ok.mpr fun value hvalue => ?_
    obtain ⟨size, _, rfl⟩ := List.mem_map.mp hvalue
    exact SourceBudgetLedger.validateNonnegativeInteger_natCast size _
  simp only [SourceBudgetLedger.consumeRecords, hvalid, ensures_bind, ensures_lift,
    SourceBudgetLedger.ensures_modifyUsage, SourceBudgetLedger.ensures_requireDeadline,
    SourceBudgetLedger.ensures_requireRecords, SourceBudgetLedger.ensures_requireResultBytes]
  refine ⟨fun _ _ => ⟨fun _ => ⟨fun _ => ⟨fun _ => trivial, fun _ => ?_⟩, fun _ => ?_⟩,
    fun _ => ?_⟩, fun refusal h => by cases h⟩
  · exact ⟨trivial, isAccountingFailure_of_class (.inr (.inr rfl))⟩
  · exact ⟨trivial, isAccountingFailure_of_class (.inr (.inr rfl))⟩
  · exact ⟨trivial, isAccountingFailure_of_class (.inr (.inl rfl))⟩

theorem consumeObservedResultBytes_counts (resultBytes : ℕ) :
    Ensures (fun _ => True)
      (fun refusal after => after.ledger.usage.queries = now.ledger.usage.queries ∧
        isAccountingFailure refusal = true)
      (ledger.consumeObservedResultBytes resultBytes) now
      (fun _ after => after.ledger.usage.queries = now.ledger.usage.queries) := by
  simp only [SourceBudgetLedger.consumeObservedResultBytes, ensures_bind,
    SourceBudgetLedger.ensures_validateNonnegativeInteger,
    SourceBudgetLedger.ensures_modifyUsage, SourceBudgetLedger.ensures_requireDeadline,
    SourceBudgetLedger.ensures_requireResultBytes]
  refine ⟨fun _ => ⟨fun _ => ⟨fun _ => trivial, fun _ => ?_⟩, fun _ => ?_⟩, fun hnegative => ?_⟩
  · exact ⟨trivial, isAccountingFailure_of_class (.inr (.inr rfl))⟩
  · exact ⟨trivial, isAccountingFailure_of_class (.inr (.inl rfl))⟩
  · omega

end Ledger

/-- The queries that a dispatch counts. -/
def ClickHouseTransport.queryCharge (transport : ClickHouseTransport) : ℕ :=
  match transport.accounting with
  | .unbudgeted => 0
  | .budgeted _ => 1

/-- The budget affords the queries that were counted, where there is one. -/
def ClickHouseTransport.Affords (transport : ClickHouseTransport) (world : TransportWorld) : Prop :=
  transport.accounting = .unbudgeted ∨ world.queries ≤ transport.ledger.budgets.maxQueries

theorem ClickHouseTransport.Affords.of_eq {s' : TransportWorld} (h : transport.Affords s)
    (hqueries : s'.queries = s.queries) : transport.Affords s' :=
  h.imp_right fun hle => hqueries ▸ hle

/-- The requests `sent` are recorded, counted and charged. -/
structure Sent (transport : ClickHouseTransport) (s : TransportWorld) (sent : List Exchange)
    (s' : TransportWorld) : Prop where
  exchanges : s'.exchanges = s.exchanges ++ sent
  count : s'.physicalRequestCount = s.physicalRequestCount + sent.length
  queries : s'.queries = s.queries + transport.queryCharge * sent.length
  affords : sent ≠ [] → transport.Affords s'

theorem Sent.nothing {s' : TransportWorld} (h : SameTraffic s s') : Sent transport s [] s' where
  exchanges := by simpa using h.exchanges
  count := h.count
  queries := h.queries
  affords := fun hsent => absurd rfl hsent

theorem Sent.append {sent more : List Exchange} {between s' : TransportWorld}
    (h : Sent transport s sent between) (h' : Sent transport between more s') :
    Sent transport s (sent ++ more) s' where
  exchanges := by rw [h'.exchanges, h.exchanges, List.append_assoc]
  count := by rw [h'.count, h.count, List.length_append, Nat.add_assoc]
  queries := by rw [h'.queries, h.queries, List.length_append, Nat.mul_add, Nat.add_assoc]
  affords := fun hsent => by
    by_cases hmore : more = []
    · subst hmore
      exact (h.affords (by simpa using hsent)).of_eq h'.queries
    · exact h'.affords hmore

theorem Sent.same {sent : List Exchange} {between s' : TransportWorld}
    (h : Sent transport s sent between) (h' : SameTraffic between s') :
    Sent transport s sent s' := by
  simpa using h.append (.nothing h')

/-- A request that was charged, counted and handed to its worker. -/
theorem Sent.executed {worker : Worker} {request : ClickHouseWireRequest} {target : Option Uuid}
    {execution : ClickHouseHttpExecution} {between s' : TransportWorld}
    (hcharged : Kept transport.queryCharge s between) (haffords : transport.Affords between)
    (h : Executed worker request target
      { between with physicalRequestCount := between.physicalRequestCount + 1 } execution s') :
    Sent transport s [⟨worker, request, target, execution⟩] s' where
  exchanges := by rw [h.exchanges, ← hcharged.exchanges]
  count := by
    rw [h.count, ← hcharged.count]
    rfl
  queries := by
    rw [h.queries, List.length_singleton, Nat.mul_one]
    exact hcharged.queries
  affords := fun _ => haffords.of_eq h.queries

/-- A dispatch on the ledger. -/
theorem ensures_onLedger_dispatch {direction : Side} {fullScans : ℤ} :
    Ensures (fun _ => True)
      (fun raised s' => Kept 0 s s' ∧ ∃ refusal, raised = Raised.of (.refusal refusal) ∧
        (0 ≤ fullScans → isAccountingFailure refusal = true))
      (onLedger (transport.ledger.dispatchQuery direction fullScans)) s
      (fun _ s' => Kept 1 s s' ∧ transport.Affords s') := by
  rw [ensures_onLedger]
  refine ((dispatchQuery_counts direction fullScans).mono fun _ after h => ?_).weaken
    (fun _ _ => trivial) fun refusal after h => ?_
  · exact ⟨.onLedger h.1, .inr h.2⟩
  · exact ⟨.onLedger h.1, refusal, rfl, h.2⟩

/-- The operation of a KILL is known. -/
theorem killOperation_known :
    validateClickhouseTextScalar "cancel_clickhouse_query" "ClickHouse unbudgeted operation"
        = .ok () ∧
      validateClickhouseTextScalar "cancel_clickhouse_query" "ClickHouse budgeted operation"
        = .ok () ∧
      ClickHouseTransport.knownFullScans "cancel_clickhouse_query" = .ok 0 :=
  ⟨rfl, rfl, rfl⟩

theorem ensures_dispatchKnown (operation : String) :
    Ensures (fun _ => True)
      (fun raised s' => Kept 0 s s' ∧ ∃ refusal, raised = Raised.of (.refusal refusal) ∧
        (operation = "cancel_clickhouse_query" → isAccountingFailure refusal = true))
      (transport.dispatchKnown operation) s
      (fun _ s' => Kept transport.queryCharge s s' ∧ transport.Affords s') := by
  obtain ⟨hunbudgeted, hbudgeted, hknown⟩ := killOperation_known
  unfold ClickHouseTransport.dispatchKnown ClickHouseTransport.queryCharge
  cases haccounting : transport.accounting with
  | unbudgeted =>
    dsimp only
    refine ensures_checked.mpr ⟨fun _ _ => ⟨.refl s, .inl haccounting⟩, fun refusal h => ?_⟩
    refine ⟨.refl s, refusal, rfl, fun hkill => ?_⟩
    rw [hkill, hunbudgeted] at h
    cases h
  | budgeted direction =>
    dsimp only
    rw [ensures_bind, ensures_checked]
    refine ⟨fun _ _ => ?_, fun refusal h => ⟨.refl s, refusal, rfl, fun hkill => ?_⟩⟩
    · rw [ensures_bind, ensures_checked]
      refine ⟨fun fullScans hscans => ?_, fun refusal h => ⟨.refl s, refusal, rfl, fun hkill => ?_⟩⟩
      · refine ensures_onLedger_dispatch.weaken (fun _ _ => trivial) fun raised s' h => ?_
        obtain ⟨hkept, refusal, hraised, hcaught⟩ := h
        refine ⟨hkept, refusal, hraised, fun hkill => hcaught ?_⟩
        rw [hkill, hknown] at hscans
        cases hscans
        exact le_rfl
      · rw [hkill, hknown] at h
        cases h
    · rw [hkill, hbudgeted] at h
      cases h

theorem ensures_dispatchExplicit (operation : String) (fullScans : ℤ) :
    Ensures (fun _ => True)
      (fun raised s' => Kept 0 s s' ∧ ∃ refusal, raised = Raised.of (.refusal refusal))
      (transport.dispatchExplicit operation fullScans) s
      (fun _ s' => Kept transport.queryCharge s s' ∧ transport.Affords s') := by
  unfold ClickHouseTransport.dispatchExplicit ClickHouseTransport.queryCharge
  cases haccounting : transport.accounting with
  | unbudgeted =>
    dsimp only
    rw [ensures_bind, ensures_checked]
    refine ⟨fun _ _ => ?_, fun refusal _ => ⟨.refl s, refusal, rfl⟩⟩
    exact ensures_checked.mpr
      ⟨fun _ _ => ⟨.refl s, .inl haccounting⟩, fun refusal _ => ⟨.refl s, refusal, rfl⟩⟩
  | budgeted direction =>
    dsimp only
    rw [ensures_bind, ensures_checked]
    refine ⟨fun _ _ => ?_, fun refusal _ => ⟨.refl s, refusal, rfl⟩⟩
    rw [ensures_bind, ensures_checked]
    refine ⟨fun _ _ => ?_, fun refusal _ => ⟨.refl s, refusal, rfl⟩⟩
    refine ensures_onLedger_dispatch.weaken (fun _ _ => trivial) fun raised s' h => ?_
    obtain ⟨hkept, refusal, hraised, _⟩ := h
    exact ⟨hkept, refusal, hraised⟩

/-- An exception of accounting that `_consume_observed_outcome` catches. -/
def Caught (accountingError : Option Refusal) : Prop :=
  ∀ refusal, accountingError = some refusal → isAccountingFailure refusal = true

theorem ensures_consumePayload (payload : Canonical.Bytes) (resultFormat : String) :
    Ensures (fun _ => True)
      (fun raised s' => ∃ refusal, raised = Raised.of (.refusal refusal) ∧
        isAccountingFailure refusal = true ∧ Kept 0 s s')
      (transport.consumePayload payload resultFormat) s (fun _ s' => Kept 0 s s') := by
  unfold ClickHouseTransport.consumePayload
  cases transport.accounting with
  | unbudgeted => exact ensures_pure.mpr (.refl s)
  | budgeted direction =>
    dsimp only
    rw [ensures_bind, ensures_checked]
    refine ⟨fun recordBytes _ => ?_, fun refusal h => ⟨refusal, rfl, ?_, .refl s⟩⟩
    · rw [ensures_onLedger]
      refine ((consumeRecords_counts recordBytes).mono fun _ after h => ?_).weaken
        (fun _ _ => trivial) fun refusal after h => ?_
      · exact .onLedger h
      · exact ⟨refusal, rfl, h.2, .onLedger h.1⟩
    · -- The only refusal is the format that cannot be accounted for.
      unfold ClickHouseTransport.clickhouseResultRecordBytes at h
      split at h
      · cases h
      · split at h
        · cases h
        · cases h
          exact isAccountingFailure_of_class (.inl rfl)

theorem ensures_consumeObservedResultBytes (resultBytes : ℕ) :
    Ensures (fun _ => True)
      (fun raised s' => ∃ refusal, raised = Raised.of (.refusal refusal) ∧
        isAccountingFailure refusal = true ∧ Kept 0 s s')
      (transport.consumeObservedResultBytes resultBytes) s (fun _ s' => Kept 0 s s') := by
  unfold ClickHouseTransport.consumeObservedResultBytes
  cases transport.accounting with
  | unbudgeted => exact ensures_pure.mpr (.refl s)
  | budgeted direction =>
    dsimp only
    rw [ensures_onLedger]
    refine ((consumeObservedResultBytes_counts resultBytes).mono fun _ after h => ?_).weaken
      (fun _ _ => trivial) fun refusal after h => ?_
    · exact .onLedger h
    · exact ⟨refusal, rfl, h.2, .onLedger h.1⟩

/-- Accounting for an outcome raises nothing. -/
theorem ensures_consumeObservedOutcome (outcome : Option ClickHouseHttpOutcome)
    (resultFormat : String) :
    Ensures (fun _ => True) fail (transport.consumeObservedOutcome outcome resultFormat) s
      (fun accountingError s' => Kept 0 s s' ∧ Caught accountingError) := by
  have hquiet : Kept 0 s s ∧ Caught none := ⟨.refl s, fun refusal h => by cases h⟩
  have hcatch {work : TransportM Unit}
      (h : Ensures (fun _ => True)
        (fun raised s' => ∃ refusal, raised = Raised.of (.refusal refusal) ∧
          isAccountingFailure refusal = true ∧ Kept 0 s s')
        work s (fun _ s' => Kept 0 s s')) :
      Ensures (fun _ => True) fail (catchAccounting work) s
        (fun accountingError s' => Kept 0 s s' ∧ Caught accountingError) := by
    refine ensures_catchAccounting ((h.mono fun _ s' hkept => ?_).weaken (fun _ _ => trivial)
      fun raised s' hraised => ?_)
    · exact ⟨hkept, fun refusal hrefusal => by cases hrefusal⟩
    · obtain ⟨refusal, hraised, hcaught, hkept⟩ := hraised
      refine ⟨refusal, hraised, hcaught, hkept, fun other hother => ?_⟩
      cases hother
      exact hcaught
  unfold ClickHouseTransport.consumeObservedOutcome
  cases outcome with
  | none => exact ensures_pure.mpr hquiet
  | some outcome =>
    dsimp only
    cases outcome.kind with
    | success => exact hcatch (ensures_consumePayload _ _)
    | resultLimit => exact hcatch (ensures_consumeObservedResultBytes _)
    | serverError => exact ensures_pure.mpr hquiet
    | protocolError => exact ensures_pure.mpr hquiet
    | transportError => exact ensures_pure.mpr hquiet

/-! ## Cancelling a query -/

/-- The reply to a KILL that confirms the end of exactly this query of this
user. -/
def Exchange.Confirms (transport : ClickHouseTransport) (queryId : Uuid) (kill : Exchange) : Prop :=
  kill.target = some queryId ∧ ∃ outcome, kill.execution.outcome = some outcome ∧
    outcome.kind = .success ∧
    ClickHouseTransport.killQueryFinished outcome.payload queryId transport.settings.user = true

/-- What the cancellation of a query leaves: the transport is retired, and it is
lost only when the KILL was confirmed and the workers were reaped. -/
structure Cancelled (transport : ClickHouseTransport) (queryId : Uuid) (s : TransportWorld)
    (result : Bool × String) (kills : List Exchange) (s' : TransportWorld) : Prop
    extends Sent transport s kills s' where
  kills_le : kills.length ≤ 1
  confirmed : result.1 = true → s'.state = .lost ∧ s'.dataWorker = .closed ∧
    s'.controlWorker = .closed ∧ ∃ kill, kills = [kill] ∧ kill.Confirms transport queryId
  unconfirmed : result.1 = false → s'.state = .cancellationUnconfirmed

/-- The transport retires without a confirmation. -/
theorem Cancelled.of_retired {queryId : Uuid} {cause : Option String} {reported : String}
    {kills : List Exchange} {between s' : TransportWorld}
    (hsent : Sent transport s kills between) (kills_le : kills.length ≤ 1)
    (hretired : Retired .cancellationUnconfirmed between cause s') :
    Cancelled transport queryId s (false, reported) kills s' where
  toSent := hsent.same hretired.toSameTraffic
  kills_le := kills_le
  confirmed := fun h => by cases h
  unconfirmed := fun _ => by
    by_cases hcause : cause = none
    · exact (hretired.reached hcause).1
    · exact hretired.uncertain hcause

/-- A cancellation that is given up. -/
theorem ensures_unconfirmed {queryId : Uuid} (cause : String) {kills : List Exchange}
    {between : TransportWorld} (h : Sent transport s kills between) (hle : kills.length ≤ 1) :
    Ensures (fun _ => True) fail (transport.unconfirmed cause) between
      (fun result s' => ∃ kills, Cancelled transport queryId s result kills s') := by
  rw [ClickHouseTransport.unconfirmed, ensures_bind]
  refine (ensures_retire .cancellationUnconfirmed).mono fun cleanupCause s' hretired => ?_
  exact ensures_pure.mpr ⟨kills, .of_retired h hle hretired⟩

theorem ensures_settleKill {queryId : Uuid} {outcome : ClickHouseHttpOutcome} {kill : Exchange}
    {between : TransportWorld} (h : Sent transport s [kill] between)
    (htarget : kill.target = some queryId) (houtcome : kill.execution.outcome = some outcome) :
    Ensures (fun _ => True) fail (transport.settleKill queryId outcome) between
      (fun result s' => ∃ kills, Cancelled transport queryId s result kills s') := by
  unfold ClickHouseTransport.settleKill
  dsimp only
  by_cases hconfirmed : (decide (outcome.kind = .success) &&
      ClickHouseTransport.killQueryFinished outcome.payload queryId transport.settings.user) = true
  · rw [hconfirmed, if_pos rfl, ensures_bind]
    refine (ensures_retire .lost).mono fun cause s' hretired => ?_
    obtain ⟨hkind, hfinished⟩ : outcome.kind = .success ∧ _ := by
      simpa only [Bool.and_eq_true, decide_eq_true_eq] using hconfirmed
    have hsent := h.same hretired.toSameTraffic
    by_cases hcause : cause = none
    · rw [if_pos ⟨rfl, hcause⟩, ensures_pure]
      obtain ⟨hstate, hdata, hcontrol⟩ := hretired.reached hcause
      refine ⟨[kill], hsent, le_rfl, fun _ => ?_, fun h => by cases h⟩
      exact ⟨hstate, hdata, hcontrol, kill, rfl, htarget, outcome, houtcome, hkind, hfinished⟩
    · rw [if_neg (fun h => hcause h.2), ensures_pure]
      exact ⟨[kill], hsent, le_rfl, fun h => (by cases h), fun _ => hretired.uncertain hcause⟩
  · rw [Bool.not_eq_true] at hconfirmed
    rw [hconfirmed, if_neg (by decide), ensures_bind]
    refine (ensures_retire .cancellationUnconfirmed).mono fun cause s' hretired => ?_
    rw [if_neg (fun h => by cases h.1), ensures_pure]
    exact ⟨[kill], .of_retired h le_rfl hretired⟩

theorem ensures_sendKill {cancellationWorker : Worker} {request : ClickHouseWireRequest}
    {queryId : Uuid} {cancellationDeadline : ℕ} {between : TransportWorld}
    (hcharged : Kept transport.queryCharge s between) (haffords : transport.Affords between)
    (hready : between.workerState cancellationWorker = .ready) :
    Ensures (fun _ => True) fail
      (transport.sendKill cancellationWorker request queryId cancellationDeadline) between
      (fun result s' => ∃ kills, Cancelled transport queryId s result kills s') := by
  rw [ClickHouseTransport.sendKill, ensures_bind, ensures_modifyWorld, ensures_bind]
  refine (ensures_executeOn request (some queryId) cancellationDeadline ?_).mono
    fun execution sent hexecuted => ?_
  · cases cancellationWorker <;> exact hready
  rw [ensures_bind]
  refine (ensures_consumeObservedOutcome _ _).mono fun accountingError accounted h => ?_
  obtain ⟨hkept, _⟩ := h
  have hsent := (Sent.executed hcharged haffords hexecuted).same hkept.sameTraffic
  cases accountingError with
  | some refusal => exact ensures_unconfirmed _ hsent le_rfl
  | none =>
    dsimp only
    cases hlate : execution.deadlineExceeded with
    | true => exact ensures_unconfirmed _ hsent le_rfl
    | false =>
      cases houtcome : execution.outcome with
      | none => exact ensures_unconfirmed _ hsent le_rfl
      | some outcome => exact ensures_settleKill hsent rfl houtcome

theorem ensures_chargeKill {cancellationWorker : Worker} {request : ClickHouseWireRequest}
    {queryId : Uuid} {cancellationDeadline : ℕ} {between : TransportWorld}
    (hkept : Kept 0 s between) (hready : s.workerState cancellationWorker = .ready) :
    Ensures (fun _ => True) fail
      (transport.chargeKill cancellationWorker request queryId cancellationDeadline) between
      (fun result s' => ∃ kills, Cancelled transport queryId s result kills s') := by
  rw [ClickHouseTransport.chargeKill, ensures_bind]
  refine ensures_catchAccounting (((ensures_dispatchKnown "cancel_clickhouse_query").mono
    fun _ charged hcharged => ?_).weaken (fun _ _ => trivial) fun raised s' h => ?_)
  · refine ensures_sendKill (by simpa using hkept.trans hcharged.1) hcharged.2 ?_
    rw [hcharged.1.workerState, hkept.workerState, hready]
  · obtain ⟨hrefused, refusal, hraised, hcaught⟩ := h
    exact ⟨refusal, hraised, hcaught rfl, ensures_unconfirmed _ (.nothing (hkept.trans hrefused).sameTraffic) (Nat.zero_le _)⟩

/-- What building a KILL raises is caught. -/
theorem requestErrorType_isSome {arguments : RequestArguments} {now : ℕ} {error : RequestError}
    (h : transport.clickhouseHttpRequest arguments now = .error error) :
    ∃ cause, ClickHouseTransport.requestErrorType error = some cause := by
  rcases clickhouseHttpRequest_error _ _ h with ⟨message, rfl⟩ | ⟨refusal, rfl, hclass⟩
  · exact ⟨_, rfl⟩
  · refine ⟨"ValueError", ?_⟩
    rw [ClickHouseTransport.requestErrorType, hclass]
    rfl

theorem ensures_buildKill {cancellationWorker : Worker} {queryId : Uuid}
    {cancellationDeadline : ℕ} {between : TransportWorld} (hkept : Kept 0 s between)
    (hready : s.workerState cancellationWorker = .ready) :
    Ensures (fun _ => True) fail
      (transport.buildKill cancellationWorker queryId cancellationDeadline) between
      (fun result s' => ∃ kills, Cancelled transport queryId s result kills s') := by
  rw [ClickHouseTransport.buildKill, ensures_bind]
  refine ensures_freshUuid fun controlQueryId named hnamed => ?_
  rw [ensures_bind]
  refine ensures_monotonicNs fun now timed htimed => ?_
  have hso_far : Kept 0 s timed := (hkept.trans hnamed).trans htimed
  cases hrequest : transport.clickhouseHttpRequest
      (transport.killArguments cancellationDeadline controlQueryId queryId) now with
  | ok request => exact ensures_chargeKill hso_far hready
  | error error =>
    obtain ⟨cause, hcause⟩ := requestErrorType_isSome hrequest
    dsimp only
    rw [hcause]
    dsimp only
    rw [ensures_bind]
    refine (ensures_retire .cancellationUnconfirmed).mono fun cleanupCause s' hretired => ?_
    exact ensures_pure.mpr
      ⟨[], .of_retired (.nothing hso_far.sameTraffic) (Nat.zero_le _) hretired⟩

/-- The cancellation of a query with a ready worker. -/
theorem ensures_cancelAndRetire {cancellationWorker : Worker} {queryId : Uuid}
    (hready : s.workerState cancellationWorker = .ready) :
    Ensures (fun _ => True) fail (transport.cancelAndRetire cancellationWorker queryId) s
      (fun result s' => ∃ kills, Cancelled transport queryId s result kills s') := by
  rw [ClickHouseTransport.cancelAndRetire, ensures_bind]
  refine ensures_monotonicNs fun now started hstarted => ?_
  dsimp only
  rw [ensures_bind]
  refine ensures_monotonicNs fun again timed htimed => ?_
  have hso_far : Kept 0 s timed := hstarted.trans htimed
  split
  · exact ensures_unconfirmed _ (.nothing hso_far.sameTraffic) (Nat.zero_le _)
  · exact ensures_buildKill hso_far hready

end ForensicData.ClickHouse
