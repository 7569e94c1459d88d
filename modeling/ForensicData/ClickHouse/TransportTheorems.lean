/-
ForensicData.ClickHouse.TransportTheorems — every query is settled.

`Settlement` is the abstract account of how an execution that raises may leave a
transport: what was sent, what is raised, and the state. Every method of the
transport keeps to it. Over a run, a transport that is lost or closed has reaped
its workers and knows the end of every query it sent; a transport that is no
longer active sends nothing more; and the requests it sent are the queries that
were charged.
-/
import ForensicData.ClickHouse.TransportSteps

namespace ForensicData.ClickHouse

open ForensicData.Application (uuidText)
open ForensicData.Comparison (ClickHouseQueryCompletion)
open ForensicData.Lib
open ForensicData.Lib.Generator
open ForensicData.Result (Uuid)

/-! ## What is known of a query -/

/-- The worker reports that the request was not sent. -/
def Exchange.NotSent (exchange : Exchange) : Prop :=
  ∃ outcome, exchange.execution.outcome = some outcome ∧ outcome.dispatchState = .notSent

/-- The server's reply was read to its end. -/
def Exchange.Terminal (exchange : Exchange) : Prop :=
  ∃ outcome, exchange.execution.outcome = some outcome ∧
    (outcome.kind = .success ∨ ClickHouseTransport.isTerminalReply outcome = true)

/-- A query was never sent, is over on the server, or a KILL among `exchanges`
confirmed its end. -/
def Exchange.Settled (transport : ClickHouseTransport) (exchanges : List Exchange)
    (exchange : Exchange) : Prop :=
  exchange.NotSent ∨ exchange.Terminal ∨
    ∃ queryId, exchange.request.queryId = uuidText queryId ∧
      ∃ kill ∈ exchanges, kill.Confirms transport queryId

/-- What an exception says about its query: its `completion`, or its class. -/
def TransportError.completion : TransportError → Option ClickHouseQueryCompletion
  | .query failure => some failure.completion
  | .deadlineExceeded _ _ _ completion => some completion
  | .cancellationUnconfirmed _ => some .unconfirmed
  | _ => none

/-- The exceptions of arguments, of the binding library and of accounting. -/
def TransportError.isRefusal : TransportError → Bool
  | .refusal _ => true
  | .programming _ => true
  | _ => false

/-- The exceptions without a completion that end a query read to its end: its size,
or its accounting. -/
def TransportError.endsTerminal : TransportError → Bool
  | .responseLimit _ _ _ _ truncated => !truncated
  | .refusal cause => isAccountingFailure cause
  | _ => false

/-- The exception of a response that was cut off and whose query was killed. -/
def TransportError.endsKilled : TransportError → Bool
  | .responseLimit _ _ _ _ truncated => truncated
  | _ => false

/-! ## Settlements -/

/-- How an execution that raises may leave a transport: the requests it sent, what
is raised, and the state. -/
inductive Settlement (transport : ClickHouseTransport) :
    List Exchange → TransportError → ClickHouseTransportState → Prop where
  | refused {error : TransportError} (h : error.isRefusal = true) :
      Settlement transport [] error .active
  | expired {error : TransportError} (h : error.completion = some .notDispatched) :
      Settlement transport [] error .lost
  | unreaped {sent : List Exchange} (message : String) :
      Settlement transport sent (.cleanup message) .cancellationUnconfirmed
  | notSent {query : Exchange} {error : TransportError} (hquery : query.NotSent)
      (h : error.completion = some .notDispatched) : Settlement transport [query] error .lost
  | terminal {query : Exchange} {error : TransportError} (hquery : query.Terminal)
      (h : error.completion = some .serverTerminal ∨ error.endsTerminal = true) :
      Settlement transport [query] error .lost
  | killed {query kill : Exchange} {error : TransportError} (queryId : Uuid)
      (hquery : query.request.queryId = uuidText queryId)
      (hkill : kill.Confirms transport queryId)
      (h : error.completion = some .cancelled ∨ error.endsKilled = true) :
      Settlement transport [query, kill] error .lost
  | unconfirmed {query : Exchange} {kills : List Exchange} (failure : CancellationFailure)
      (hkills : kills.length ≤ 1) :
      Settlement transport (query :: kills) (.cancellationUnconfirmed failure)
        .cancellationUnconfirmed

/-- What a method leaves besides: the requests it sent are recorded, counted and
charged, and the workers are ready, or reaped, with the transport. -/
structure Concluded (transport : ClickHouseTransport) (s : TransportWorld) (sent : List Exchange)
    (s' : TransportWorld) : Prop extends Sent transport s sent s' where
  ready : s'.state = .active → s'.dataWorker = .ready ∧ s'.controlWorker = .ready
  reaped : s'.state = .lost → s'.dataWorker = .closed ∧ s'.controlWorker = .closed

/-- An execution that raises ends in a settlement. -/
def Raises (transport : ClickHouseTransport) (s : TransportWorld) (raised : Raised)
    (s' : TransportWorld) : Prop :=
  ∃ sent, Concluded transport s sent s' ∧ Settlement transport sent raised.error s'.state

/-- An execution that returns has sent one query and hands back the payload the
worker received for it. -/
def Returns (transport : ClickHouseTransport) (s : TransportWorld)
    (result : ClickHouseTransport.ClickHouseRawResult) (s' : TransportWorld) : Prop :=
  ∃ query outcome, Concluded transport s [query] s' ∧ s'.state = .active ∧
    query.target = none ∧ query.request.queryId = uuidText result.queryId ∧
    query.execution.outcome = some outcome ∧ query.execution.deadlineExceeded = false ∧
    outcome.kind = .success ∧ result.payload = outcome.payload ∧
    result.attemptId = transport.attemptId

variable {transport : ClickHouseTransport} {s : TransportWorld}

/-- An active transport with both workers ready. -/
def TransportWorld.Ready (world : TransportWorld) : Prop :=
  world.state = .active ∧ world.dataWorker = .ready ∧ world.controlWorker = .ready

theorem TransportWorld.Ready.workerState {world : TransportWorld} (h : world.Ready)
    (worker : Worker) : world.workerState worker = .ready := by
  cases worker with
  | data => exact h.2.1
  | control => exact h.2.2

theorem TransportWorld.Ready.kept {n : ℕ} {between : TransportWorld} (h : s.Ready)
    (hkept : Kept n s between) : between.Ready :=
  ⟨hkept.state.trans h.1, hkept.dataWorker.trans h.2.1, hkept.controlWorker.trans h.2.2⟩

theorem Concluded.of_kept {s' : TransportWorld} (hready : s.Ready) (hkept : Kept 0 s s') :
    Concluded transport s [] s' where
  toSent := .nothing hkept.sameTraffic
  ready := fun _ => (hready.kept hkept).2
  reaped := fun h => by
    have hactive := (hready.kept hkept).1
    rw [hactive] at h
    cases h

/-! ## Before anything is sent -/

theorem raises_refusal {s' : TransportWorld} {error : TransportError} (hready : s.Ready)
    (hkept : Kept 0 s s') (h : error.isRefusal = true) :
    Raises transport s (Raised.of error) s' := by
  refine ⟨[], .of_kept hready hkept, ?_⟩
  rw [(hready.kept hkept).1]
  exact .refused h

theorem Sent.concluded {sent : List Exchange} {between s' : TransportWorld}
    {cause : Option String} (h : Sent transport s sent between)
    (hretired : Retired .lost between cause s') : Concluded transport s sent s' where
  toSent := h.same hretired.toSameTraffic
  ready := fun hactive => by
    by_cases hcause : cause = none
    · rw [(hretired.reached hcause).1] at hactive
      cases hactive
    · rw [hretired.uncertain hcause] at hactive
      cases hactive
  reaped := fun hlost => by
    by_cases hcause : cause = none
    · exact (hretired.reached hcause).2
    · rw [hretired.uncertain hcause] at hlost
      cases hlost

/-- After a retirement that reaped the workers, what it was for is raised. -/
theorem raises_lost {sent : List Exchange} {between s' : TransportWorld} {error : TransportError}
    (hsent : Sent transport s sent between) (hretired : Retired .lost between none s')
    (h : Settlement transport sent error .lost) : Raises transport s (Raised.of error) s' := by
  refine ⟨sent, hsent.concluded hretired, ?_⟩
  rw [(hretired.reached rfl).1]
  exact h

/-- After one that did not, a cleanup error. -/
theorem raises_unreaped {sent : List Exchange} {between s' : TransportWorld} {cause : String}
    (hsent : Sent transport s sent between) (hretired : Retired .lost between (some cause) s')
    (message : String) : Raises transport s (Raised.of (.cleanup message)) s' := by
  refine ⟨sent, hsent.concluded hretired, ?_⟩
  rw [hretired.uncertain (by simp)]
  exact .unreaped message

theorem ensures_lost {α : Type} {sent : List Exchange} {between : TransportWorld}
    {error : TransportError} {cleanupMessage : String → String} {post : α → TransportWorld → Prop}
    (hsent : Sent transport s sent between) (h : Settlement transport sent error .lost) :
    Ensures (fun _ => True) (Raises transport s)
      (transport.loseWith cleanupMessage error : TransportM α) between post := by
  rw [ClickHouseTransport.loseWith, ensures_bind]
  refine (ensures_retire .lost).mono fun cause s' hretired => ?_
  cases cause with
  | none => exact ensures_raised.mpr (raises_lost hsent hretired h)
  | some cause => exact ensures_raised.mpr (raises_unreaped hsent hretired _)

/-! ## Settling a query that was sent -/

/-- The requests of the query and of its cancellation. -/
theorem Sent.cancelled {query : Exchange} {kills : List Exchange} {queryId : Uuid}
    {result : Bool × String} {between s' : TransportWorld} (h : Sent transport s [query] between)
    (hcancelled : Cancelled transport queryId between result kills s') :
    Concluded transport s (query :: kills) s' where
  toSent := h.append hcancelled.toSent
  ready := fun hactive => by
    cases hresult : result.1 with
    | true =>
      rw [(hcancelled.confirmed hresult).1] at hactive
      cases hactive
    | false =>
      rw [hcancelled.unconfirmed hresult] at hactive
      cases hactive
  reaped := fun hlost => by
    cases hresult : result.1 with
    | true =>
      obtain ⟨_, hdata, hcontrol, _⟩ := hcancelled.confirmed hresult
      exact ⟨hdata, hcontrol⟩
    | false =>
      rw [hcancelled.unconfirmed hresult] at hlost
      cases hlost

theorem ensures_cancelWith {α : Type} {query : Exchange} {between : TransportWorld}
    {cancellationWorker : Worker} {queryId : Uuid} {operation triggerCause : String}
    {outcome : Option ClickHouseHttpOutcome} {error : TransportError}
    {post : α → TransportWorld → Prop} (hsent : Sent transport s [query] between)
    (hready : between.workerState cancellationWorker = .ready)
    (hquery : query.request.queryId = uuidText queryId)
    (h : error.completion = some .cancelled ∨ error.endsKilled = true) :
    Ensures (fun _ => True) (Raises transport s)
      (transport.cancelWith cancellationWorker queryId operation triggerCause outcome error :
        TransportM α) between post := by
  rw [ClickHouseTransport.cancelWith, ensures_bind]
  refine (ensures_cancelAndRetire hready).mono fun result s' hresult => ?_
  obtain ⟨kills, hcancelled⟩ := hresult
  have hconcluded := hsent.cancelled hcancelled
  by_cases hconfirmed : result.1 = true
  · obtain ⟨hstate, _, _, kill, rfl, hkill⟩ := hcancelled.confirmed hconfirmed
    rw [if_pos hconfirmed, ensures_raised]
    refine ⟨[query, kill], hconcluded, ?_⟩
    rw [hstate]
    exact .killed queryId hquery hkill h
  · rw [if_neg hconfirmed, ensures_raised]
    refine ⟨query :: kills, hconcluded, ?_⟩
    rw [hcancelled.unconfirmed (by simpa using hconfirmed)]
    exact .unconfirmed _ hcancelled.kills_le

/-- What is known while an outcome is resolved: the query is the one that was sent,
with this outcome, and the other worker is ready. -/
structure Resolving (transport : ClickHouseTransport) (s : TransportWorld) (query : Exchange)
    (queryId : Uuid) (cancellationWorker : Worker) (between : TransportWorld) : Prop where
  sent : Sent transport s [query] between
  queryId : query.request.queryId = uuidText queryId
  ready : between.workerState cancellationWorker = .ready

theorem ensures_resolveFailedRequest {query : Exchange} {queryId : Uuid}
    {cancellationWorker : Worker} {between : TransportWorld} {outcome : ClickHouseHttpOutcome}
    (operation : String) {post : ClickHouseTransport.ClickHouseRawResult → TransportWorld → Prop}
    (h : Resolving transport s query queryId cancellationWorker between)
    (houtcome : query.execution.outcome = some outcome) :
    Ensures (fun _ => True) (Raises transport s)
      (transport.resolveFailedRequest outcome queryId operation cancellationWorker) between
      post := by
  unfold ClickHouseTransport.resolveFailedRequest
  by_cases hnotSent : outcome.dispatchState = .notSent
  · rw [if_pos hnotSent]
    exact ensures_lost h.sent (.notSent ⟨outcome, houtcome, hnotSent⟩ rfl)
  · rw [if_neg hnotSent]
    exact ensures_cancelWith h.sent h.ready h.queryId (.inl rfl)

/-- A success is returned; every other outcome retires the transport. -/
theorem ensures_resolveQueryOutcome {query : Exchange} {queryId : Uuid}
    {cancellationWorker : Worker} {between : TransportWorld} {outcome : ClickHouseHttpOutcome}
    (operation : String) (h : Resolving transport s query queryId cancellationWorker between)
    (houtcome : query.execution.outcome = some outcome) :
    Ensures (fun _ => True) (Raises transport s)
      (transport.resolveQueryOutcome outcome queryId operation cancellationWorker) between
      (fun result s' => s' = between ∧ outcome.kind = .success ∧
        result = ⟨transport.attemptId, queryId, outcome.payload⟩) := by
  have hterminal (hkind : outcome.kind = .serverError ∨ outcome.kind = .resultLimit)
      (hwhole : ¬ outcome.truncated = true) : query.Terminal := by
    refine ⟨outcome, houtcome, .inr ?_⟩
    rw [Bool.not_eq_true] at hwhole
    rcases hkind with hkind | hkind
    · simp [ClickHouseTransport.isTerminalReply, hkind, hwhole]
    · simp [ClickHouseTransport.isTerminalReply, hkind, hwhole]
  unfold ClickHouseTransport.resolveQueryOutcome
  cases hkind : outcome.kind with
  | success =>
    dsimp only
    exact ensures_pure.mpr ⟨rfl, rfl, rfl⟩
  | resultLimit =>
    dsimp only
    by_cases htruncated : outcome.truncated = true
    · rw [if_pos htruncated]
      exact ensures_cancelWith h.sent h.ready h.queryId (.inr htruncated)
    · rw [if_neg htruncated]
      refine ensures_lost h.sent (.terminal (hterminal (.inr hkind) htruncated) (.inr ?_))
      simpa [TransportError.endsTerminal] using htruncated
  | serverError =>
    dsimp only
    by_cases htruncated : outcome.truncated = true
    · rw [if_pos htruncated]
      exact ensures_cancelWith h.sent h.ready h.queryId (.inl rfl)
    · rw [if_neg htruncated]
      exact ensures_lost h.sent (.terminal (hterminal (.inl hkind) htruncated) (.inl rfl))
  | protocolError => exact ensures_resolveFailedRequest operation h houtcome
  | transportError => exact ensures_resolveFailedRequest operation h houtcome

/-- After its deadline a query is raised whatever came of it. -/
theorem ensures_raiseDeadlineOutcome {α : Type} {query : Exchange} {queryId : Uuid}
    {cancellationWorker : Worker} {between : TransportWorld} (operation : String)
    {post : α → TransportWorld → Prop}
    (h : Resolving transport s query queryId cancellationWorker between) :
    Ensures (fun _ => True) (Raises transport s)
      (transport.raiseDeadlineOutcome query.execution.outcome queryId operation
        cancellationWorker : TransportM α) between post := by
  unfold ClickHouseTransport.raiseDeadlineOutcome
  by_cases hterminal : query.execution.outcome.any ClickHouseTransport.isTerminalReply = true
  · rw [if_pos hterminal]
    obtain ⟨outcome, houtcome, hreply⟩ := (Option.any_eq_true _ _).mp hterminal
    exact ensures_lost h.sent (.terminal ⟨outcome, houtcome, .inr hreply⟩ (.inl rfl))
  · rw [if_neg hterminal]
    by_cases hnotSent : query.execution.outcome.any
        (fun outcome => decide (outcome.dispatchState = .notSent)) = true
    · rw [if_pos hnotSent]
      obtain ⟨outcome, houtcome, hstate⟩ := (Option.any_eq_true _ _).mp hnotSent
      exact ensures_lost h.sent
        (.notSent ⟨outcome, houtcome, of_decide_eq_true hstate⟩ rfl)
    · rw [if_neg hnotSent]
      exact ensures_cancelWith h.sent h.ready h.queryId (.inl rfl)

theorem ensures_acceptResult {query : Exchange} {between : TransportWorld}
    {result : ClickHouseTransport.ClickHouseRawResult} {accountingError : Option Refusal}
    (operation : String) {post : ClickHouseTransport.ClickHouseRawResult → TransportWorld → Prop}
    (hsent : Sent transport s [query] between) (hterminal : query.Terminal)
    (hcaught : Caught accountingError) (hpost : post result between) :
    Ensures (fun _ => True) (Raises transport s)
      (transport.acceptResult result operation accountingError) between post := by
  unfold ClickHouseTransport.acceptResult
  cases accountingError with
  | none => exact ensures_pure.mpr hpost
  | some refusal =>
    dsimp only
    rw [ensures_bind]
    refine (ensures_retire .lost).mono fun cause s' hretired => ?_
    cases cause with
    | none =>
      exact ensures_raised.mpr
        (raises_lost hsent hretired (.terminal hterminal (.inr (hcaught refusal rfl))))
    | some cause => exact ensures_raised.mpr (raises_unreaped hsent hretired _)

/-- What the worker's answer leaves to be settled. -/
structure Handed (transport : ClickHouseTransport) (s : TransportWorld) (query : Exchange)
    (queryId : Uuid) (targetWorker cancellationWorker : Worker) (between : TransportWorld) :
    Prop where
  resolving : Resolving transport s query queryId cancellationWorker between
  state : between.state = .active
  target : query.target = none
  answered : ∀ outcome, query.execution.outcome = some outcome → outcome.kind ≠ .transportError →
    between.workerState targetWorker = .ready

theorem Handed.kept {query : Exchange} {queryId : Uuid} {targetWorker cancellationWorker : Worker}
    {between after : TransportWorld}
    (h : Handed transport s query queryId targetWorker cancellationWorker between)
    (hkept : Kept 0 between after) :
    Handed transport s query queryId targetWorker cancellationWorker after where
  resolving :=
    { sent := h.resolving.sent.same hkept.sameTraffic
      queryId := h.resolving.queryId
      ready := (hkept.workerState _).trans h.resolving.ready }
  state := hkept.state.trans h.state
  target := h.target
  answered := fun outcome houtcome hkind =>
    (hkept.workerState _).trans (h.answered outcome houtcome hkind)

/-- The data worker's queries are cancelled by the control worker, and the other
way round. -/
def Opposite : Worker → Worker → Prop
  | .data, .control => True
  | .control, .data => True
  | _, _ => False

theorem Handed.returns {query : Exchange} {queryId : Uuid}
    {targetWorker cancellationWorker : Worker} {between : TransportWorld}
    {outcome : ClickHouseHttpOutcome} (hworkers : Opposite targetWorker cancellationWorker)
    (h : Handed transport s query queryId targetWorker cancellationWorker between)
    (houtcome : query.execution.outcome = some outcome) (hkind : outcome.kind = .success)
    (htime : query.execution.deadlineExceeded = false) :
    Returns transport s ⟨transport.attemptId, queryId, outcome.payload⟩ between := by
  have hanswered : between.workerState targetWorker = .ready :=
    h.answered outcome houtcome (by rw [hkind]; decide)
  have hready := h.resolving.ready
  have hboth : between.dataWorker = .ready ∧ between.controlWorker = .ready := by
    cases targetWorker <;> cases cancellationWorker
    · exact hworkers.elim
    · exact ⟨hanswered, hready⟩
    · exact ⟨hready, hanswered⟩
    · exact hworkers.elim
  refine ⟨query, outcome, ?_, h.state, h.target, h.resolving.queryId, houtcome, htime, hkind,
    rfl, rfl⟩
  exact
    { h.resolving.sent with
      ready := fun _ => hboth
      reaped := fun hlost => by
        rw [h.state] at hlost
        cases hlost }

theorem raises_noted {accountingError : Option Refusal} (raised : Raised) (s' : TransportWorld)
    (h : Raises transport s raised s') :
    Raises transport s (preserveSourceAccountingFailure accountingError raised) s' := by
  obtain ⟨sent, hconcluded, hsettlement⟩ := h
  rw [← noted_error accountingError raised] at hsettlement
  exact ⟨sent, hconcluded, hsettlement⟩

theorem ensures_settleExecution {query : Exchange} {queryId : Uuid}
    {targetWorker cancellationWorker : Worker} {between : TransportWorld}
    (operation resultFormat : String) (hworkers : Opposite targetWorker cancellationWorker)
    (h : Handed transport s query queryId targetWorker cancellationWorker between) :
    Ensures (fun _ => True) (Raises transport s)
      (transport.settleExecution query.execution cancellationWorker queryId operation resultFormat)
      between (Returns transport s) := by
  rw [ClickHouseTransport.settleExecution, ensures_bind]
  refine (ensures_consumeObservedOutcome _ _).mono fun accountingError accounted haccounted => ?_
  obtain ⟨hkept, hcaught⟩ := haccounted
  have hhanded := h.kept hkept
  by_cases hlate : query.execution.deadlineExceeded = true
  · rw [if_pos hlate]
    exact ensures_noteAccounting raises_noted (ensures_raiseDeadlineOutcome operation hhanded.resolving)
  · rw [if_neg hlate]
    rw [Bool.not_eq_true] at hlate
    cases houtcome : query.execution.outcome with
    | none =>
      -- An execution without an outcome has exceeded its deadline.
      rw [query.execution.outcome_or houtcome] at hlate
      cases hlate
    | some outcome =>
      dsimp only
      rw [ensures_bind]
      refine (ensures_noteAccounting raises_noted
        (ensures_resolveQueryOutcome operation hhanded.resolving houtcome)).mono
        fun result s' hresult => ?_
      obtain ⟨rfl, hkind, rfl⟩ := hresult
      exact ensures_acceptResult operation hhanded.resolving.sent
        ⟨outcome, houtcome, .inl hkind⟩ hcaught
        (hhanded.returns hworkers houtcome hkind hlate)

/-- A charged query is handed to a ready worker and settled. -/
theorem ensures_executeRequest {request : ClickHouseWireRequest} {queryId : Uuid}
    {targetWorker cancellationWorker : Worker} {between : TransportWorld} (workDeadline : ℕ)
    (operation resultFormat : String) (hworkers : Opposite targetWorker cancellationWorker)
    (hready : s.Ready) (hcharged : Kept transport.queryCharge s between ∧ transport.Affords between)
    (hrequest : request.queryId = uuidText queryId) :
    Ensures (fun _ => True) (Raises transport s)
      (transport.executeRequest targetWorker cancellationWorker request workDeadline queryId
        operation resultFormat) between (Returns transport s) := by
  obtain ⟨hcharged, haffords⟩ := hcharged
  have hbetween := hready.kept hcharged
  rw [ClickHouseTransport.executeRequest, ensures_bind, ensures_modifyWorld, ensures_bind]
  refine (ensures_executeOn request none workDeadline ?_).mono fun execution sent hexecuted => ?_
  · exact hbetween.workerState targetWorker
  have hother : cancellationWorker ≠ targetWorker := by
    cases targetWorker <;> cases cancellationWorker
    · exact hworkers.elim
    · decide
    · decide
    · exact hworkers.elim
  have hhanded : Handed transport s ⟨targetWorker, request, none, execution⟩ queryId targetWorker
      cancellationWorker sent :=
    { resolving :=
        { sent := .executed hcharged haffords hexecuted
          queryId := hrequest
          ready := (hexecuted.others _ hother).trans (hbetween.workerState _) }
      state := hexecuted.state.trans hbetween.1
      target := rfl
      answered := hexecuted.ready }
  exact ensures_settleExecution operation resultFormat hworkers hhanded

/-! ## The methods -/

/-- Preparing a query sends nothing. -/
theorem ensures_workDeadline {between : TransportWorld} (hkept : Kept 0 s between) :
    Ensures (fun _ => True) (Raises transport s)
      transport.workDeadlineNanoseconds between (fun _ s' => Kept 0 s s') := by
  rw [ClickHouseTransport.workDeadlineNanoseconds, ensures_bind]
  refine ensures_monotonicNs fun now timed htimed => ?_
  have hso_far : Kept 0 s timed := hkept.trans htimed
  have hsent : Sent transport s [] timed := .nothing hso_far.sameTraffic
  dsimp only
  split
  · rw [ensures_bind]
    refine (ensures_retire .lost).mono fun cause lost hretired => ?_
    cases cause with
    | some cause => exact ensures_raised.mpr (raises_unreaped hsent hretired _)
    | none =>
      dsimp only
      rw [ensures_bind]
      refine ensures_freshUuid fun queryId s' hnamed => ensures_raised.mpr ?_
      obtain ⟨hstate, hdata, hcontrol⟩ := hretired.reached rfl
      have hlater : Retired .lost timed none s' :=
        { toSameTraffic := hretired.toSameTraffic.trans hnamed.sameTraffic
          reached := fun _ => ⟨hnamed.state.trans hstate, hnamed.dataWorker.trans hdata,
            hnamed.controlWorker.trans hcontrol⟩
          uncertain := fun h => absurd rfl h }
      exact raises_lost hsent hlater (.expired rfl)
  · exact ensures_pure.mpr hso_far

theorem ensures_builtRequest {between : TransportWorld} {arguments : RequestArguments} {now : ℕ}
    (hready : s.Ready) (hkept : Kept 0 s between) :
    Ensures (fun _ => True) (Raises transport s)
      (ClickHouseTransport.builtRequest (transport.clickhouseHttpRequest arguments now)) between
      (fun request s' => s' = between ∧ Carries transport.toClickHouseEndpoint arguments request) := by
  rw [ClickHouseTransport.builtRequest, ensures_lift]
  refine ⟨fun request h => ?_, fun raised h => ?_⟩
  · rw [mapError_eq_ok] at h
    exact ⟨rfl, (clickhouseHttpRequest_eq_ok h).1⟩
  · cases hrequest : transport.clickhouseHttpRequest arguments now with
    | ok request =>
      rw [hrequest] at h
      cases h
    | error error =>
      rw [hrequest] at h
      cases h
      refine raises_refusal hready hkept ?_
      cases error <;> rfl

theorem ensures_prepareRequest {between : TransportWorld}
    (arguments : ClickHouseTransport.RawArguments) (hready : s.Ready) (hkept : Kept 0 s between) :
    Ensures (fun _ => True) (Raises transport s)
      (transport.prepareRequest arguments) between
      (fun prepared s' => Kept 0 s s' ∧ prepared.request.queryId = uuidText prepared.queryId) := by
  rw [ClickHouseTransport.prepareRequest, ensures_bind]
  refine ensures_freshUuid fun queryId named hnamed => ?_
  rw [ensures_bind, ensures_modifyWorld, ensures_bind]
  have hlast : Kept 0 s { named with lastQueryId := some queryId } := by
    have h : Kept 0 s named := hkept.trans hnamed
    exact ⟨h.state, h.dataWorker, h.controlWorker, h.count, h.exchanges, h.queries⟩
  refine (ensures_workDeadline hlast).mono fun workDeadline admitted hadmitted => ?_
  rw [ensures_bind]
  refine ensures_monotonicNs fun now timed htimed => ?_
  have hso_far : Kept 0 s timed := hadmitted.trans htimed
  rw [ensures_bind]
  refine (ensures_builtRequest hready hso_far).mono fun request built hbuilt => ?_
  obtain ⟨rfl, hcarries⟩ := hbuilt
  rw [ensures_bind, ClickHouseTransport.requirePreparedBeforeDeadline, ensures_bind]
  refine ensures_monotonicNs fun later prepared hprepared => ?_
  have hall : Kept 0 s prepared := hso_far.trans hprepared
  split
  · rw [ensures_pure, ensures_pure]
    exact ⟨hall, hcarries.queryId⟩
  · exact ensures_lost (.nothing hall.sameTraffic) (.expired rfl)

theorem ensures_requireActive {operation : String} (hready : s.Ready) :
    Ensures (fun _ => True) (Raises transport s)
      (ClickHouseTransport.requireActive operation) s (fun _ s' => s' = s) := by
  rw [ClickHouseTransport.requireActive, ensures_bind, ensures_readWorld, if_pos hready.1,
    ensures_pure]

theorem ensures_prepareRawRequest (arguments : ClickHouseTransport.RawArguments)
    (hready : s.Ready) :
    Ensures (fun _ => True) (Raises transport s)
      (transport.prepareRawRequest arguments) s
      (fun prepared s' => Kept 0 s s' ∧ prepared.request.queryId = uuidText prepared.queryId) := by
  rw [ClickHouseTransport.prepareRawRequest, ensures_bind]
  refine (ensures_requireActive hready).mono fun _ s' hactive => ?_
  subst hactive
  rw [ensures_bind, ensures_checked]
  refine ⟨fun _ _ => ensures_prepareRequest arguments hready (.refl _), fun refusal _ => ?_⟩
  exact raises_refusal hready (.refl _) rfl

/-- A dispatch that is refused leaves the transport active, with nothing sent. -/
theorem ensures_charged {between : TransportWorld} {dispatch : TransportM Unit}
    {known : Refusal → Prop} (hready : s.Ready) (hkept : Kept 0 s between)
    (h : Ensures (fun _ => True)
      (fun raised s' => Kept 0 between s' ∧ ∃ refusal, raised = Raised.of (.refusal refusal) ∧
        known refusal)
      dispatch between
      (fun _ s' => Kept transport.queryCharge between s' ∧ transport.Affords s')) :
    Ensures (fun _ => True) (Raises transport s) dispatch between
      (fun _ s' => Kept transport.queryCharge s s' ∧ transport.Affords s') := by
  refine (h.mono fun _ s' hcharged => ?_).weaken (fun _ _ => trivial) fun raised s' hraised => ?_
  · exact ⟨by simpa using hkept.trans hcharged.1, hcharged.2⟩
  · obtain ⟨hrefused, refusal, rfl, _⟩ := hraised
    exact raises_refusal hready (hkept.trans hrefused) rfl

theorem ensures_executeRaw (arguments : ClickHouseTransport.RawArguments) (hready : s.Ready) :
    Ensures (fun _ => True) (Raises transport s)
      (transport.executeRaw arguments) s (Returns transport s) := by
  rw [ClickHouseTransport.executeRaw, ensures_bind]
  refine (ensures_prepareRawRequest arguments hready).mono fun prepared between h => ?_
  obtain ⟨hkept, hrequest⟩ := h
  rw [ensures_bind]
  refine (ensures_charged hready hkept (ensures_dispatchKnown _)).mono fun _ charged hcharged => ?_
  exact ensures_executeRequest _ _ _ trivial hready hcharged hrequest

theorem ensures_executeSourceRaw (arguments : ClickHouseTransport.RawArguments) (fullScans : ℤ)
    (hready : s.Ready) :
    Ensures (fun _ => True) (Raises transport s)
      (transport.executeSourceRaw arguments fullScans) s (Returns transport s) := by
  rw [ClickHouseTransport.executeSourceRaw, ensures_bind]
  refine (ensures_prepareRawRequest arguments hready).mono fun prepared between h => ?_
  obtain ⟨hkept, hrequest⟩ := h
  rw [ensures_bind]
  have hdispatch : Ensures (fun _ => True)
      (fun raised s' => Kept 0 between s' ∧ ∃ refusal, raised = Raised.of (.refusal refusal) ∧
        True)
      (transport.dispatchExplicit arguments.operation fullScans) between
      (fun _ s' => Kept transport.queryCharge between s' ∧ transport.Affords s') := by
    simpa using ensures_dispatchExplicit arguments.operation fullScans
  refine (ensures_charged hready hkept hdispatch).mono fun _ charged hcharged => ?_
  exact ensures_executeRequest _ _ _ trivial hready hcharged hrequest

theorem ensures_initializeControlConnection (hready : s.Ready) :
    Ensures (fun _ => True) (Raises transport s)
      transport.initializeControlConnection s (Returns transport s) := by
  rw [ClickHouseTransport.initializeControlConnection, ensures_bind]
  refine (ensures_requireActive hready).mono fun _ s' hactive => ?_
  subst hactive
  rw [ensures_bind]
  refine (ensures_prepareRequest _ hready (.refl _)).mono fun prepared between h => ?_
  obtain ⟨hkept, hrequest⟩ := h
  rw [ensures_bind]
  refine (ensures_charged hready hkept (ensures_dispatchKnown _)).mono fun _ charged hcharged => ?_
  exact ensures_executeRequest _ _ _ trivial hready hcharged hrequest

/-- Closing an active transport sends nothing. -/
theorem ensures_closeActive :
    Ensures (fun _ => True) (Raises transport s)
      transport.closeActive s
      (fun _ s' => Concluded transport s [] s' ∧ s'.state = .closed ∧ s'.dataWorker = .closed ∧
        s'.controlWorker = .closed) := by
  rw [ClickHouseTransport.closeActive, ensures_bind]
  refine (ensures_retireWorkers true).mono fun cause retired hretiring => ?_
  have hsent (state : ClickHouseTransportState) :
      Sent transport s [] { retired with state := state } :=
    .nothing (hretiring.toSameTraffic.trans ⟨rfl, rfl, rfl⟩)
  cases cause with
  | some cause =>
    dsimp only
    rw [ensures_bind, ensures_modifyWorld, ensures_raised]
    exact ⟨[], ⟨hsent _, fun h => (by cases h), fun h => by cases h⟩, .unreaped _⟩
  | none =>
    dsimp only
    rw [ensures_modifyWorld]
    exact ⟨⟨hsent _, fun h => (by cases h), fun h => by cases h⟩, rfl, hretiring.closed rfl⟩

/-! ## One call -/

/-- What a call on an active transport does. -/
def CallEnds (transport : ClickHouseTransport) (s : TransportWorld) :
    Option ClickHouseTransport.ClickHouseRawResult → TransportWorld → Prop
  | some result, s' => Returns transport s result s'
  | none, s' => Concluded transport s [] s' ∧ s'.state = .closed ∧ s'.dataWorker = .closed ∧
      s'.controlWorker = .closed

theorem ensures_perform (next : ClickHouseTransport.Call) (hready : s.Ready) :
    Ensures (fun _ => True) (Raises transport s)
      (transport.perform next) s (CallEnds transport s) := by
  have hsome {work : TransportM ClickHouseTransport.ClickHouseRawResult}
      (h : Ensures (fun _ => True) (Raises transport s) work s
        (Returns transport s)) :
      Ensures (fun _ => True) (Raises transport s)
        (work >>= fun result => pure (some result)) s (CallEnds transport s) := by
    rw [ensures_bind]
    exact h.mono fun result s' hreturns => ensures_pure.mpr hreturns
  cases next with
  | executeRaw arguments => exact hsome (ensures_executeRaw arguments hready)
  | executeSourceRaw arguments fullScans =>
    exact hsome (ensures_executeSourceRaw arguments fullScans hready)
  | initializeControlConnection => exact hsome (ensures_initializeControlConnection hready)
  | close =>
    show Ensures _ _ (transport.close >>= fun _ => pure none) s _
    rw [ensures_bind, ClickHouseTransport.close, ensures_bind, ensures_readWorld,
      if_pos hready.1]
    exact ensures_closeActive.mono fun _ s' h => ensures_pure.mpr h

/-- A transport that is not active refuses every query and leaves its world as it
is; closing it again does nothing. -/
theorem ensures_perform_inactive (next : ClickHouseTransport.Call) (h : s.state ≠ .active) :
    Ensures (fun _ => True) (fun raised s' => s' = s ∧ raised.error.isRefusal = true)
      (transport.perform next) s (fun result s' => s' = s ∧ result = none) := by
  have hrefused {operation : String} {post : Unit → TransportWorld → Prop} :
      Ensures (fun _ => True) (fun raised s' => s' = s ∧ raised.error.isRefusal = true)
        (ClickHouseTransport.requireActive operation) s post := by
    rw [ClickHouseTransport.requireActive, ensures_bind, ensures_readWorld, if_neg h,
      ensures_raised]
    exact ⟨rfl, rfl⟩
  cases next with
  | executeRaw arguments =>
    show Ensures _ _ (transport.executeRaw arguments >>= fun result => pure (some result)) s _
    rw [ensures_bind, ClickHouseTransport.executeRaw, ensures_bind,
      ClickHouseTransport.prepareRawRequest, ensures_bind]
    exact hrefused
  | executeSourceRaw arguments fullScans =>
    show Ensures _ _ (transport.executeSourceRaw arguments fullScans >>=
      fun result => pure (some result)) s _
    rw [ensures_bind, ClickHouseTransport.executeSourceRaw, ensures_bind,
      ClickHouseTransport.prepareRawRequest, ensures_bind]
    exact hrefused
  | initializeControlConnection =>
    show Ensures _ _ (transport.initializeControlConnection >>=
      fun result => pure (some result)) s _
    rw [ensures_bind, ClickHouseTransport.initializeControlConnection, ensures_bind]
    exact hrefused
  | close =>
    show Ensures _ _ (transport.close >>= fun _ => pure none) s _
    rw [ensures_bind, ClickHouseTransport.close, ensures_bind, ensures_readWorld, if_neg h,
      ensures_pure, ensures_pure]
    exact ⟨rfl, rfl⟩

/-- How a call ends. -/
theorem perform_cases (transport : ClickHouseTransport) (s : TransportWorld)
    (next : ClickHouseTransport.Call)
    (hworkers : s.state = .active → s.dataWorker = .ready ∧ s.controlWorker = .ready) :
    (s.state ≠ .active ∧ (transport.perform next s).world = s ∧
        (∀ result, (transport.perform next s).result = .ok result → result = none) ∧
        ∀ raised, (transport.perform next s).result = .error raised →
          raised.error.isRefusal = true) ∨
      (s.state = .active ∧
        (∀ result, (transport.perform next s).result = .ok result →
          CallEnds transport s result (transport.perform next s).world) ∧
        ∀ raised, (transport.perform next s).result = .error raised →
          Raises transport s raised (transport.perform next s).world) := by
  by_cases hactive : s.state = .active
  · have hends := @ensures_perform transport s next ⟨hactive, hworkers hactive⟩
    exact .inr ⟨hactive, fun _ => hends.of_result, fun _ => hends.of_error⟩
  · have hends := @ensures_perform_inactive transport s next hactive
    refine .inl ⟨hactive, ?_, fun result hresult => (hends.of_result hresult).2,
      fun raised hraised => (hends.of_error hraised).2⟩
    cases hresult : (transport.perform next s).result with
    | ok result => exact (hends.of_result hresult).1
    | error raised => exact (hends.of_error hresult).1

/-! ## Runs -/

/-- Every query among the requests of a transport is settled. -/
def AllSettled (transport : ClickHouseTransport) (world : TransportWorld) : Prop :=
  ∀ exchange ∈ world.exchanges, exchange.target = none → exchange.Settled transport world.exchanges

/-- What holds of a transport after any events, `opened` being its first world. -/
structure Fenced (transport : ClickHouseTransport) (opened w : TransportWorld) : Prop where
  ready : w.state = .active → w.dataWorker = .ready ∧ w.controlWorker = .ready
  reaped : w.state = .lost ∨ w.state = .closed → w.dataWorker = .closed ∧ w.controlWorker = .closed
  settled : w.state ≠ .cancellationUnconfirmed → AllSettled transport w
  count : w.physicalRequestCount = opened.physicalRequestCount + w.exchanges.length

theorem Exchange.Settled.mono {exchange : Exchange} {exchanges more : List Exchange}
    (h : exchange.Settled transport exchanges) :
    exchange.Settled transport (exchanges ++ more) := by
  rcases h with h | h | ⟨queryId, hrequest, kill, hkill, hconfirms⟩
  · exact .inl h
  · exact .inr (.inl h)
  · exact .inr (.inr ⟨queryId, hrequest, kill, List.mem_append_left _ hkill, hconfirms⟩)

theorem AllSettled.append {w w' : TransportWorld} {sent : List Exchange}
    (h : AllSettled transport w) (hexchanges : w'.exchanges = w.exchanges ++ sent)
    (hsent : ∀ exchange ∈ sent, exchange.target = none →
      exchange.Settled transport (w.exchanges ++ sent)) : AllSettled transport w' := by
  intro exchange hmem htarget
  rw [hexchanges] at hmem ⊢
  rcases List.mem_append.mp hmem with hmem | hmem
  · exact (h exchange hmem htarget).mono
  · exact hsent exchange hmem htarget

theorem AllSettled.of_eq {w w' : TransportWorld} (h : AllSettled transport w)
    (hexchanges : w'.exchanges = w.exchanges) : AllSettled transport w' := by
  unfold AllSettled
  rwa [hexchanges]

/-- A query that returns is over. -/
theorem AllSettled.returns {w w' : TransportWorld}
    {result : ClickHouseTransport.ClickHouseRawResult} (h : AllSettled transport w)
    (hreturns : Returns transport w result w') : AllSettled transport w' := by
  obtain ⟨query, outcome, hconcluded, _, _, _, houtcome, _, hkind, _⟩ := hreturns
  refine h.append hconcluded.exchanges fun exchange hmem _ => ?_
  obtain rfl := List.mem_singleton.mp hmem
  exact .inr (.inl ⟨outcome, houtcome, .inl hkind⟩)

/-- A settlement that is not left uncertain has settled what it sent. -/
theorem Settlement.settled {sent exchanges : List Exchange} {error : TransportError}
    {state : ClickHouseTransportState} (h : Settlement transport sent error state)
    (hcertain : state ≠ .cancellationUnconfirmed) :
    ∀ exchange ∈ sent, exchange.target = none → exchange.Settled transport (exchanges ++ sent) := by
  intro exchange hmem htarget
  cases h with
  | refused _ => cases hmem
  | expired _ => cases hmem
  | unreaped _ => exact absurd rfl hcertain
  | unconfirmed _ _ => exact absurd rfl hcertain
  | notSent hquery _ =>
    obtain rfl := List.mem_singleton.mp hmem
    exact .inl hquery
  | terminal hquery _ =>
    obtain rfl := List.mem_singleton.mp hmem
    exact .inr (.inl hquery)
  | killed queryId hquery hkill _ =>
    rename_i query kill _
    rcases List.mem_cons.mp hmem with rfl | hmem
    · exact .inr (.inr ⟨queryId, hquery, kill, by simp, hkill⟩)
    · obtain rfl := List.mem_singleton.mp hmem
      rw [hkill.1] at htarget
      cases htarget

theorem Settlement.ne_closed {sent : List Exchange} {error : TransportError}
    {state : ClickHouseTransportState} (h : Settlement transport sent error state) :
    state ≠ .closed := by
  cases h <;> decide

/-- What a call adds to a fenced world. -/
theorem Fenced.concluded {opened w w' : TransportWorld} {sent : List Exchange}
    (h : Fenced transport opened w) (hactive : w.state = .active)
    (hconcluded : Concluded transport w sent w')
    (hreaped : w'.state = .closed → w'.dataWorker = .closed ∧ w'.controlWorker = .closed)
    (hsettled : w'.state ≠ .cancellationUnconfirmed → AllSettled transport w →
      AllSettled transport w') : Fenced transport opened w' where
  ready := hconcluded.ready
  reaped := fun hstate => hstate.elim hconcluded.reaped hreaped
  settled := fun hcertain => hsettled hcertain (h.settled (by rw [hactive]; decide))
  count := by
    rw [hconcluded.count, hconcluded.exchanges, h.count, List.length_append]
    omega

theorem Fenced.perform {opened w : TransportWorld} (h : Fenced transport opened w)
    (next : ClickHouseTransport.Call) :
    Fenced transport opened (transport.perform next w).world := by
  rcases perform_cases transport w next h.ready with ⟨_, hsame, _, _⟩ | ⟨hactive, hok, herror⟩
  · rw [hsame]
    exact h
  cases hresult : (transport.perform next w).result with
  | error raised =>
    obtain ⟨sent, hconcluded, hsettlement⟩ := herror raised hresult
    exact h.concluded hactive hconcluded (fun hclosed => absurd hclosed hsettlement.ne_closed)
      fun hcertain hsettled => hsettled.append hconcluded.exchanges (hsettlement.settled hcertain)
  | ok result =>
    have hends := hok result hresult
    cases result with
    | none =>
      obtain ⟨hconcluded, _, hworkers⟩ := hends
      exact h.concluded hactive hconcluded (fun _ => hworkers) fun _ hsettled =>
        hsettled.of_eq (by simpa using hconcluded.exchanges)
    | some result =>
      have hsettles (hsettled : AllSettled transport w) := hsettled.returns hends
      obtain ⟨_, _, hconcluded, hstate, _⟩ := hends
      refine h.concluded hactive hconcluded (fun hclosed => ?_) fun _ => hsettles
      rw [hstate] at hclosed
      cases hclosed

theorem Fenced.after {opened w : TransportWorld} (h : Fenced transport opened w)
    (event : ClickHouseTransport.Event) : Fenced transport opened (transport.after w event) := by
  cases event with
  | call next => exact h.perform next
  | elsewhere work => exact ⟨h.ready, h.reaped, h.settled, h.count⟩

theorem Fenced.run {opened w : TransportWorld} (h : Fenced transport opened w)
    (events : List ClickHouseTransport.Event) : Fenced transport opened (transport.run w events) := by
  induction events generalizing w with
  | nil => exact h
  | cons event rest ih => exact ih (h.after event)

theorem fenced_opened (ledger : LedgerWorld) (physicalRequestCount uuids cleanups : ℕ) :
    Fenced transport (.opened ledger physicalRequestCount uuids cleanups)
      (.opened ledger physicalRequestCount uuids cleanups) where
  ready := fun _ => ⟨rfl, rfl⟩
  reaped := fun h => by rcases h with h | h <;> cases h
  settled := fun _ exchange hmem => by cases hmem
  count := rfl

/-- Everything but the ledger is as it was. -/
def SameTransport (w w' : TransportWorld) : Prop := w' = { w with ledger := w'.ledger }

/-- A transport that is not active does nothing more. -/
theorem run_inactive {w : TransportWorld} (h : w.state ≠ .active)
    (events : List ClickHouseTransport.Event) : SameTransport w (transport.run w events) := by
  induction events generalizing w with
  | nil => rfl
  | cons event rest ih =>
    have hstep : SameTransport w (transport.after w event) := by
      cases event with
      | elsewhere work => rfl
      | call next =>
        rcases perform_cases transport w next fun hactive => absurd hactive h with
          ⟨_, hsame, _, _⟩ | ⟨hactive, _, _⟩
        · show SameTransport w (transport.perform next w).world
          rw [hsame]
          rfl
        · exact absurd hactive h
    have hstate : (transport.after w event).state = w.state := by rw [hstep]
    have hrest := @ih (transport.after w event) (by rwa [hstate])
    show SameTransport w (transport.run (transport.after w event) rest)
    unfold SameTransport at hstep hrest ⊢
    rw [hrest, hstep]

/-! ## The settlement of every query -/

/-- What a completion says of the requests that were sent and of the state. -/
def Reports (transport : ClickHouseTransport) (sent : List Exchange)
    (state : ClickHouseTransportState) : ClickHouseQueryCompletion → Prop
  | .notDispatched => state = .lost ∧ ∀ exchange ∈ sent, exchange.NotSent
  | .serverTerminal => state = .lost ∧ ∃ query, sent = [query] ∧ query.Terminal
  | .cancelled => state = .lost ∧ ∃ query kill queryId, sent = [query, kill] ∧
      query.request.queryId = uuidText queryId ∧ kill.Confirms transport queryId
  | .unconfirmed => state = .cancellationUnconfirmed

theorem completion_of_isRefusal {error : TransportError} (h : error.isRefusal = true) :
    error.completion = none := by
  cases error <;> first | rfl | cases h

theorem completion_of_endsTerminal {error : TransportError} (h : error.endsTerminal = true) :
    error.completion = none := by
  cases error <;> first | rfl | cases h

theorem completion_of_endsKilled {error : TransportError} (h : error.endsKilled = true) :
    error.completion = none := by
  cases error <;> first | rfl | cases h

/-- An exception that speaks of its query says what became of it. -/
theorem Settlement.reports {sent : List Exchange} {error : TransportError}
    {state : ClickHouseTransportState} {completion : ClickHouseQueryCompletion}
    (h : Settlement transport sent error state) (hcompletion : error.completion = some completion) :
    Reports transport sent state completion := by
  -- A case whose exception carries a completion of its own is that completion's.
  have hown {own : ClickHouseQueryCompletion} (h : error.completion = some own) :
      completion = own := Option.some.inj (hcompletion.symm.trans h)
  have hnone (h : error.completion = none) : False := by
    rw [h] at hcompletion
    cases hcompletion
  cases h with
  | refused h => exact (hnone (completion_of_isRefusal h)).elim
  | expired h =>
    rw [hown h]
    exact ⟨rfl, fun exchange hmem => by cases hmem⟩
  | unreaped message => exact (hnone rfl).elim
  | notSent hquery h =>
    rw [hown h]
    exact ⟨rfl, by simpa using hquery⟩
  | terminal hquery h =>
    rcases h with h | h
    · rw [hown h]
      exact ⟨rfl, _, rfl, hquery⟩
    · exact (hnone (completion_of_endsTerminal h)).elim
  | killed queryId hquery hkill h =>
    rcases h with h | h
    · rw [hown h]
      exact ⟨rfl, _, _, queryId, rfl, hquery, hkill⟩
    · exact (hnone (completion_of_endsKilled h)).elim
  | unconfirmed failure hkills =>
    rw [hown rfl]
    rfl

/-- What holds of a transport over every run, from the world it was opened in. -/
structure SettlementLaw (transport : ClickHouseTransport) (opened : TransportWorld) : Prop where
  returned : ∀ events next result,
    (transport.perform next (transport.run opened events)).result = .ok (some result) →
      (transport.run opened events).state = .active ∧
        Returns transport (transport.run opened events) result
          (transport.perform next (transport.run opened events)).world
  raised : ∀ events next raised,
    (transport.perform next (transport.run opened events)).result = .error raised →
      ((transport.run opened events).state = .active ∧
          Raises transport (transport.run opened events) raised
            (transport.perform next (transport.run opened events)).world) ∨
        ((transport.run opened events).state ≠ .active ∧
          (transport.perform next (transport.run opened events)).world
            = transport.run opened events)
  reported : ∀ events next raised completion,
    (transport.perform next (transport.run opened events)).result = .error raised →
    raised.error.completion = some completion →
      ∃ sent, (transport.perform next (transport.run opened events)).world.exchanges
          = (transport.run opened events).exchanges ++ sent ∧
        Reports transport sent
          (transport.perform next (transport.run opened events)).world.state completion
  fenced : ∀ events later, (transport.run opened events).state ≠ .active →
    SameTransport (transport.run opened events) (transport.run opened (events ++ later))
  released : ∀ events, (transport.run opened events).state = .lost ∨
      (transport.run opened events).state = .closed →
    (transport.run opened events).dataWorker = .closed ∧
      (transport.run opened events).controlWorker = .closed ∧
      ∀ exchange ∈ (transport.run opened events).exchanges, exchange.target = none →
        exchange.Settled transport (transport.run opened events).exchanges

theorem run_append (transport : ClickHouseTransport) (w : TransportWorld)
    (events later : List ClickHouseTransport.Event) :
    transport.run w (events ++ later) = transport.run (transport.run w events) later :=
  List.foldl_append

/-- Every query of a transport is settled: a call returns the payload the worker
received, with the transport active, or is refused before anything is sent, or
leaves the transport retired for good. A transport that is lost or closed has
reaped its workers and knows that each of its queries was never sent, is over on
the server, or was killed; in every other case the cancellation is unconfirmed,
and an exception that names a completion names the one that holds. -/
theorem clickhouse_settlement_law (transport : ClickHouseTransport) (ledger : LedgerWorld)
    (physicalRequestCount uuids cleanups : ℕ) :
    SettlementLaw transport (.opened ledger physicalRequestCount uuids cleanups) := by
  have hfenced := fun events =>
    (@fenced_opened transport ledger physicalRequestCount uuids cleanups).run events
  have hcases := fun events next =>
    perform_cases transport (transport.run (.opened ledger physicalRequestCount uuids cleanups)
      events) next (hfenced events).ready
  exact
    { returned := fun events next result hresult => by
        rcases hcases events next with ⟨_, _, hnone, _⟩ | ⟨hactive, hok, _⟩
        · cases hnone _ hresult
        · exact ⟨hactive, hok _ hresult⟩
      raised := fun events next raised hraised => by
        rcases hcases events next with ⟨hinactive, hsame, _, _⟩ | ⟨hactive, _, herror⟩
        · exact .inr ⟨hinactive, hsame⟩
        · exact .inl ⟨hactive, herror raised hraised⟩
      reported := fun events next raised completion hraised hcompletion => by
        rcases hcases events next with ⟨_, _, _, hrefusal⟩ | ⟨_, _, herror⟩
        · rw [completion_of_isRefusal (hrefusal raised hraised)] at hcompletion
          cases hcompletion
        · obtain ⟨sent, hconcluded, hsettlement⟩ := herror raised hraised
          exact ⟨sent, hconcluded.exchanges, hsettlement.reports hcompletion⟩
      fenced := fun events later hinactive => by
        rw [run_append]
        exact run_inactive hinactive later
      released := fun events hstate => by
        obtain ⟨hdata, hcontrol⟩ := (hfenced events).reaped hstate
        refine ⟨hdata, hcontrol, (hfenced events).settled ?_⟩
        rcases hstate with hstate | hstate
        · rw [hstate]
          decide
        · rw [hstate]
          decide }

/-! ## Every request is counted and charged -/

/-- A call sends requests, and charges each of them. -/
theorem perform_charges (w : TransportWorld) (next : ClickHouseTransport.Call)
    (hworkers : w.state = .active → w.dataWorker = .ready ∧ w.controlWorker = .ready) :
    ∃ sent, (transport.perform next w).world.exchanges = w.exchanges ++ sent ∧
      (transport.perform next w).world.queries = w.queries + transport.queryCharge * sent.length ∧
      (sent ≠ [] → transport.Affords (transport.perform next w).world) := by
  rcases perform_cases transport w next hworkers with ⟨_, hsame, _, _⟩ | ⟨_, hok, herror⟩
  · rw [hsame]
    exact ⟨[], by simp, by simp, fun h => absurd rfl h⟩
  cases hresult : (transport.perform next w).result with
  | error raised =>
    obtain ⟨sent, hconcluded, _⟩ := herror raised hresult
    exact ⟨sent, hconcluded.exchanges, hconcluded.queries, hconcluded.affords⟩
  | ok result =>
    have hends := hok result hresult
    cases result with
    | none => exact ⟨[], hends.1.exchanges, hends.1.queries, hends.1.affords⟩
    | some result =>
      obtain ⟨query, _, hconcluded, _⟩ := hends
      exact ⟨[query], hconcluded.exchanges, hconcluded.queries, hconcluded.affords⟩

/-- Work on the ledger counts no query off, and none beyond the budget. -/
theorem ledger_perform_queries (ledger : SourceBudgetLedger) (now : LedgerWorld)
    (work : SourceBudgetLedger.Work) :
    now.ledger.usage.queries ≤ (ledger.perform work now).world.ledger.usage.queries ∧
      (now.ledger.usage.queries ≤ ledger.budgets.maxQueries →
        (ledger.perform work now).world.ledger.usage.queries ≤ ledger.budgets.maxQueries) := by
  have heffect := (ledger.perform_did now work).1
  generalize (ledger.perform work now).world.ledger = after at heffect ⊢
  generalize (ledger.perform work now).result = outcome at heffect
  cases heffect with
  | dispatched direction fullScans queries scans => exact ⟨Nat.le_succ _, fun _ => queries⟩
  | refused direction fullScans refusal cause => exact ⟨le_rfl, id⟩
  | invalidRecords recordBytes refusal => exact ⟨le_rfl, id⟩
  | records recordBytes outcome fits => exact ⟨le_rfl, id⟩
  | invalidBytes resultBytes refusal => exact ⟨le_rfl, id⟩
  | bytes resultBytes outcome fits => exact ⟨le_rfl, id⟩
  | fetchDeadline outcome => exact ⟨le_rfl, id⟩

/-- The requests sent so far are among the queries the ledger has counted, which
the budget affords. -/
structure Charged (transport : ClickHouseTransport) (opened w : TransportWorld) : Prop where
  charged : opened.queries + transport.queryCharge * w.exchanges.length ≤ w.queries
  affords : transport.Affords opened → transport.Affords w

theorem Charged.after {opened w : TransportWorld} (h : Charged transport opened w)
    (hfenced : Fenced transport opened w) (event : ClickHouseTransport.Event) :
    Charged transport opened (transport.after w event) := by
  cases event with
  | call next =>
    obtain ⟨sent, hexchanges, hqueries, haffords⟩ := perform_charges w next hfenced.ready
    have hcharged := h.charged
    refine ⟨?_, fun hopened => ?_⟩
    · show _ + _ * (transport.perform next w).world.exchanges.length
        ≤ (transport.perform next w).world.queries
      rw [hexchanges, hqueries, List.length_append, Nat.mul_add]
      omega
    · by_cases hsent : sent = []
      · refine (h.affords hopened).of_eq ?_
        show (transport.perform next w).world.queries = _
        rw [hqueries, hsent]
        simp
      · exact haffords hsent
  | elsewhere work =>
    obtain ⟨hgrows, hwithin⟩ := ledger_perform_queries transport.ledger w.ledger work
    exact ⟨h.charged.trans hgrows, fun hopened => (h.affords hopened).imp_right hwithin⟩

theorem Charged.run {opened w : TransportWorld} (h : Charged transport opened w)
    (hfenced : Fenced transport opened w) (events : List ClickHouseTransport.Event) :
    Charged transport opened (transport.run w events) := by
  induction events generalizing w with
  | nil => exact h
  | cons event rest ih => exact ih (h.after hfenced event) (hfenced.after event)

/-- Without anyone else on the ledger, it has counted exactly the requests. -/
theorem run_calls_queries {opened w : TransportWorld} (hfenced : Fenced transport opened w)
    (h : w.queries = opened.queries + transport.queryCharge * w.exchanges.length)
    (calls : List ClickHouseTransport.Call) :
    (transport.run w (calls.map .call)).queries = opened.queries
      + transport.queryCharge * (transport.run w (calls.map .call)).exchanges.length := by
  induction calls generalizing w with
  | nil => exact h
  | cons next rest ih =>
    obtain ⟨sent, hexchanges, hqueries, _⟩ := perform_charges w next hfenced.ready
    have hnext : (transport.perform next w).world.queries = opened.queries
        + transport.queryCharge * (transport.perform next w).world.exchanges.length := by
      rw [hexchanges, hqueries, h, List.length_append, Nat.mul_add]
      omega
    exact ih (hfenced.perform next) hnext

/-- What holds of the requests of a transport over every run. -/
structure CountLaw (transport : ClickHouseTransport) (opened : TransportWorld) : Prop where
  counted : ∀ events, (transport.run opened events).physicalRequestCount
    = opened.physicalRequestCount + (transport.run opened events).exchanges.length
  charged : ∀ events next,
    ∃ sent, (transport.perform next (transport.run opened events)).world.exchanges
        = (transport.run opened events).exchanges ++ sent ∧
      (transport.perform next (transport.run opened events)).world.queries
        = (transport.run opened events).queries + transport.queryCharge * sent.length
  alone : ∀ calls : List ClickHouseTransport.Call,
    (transport.run opened (calls.map .call)).queries = opened.queries
      + transport.queryCharge * (transport.run opened (calls.map .call)).exchanges.length
  bounded : ∀ events direction, transport.accounting = .budgeted direction →
    opened.queries ≤ transport.ledger.budgets.maxQueries →
      opened.queries + (transport.run opened events).exchanges.length
        ≤ transport.ledger.budgets.maxQueries

/-- Over every run the physical requests of a transport, the KILLs among them, are
the requests its workers were handed; each call charges the ledger once for each,
and whoever else uses the ledger, a budgeted transport never sends more than the
budget of queries allows. -/
theorem clickhouse_count_law (transport : ClickHouseTransport) (ledger : LedgerWorld)
    (physicalRequestCount uuids cleanups : ℕ) :
    CountLaw transport (.opened ledger physicalRequestCount uuids cleanups) := by
  have hopened := @fenced_opened transport ledger physicalRequestCount uuids cleanups
  have hfenced := fun events => hopened.run events
  exact
    { counted := fun events => (hfenced events).count
      charged := fun events next => by
        obtain ⟨sent, hexchanges, hqueries, _⟩ := perform_charges _ next (hfenced events).ready
        exact ⟨sent, hexchanges, hqueries⟩
      alone := fun calls => run_calls_queries hopened (by simp [TransportWorld.opened]) calls
      bounded := fun events direction hbudgeted hwithin => by
        have hstart : Charged transport (.opened ledger physicalRequestCount uuids cleanups)
            (.opened ledger physicalRequestCount uuids cleanups) :=
          ⟨by simp [TransportWorld.opened], id⟩
        have hrun := hstart.run hopened events
        have hcharged := hrun.charged
        have hcharge : transport.queryCharge = 1 := by
          rw [ClickHouseTransport.queryCharge, hbudgeted]
        rw [hcharge, Nat.one_mul] at hcharged
        rcases hrun.affords (.inr hwithin) with hunbudgeted | hle
        · rw [hbudgeted] at hunbudgeted
          cases hunbudgeted
        · omega }

end ForensicData.ClickHouse
