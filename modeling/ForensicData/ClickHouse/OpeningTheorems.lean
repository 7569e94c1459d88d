/-
ForensicData.ClickHouse.OpeningTheorems — no attempt runs beside an earlier one.

An attempt is followed through its three parts: the workers are started, the two
questions are asked, and a failure is either final or leaves room for the next
attempt. Of an attempt that is repeated nothing is left: its workers are reaped
and the end of every query it sent is known. The transport that is handed out
has just answered both questions of the protocol.
-/
import ForensicData.ClickHouse.Opening
import ForensicData.ClickHouse.TransportTheorems

namespace ForensicData.ClickHouse

open ForensicData.Canonical (Bytes)
open ForensicData.Comparison (ClickHouseQueryCompletion)
open ForensicData.Lib
open ForensicData.Lib.Generator
open ForensicData.Result (Uuid)

/-! ## Errors -/

/-- The exceptions after which the end of a query, or of a worker, is not known. -/
def TransportError.isUncertain : TransportError → Bool
  | .cancellationUnconfirmed _ => true
  | .cleanup _ => true
  | _ => false

/-- The exceptions that the body of an attempt does not catch for itself. -/
def TransportError.isFinal : TransportError → Bool
  | .query _ => false
  | .responseLimit _ _ _ _ _ => false
  | .worker _ => false
  | .assertion _ => false
  | _ => true

/-- The exceptions that a sound transport does not raise. -/
def TransportError.isInternal : TransportError → Bool
  | .worker _ => true
  | .assertion _ => true
  | _ => false

namespace OpeningError

def isUncertain : OpeningError → Bool
  | .transport raised => raised.error.isUncertain
  | .cleanup _ => true
  | _ => false

/-- What the body of an attempt raises. -/
def isOfBody : OpeningError → Bool
  | .connection _ => true
  | .startup _ _ => true
  | .worker => true
  | .transport raised => !raised.error.isInternal
  | _ => false

/-- What the opening raises: the exceptions of its workers are always translated. -/
def isFinal : OpeningError → Bool
  | .connection _ => true
  | .cleanup _ => true
  | .transport raised => raised.error.isFinal
  | _ => false

/-- The failure of a worker, or of its end. -/
def isWorkerFailure : OpeningError → Bool
  | .connection failure => failure.causeType = "ClickHouseHttpWorkerError"
  | .cleanup _ => true
  | _ => false

end OpeningError

/-! ## Small steps -/

section

variable {α : Type} {fail : OpeningError → OpeningWorld → Prop} {s : OpeningWorld}

theorem ensures_onTransport {work : TransportM α} {post : α → OpeningWorld → Prop} :
    Ensures (fun _ => True) fail (onTransport work) s post ↔
      Ensures (fun _ => True) (fun raised world => fail (.transport raised) { s with current := world })
        work s.current (fun a world => post a { s with current := world }) := by
  simp [onTransport]

theorem ensures_modifyOpening {change : OpeningWorld → OpeningWorld}
    {post : Unit → OpeningWorld → Prop} :
    Ensures (fun _ => True) fail (modifyOpening change) s post ↔ post () (change s) := by
  simp [modifyOpening, Ensures, act]

theorem ensures_noteDispatches {post : Unit → OpeningWorld → Prop} :
    Ensures (fun _ => True) fail noteDispatches s post ↔
      post () { s with totalDispatches := s.current.physicalRequestCount } :=
  ensures_modifyOpening

end

/-! ## An attempt -/

variable {opening : ClickHouseOpening} {n : ℕ} {s w : OpeningWorld}

/-- What attempt `n`, begun in `s`, has come to. -/
structure InAttempt (opening : ClickHouseOpening) (n : ℕ) (s w : OpeningWorld) : Prop where
  earlier : w.earlier = s.earlier
  count : w.current.physicalRequestCount = s.totalDispatches + w.current.exchanges.length
  settled : w.current.state ≠ .cancellationUnconfirmed →
    AllSettled (opening.transport n) w.current

/-- How the body of an attempt fails. -/
structure Fails (opening : ClickHouseOpening) (n : ℕ) (s : OpeningWorld) (error : OpeningError)
    (w : OpeningWorld) : Prop extends InAttempt opening n s w where
  uncertain : w.current.state = .cancellationUnconfirmed → error.isUncertain = true
  unreaped : w.unreaped = 0 ∨ w.unreaped = 1 ∧ error = .worker
  startup : ∀ cause retryable, error = .startup cause retryable →
    w.totalDispatches = w.current.physicalRequestCount
  ofBody : error.isOfBody = true

/-- How an attempt fails for good. -/
structure Broken (opening : ClickHouseOpening) (n : ℕ) (s : OpeningWorld) (error : OpeningError)
    (w : OpeningWorld) : Prop extends InAttempt opening n s w where
  uncertain : w.current.state = .cancellationUnconfirmed → error.isUncertain = true
  unreaped : w.unreaped = 0 ∨ w.unreaped = 1 ∧ error.isWorkerFailure = true
  final : error.isFinal = true

/-- An attempt that is to be repeated. -/
structure Repeats (opening : ClickHouseOpening) (n : ℕ) (s w : OpeningWorld) : Prop
    extends InAttempt opening n s w where
  certain : w.current.state ≠ .cancellationUnconfirmed
  unreaped : w.unreaped = 0
  dispatches : w.totalDispatches = w.current.physicalRequestCount
  more : n < opening.retryPolicy.maxAttempts

/-! ## Starting the workers -/

/-- Before the transport is made: nothing was sent. -/
structure Starting (s w : OpeningWorld) : Prop where
  earlier : w.earlier = s.earlier
  dispatches : w.totalDispatches = s.totalDispatches
  count : w.current.physicalRequestCount = s.totalDispatches
  exchanges : w.current.exchanges = []
  state : w.current.state = .closed
  unreaped : w.unreaped = 0

theorem Starting.fails {error : OpeningError} {w' : OpeningWorld} (h : Starting s w)
    (hcurrent : w'.current = { w.current with cleanups := w'.current.cleanups })
    (hearlier : w'.earlier = w.earlier) (hdispatches : w'.totalDispatches = w.totalDispatches)
    (hunreaped : w'.unreaped = 0 ∨ w'.unreaped = 1 ∧ error = .worker)
    (hbody : error.isOfBody = true) : Fails opening n s error w' := by
  have hexchanges : w'.current.exchanges = [] := by rw [hcurrent]; exact h.exchanges
  have hcount : w'.current.physicalRequestCount = s.totalDispatches := by
    rw [hcurrent]; exact h.count
  have hstate : w'.current.state = .closed := by rw [hcurrent]; exact h.state
  exact
    { earlier := hearlier.trans h.earlier
      count := by simp [hcount, hexchanges]
      settled := fun _ exchange hmem => by simp [hexchanges] at hmem
      uncertain := fun hcancelled => by simp [hstate] at hcancelled
      unreaped := hunreaped
      startup := fun _ _ _ => by rw [hdispatches, h.dispatches, hcount]
      ofBody := hbody }

theorem ensures_abandonStart {error : OpeningError} {post : Unit → OpeningWorld → Prop}
    (h : Starting s w) (hbody : error.isOfBody = true) :
    Ensures (fun _ => True) (Fails opening n s) (opening.abandonStart error) w post := by
  rw [ClickHouseOpening.abandonStart, ensures_act]
  by_cases hreaped : opening.reaped w.current.cleanups = true
  · simp only [hreaped, if_true]
    refine ⟨fun a ha => (by cases ha), fun raised hraised => ?_⟩
    cases hraised
    exact h.fails rfl rfl rfl (.inl h.unreaped) hbody
  · simp only [hreaped]
    refine ⟨fun a ha => (by cases ha), fun raised hraised => ?_⟩
    cases hraised
    exact h.fails rfl rfl rfl (.inr ⟨by simp [h.unreaped], rfl⟩) rfl

/-- A worker that was started is ready; a start that fails sends nothing. -/
theorem ensures_startWorker (worker : Worker) (h : Starting s w) :
    Ensures (fun _ => True) (Fails opening n s) (opening.startWorker worker) w
      (fun _ w' => Starting s w') := by
  rw [ClickHouseOpening.startWorker, ensures_bind, ensures_act]
  refine ⟨fun event hevent => ?_, fun e he => by cases he⟩
  have hstarted : Starting s { w with starts := w.starts + 1 } :=
    ⟨h.earlier, h.dispatches, h.count, h.exchanges, h.state, h.unreaped⟩
  dsimp only
  cases event with
  | notStarted => exact ensures_raise.mpr (hstarted.fails rfl rfl rfl (.inl h.unreaped) rfl)
  | noAcknowledgement => exact ensures_abandonStart hstarted rfl
  | oversizedAcknowledgement =>
    rw [ClickHouseOpening.acknowledged, ensures_bind, ensures_modifyOpening, ensures_raise]
    exact hstarted.fails rfl rfl rfl (.inr ⟨by simp [h.unreaped], rfl⟩) rfl
  | invalidAcknowledgement => exact ensures_abandonStart hstarted rfl
  | startupFailure causeType retryable => exact ensures_abandonStart hstarted rfl
  | ready =>
    rw [ClickHouseOpening.acknowledged, ensures_modifyOpening]
    have hset := setWorker_sameTraffic w.current .ready worker
    exact ⟨h.earlier, h.dispatches, hset.count.trans h.count, hset.exchanges.trans h.exchanges,
      by simpa using h.state, h.unreaped⟩

/-! ## Asking -/

/-- A query that was answered in time with exactly this payload. -/
def Exchange.Answers (exchange : Exchange) (payload : Bytes) : Prop :=
  exchange.target = none ∧ exchange.execution.deadlineExceeded = false ∧
    ∃ outcome, exchange.execution.outcome = some outcome ∧ outcome.kind = .success ∧
      outcome.payload = payload

/-- While the questions are asked: `asked` were answered. -/
structure Asking (opening : ClickHouseOpening) (n : ℕ) (s : OpeningWorld)
    (asked : List Exchange) (w : OpeningWorld) : Prop where
  earlier : w.earlier = s.earlier
  unreaped : w.unreaped = 0
  ready : w.current.Ready
  exchanges : w.current.exchanges = asked
  count : w.current.physicalRequestCount = s.totalDispatches + asked.length
  settled : AllSettled (opening.transport n) w.current

theorem not_internal_of_completion {error : TransportError}
    {completion : ClickHouseQueryCompletion} (h : error.completion = some completion) :
    error.isInternal = false := by
  cases error <;> first | rfl | cases h

theorem not_internal_of_settlement {transport : ClickHouseTransport} {sent : List Exchange}
    {error : TransportError} {state : ClickHouseTransportState}
    (h : Settlement transport sent error state) : error.isInternal = false := by
  cases h with
  | refused h => cases error <;> first | rfl | cases h
  | expired h => exact not_internal_of_completion h
  | unreaped _ => rfl
  | notSent _ h => exact not_internal_of_completion h
  | terminal _ h =>
    rcases h with h | h
    · exact not_internal_of_completion h
    · cases error <;> first | rfl | cases h
  | killed _ _ _ h =>
    rcases h with h | h
    · exact not_internal_of_completion h
    · cases error <;> first | rfl | cases h
  | unconfirmed _ _ => rfl

theorem uncertain_of_settlement {transport : ClickHouseTransport} {sent : List Exchange}
    {error : TransportError} {state : ClickHouseTransportState}
    (h : Settlement transport sent error state) (hstate : state = .cancellationUnconfirmed) :
    error.isUncertain = true := by
  cases h with
  | refused _ => cases hstate
  | expired _ => cases hstate
  | unreaped _ => rfl
  | notSent _ _ => cases hstate
  | terminal _ _ => cases hstate
  | killed _ _ _ _ => cases hstate
  | unconfirmed _ _ => rfl

/-- A question that raises ends the attempt in a settlement. -/
theorem Asking.fails {asked : List Exchange} {raised : Raised} {world : TransportWorld}
    (h : Asking opening n s asked w)
    (hraises : Raises (opening.transport n) w.current raised world) :
    Fails opening n s (.transport raised) { w with current := world } := by
  obtain ⟨sent, hconcluded, hsettlement⟩ := hraises
  exact
    { earlier := h.earlier
      count := by
        rw [hconcluded.count, hconcluded.exchanges, h.count, h.exchanges, List.length_append,
          Nat.add_assoc]
      settled := fun hcertain =>
        h.settled.append hconcluded.exchanges (hsettlement.settled hcertain)
      uncertain := uncertain_of_settlement hsettlement
      unreaped := .inl h.unreaped
      startup := fun _ _ he => by cases he
      ofBody := by simp [OpeningError.isOfBody, not_internal_of_settlement hsettlement] }

/-- An answered question. -/
theorem Asking.answered {asked : List Exchange}
    {result : ClickHouseTransport.ClickHouseRawResult} {world : TransportWorld}
    {totalDispatches : ℕ} (h : Asking opening n s asked w)
    (hreturns : Returns (opening.transport n) w.current result world) :
    ∃ exchange, exchange.Answers result.payload ∧
      Asking opening n s (asked ++ [exchange])
        { w with current := world, totalDispatches := totalDispatches } := by
  have hsettled := h.settled.returns hreturns
  obtain ⟨query, outcome, hconcluded, hactive, htarget, _, houtcome, hintime, hkind, hpayload, _⟩ :=
    hreturns
  refine ⟨query, ⟨htarget, hintime, outcome, houtcome, hkind, hpayload.symm⟩, ?_⟩
  exact
    { earlier := h.earlier
      unreaped := h.unreaped
      ready := ⟨hactive, hconcluded.ready hactive⟩
      exchanges := by rw [hconcluded.exchanges, h.exchanges]
      count := by
        rw [hconcluded.count, h.count, List.length_append, List.length_singleton, Nat.add_assoc]
      settled := hsettled }

/-- The transport is closed when a question got another answer. -/
theorem ensures_rejected {asked : List Exchange} {error : OpeningError}
    {post : Unit → OpeningWorld → Prop} (h : Asking opening n s asked w)
    (herror : ∃ failure, error = .connection failure) :
    Ensures (fun _ => True) (Fails opening n s)
      (onTransport (opening.transport n).close >>= fun _ => raise error) w post := by
  obtain ⟨failure, rfl⟩ := herror
  rw [ensures_bind, ensures_onTransport, ClickHouseTransport.close, ensures_bind,
    ensures_readWorld, if_pos h.ready.1]
  refine (ensures_closeActive.mono fun _ world hclosed => ?_).weaken (fun _ _ => trivial)
    fun raised world hraises => h.fails hraises
  obtain ⟨hconcluded, hstate, _⟩ := hclosed
  have hexchanges : world.exchanges = w.current.exchanges := by simpa using hconcluded.exchanges
  rw [ensures_raise]
  exact
    { earlier := h.earlier
      count := by
        rw [hconcluded.count, h.count, hexchanges, h.exchanges]
        rfl
      settled := fun _ => h.settled.of_eq hexchanges
      uncertain := fun hcancelled => by
        dsimp only at hcancelled
        rw [hstate] at hcancelled
        cases hcancelled
      unreaped := .inl h.unreaped
      startup := fun _ _ he => by cases he
      ofBody := rfl }

/-- After a question the transport is ready for the next, and its requests are
noted. -/
theorem ensures_probe {asked : List Exchange}
    {question : TransportM ClickHouseTransport.ClickHouseRawResult} {expectedPayload : Bytes}
    {causeType : String} (h : Asking opening n s asked w)
    (hquestion : Ensures (fun _ => True)
      (fun raised world => Raises (opening.transport n) w.current raised world)
      question w.current (Returns (opening.transport n) w.current)) :
    Ensures (fun _ => True) (Fails opening n s)
      (opening.probe n question expectedPayload causeType) w
      (fun _ w' => ∃ exchange, exchange.Answers expectedPayload ∧
        Asking opening n s (asked ++ [exchange]) w' ∧
          w'.totalDispatches = w'.current.physicalRequestCount) := by
  rw [ClickHouseOpening.probe, ensures_bind, ensures_onTransport]
  refine (hquestion.mono fun result world hreturns => ?_).weaken (fun _ _ => trivial)
    fun raised world hraises => h.fails hraises
  rw [ensures_bind, ensures_noteDispatches]
  obtain ⟨exchange, hanswers, hasking⟩ :=
    @Asking.answered opening n s w asked result world world.physicalRequestCount h hreturns
  by_cases hpayload : result.payload = expectedPayload
  · rw [if_pos hpayload, ensures_pure]
    exact ⟨exchange, hpayload ▸ hanswers, hasking, rfl⟩
  · rw [if_neg hpayload]
    exact ensures_rejected hasking ⟨_, rfl⟩

/-- The questions are asked of a transport that was just made. -/
theorem Starting.asking (h : Starting s w) :
    Asking opening n s []
      { w with
        current := .opened w.current.ledger w.totalDispatches w.current.uuids
          w.current.cleanups } where
  earlier := h.earlier
  unreaped := h.unreaped
  ready := ⟨rfl, rfl, rfl⟩
  exchanges := rfl
  count := h.dispatches
  settled := fun exchange hmem => by cases hmem

/-- The body of an attempt: both questions were answered as the protocol has it. -/
theorem ensures_openAttempt (h : Starting s w) :
    Ensures (fun _ => True) (Fails opening n s) (opening.openAttempt n) w
      (fun _ w' => ∃ data control,
        data.Answers opening.protocol.dataInitialization.expectedPayload ∧
        control.Answers opening.protocol.controlInitialization.expectedPayload ∧
          Asking opening n s [data, control] w' ∧
            w'.totalDispatches = w'.current.physicalRequestCount) := by
  rw [ClickHouseOpening.openAttempt, ensures_bind]
  refine (ensures_startWorker .data h).mono fun _ first hfirst => ?_
  rw [ensures_bind]
  refine (ensures_startWorker .control hfirst).mono fun _ second hsecond => ?_
  rw [ensures_bind, ClickHouseOpening.constructTransport, ensures_modifyOpening, ensures_bind]
  have hasking : Asking opening n s [] _ := hsecond.asking
  refine (ensures_probe hasking (ensures_executeRaw _ hasking.ready)).mono fun _ third hthird => ?_
  obtain ⟨data, hdata, hasking, _⟩ := hthird
  refine (ensures_probe hasking (ensures_initializeControlConnection hasking.ready)).mono
    fun _ fourth hfourth => ?_
  obtain ⟨control, hcontrol, hasking, hnoted⟩ := hfourth
  exact ⟨data, control, hdata, hcontrol, hasking, hnoted⟩

/-! ## After a failure -/

/-- The clock moves on. -/
theorem InAttempt.kept {world : TransportWorld} (h : InAttempt opening n s w)
    (hkept : Kept 0 w.current world) : InAttempt opening n s { w with current := world } where
  earlier := h.earlier
  count := by rw [hkept.count, hkept.exchanges]; exact h.count
  settled := fun hcertain => (h.settled (hkept.state ▸ hcertain)).of_eq hkept.exchanges

/-- An attempt that left nothing uncertain fails with a connection error. -/
theorem InAttempt.broken {failure : ConnectionFailure} (h : InAttempt opening n s w)
    (hcertain : w.current.state ≠ .cancellationUnconfirmed)
    (hunreaped : w.unreaped = 0 ∨
      w.unreaped = 1 ∧ failure.causeType = "ClickHouseHttpWorkerError") :
    Broken opening n s (.connection failure) w :=
  { h with
    uncertain := fun hcancelled => absurd hcancelled hcertain
    unreaped := hunreaped.imp_right fun hone => ⟨hone.1, by simpa [OpeningError.isWorkerFailure] using hone.2⟩
    final := rfl }

theorem ensures_sleepBeforeRetry {workDeadline : ℕ} {post : Unit → OpeningWorld → Prop}
    (h : InAttempt opening n s w) (hcertain : w.current.state ≠ .cancellationUnconfirmed)
    (hunreaped : w.unreaped = 0)
    (hslept : ∀ world, Kept 0 w.current world → post () { w with current := world }) :
    Ensures (fun _ => True) (Broken opening n s) (opening.sleepBeforeRetry workDeadline n) w
      post := by
  rw [ClickHouseOpening.sleepBeforeRetry, ensures_bind, ensures_onTransport]
  refine ensures_monotonicNs fun now world hkept => ?_
  by_cases hreaches : opening.retryPolicy.delayReaches ((workDeadline : ℤ) - now) = true
  · rw [if_pos hreaches, ensures_raise]
    refine (h.kept hkept).broken ?_ (.inl hunreaped)
    dsimp only
    rwa [hkept.state]
  · rw [if_neg hreaches, ensures_pure]
    exact hslept world hkept

/-- An attempt is repeated only while another one is left. -/
theorem ensures_tryAgain {workDeadline : ℕ} {retryable : Bool} {failure : ConnectionFailure}
    (h : InAttempt opening n s w) (hcertain : w.current.state ≠ .cancellationUnconfirmed)
    (hunreaped : w.unreaped = 0) (hdispatches : w.totalDispatches = w.current.physicalRequestCount)
    (hle : n ≤ opening.retryPolicy.maxAttempts) :
    Ensures (fun _ => True) (Broken opening n s)
      (opening.tryAgain workDeadline n retryable (.connection failure)) w
      (fun outcome w' => outcome = none ∧ Repeats opening n s w') := by
  rw [ClickHouseOpening.tryAgain]
  by_cases hfinal : n = opening.retryPolicy.maxAttempts ∨ retryable = false
  · rw [if_pos hfinal, ensures_raise]
    exact h.broken hcertain (.inl hunreaped)
  · rw [if_neg hfinal, ensures_bind]
    refine ensures_sleepBeforeRetry h hcertain hunreaped fun world hkept => ?_
    rw [ensures_pure]
    have hmore : n < opening.retryPolicy.maxAttempts := by omega
    exact ⟨rfl,
      { h.kept hkept with
        certain := by
          dsimp only
          rwa [hkept.state]
        unreaped := hunreaped
        dispatches := hdispatches.trans hkept.count.symm
        more := hmore }⟩

theorem Fails.certain {error : OpeningError} (h : Fails opening n s error w)
    (herror : error.isUncertain = false) : w.current.state ≠ .cancellationUnconfirmed := by
  intro hcancelled
  rw [h.uncertain hcancelled] at herror
  cases herror

theorem Fails.reaped {error : OpeningError} (h : Fails opening n s error w)
    (herror : error ≠ .worker) : w.unreaped = 0 :=
  h.unreaped.resolve_right fun hone => herror hone.2

theorem ensures_recoverTransport {workDeadline : ℕ} {raised : Raised}
    (h : Fails opening n s (.transport raised) w) (hle : n ≤ opening.retryPolicy.maxAttempts) :
    Ensures (fun _ => True) (Broken opening n s)
      (opening.recoverTransport workDeadline n raised) w
      (fun outcome w' => outcome = none ∧ Repeats opening n s w') := by
  have hreaped : w.unreaped = 0 := h.reaped fun he => by cases he
  have hpassed (hfinal : raised.error.isFinal = true) : Broken opening n s (.transport raised) w :=
    { h.toInAttempt with
      uncertain := h.uncertain
      unreaped := .inl hreaped
      final := hfinal }
  have hbody := h.ofBody
  have huncertain := h.uncertain
  rw [ClickHouseOpening.recoverTransport]
  obtain ⟨error, notes⟩ := raised
  cases error with
  | query failure =>
    dsimp only
    rw [ensures_bind, ensures_noteDispatches, ensures_bind, ensures_modifyOpening]
    exact ensures_tryAgain ⟨h.earlier, h.count, h.settled⟩ (h.certain rfl) hreaped rfl hle
  | responseLimit attemptId queryId operation received truncated =>
    exact ensures_raise.mpr (h.toInAttempt.broken (h.certain rfl) (.inl hreaped))
  | worker message => cases hbody
  | assertion message => cases hbody
  | deadlineExceeded attemptId queryId operation completion => exact ensures_raise.mpr (hpassed rfl)
  | cancellationUnconfirmed failure => exact ensures_raise.mpr (hpassed rfl)
  | cleanup message => exact ensures_raise.mpr (hpassed rfl)
  | refusal refusal => exact ensures_raise.mpr (hpassed rfl)
  | programming message => exact ensures_raise.mpr (hpassed rfl)

/-- A failed attempt is final, or leaves room for the next. -/
theorem ensures_recover {workDeadline : ℕ} {error : OpeningError}
    (h : Fails opening n s error w) (hle : n ≤ opening.retryPolicy.maxAttempts) :
    Ensures (fun _ => True) (Broken opening n s) (opening.recover workDeadline n error) w
      (fun outcome w' => outcome = none ∧ Repeats opening n s w') := by
  have hbody := h.ofBody
  cases error with
  | connection failure =>
    exact ensures_raise.mpr (h.toInAttempt.broken (h.certain rfl)
      (.inl (h.reaped fun he => by cases he)))
  | startup causeType retryable =>
    exact ensures_tryAgain h.toInAttempt (h.certain rfl) (h.reaped fun he => by cases he)
      (h.startup _ _ rfl) hle
  | worker =>
    exact ensures_raise.mpr (h.toInAttempt.broken (h.certain rfl)
      (h.unreaped.imp_right fun hone => ⟨hone.1, rfl⟩))
  | transport raised => exact ensures_recoverTransport h hle
  | cleanup message => cases hbody
  | assertion message => cases hbody

/-! ## The end of an attempt -/

/-- Only the workers, and what ends them, have changed. -/
structure Ending (w w' : OpeningWorld) : Prop extends SameTraffic w.current w'.current where
  others : w' = { w with current := w'.current }
  state : w'.current.state = w.current.state

theorem Ending.of_reapings {first second : TransportWorld} {dataCause controlCause : Option String}
    (hdata : Reaping .data w.current dataCause first)
    (hcontrol : Reaping .control first controlCause second) :
    Ending w { w with current := second } :=
  ⟨hdata.toSameTraffic.trans hcontrol.toSameTraffic, rfl, hcontrol.state.trans hdata.state⟩

/-- Ending the workers reaps both, or raises a cleanup error. -/
theorem ensures_endWorkers :
    Ensures (fun _ => True)
      (fun error w' => (∃ message, error = .cleanup message) ∧ Ending w w')
      (opening.endWorkers n) w
      (fun _ w' => Ending w w' ∧ w'.current.dataWorker = .closed ∧
        w'.current.controlWorker = .closed) := by
  rw [ClickHouseOpening.endWorkers, ensures_bind, ensures_onTransport]
  refine (ensures_terminateWorker .data).mono fun dataCause first hdata => ?_
  rw [ensures_bind, ensures_onTransport]
  refine (ensures_terminateWorker .control).mono fun controlCause second hcontrol => ?_
  have hending := Ending.of_reapings hdata hcontrol
  cases hcauses : dataCause.toList ++ controlCause.toList with
  | cons cause rest => exact ensures_raise.mpr ⟨⟨_, rfl⟩, hending⟩
  | nil =>
    obtain ⟨hdataCause, hcontrolCause⟩ := List.append_eq_nil_iff.mp hcauses
    rw [Option.toList_eq_nil_iff] at hdataCause hcontrolCause
    have hclosed : second.dataWorker = .closed :=
      (hcontrol.others .data (by decide)).trans (hdata.closed hdataCause)
    exact ensures_pure.mpr ⟨hending, hclosed, hcontrol.closed hcontrolCause⟩

theorem InAttempt.ending {w' : OpeningWorld} (h : InAttempt opening n s w) (hending : Ending w w') :
    InAttempt opening n s w' where
  earlier := by rw [hending.others]; exact h.earlier
  count := by rw [hending.count, hending.exchanges]; exact h.count
  settled := fun hcertain => (h.settled (hending.state ▸ hcertain)).of_eq hending.exchanges

theorem Broken.ending {error : OpeningError} {w' : OpeningWorld} (h : Broken opening n s error w)
    (hending : Ending w w') : Broken opening n s error w' :=
  { h.toInAttempt.ending hending with
    uncertain := fun hcancelled => h.uncertain (hending.state.symm.trans hcancelled)
    unreaped := by rw [hending.others]; exact h.unreaped
    final := h.final }

theorem Repeats.ending {w' : OpeningWorld} (h : Repeats opening n s w) (hending : Ending w w') :
    Repeats opening n s w' :=
  { h.toInAttempt.ending hending with
    certain := fun hcancelled => h.certain (hending.state.symm.trans hcancelled)
    unreaped := by rw [hending.others]; exact h.unreaped
    dispatches := by rw [hending.count, hending.others]; exact h.dispatches
    more := h.more }

/-- A cleanup error in the place of another end. -/
theorem InAttempt.uncleaned {message : String} (h : InAttempt opening n s w)
    (hunreaped : w.unreaped = 0 ∨ w.unreaped = 1) : Broken opening n s (.cleanup message) w :=
  { h with
    uncertain := fun _ => rfl
    unreaped := hunreaped.imp_right fun hone => ⟨hone, rfl⟩
    final := rfl }

/-- A final failure, after which no worker is left unless that is what is raised. -/
def FailsClosed (opening : ClickHouseOpening) (n : ℕ) (s : OpeningWorld) (error : OpeningError)
    (w : OpeningWorld) : Prop :=
  Broken opening n s error w ∧ ((∀ message, error ≠ .cleanup message) →
    w.current.dataWorker = .closed ∧ w.current.controlWorker = .closed)

/-- The workers of an attempt that failed for good are ended. -/
theorem ensures_endWorkers_broken {error : OpeningError} (h : Broken opening n s error w) :
    Ensures (fun _ => True) (FailsClosed opening n s) (opening.endWorkers n) w
      (fun _ w' => FailsClosed opening n s error w') := by
  refine (ensures_endWorkers.mono fun _ w' hended => ?_).weaken (fun _ _ => trivial)
    fun cleanup w' hcleanup => ?_
  · obtain ⟨hending, hclosed⟩ := hended
    exact ⟨h.ending hending, fun _ => hclosed⟩
  · obtain ⟨⟨message, rfl⟩, hending⟩ := hcleanup
    have hunreaped := (h.ending hending).unreaped
    refine ⟨(h.toInAttempt.ending hending).uncleaned (hunreaped.imp_right And.left), ?_⟩
    exact fun hnone => absurd rfl (hnone message)

/-- The workers of an attempt that is repeated are ended first. -/
theorem ensures_endWorkers_repeats (h : Repeats opening n s w) :
    Ensures (fun _ => True) (FailsClosed opening n s) (opening.endWorkers n) w
      (fun _ w' => Repeats opening n s w' ∧ w'.current.dataWorker = .closed ∧
        w'.current.controlWorker = .closed) := by
  refine (ensures_endWorkers.mono fun _ w' hended => ?_).weaken (fun _ _ => trivial)
    fun cleanup w' hcleanup => ?_
  · obtain ⟨hending, hclosed⟩ := hended
    exact ⟨h.ending hending, hclosed⟩
  · obtain ⟨⟨message, rfl⟩, hending⟩ := hcleanup
    refine ⟨(h.toInAttempt.ending hending).uncleaned (.inl (h.ending hending).unreaped), ?_⟩
    exact fun hnone => absurd rfl (hnone message)

/-! ## Attempts -/

/-- A transport of which nothing is left. -/
structure Ended (transport : ClickHouseTransport) (world : TransportWorld) : Prop where
  dataWorker : world.dataWorker = .closed
  controlWorker : world.controlWorker = .closed
  settled : AllSettled transport world

/-- The requests of the attempts that were repeated. -/
def OpeningWorld.dispatched (world : OpeningWorld) : ℕ :=
  (world.earlier.map fun attempt => attempt.2.exchanges.length).sum

/-- Before attempt `n`. -/
structure Attempts (opening : ClickHouseOpening) (n : ℕ) (w : OpeningWorld) : Prop
    extends Starting w w where
  number : w.earlier.length + 1 = n
  within : n ≤ opening.retryPolicy.maxAttempts
  ended : ∀ attempt world, (attempt, world) ∈ w.earlier → Ended (opening.transport attempt) world
  noted : w.totalDispatches = w.dispatched
  closed : w.current.dataWorker = .closed ∧ w.current.controlWorker = .closed

/-- A transport that was opened by attempt `n`. -/
structure Opened (opening : ClickHouseOpening) (n : ℕ) (w : OpeningWorld) : Prop where
  number : w.earlier.length + 1 = n
  within : n ≤ opening.retryPolicy.maxAttempts
  ended : ∀ attempt world, (attempt, world) ∈ w.earlier → Ended (opening.transport attempt) world
  ready : w.current.Ready
  answered : ∃ data control, w.current.exchanges = [data, control] ∧
    data.Answers opening.protocol.dataInitialization.expectedPayload ∧
    control.Answers opening.protocol.controlInitialization.expectedPayload
  count : w.current.physicalRequestCount = w.dispatched + 2
  unreaped : w.unreaped = 0

/-- A transport that could not be opened. -/
structure NotOpened (opening : ClickHouseOpening) (error : OpeningError) (w : OpeningWorld) :
    Prop where
  within : w.earlier.length < opening.retryPolicy.maxAttempts
  ended : ∀ attempt world, (attempt, world) ∈ w.earlier → Ended (opening.transport attempt) world
  settled : w.current.state ≠ .cancellationUnconfirmed →
    AllSettled (opening.transport (w.earlier.length + 1)) w.current
  uncertain : w.current.state = .cancellationUnconfirmed → error.isUncertain = true
  closed : (∀ message, error ≠ .cleanup message) →
    w.current.dataWorker = .closed ∧ w.current.controlWorker = .closed
  unreaped : w.unreaped = 0 ∨ w.unreaped = 1 ∧ error.isWorkerFailure = true
  final : error.isFinal = true

theorem Attempts.inAttempt (h : Attempts opening n s) : InAttempt opening n s s where
  earlier := rfl
  count := by rw [h.toStarting.count, h.toStarting.exchanges]; rfl
  settled := fun _ exchange hmem => by simp [h.toStarting.exchanges] at hmem

theorem Attempts.notOpened {error : OpeningError} (h : Attempts opening n s)
    (hfails : FailsClosed opening n s error w) : NotOpened opening error w := by
  obtain ⟨hbroken, hclosed⟩ := hfails
  have hnumber := h.number
  have hwithin := h.within
  have hcurrent : w.earlier.length + 1 = n := by rw [hbroken.earlier]; exact hnumber
  exact
    { within := by omega
      ended := fun attempt world hmem => h.ended attempt world (hbroken.earlier ▸ hmem)
      settled := by rw [hcurrent]; exact hbroken.settled
      uncertain := hbroken.uncertain
      closed := hclosed
      unreaped := hbroken.unreaped
      final := hbroken.final }

/-- What an attempt that is repeated leaves to the next. -/
theorem Attempts.next (h : Attempts opening n s) (hrepeats : Repeats opening n s w)
    (hclosed : w.current.dataWorker = .closed ∧ w.current.controlWorker = .closed) :
    Attempts opening (n + 1) (OpeningWorld.repeated n w) := by
  have hdispatched : w.totalDispatches = s.dispatched + w.current.exchanges.length := by
    rw [hrepeats.dispatches, hrepeats.count, h.noted]
  exact
    { earlier := rfl
      dispatches := rfl
      count := rfl
      exchanges := rfl
      state := rfl
      unreaped := hrepeats.unreaped
      number := by
        simp [OpeningWorld.repeated, hrepeats.earlier, h.number]
      within := hrepeats.more
      ended := fun attempt world hmem => by
        rcases List.mem_append.mp hmem with hmem | hmem
        · exact h.ended attempt world (hrepeats.earlier ▸ hmem)
        · obtain ⟨rfl, rfl⟩ := Prod.mk.inj (List.mem_singleton.mp hmem)
          exact ⟨hclosed.1, hclosed.2, hrepeats.settled hrepeats.certain⟩
      noted := by
        simp [OpeningWorld.dispatched, OpeningWorld.repeated, hrepeats.earlier,
          hdispatched]
      closed := ⟨rfl, rfl⟩ }

theorem Attempts.opened {data control : Exchange} (h : Attempts opening n s)
    (hdata : data.Answers opening.protocol.dataInitialization.expectedPayload)
    (hcontrol : control.Answers opening.protocol.controlInitialization.expectedPayload)
    (hasking : Asking opening n s [data, control] w) : Opened opening n w where
  number := by rw [hasking.earlier]; exact h.number
  within := h.within
  ended := fun attempt world hmem => h.ended attempt world (hasking.earlier ▸ hmem)
  ready := hasking.ready
  answered := ⟨data, control, hasking.exchanges, hdata, hcontrol⟩
  count := by rw [hasking.count, h.noted, OpeningWorld.dispatched, ← hasking.earlier]; rfl
  unreaped := hasking.unreaped

theorem ensures_openingDeadline (h : Attempts opening n s) :
    Ensures (fun _ => True) (NotOpened opening) (opening.workDeadline n) s
      (fun _ w => Attempts opening n w) := by
  rw [ClickHouseOpening.workDeadline, ensures_bind, ensures_onTransport]
  refine ensures_monotonicNs fun now world hkept => ?_
  have hlater : Attempts opening n { s with current := world } :=
    { h with
      count := hkept.count.trans h.toStarting.count
      exchanges := hkept.exchanges.trans h.toStarting.exchanges
      state := hkept.state.trans h.toStarting.state
      closed := ⟨hkept.dataWorker.trans h.closed.1, hkept.controlWorker.trans h.closed.2⟩ }
  have hcertain : world.state ≠ .cancellationUnconfirmed := by
    rw [hlater.toStarting.state]
    decide
  dsimp only
  split
  · rw [ensures_raise]
    refine hlater.notOpened ⟨hlater.inAttempt.broken hcertain (.inl hlater.toStarting.unreaped), ?_⟩
    exact fun _ => hlater.closed
  · rw [ensures_pure]
    exact hlater

/-- One attempt: the transport is open, or nothing of the attempt is left, or the
opening has failed for good. -/
theorem ensures_attemptOnce (h : Attempts opening n s) :
    Ensures (fun _ => True) (NotOpened opening) (opening.attemptOnce n) s
      (fun outcome w => (∀ m, outcome = some m → m = n ∧ Opened opening n w) ∧
        (outcome = none → Attempts opening (n + 1) w)) := by
  rw [ClickHouseOpening.attemptOnce, ensures_bind]
  refine (ensures_openingDeadline h).mono fun workDeadline start hstart => ?_
  rw [ensures_bind, ensures_releasedUnless, ensures_handled, ensures_bind]
  refine ((ensures_openAttempt hstart.toStarting).mono fun _ w hopened => ?_).weaken
    (fun _ _ => trivial) fun error w hfails => ?_
  · obtain ⟨data, control, hdata, hcontrol, hasking, _⟩ := hopened
    rw [ensures_pure, if_pos Option.isSome_some, ClickHouseOpening.leave, ensures_pure]
    refine ⟨fun m hm => ⟨(Option.some.inj hm).symm, hstart.opened hdata hcontrol hasking⟩, ?_⟩
    exact fun hnone => by cases hnone
  · refine ((ensures_recover hfails hstart.within).mono fun outcome repeats hrecovered => ?_).weaken
      (fun _ _ => trivial) fun final broken hbroken => ?_
    · obtain ⟨rfl, hrepeats⟩ := hrecovered
      rw [if_neg (by decide)]
      refine ((ensures_endWorkers_repeats hrepeats).mono fun _ ended hended => ?_).weaken
        (fun _ _ => trivial) fun cleanup ended hcleanup => hstart.notOpened hcleanup
      rw [ClickHouseOpening.leave, ensures_bind, ensures_modifyOpening, ensures_pure]
      exact ⟨fun m hm => (by cases hm), fun _ => hstart.next hended.1 hended.2⟩
    · exact ((ensures_endWorkers_broken hbroken).mono fun _ ended hended =>
        hstart.notOpened hended).weaken (fun _ _ => trivial) fun cleanup ended hcleanup =>
          hstart.notOpened hcleanup

theorem attempts_fresh (ledger : LedgerWorld) (uuids cleanups : ℕ) :
    Attempts opening 1 (.fresh ledger uuids cleanups) where
  earlier := rfl
  dispatches := rfl
  count := rfl
  exchanges := rfl
  state := rfl
  unreaped := rfl
  number := rfl
  within := opening.retryPolicy.attempts_pos
  ended := fun attempt world hmem => by cases hmem
  noted := rfl
  closed := ⟨rfl, rfl⟩

/-- The opening of a transport ends with one that has just answered both questions
of the protocol, or with an exception; no more attempts are made than the policy
allows; and an attempt begins only when of every earlier one the workers are reaped
and the end of each query is known. -/
theorem clickhouse_opening_law (opening : ClickHouseOpening) (ledger : LedgerWorld)
    (uuids cleanups : ℕ) :
    Ensures (fun _ => True) (NotOpened opening) opening.openClickhouseTransport
      (.fresh ledger uuids cleanups) (Opened opening) := by
  have hfresh := @attempts_fresh opening ledger uuids cleanups
  rw [ClickHouseOpening.openClickhouseTransport]
  by_cases hzero : opening.attemptId = 0
  · rw [if_pos hzero, ensures_raise]
    refine hfresh.notOpened ⟨?_, fun _ => hfresh.closed⟩
    exact
      { hfresh.inAttempt with
        uncertain := fun hcancelled => by cases hcancelled
        unreaped := .inl rfl
        final := rfl }
  · rw [if_neg hzero]
    refine ensures_retry (Attempts opening) (fun n s h => ?_) hfresh fun s' hafter => ?_
    · refine (ensures_attemptOnce h).mono fun outcome w houtcome => ⟨fun m hm => ?_, houtcome.2⟩
      obtain ⟨rfl, hopened⟩ := houtcome.1 m hm
      exact hopened
    · -- The last attempt is never repeated.
      have hwithin := hafter.within
      omega

end ForensicData.ClickHouse
