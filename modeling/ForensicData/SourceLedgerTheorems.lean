/-
ForensicData.SourceLedgerTheorems — the bounds of a run's source work hold.

`Effect` says once what a call may do to the ledger; every law of a single call
is read off it, and holds along a run by induction on the calls. Before its
deadline the ledger counts as the usage that a comparison carries.

  * queries and full scans are counted only within their bounds, and a refused
    query changes nothing;
  * records and bytes are counted when they arrive, so they pass their bounds
    only in a call that raises, and every later one raises too;
  * a query that fits what remains is refused only for the deadline;
  * usage never decreases, so an attempt can always be measured, and attempts
    that follow one another add up to the whole.
-/
import ForensicData.SourceLedger

namespace ForensicData

open Lib Lib.Generator
open Result (Uuid)

/-! ## Counters -/

namespace UsageCounters

/-- No counter went back. -/
structure Grows (usage after : UsageCounters) : Prop where
  queries : usage.queries ≤ after.queries
  fetchedRecords : usage.fetchedRecords ≤ after.fetchedRecords
  resultBytes : usage.resultBytes ≤ after.resultBytes
  referenceFullScans : usage.referenceFullScans ≤ after.referenceFullScans
  targetFullScans : usage.targetFullScans ≤ after.targetFullScans

@[refl] theorem Grows.refl (usage : UsageCounters) : Grows usage usage :=
  ⟨le_rfl, le_rfl, le_rfl, le_rfl, le_rfl⟩

theorem Grows.trans {usage between after : UsageCounters} (h : Grows usage between)
    (h' : Grows between after) : Grows usage after where
  queries := h.queries.trans h'.queries
  fetchedRecords := h.fetchedRecords.trans h'.fetchedRecords
  resultBytes := h.resultBytes.trans h'.resultBytes
  referenceFullScans := h.referenceFullScans.trans h'.referenceFullScans
  targetFullScans := h.targetFullScans.trans h'.targetFullScans

/-- A query is counted with its scans. -/
def charge (usage : UsageCounters) (direction : Side) (fullScans : ℕ) : UsageCounters :=
  { usage.addFullScans fullScans direction with queries := usage.queries + 1 }

/-- Records and bytes are counted. -/
def receive (usage : UsageCounters) (records bytes : ℕ) : UsageCounters :=
  { usage with fetchedRecords := usage.fetchedRecords + records
               resultBytes := usage.resultBytes + bytes }

/-- A snapshot of the usage. -/
def snapshot (usage : UsageCounters) (elapsedMilliseconds : ℕ) : SourceUsageSnapshot :=
  ⟨usage.queries, usage.fetchedRecords, usage.resultBytes, usage.referenceFullScans,
    usage.targetFullScans, elapsedMilliseconds⟩

/-- What was used since `baseline`. -/
def since (usage baseline : UsageCounters) : UsageCounters :=
  ⟨usage.queries - baseline.queries, usage.fetchedRecords - baseline.fetchedRecords,
    usage.resultBytes - baseline.resultBytes,
    usage.referenceFullScans - baseline.referenceFullScans,
    usage.targetFullScans - baseline.targetFullScans⟩

theorem fullScans_charge (usage : UsageCounters) (direction side : Side) (count : ℕ) :
    (usage.charge direction count).fullScans side =
      usage.fullScans side + if side = direction then count else 0 := by
  cases direction <;> cases side <;> simp [charge, addFullScans, fullScans]

theorem fullScans_receive (usage : UsageCounters) (records bytes : ℕ) (side : Side) :
    (usage.receive records bytes).fullScans side = usage.fullScans side := by
  cases side <;> rfl

theorem grows_charge (usage : UsageCounters) (direction : Side) (count : ℕ) :
    Grows usage (usage.charge direction count) := by
  cases direction <;> constructor <;> simp [charge, addFullScans]

theorem grows_receive (usage : UsageCounters) (records bytes : ℕ) :
    Grows usage (usage.receive records bytes) := by
  constructor <;> simp [receive]

end UsageCounters

/-- The counters that a comparison carries with their bounds. -/
def SourceUsage.counters {budgets : ExecutionBudgets} (usage : SourceUsage budgets) :
    UsageCounters :=
  ⟨usage.queries, usage.fetchedRecords, usage.resultBytes, usage.referenceFullScans,
    usage.targetFullScans⟩

namespace SourceBudgetLedger

variable (ledger : SourceBudgetLedger)

/-- The counters that a refusal precedes are within their bounds. -/
structure Within (usage : UsageCounters) : Prop where
  queries_le : usage.queries ≤ ledger.budgets.maxQueries
  scans_le : ∀ side, usage.fullScans side ≤ ledger.budgets.maxFullScansPerSide

def remainingScans (usage : UsageCounters) : Side → ℕ
  | .reference => (ledger.remaining usage).referenceFullScans
  | .target => (ledger.remaining usage).targetFullScans

variable {ledger} in
theorem Within.receive {usage : UsageCounters} (h : ledger.Within usage) (records bytes : ℕ) :
    ledger.Within (usage.receive records bytes) := by
  refine ⟨h.queries_le, fun side => ?_⟩
  rw [UsageCounters.fullScans_receive]
  exact h.scans_le side

/-- A query fits what `remaining` shows. -/
structure Fits (usage : UsageCounters) (direction : Side) (fullScans : ℤ) : Prop where
  nonneg : 0 ≤ fullScans
  queries : 0 < (ledger.remaining usage).queries
  scans : fullScans.toNat ≤ ledger.remainingScans usage direction

theorem remainingScans_eq (usage : UsageCounters) (direction : Side) :
    ledger.remainingScans usage direction =
      ledger.budgets.maxFullScansPerSide - usage.fullScans direction := by
  cases direction <;> rfl

/-! ## The steps of a method -/

section

variable {fail : Refusal → LedgerWorld → Prop} {s : LedgerWorld}

theorem ensures_refuseIf {condition : Prop} [Decidable condition] {refusal : Refusal}
    {post : Unit → LedgerWorld → Prop} :
    Ensures (fun _ => True) fail (lift (refuseIf condition refusal) : LedgerM Unit) s post ↔
      (¬ condition → post () s) ∧ (condition → fail refusal s) := by
  by_cases h : condition
  · simp [Ensures, lift, refuseIf, h]
  · simp [Ensures, lift, refuseIf, h]

theorem ensures_readUsage {post : UsageCounters → LedgerWorld → Prop} :
    Ensures (fun _ => True) fail readUsage s post ↔ post s.ledger.usage s := by
  simp [readUsage, Ensures, act]

theorem ensures_modifyUsage {change : UsageCounters → UsageCounters}
    {post : Unit → LedgerWorld → Prop} :
    Ensures (fun _ => True) fail (modifyUsage change) s post ↔
      post () { s with ledger := { s.ledger with usage := change s.ledger.usage } } := by
  simp [modifyUsage, Ensures, act]

theorem ensures_monotonicNs {post : ℕ → LedgerWorld → Prop} :
    Ensures (fun _ => True) fail ledger.monotonicNs s post ↔
      post (ledger.clock s.readings) { s with readings := s.readings + 1 } := by
  simp [monotonicNs, Ensures, act]

theorem ensures_requireDeadline {message : String} {post : Unit → LedgerWorld → Prop} :
    Ensures (fun _ => True) fail (ledger.requireDeadline message) s post ↔
      (¬ ledger.deadlineNanoseconds ≤ ledger.clock s.readings →
          post () { s with readings := s.readings + 1 }) ∧
        (ledger.deadlineNanoseconds ≤ ledger.clock s.readings →
          fail (readDeadlineExceeded message) { s with readings := s.readings + 1 }) := by
  rw [requireDeadline, ensures_bind, ensures_monotonicNs, ensures_refuseIf]

theorem ensures_validateNonnegativeInteger {value : ℤ} {fieldName : String}
    {post : Unit → LedgerWorld → Prop} :
    Ensures (fun _ => True) fail
        (lift (validateNonnegativeInteger value fieldName) : LedgerM Unit) s post ↔
      (0 ≤ value → post () s) ∧
        (value < 0 →
          fail ⟨.valueError, s!"{fieldName} must be a non-negative integer"⟩ s) := by
  rw [validateNonnegativeInteger, ensures_refuseIf, not_lt]

end

/-! ## What a call does -/

def dispatchDeadline : Refusal :=
  readDeadlineExceeded (sourceDeadlineMessage "source query dispatch")

/-- What a call may do to the ledger, and how it may end. -/
inductive Effect (before : LedgerWorld) : Work → Except Refusal Unit → LedgerState → Prop where
  | dispatched (direction : Side) (fullScans : ℤ)
      (queries : before.ledger.usage.queries < ledger.budgets.maxQueries)
      (scans : before.ledger.usage.fullScans direction + fullScans.toNat
        ≤ ledger.budgets.maxFullScansPerSide) :
      Effect before (.dispatchQuery direction fullScans) (.ok ())
        { before.ledger with usage := before.ledger.usage.charge direction fullScans.toNat }
  | refused (direction : Side) (fullScans : ℤ) (refusal : Refusal)
      (cause : ledger.Within before.ledger.usage →
        ledger.Fits before.ledger.usage direction fullScans →
        refusal = dispatchDeadline ∧
          ledger.deadlineNanoseconds ≤ ledger.clock before.readings) :
      Effect before (.dispatchQuery direction fullScans) (.error refusal) before.ledger
  | invalidRecords (recordBytes : List ℤ) (refusal : Refusal) :
      Effect before (.consumeRecords recordBytes) (.error refusal) before.ledger
  | records (recordBytes : List ℤ) (outcome : Except Refusal Unit)
      (fits : outcome = .ok () →
        before.ledger.usage.fetchedRecords + recordBytes.length
            ≤ ledger.budgets.maxFetchedRecords ∧
          before.ledger.usage.resultBytes + recordBytes.sum.toNat
            ≤ ledger.budgets.maxApplicationResultBytes) :
      Effect before (.consumeRecords recordBytes) outcome
        { before.ledger with
          usage := before.ledger.usage.receive recordBytes.length recordBytes.sum.toNat }
  | invalidBytes (resultBytes : ℤ) (refusal : Refusal) :
      Effect before (.consumeObservedResultBytes resultBytes) (.error refusal) before.ledger
  | bytes (resultBytes : ℤ) (outcome : Except Refusal Unit)
      (fits : outcome = .ok () →
        before.ledger.usage.resultBytes + resultBytes.toNat
          ≤ ledger.budgets.maxApplicationResultBytes) :
      Effect before (.consumeObservedResultBytes resultBytes) outcome
        { before.ledger with usage := before.ledger.usage.receive 0 resultBytes.toNat }
  | fetchDeadline (outcome : Except Refusal Unit) :
      Effect before .requireResultFetchDeadline outcome before.ledger

/-- What a call did, and that the clock did not go back. -/
def Did (before : LedgerWorld) (work : Work) (outcome : Except Refusal Unit)
    (after : LedgerWorld) : Prop :=
  ledger.Effect before work outcome after.ledger ∧ before.readings ≤ after.readings

variable {ledger}

theorem ensures_dispatchQuery {s : LedgerWorld} {direction : Side} {fullScans : ℤ} :
    Ensures (fun _ => True)
      (fun refusal => ledger.Did s (.dispatchQuery direction fullScans) (.error refusal))
      (ledger.dispatchQuery direction fullScans) s
      (fun _ => ledger.Did s (.dispatchQuery direction fullScans) (.ok ())) := by
  simp only [dispatchQuery, chargeFullScans, ensures_bind, ensures_validateNonnegativeInteger,
    ensures_requireDeadline, ensures_readUsage, ensures_refuseIf, ensures_modifyUsage]
  have hclock : s.readings ≤ s.readings + 1 := Nat.le_succ _
  refine ⟨fun hnonneg => ⟨fun hearly => ⟨fun hqueries => ⟨fun hscans => ?_, fun hscans => ?_⟩,
    fun hqueries => ?_⟩, fun hlate => ?_⟩, fun hnegative => ?_⟩
  · have heffect : ledger.Effect s (.dispatchQuery direction fullScans) (.ok ()) _ :=
      .dispatched direction fullScans (not_le.mp hqueries) (not_lt.mp hscans)
    cases direction <;> exact ⟨heffect, hclock⟩
  · refine ⟨.refused direction fullScans _ fun hwithin hfits => ?_, hclock⟩
    have hle := hfits.scans
    rw [remainingScans_eq] at hle
    have := hwithin.scans_le direction
    omega
  · refine ⟨.refused direction fullScans _ fun hwithin hfits => ?_, hclock⟩
    have hlt := hfits.queries
    simp only [remaining] at hlt
    omega
  · exact ⟨.refused direction fullScans _ fun _ _ => ⟨rfl, hlate⟩, hclock⟩
  · refine ⟨.refused direction fullScans _ fun _ hfits => ?_, le_rfl⟩
    have := hfits.nonneg
    omega

theorem ensures_requireRecords {s : LedgerWorld} {fail : Refusal → LedgerWorld → Prop}
    {post : Unit → LedgerWorld → Prop} :
    Ensures (fun _ => True) fail ledger.requireRecords s post ↔
      (s.ledger.usage.fetchedRecords ≤ ledger.budgets.maxFetchedRecords → post () s) ∧
        (ledger.budgets.maxFetchedRecords < s.ledger.usage.fetchedRecords →
          fail (budgetExceeded
            "source reads exceeded immutable whole-run max_fetched_records") s) := by
  rw [requireRecords, ensures_bind, ensures_readUsage, ensures_refuseIf, not_lt]

theorem ensures_requireResultBytes {s : LedgerWorld} {fail : Refusal → LedgerWorld → Prop}
    {post : Unit → LedgerWorld → Prop} :
    Ensures (fun _ => True) fail ledger.requireResultBytes s post ↔
      (s.ledger.usage.resultBytes ≤ ledger.budgets.maxApplicationResultBytes → post () s) ∧
        (ledger.budgets.maxApplicationResultBytes < s.ledger.usage.resultBytes →
          fail (budgetExceeded
            "source reads exceeded immutable whole-run max_application_result_bytes") s) := by
  rw [requireResultBytes, ensures_bind, ensures_readUsage, ensures_refuseIf, not_lt]

theorem ensures_consumeRecords {s : LedgerWorld} {recordBytes : List ℤ} :
    Ensures (fun _ => True)
      (fun refusal => ledger.Did s (.consumeRecords recordBytes) (.error refusal))
      (ledger.consumeRecords recordBytes) s
      (fun _ => ledger.Did s (.consumeRecords recordBytes) (.ok ())) := by
  simp only [consumeRecords, ensures_bind, ensures_lift, ensures_modifyUsage,
    ensures_requireDeadline, ensures_requireRecords, ensures_requireResultBytes]
  have hclock : s.readings ≤ s.readings + 1 := Nat.le_succ _
  -- Once the sizes are counted, an exception leaves them counted.
  have hcounted (refusal : Refusal) :
      ledger.Effect s (.consumeRecords recordBytes) (.error refusal) _ :=
    .records recordBytes (.error refusal) fun h => by cases h
  refine ⟨fun _ _ => ⟨fun _ => ⟨fun hrecords => ⟨fun hbytes => ?_, fun _ => ?_⟩, fun _ => ?_⟩,
    fun _ => ?_⟩, fun refusal _ => ?_⟩
  · exact ⟨.records recordBytes (.ok ()) fun _ => ⟨hrecords, hbytes⟩, hclock⟩
  · exact ⟨hcounted _, hclock⟩
  · exact ⟨hcounted _, hclock⟩
  · exact ⟨hcounted _, hclock⟩
  · exact ⟨.invalidRecords recordBytes refusal, le_rfl⟩

theorem ensures_consumeObservedResultBytes {s : LedgerWorld} {resultBytes : ℤ} :
    Ensures (fun _ => True)
      (fun refusal => ledger.Did s (.consumeObservedResultBytes resultBytes) (.error refusal))
      (ledger.consumeObservedResultBytes resultBytes) s
      (fun _ => ledger.Did s (.consumeObservedResultBytes resultBytes) (.ok ())) := by
  simp only [consumeObservedResultBytes, ensures_bind, ensures_validateNonnegativeInteger,
    ensures_modifyUsage, ensures_requireDeadline, ensures_requireResultBytes]
  have hclock : s.readings ≤ s.readings + 1 := Nat.le_succ _
  have hcounted (refusal : Refusal) :
      ledger.Effect s (.consumeObservedResultBytes resultBytes) (.error refusal) _ :=
    .bytes resultBytes (.error refusal) fun h => by cases h
  refine ⟨fun _ => ⟨fun _ => ⟨fun hbytes => ?_, fun _ => ?_⟩, fun _ => ?_⟩, fun _ => ?_⟩
  · exact ⟨.bytes resultBytes (.ok ()) fun _ => hbytes, hclock⟩
  · exact ⟨hcounted _, hclock⟩
  · exact ⟨hcounted _, hclock⟩
  · exact ⟨.invalidBytes resultBytes _, le_rfl⟩

theorem ensures_perform {s : LedgerWorld} (work : Work) :
    Ensures (fun _ => True) (fun refusal => ledger.Did s work (.error refusal))
      (ledger.perform work) s (fun _ => ledger.Did s work (.ok ())) := by
  cases work with
  | dispatchQuery direction fullScans => exact ensures_dispatchQuery
  | consumeRecords recordBytes => exact ensures_consumeRecords
  | consumeObservedResultBytes resultBytes => exact ensures_consumeObservedResultBytes
  | requireResultFetchDeadline =>
    have hclock : s.readings ≤ s.readings + 1 := Nat.le_succ _
    exact (ledger.ensures_requireDeadline).mpr
      ⟨fun _ => ⟨.fetchDeadline _, hclock⟩, fun _ => ⟨.fetchDeadline _, hclock⟩⟩

theorem perform_did (s : LedgerWorld) (work : Work) :
    ledger.Did s work (ledger.perform work s).result (ledger.perform work s).world := by
  have h : Ensures (fun _ => True) (fun refusal => ledger.Did s work (.error refusal))
      (ledger.perform work) s (fun _ => ledger.Did s work (.ok ())) := ensures_perform work
  have hend := h.2
  cases hresult : (ledger.perform work s).result with
  | ok u => simpa [hresult] using hend
  | error refusal => simpa [hresult] using hend

/-! ## The usage that a comparison carries -/

section

variable {usage : SourceUsage ledger.budgets} {s : LedgerWorld}

/-- Before the deadline the ledger dispatches as the carried usage does. -/
theorem dispatchQuery_refines (husage : s.ledger.usage = usage.counters)
    (hearly : ¬ ledger.deadlineNanoseconds ≤ ledger.clock s.readings) (direction : Side)
    (fullScans : ℕ) :
    Ensures (fun _ => True)
      (fun refusal _ => usage.dispatchQuery direction fullScans = .error refusal)
      (ledger.dispatchQuery direction fullScans) s
      (fun _ s' => ∃ after, usage.dispatchQuery direction fullScans = .ok after ∧
        s'.ledger.usage = after.counters) := by
  simp only [dispatchQuery, chargeFullScans, ensures_bind, ensures_validateNonnegativeInteger,
    ensures_requireDeadline, ensures_readUsage, ensures_refuseIf, ensures_modifyUsage, husage]
  refine ⟨fun _ => ⟨fun _ => ⟨fun hqueries => ?_, fun hqueries => ?_⟩,
    fun hlate => absurd hlate hearly⟩, fun hnegative => by omega⟩
  · have hlt : usage.queries < ledger.budgets.maxQueries := not_le.mp hqueries
    rw [SourceUsage.dispatchQuery, dif_pos hlt]
    cases direction with
    | reference =>
      refine ⟨fun hscans => ?_, fun hscans => dif_neg (not_le.mpr hscans)⟩
      exact ⟨_, dif_pos (not_lt.mp hscans), rfl⟩
    | target =>
      refine ⟨fun hscans => ?_, fun hscans => dif_neg (not_le.mpr hscans)⟩
      exact ⟨_, dif_pos (not_lt.mp hscans), rfl⟩
  · exact dif_neg (not_lt.mpr hqueries)

/-- What was received is checked as the carried usage checks it. -/
theorem requireReceived_refines (husage : s.ledger.usage = usage.counters) :
    ((do ledger.requireRecords; ledger.requireResultBytes : LedgerM Unit) s).result =
      usage.checkReceived true := by
  by_cases hrecords : ledger.budgets.maxFetchedRecords < usage.fetchedRecords
  · simp [requireRecords, readUsage, SourceUsage.checkReceived, refuseIf, husage, bind,
      Generator.bind, Except.bind, act, lift, SourceUsage.counters, hrecords]
  · simp [requireRecords, requireResultBytes, readUsage, SourceUsage.checkReceived, refuseIf,
      husage, bind, Generator.bind, Except.bind, act, lift, SourceUsage.counters, hrecords]

end

/-! ## Starting and measuring an attempt -/

theorem validateNonnegativeInteger_natCast (value : ℕ) (fieldName : String) :
    validateNonnegativeInteger value fieldName = .ok () := by
  rw [validateNonnegativeInteger, refuseIf_eq_ok]
  omega

theorem makeSnapshot_natCast (queries fetchedRecords resultBytes referenceFullScans
    targetFullScans elapsedMilliseconds : ℕ) :
    makeSnapshot queries fetchedRecords resultBytes referenceFullScans targetFullScans
        elapsedMilliseconds =
      .ok ⟨queries, fetchedRecords, resultBytes, referenceFullScans, targetFullScans,
        elapsedMilliseconds⟩ := by
  simp only [makeSnapshot, validateNonnegativeInteger_natCast]
  rfl

variable (ledger)

theorem snapshot_run (s : LedgerWorld) :
    ledger.snapshot s =
      { yielded := []
        world := { s with readings := s.readings + 1 }
        result := .ok (s.ledger.usage.snapshot
          (elapsedMillisecondsSince ledger.startedNanoseconds (ledger.clock s.readings))) } := by
  simp only [snapshot, readUsage, monotonicNs, bind, Generator.bind, act, lift,
    makeSnapshot_natCast, UsageCounters.snapshot, List.append_nil]

/-- The attempt that starts in a world. -/
def attemptAt (s : LedgerWorld) (attemptId : Uuid) : Attempt where
  attemptId := attemptId
  baseline := s.ledger.usage.snapshot
    (elapsedMillisecondsSince ledger.startedNanoseconds (ledger.clock s.readings))
  startedNanoseconds := ledger.clock (s.readings + 1)

/-- The world after that attempt has started. -/
def startedWorld (s : LedgerWorld) (attemptId : Uuid) : LedgerWorld where
  ledger := { s.ledger with attemptIds := attemptId :: s.ledger.attemptIds }
  readings := s.readings + 2

theorem startAttempt_run {s : LedgerWorld} {attemptId : Uuid}
    (h : attemptId ∉ s.ledger.attemptIds) :
    ledger.startAttempt attemptId s =
      { yielded := [], world := startedWorld s attemptId
        result := .ok (ledger.attemptAt s attemptId) } := by
  simp [startAttempt, bind, Generator.bind, act, lift, refuseIf, h, snapshot_run, monotonicNs,
    pure, Generator.pure, attemptAt, startedWorld]

theorem startAttempt_started {s : LedgerWorld} {attemptId : Uuid}
    (h : attemptId ∈ s.ledger.attemptIds) :
    ledger.startAttempt attemptId s =
      { yielded := [], world := s
        result := .error
          ⟨.valueError, "source budget attempt_id has already been started"⟩ } := by
  simp [startAttempt, bind, Generator.bind, act, lift, refuseIf, h]

/-- An attempt can be measured whenever usage has not gone back since it began. -/
theorem attemptSnapshot_run {start s : LedgerWorld} {attemptId : Uuid}
    (h : UsageCounters.Grows start.ledger.usage s.ledger.usage) :
    ledger.attemptSnapshot (ledger.attemptAt start attemptId) s =
      { yielded := []
        world := { s with readings := s.readings + 2 }
        result := .ok ((s.ledger.usage.since start.ledger.usage).snapshot
          (elapsedMillisecondsSince (ledger.clock (start.readings + 1))
            (ledger.clock (s.readings + 1)))) } := by
  simp only [attemptSnapshot, attemptAt, bind, Generator.bind, snapshot_run, monotonicNs, act,
    lift, UsageCounters.snapshot, ← Int.natCast_sub h.queries, ← Int.natCast_sub h.fetchedRecords,
    ← Int.natCast_sub h.resultBytes, ← Int.natCast_sub h.referenceFullScans,
    ← Int.natCast_sub h.targetFullScans, makeSnapshot_natCast]
  rfl

variable {ledger}

/-! ## One call -/

theorem Effect.grows {s : LedgerWorld} {work : Work} {outcome : Except Refusal Unit}
    {after : LedgerState} (h : ledger.Effect s work outcome after) :
    UsageCounters.Grows s.ledger.usage after.usage := by
  cases h with
  | dispatched direction fullScans => exact UsageCounters.grows_charge _ _ _
  | records recordBytes outcome fits => exact UsageCounters.grows_receive _ _ _
  | bytes resultBytes outcome fits => exact UsageCounters.grows_receive _ _ _
  | _ => exact .refl _

theorem Effect.within {s : LedgerWorld} {work : Work} {outcome : Except Refusal Unit}
    {after : LedgerState} (h : ledger.Effect s work outcome after)
    (hwithin : ledger.Within s.ledger.usage) : ledger.Within after.usage := by
  cases h with
  | dispatched direction fullScans hqueries hscans =>
    refine ⟨hqueries, fun side => ?_⟩
    have hside := hwithin.scans_le side
    rw [UsageCounters.fullScans_charge]
    split
    · subst side
      exact hscans
    · exact hside
  | records recordBytes outcome fits => exact hwithin.receive _ _
  | bytes resultBytes outcome fits => exact hwithin.receive _ _
  | _ => exact hwithin

/-- Received records that raised nothing are within the bounds. -/
theorem Effect.records_within {s : LedgerWorld} {recordBytes : List ℤ} {after : LedgerState}
    (h : ledger.Effect s (.consumeRecords recordBytes) (.ok ()) after) :
    after.usage.fetchedRecords ≤ ledger.budgets.maxFetchedRecords ∧
      after.usage.resultBytes ≤ ledger.budgets.maxApplicationResultBytes := by
  cases h with
  | records _ _ fits => exact fits rfl

theorem Effect.bytes_within {s : LedgerWorld} {resultBytes : ℤ} {after : LedgerState}
    (h : ledger.Effect s (.consumeObservedResultBytes resultBytes) (.ok ()) after) :
    after.usage.resultBytes ≤ ledger.budgets.maxApplicationResultBytes := by
  cases h with
  | bytes _ _ fits => exact fits rfl

/-- Only received records move the records, and only received records or bytes
the bytes. -/
theorem Effect.received_eq {s : LedgerWorld} {work : Work} {outcome : Except Refusal Unit}
    {after : LedgerState} (h : ledger.Effect s work outcome after) :
    ((∃ recordBytes, work = .consumeRecords recordBytes) ∨
        after.usage.fetchedRecords = s.ledger.usage.fetchedRecords) ∧
      ((∃ recordBytes, work = .consumeRecords recordBytes) ∨
        (∃ resultBytes, work = .consumeObservedResultBytes resultBytes) ∨
        after.usage.resultBytes = s.ledger.usage.resultBytes) := by
  cases h with
  | dispatched direction fullScans =>
    cases direction <;> exact ⟨.inr rfl, .inr (.inr rfl)⟩
  | records recordBytes outcome fits => exact ⟨.inl ⟨_, rfl⟩, .inl ⟨_, rfl⟩⟩
  | bytes resultBytes outcome fits => exact ⟨.inr rfl, .inr (.inl ⟨_, rfl⟩)⟩
  | _ => exact ⟨.inr rfl, .inr (.inr rfl)⟩

variable (ledger) in
/-- Starting an attempt counts nothing, and any other call has its effect. -/
theorem call_cases (s : LedgerWorld) (next : Call) :
    s.readings ≤ (ledger.call s next).2.readings ∧
      ((∃ attemptId, next = .startAttempt attemptId ∧
          (ledger.call s next).2.ledger.usage = s.ledger.usage) ∨
        ∃ work, next = .work work ∧
          ledger.Effect s work (ledger.call s next).1 (ledger.call s next).2.ledger) := by
  cases next with
  | startAttempt attemptId =>
    by_cases h : attemptId ∈ s.ledger.attemptIds
    · simp [call, ledger.startAttempt_started h]
    · simp [call, ledger.startAttempt_run h, startedWorld]
  | work work => exact ⟨(perform_did s work).2, .inr ⟨work, rfl, (perform_did s work).1⟩⟩

theorem call_grows (s : LedgerWorld) (next : Call) :
    UsageCounters.Grows s.ledger.usage (ledger.call s next).2.ledger.usage := by
  obtain ⟨-, ⟨attemptId, -, husage⟩ | ⟨work, -, heffect⟩⟩ := ledger.call_cases s next
  · rw [husage]
  · exact heffect.grows

theorem call_within {s : LedgerWorld} (next : Call) (h : ledger.Within s.ledger.usage) :
    ledger.Within (ledger.call s next).2.ledger.usage := by
  obtain ⟨-, ⟨attemptId, -, husage⟩ | ⟨work, -, heffect⟩⟩ := ledger.call_cases s next
  · rwa [husage]
  · exact heffect.within h

/-! ## Runs -/

@[simp] theorem run_cons (s : LedgerWorld) (next : Call) (calls : List Call) :
    ledger.run s (next :: calls) = ledger.run (ledger.call s next).2 calls := rfl

theorem run_append (s : LedgerWorld) (calls calls' : List Call) :
    ledger.run s (calls ++ calls') = ledger.run (ledger.run s calls) calls' := by
  rw [run, run, run, List.foldl_append]

theorem run_grows (s : LedgerWorld) (calls : List Call) :
    UsageCounters.Grows s.ledger.usage (ledger.run s calls).ledger.usage := by
  induction calls generalizing s with
  | nil => rfl
  | cons next calls ih => exact (call_grows s next).trans (ih _)

theorem run_readings_le (s : LedgerWorld) (calls : List Call) :
    s.readings ≤ (ledger.run s calls).readings := by
  induction calls generalizing s with
  | nil => rfl
  | cons next calls ih => exact (ledger.call_cases s next).1.trans (ih _)

theorem within_initial : ledger.Within LedgerWorld.initial.ledger.usage :=
  ⟨Nat.zero_le _, fun side => by cases side <;> exact Nat.zero_le _⟩

/-- A call of a run: the world before it, how it ended and the world after it. -/
structure Entry where
  before : LedgerWorld
  next : Call
  outcome : Except Refusal Unit
  after : LedgerWorld

variable (ledger) in
/-- The calls of a run in order. -/
def history (s : LedgerWorld) : List Call → List Entry
  | [] => []
  | next :: calls =>
    { before := s, next, outcome := (ledger.call s next).1, after := (ledger.call s next).2 } ::
      history (ledger.call s next).2 calls

/-- A call that counts received records. -/
def Call.ReceivesRecords (next : Call) : Prop :=
  ∃ recordBytes, next = .work (.consumeRecords recordBytes)

/-- A call that counts received bytes. -/
def Call.ReceivesBytes (next : Call) : Prop :=
  next.ReceivesRecords ∨ ∃ resultBytes, next = .work (.consumeObservedResultBytes resultBytes)

variable (ledger) in
/-- The law of one call. -/
structure Lawful (entry : Entry) : Prop where
  within : ledger.Within entry.after.ledger.usage
  grows : UsageCounters.Grows entry.before.ledger.usage entry.after.ledger.usage
  refused : ∀ direction fullScans refusal,
    entry.next = .work (.dispatchQuery direction fullScans) → entry.outcome = .error refusal →
      entry.after.ledger = entry.before.ledger
  dispatched : ∀ direction fullScans refusal,
    entry.next = .work (.dispatchQuery direction fullScans) →
    ledger.Fits entry.before.ledger.usage direction fullScans → entry.outcome = .error refusal →
      refusal = dispatchDeadline ∧ ledger.deadlineNanoseconds ≤ ledger.clock entry.before.readings
  recordsCrossed :
    entry.before.ledger.usage.fetchedRecords ≤ ledger.budgets.maxFetchedRecords →
    ledger.budgets.maxFetchedRecords < entry.after.ledger.usage.fetchedRecords →
      entry.next.ReceivesRecords ∧ ∃ refusal, entry.outcome = .error refusal
  recordsAfter :
    ledger.budgets.maxFetchedRecords < entry.before.ledger.usage.fetchedRecords →
    entry.next.ReceivesRecords → ∃ refusal, entry.outcome = .error refusal
  bytesCrossed :
    entry.before.ledger.usage.resultBytes ≤ ledger.budgets.maxApplicationResultBytes →
    ledger.budgets.maxApplicationResultBytes < entry.after.ledger.usage.resultBytes →
      entry.next.ReceivesBytes ∧ ∃ refusal, entry.outcome = .error refusal
  bytesAfter :
    ledger.budgets.maxApplicationResultBytes < entry.before.ledger.usage.resultBytes →
    entry.next.ReceivesBytes → ∃ refusal, entry.outcome = .error refusal

/-! ### The law of a call, clause by clause -/

section

variable {s : LedgerWorld} {next : Call}

theorem call_refused {direction : Side} {fullScans : ℤ} {refusal : Refusal}
    (hnext : next = .work (.dispatchQuery direction fullScans))
    (houtcome : (ledger.call s next).1 = .error refusal) :
    (ledger.call s next).2.ledger = s.ledger ∧
      (ledger.Within s.ledger.usage → ledger.Fits s.ledger.usage direction fullScans →
        refusal = dispatchDeadline ∧ ledger.deadlineNanoseconds ≤ ledger.clock s.readings) := by
  obtain ⟨-, ⟨attemptId, hstart, -⟩ | ⟨work, hwork, heffect⟩⟩ := ledger.call_cases s next
  · cases hnext.symm.trans hstart
  · cases hnext.symm.trans hwork
    rw [houtcome] at heffect
    generalize (ledger.call s next).2.ledger = after at heffect ⊢
    cases heffect with
    | refused _ _ _ cause => exact ⟨rfl, cause⟩

theorem call_recordsOver (hnext : next.ReceivesRecords)
    (hover : ledger.budgets.maxFetchedRecords <
      (ledger.call s next).2.ledger.usage.fetchedRecords) :
    ∃ refusal, (ledger.call s next).1 = .error refusal := by
  obtain ⟨recordBytes, rfl⟩ := hnext
  obtain ⟨-, ⟨attemptId, hstart, -⟩ | ⟨work, hwork, heffect⟩⟩ :=
    ledger.call_cases s (.work (.consumeRecords recordBytes))
  · cases hstart
  · cases hwork
    cases houtcome : (ledger.call s (.work (.consumeRecords recordBytes))).1 with
    | error refusal => exact ⟨refusal, rfl⟩
    | ok u =>
      rw [houtcome] at heffect
      have := heffect.records_within.1
      omega

theorem call_bytesOver (hnext : next.ReceivesBytes)
    (hover : ledger.budgets.maxApplicationResultBytes <
      (ledger.call s next).2.ledger.usage.resultBytes) :
    ∃ refusal, (ledger.call s next).1 = .error refusal := by
  obtain ⟨-, ⟨attemptId, hstart, -⟩ | ⟨work, hwork, heffect⟩⟩ := ledger.call_cases s next
  · subst hstart
    rcases hnext with ⟨recordBytes, h⟩ | ⟨resultBytes, h⟩ <;> cases h
  · subst hwork
    cases houtcome : (ledger.call s (.work work)).1 with
    | error refusal => exact ⟨refusal, rfl⟩
    | ok u =>
      rw [houtcome] at heffect
      rcases hnext with ⟨recordBytes, h⟩ | ⟨resultBytes, h⟩
      · cases h
        have := heffect.records_within.2
        omega
      · cases h
        have := heffect.bytes_within
        omega

variable (ledger) in
theorem call_received (s : LedgerWorld) (next : Call) :
    (next.ReceivesRecords ∨
        (ledger.call s next).2.ledger.usage.fetchedRecords = s.ledger.usage.fetchedRecords) ∧
      (next.ReceivesBytes ∨
        (ledger.call s next).2.ledger.usage.resultBytes = s.ledger.usage.resultBytes) := by
  obtain ⟨-, ⟨attemptId, -, husage⟩ | ⟨work, rfl, heffect⟩⟩ := ledger.call_cases s next
  · rw [husage]
    exact ⟨.inr rfl, .inr rfl⟩
  · obtain ⟨hrecords, hbytes⟩ := heffect.received_eq
    refine ⟨hrecords.imp_left ?_, ?_⟩
    · rintro ⟨recordBytes, rfl⟩
      exact ⟨recordBytes, rfl⟩
    · rcases hbytes with ⟨recordBytes, rfl⟩ | ⟨resultBytes, rfl⟩ | hbytes
      · exact .inl (.inl ⟨recordBytes, rfl⟩)
      · exact .inl (.inr ⟨resultBytes, rfl⟩)
      · exact .inr hbytes

end

theorem lawful_call {s : LedgerWorld} (next : Call) (h : ledger.Within s.ledger.usage) :
    ledger.Lawful ⟨s, next, (ledger.call s next).1, (ledger.call s next).2⟩ where
  within := call_within next h
  grows := call_grows s next
  refused direction fullScans refusal hnext houtcome := (call_refused hnext houtcome).1
  dispatched direction fullScans refusal hnext hfits houtcome :=
    (call_refused hnext houtcome).2 h hfits
  recordsCrossed hbefore hafter := by
    have hreceives := (ledger.call_received s next).1.resolve_right fun heq => by
      dsimp only at hbefore hafter
      omega
    exact ⟨hreceives, call_recordsOver hreceives hafter⟩
  recordsAfter hbefore hreceives :=
    call_recordsOver hreceives (hbefore.trans_le (call_grows s next).fetchedRecords)
  bytesCrossed hbefore hafter := by
    have hreceives := (ledger.call_received s next).2.resolve_right fun heq => by
      dsimp only at hbefore hafter
      omega
    exact ⟨hreceives, call_bytesOver hreceives hafter⟩
  bytesAfter hbefore hreceives :=
    call_bytesOver hreceives (hbefore.trans_le (call_grows s next).resultBytes)

theorem lawful_history {s : LedgerWorld} (calls : List Call) (h : ledger.Within s.ledger.usage) :
    ∀ entry ∈ ledger.history s calls, ledger.Lawful entry := by
  induction calls generalizing s with
  | nil => simp [history]
  | cons next calls ih =>
    intro entry hmem
    rw [history, List.mem_cons] at hmem
    rcases hmem with rfl | hmem
    · exact lawful_call next h
    · exact ih (call_within next h) entry hmem

theorem history_crosses (count : LedgerWorld → ℕ) {limit : ℕ} {s : LedgerWorld}
    {calls : List Call} (hbefore : count s ≤ limit) (hafter : limit < count (ledger.run s calls)) :
    ∃ entry ∈ ledger.history s calls, count entry.before ≤ limit ∧ limit < count entry.after := by
  induction calls generalizing s with
  | nil => exact absurd hafter (not_lt.mpr hbefore)
  | cons next calls ih =>
    by_cases hnext : limit < count (ledger.call s next).2
    · exact ⟨_, List.mem_cons_self, hbefore, hnext⟩
    · obtain ⟨entry, hmem, hentry⟩ := ih (not_lt.mp hnext) hafter
      exact ⟨entry, List.mem_cons_of_mem _ hmem, hentry⟩

/-! ### Attempts one after another -/

theorem Effect.attemptIds {s : LedgerWorld} {work : Work} {outcome : Except Refusal Unit}
    {after : LedgerState} (h : ledger.Effect s work outcome after) :
    after.attemptIds = s.ledger.attemptIds := by
  cases h <;> rfl

theorem run_works_attemptIds (s : LedgerWorld) (works : List Work) :
    (ledger.run s (works.map .work)).ledger.attemptIds = s.ledger.attemptIds := by
  induction works generalizing s with
  | nil => rfl
  | cons work works ih =>
    rw [List.map_cons, run_cons, ih]
    exact (perform_did s work).1.attemptIds

/-- The measured attempts lead from one usage to another. -/
structure AddUp (usage : UsageCounters) (used : List SourceUsageSnapshot)
    (after : UsageCounters) : Prop where
  queries : usage.queries + (used.map (·.queries)).sum = after.queries
  fetchedRecords : usage.fetchedRecords + (used.map (·.fetchedRecords)).sum = after.fetchedRecords
  resultBytes : usage.resultBytes + (used.map (·.resultBytes)).sum = after.resultBytes
  referenceFullScans :
    usage.referenceFullScans + (used.map (·.referenceFullScans)).sum = after.referenceFullScans
  targetFullScans :
    usage.targetFullScans + (used.map (·.targetFullScans)).sum = after.targetFullScans

theorem AddUp.nil (usage : UsageCounters) : AddUp usage [] usage :=
  ⟨rfl, rfl, rfl, rfl, rfl⟩

theorem AddUp.cons {usage between after : UsageCounters} {used : List SourceUsageSnapshot}
    {elapsed : ℕ} (hgrows : UsageCounters.Grows usage between) (h : AddUp between used after) :
    AddUp usage ((between.since usage).snapshot elapsed :: used) after := by
  obtain ⟨hqueries, hrecords, hbytes, hreference, htarget⟩ := h
  obtain ⟨hqueries', hrecords', hbytes', hreference', htarget'⟩ := hgrows
  constructor <;>
    simp only [List.map_cons, List.sum_cons, UsageCounters.snapshot, UsageCounters.since] <;>
    omega

/-- Time between two readings, in whole milliseconds, is no more than passed. -/
theorem elapsed_mul_le (started now : ℕ) (h : started ≤ now) :
    elapsedMillisecondsSince started now * 1000000 + started ≤ now := by
  have hdiv := Nat.div_mul_le_self (now - started) 1000000
  exact Nat.add_le_of_le_sub h hdiv

theorem runAttempts_cons {plans : List (Uuid × List Work)} {s worked : LedgerWorld}
    {attemptId : Uuid} {works : List Work} {used : List SourceUsageSnapshot}
    (hfresh : attemptId ∉ s.ledger.attemptIds)
    (hworked : ledger.run (startedWorld s attemptId) (works.map .work) = worked)
    (hgrows : UsageCounters.Grows s.ledger.usage worked.ledger.usage)
    (hused : (ledger.runAttempts plans { worked with readings := worked.readings + 2 }).result
      = .ok used) :
    (ledger.runAttempts ((attemptId, works) :: plans) s).result =
        .ok ((worked.ledger.usage.since s.ledger.usage).snapshot
          (elapsedMillisecondsSince (ledger.clock (s.readings + 1))
            (ledger.clock (worked.readings + 1))) :: used) ∧
      (ledger.runAttempts ((attemptId, works) :: plans) s).world =
        (ledger.runAttempts plans { worked with readings := worked.readings + 2 }).world := by
  have hmeasure : ledger.attemptSnapshot (ledger.attemptAt s attemptId) worked = _ :=
    ledger.attemptSnapshot_run hgrows
  simp only [runAttempts, bind, Generator.bind, ledger.startAttempt_run hfresh, act, hworked,
    hmeasure, hused, pure, Generator.pure, and_self]

theorem runAttempts_run {plans : List (Uuid × List Work)} {s : LedgerWorld}
    (hnodup : (plans.map Prod.fst).Nodup)
    (hfresh : ∀ attemptId ∈ plans.map Prod.fst, attemptId ∉ s.ledger.attemptIds) :
    ∃ used, (ledger.runAttempts plans s).result = .ok used ∧
      AddUp s.ledger.usage used (ledger.runAttempts plans s).world.ledger.usage ∧
      (used.map (·.elapsedMilliseconds)).sum * 1000000 + ledger.clock s.readings
        ≤ ledger.clock (ledger.runAttempts plans s).world.readings := by
  induction plans generalizing s with
  | nil => exact ⟨[], rfl, .nil _, by simp [runAttempts, pure, Generator.pure]⟩
  | cons plan rest ih =>
    obtain ⟨attemptId, works⟩ := plan
    rw [List.map_cons, List.nodup_cons] at hnodup
    have hgrows : UsageCounters.Grows s.ledger.usage _ :=
      ledger.run_grows (startedWorld s attemptId) (works.map .work)
    have hreadings := ledger.run_readings_le (startedWorld s attemptId) (works.map .work)
    have hids := ledger.run_works_attemptIds (startedWorld s attemptId) works
    generalize hworked : ledger.run (startedWorld s attemptId) (works.map .work) = worked at *
    have hrestFresh : ∀ other ∈ rest.map Prod.fst, other ∉ worked.ledger.attemptIds := by
      intro other hmem
      rw [hids, startedWorld, List.mem_cons, not_or]
      exact ⟨fun heq => hnodup.1 (heq ▸ hmem), hfresh other (List.mem_cons_of_mem _ hmem)⟩
    obtain ⟨used, hused, hadd, htime⟩ :=
      @ih { worked with readings := worked.readings + 2 } hnodup.2 hrestFresh
    obtain ⟨hresult, hworld⟩ :=
      runAttempts_cons (hfresh attemptId List.mem_cons_self) hworked hgrows hused
    refine ⟨_, hresult, ?_, ?_⟩
    · rw [hworld]
      exact hadd.cons hgrows
    · rw [hworld, List.map_cons, List.sum_cons]
      have hbetween : s.readings + 1 ≤ worked.readings + 1 := by
        simp only [startedWorld] at hreadings
        omega
      have hfirst := elapsed_mul_le _ _ (ledger.clock_mono hbetween)
      calc _ ≤ (elapsedMillisecondsSince (ledger.clock (s.readings + 1))
                (ledger.clock (worked.readings + 1)) +
              (used.map (·.elapsedMilliseconds)).sum) * 1000000 + ledger.clock (s.readings + 1) :=
            Nat.add_le_add_left (ledger.clock_mono (Nat.le_succ _)) _
        _ ≤ (used.map (·.elapsedMilliseconds)).sum * 1000000
              + ledger.clock (worked.readings + 1) := by
            rw [Nat.add_mul, Nat.add_right_comm, Nat.add_comm]
            exact Nat.add_le_add_left hfirst _
        _ ≤ (used.map (·.elapsedMilliseconds)).sum * 1000000
              + ledger.clock (worked.readings + 2) :=
            Nat.add_le_add_left (ledger.clock_mono (Nat.le_succ _)) _
        _ ≤ _ := htime

/-! ## The law of the ledger -/

/-- The ledger's bounds over every run, and what its attempts measure. -/
structure BudgetLaw (ledger : SourceBudgetLedger) : Prop where
  lawful : ∀ calls, ∀ entry ∈ ledger.history .initial calls, ledger.Lawful entry
  recordsOver : ∀ calls,
    ledger.budgets.maxFetchedRecords < (ledger.run .initial calls).ledger.usage.fetchedRecords →
    ∃ entry ∈ ledger.history .initial calls,
      entry.before.ledger.usage.fetchedRecords ≤ ledger.budgets.maxFetchedRecords ∧
        ledger.budgets.maxFetchedRecords < entry.after.ledger.usage.fetchedRecords ∧
        entry.next.ReceivesRecords ∧ ∃ refusal, entry.outcome = .error refusal
  bytesOver : ∀ calls,
    ledger.budgets.maxApplicationResultBytes <
      (ledger.run .initial calls).ledger.usage.resultBytes →
    ∃ entry ∈ ledger.history .initial calls,
      entry.before.ledger.usage.resultBytes ≤ ledger.budgets.maxApplicationResultBytes ∧
        ledger.budgets.maxApplicationResultBytes < entry.after.ledger.usage.resultBytes ∧
        entry.next.ReceivesBytes ∧ ∃ refusal, entry.outcome = .error refusal
  measured : ∀ earlier attemptId later attempt,
    (ledger.startAttempt attemptId (ledger.run .initial earlier)).result = .ok attempt →
    ∃ used, (ledger.attemptSnapshot attempt (ledger.run .initial
        (earlier ++ .startAttempt attemptId :: later))).result = .ok used ∧
      AddUp (ledger.run .initial earlier).ledger.usage [used]
        (ledger.run .initial (earlier ++ .startAttempt attemptId :: later)).ledger.usage
  attempts : ∀ plans : List (Uuid × List Work), (plans.map Prod.fst).Nodup →
    ∃ used, (ledger.runAttempts plans .initial).result = .ok used ∧
      AddUp .zero used (ledger.runAttempts plans .initial).world.ledger.usage ∧
      (used.map (·.elapsedMilliseconds)).sum ≤
        elapsedMillisecondsSince ledger.startedNanoseconds
          (ledger.clock (ledger.runAttempts plans .initial).world.readings)

theorem source_budget_law (ledger : SourceBudgetLedger) : BudgetLaw ledger where
  lawful calls := lawful_history calls within_initial
  recordsOver calls hover := by
    obtain ⟨entry, hmem, hbefore, hafter⟩ :=
      history_crosses (fun s => s.ledger.usage.fetchedRecords) (Nat.zero_le _) hover
    exact ⟨entry, hmem, hbefore, hafter,
      (lawful_history calls within_initial entry hmem).recordsCrossed hbefore hafter⟩
  bytesOver calls hover := by
    obtain ⟨entry, hmem, hbefore, hafter⟩ :=
      history_crosses (fun s => s.ledger.usage.resultBytes) (Nat.zero_le _) hover
    exact ⟨entry, hmem, hbefore, hafter,
      (lawful_history calls within_initial entry hmem).bytesCrossed hbefore hafter⟩
  measured earlier attemptId later attempt hstart := by
    have hgrows := ledger.run_grows (ledger.run .initial earlier) (.startAttempt attemptId :: later)
    rw [← run_append] at hgrows
    by_cases hstarted : attemptId ∈ (ledger.run .initial earlier).ledger.attemptIds
    · rw [ledger.startAttempt_started hstarted] at hstart
      cases hstart
    · rw [ledger.startAttempt_run hstarted] at hstart
      obtain rfl := Except.ok.inj hstart
      exact ⟨_, congrArg Run.result (ledger.attemptSnapshot_run hgrows), (AddUp.nil _).cons hgrows⟩
  attempts plans hnodup := by
    have hfresh : ∀ attemptId ∈ plans.map Prod.fst,
        attemptId ∉ LedgerWorld.initial.ledger.attemptIds := fun _ _ => List.not_mem_nil
    obtain ⟨used, hresult, hadd, htime⟩ := runAttempts_run hnodup hfresh
    refine ⟨used, hresult, hadd, ?_⟩
    rw [elapsedMillisecondsSince, Nat.le_div_iff_mul_le (by decide)]
    have hstarted : ledger.startedNanoseconds ≤ ledger.clock LedgerWorld.initial.readings :=
      ledger.started_le
    exact Nat.le_sub_of_add_le ((Nat.add_le_add_left hstarted _).trans htime)

end SourceBudgetLedger

end ForensicData
