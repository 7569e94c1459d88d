/-
ForensicData.SourceLedger — the ledger of a run's source work, method by method.

`SourceUsage` of `SourceBudget` says what the ledger counts; this module is the
ledger as its methods run: each reads the clock, checks, and changes one counter
after another, so an exception raised in between leaves what was changed before
it. An attempt is a view on the ledger from the usage it began with.
-/
import Mathlib.Algebra.GroupWithZero.Nat
import Mathlib.Algebra.Ring.Int.Defs
import Mathlib.Data.Int.Notation
import Mathlib.Order.Monotone.Basic
import ForensicData.Lib.Generator
import ForensicData.Result.RunResult
import ForensicData.SourceBudget

namespace ForensicData

open Lib Lib.Generator
open Result (Uuid)

def Side.value : Side → String
  | .reference => "reference"
  | .target => "target"

/-- `_PostgresSourceUsage`, its counters free to move. -/
structure UsageCounters where
  queries : ℕ
  fetchedRecords : ℕ
  resultBytes : ℕ
  referenceFullScans : ℕ
  targetFullScans : ℕ
  deriving DecidableEq, Repr

namespace UsageCounters

def zero : UsageCounters := ⟨0, 0, 0, 0, 0⟩

def fullScans (usage : UsageCounters) : Side → ℕ
  | .reference => usage.referenceFullScans
  | .target => usage.targetFullScans

def addFullScans (usage : UsageCounters) (count : ℕ) : Side → UsageCounters
  | .reference => { usage with referenceFullScans := usage.referenceFullScans + count }
  | .target => { usage with targetFullScans := usage.targetFullScans + count }

end UsageCounters

/-- The part of the ledger that changes. -/
structure LedgerState where
  usage : UsageCounters
  attemptIds : List Uuid
  deriving DecidableEq, Repr

/-- The ledger and how often the clock was read. -/
structure LedgerWorld where
  ledger : LedgerState
  readings : ℕ

/-- The part of the ledger that is fixed when it is made, and the monotonic clock
of the process. -/
structure SourceBudgetLedger where
  budgets : ExecutionBudgets
  startedNanoseconds : ℕ
  clock : ℕ → ℕ
  clock_mono : Monotone clock
  started_le : startedNanoseconds ≤ clock 0

abbrev LedgerM (α : Type) : Type := Generator LedgerWorld Empty Refusal α

/-- `PostgresSourceBudgetLedger(budgets)`. -/
def LedgerWorld.initial : LedgerWorld := ⟨⟨.zero, []⟩, 0⟩

/-- `_validate_nonnegative_integer`. -/
def validateNonnegativeInteger (value : ℤ) (fieldName : String) : Except Refusal Unit :=
  refuseIf (value < 0)
    { error := .valueError, message := s!"{fieldName} must be a non-negative integer" }

def readUsage : LedgerM UsageCounters := act fun world => (.ok world.ledger.usage, world)

def modifyUsage (change : UsageCounters → UsageCounters) : LedgerM Unit :=
  act fun world =>
    (.ok (), { world with ledger := { world.ledger with usage := change world.ledger.usage } })

def readDeadlineExceeded (message : String) : Refusal :=
  { error := .postgresReadDeadlineExceededError, message }

namespace SourceBudgetLedger

variable (ledger : SourceBudgetLedger)

def deadlineNanoseconds : ℕ :=
  ledger.startedNanoseconds + ledger.budgets.runTimeoutMilliseconds * 1000000

/-- `time.monotonic_ns()`. -/
def monotonicNs : LedgerM ℕ :=
  act fun world => (.ok (ledger.clock world.readings), { world with readings := world.readings + 1 })

/-- `if time.monotonic_ns() >= self._deadline_nanoseconds: raise`. -/
def requireDeadline (message : String) : LedgerM Unit := do
  let now ← ledger.monotonicNs
  lift (refuseIf (ledger.deadlineNanoseconds ≤ now) (readDeadlineExceeded message))

/-- The text of `_require_source_deadline`. -/
def sourceDeadlineMessage (operation : String) : String :=
  s!"PostgreSQL {operation} exceeded the immutable whole-run source deadline"

/-! ## Dispatching and consuming -/

/-- The branches of `dispatch_query` on the side that is read. -/
def chargeFullScans (direction : Side) (fullScans : ℕ) : LedgerM Unit := do
  let usage ← readUsage
  lift (refuseIf (ledger.budgets.maxFullScansPerSide < usage.fullScans direction + fullScans)
    (budgetExceeded (s!"next {direction.value} source query exceeds immutable whole-run " ++
      "max_full_scans_per_side")))
  modifyUsage fun usage => usage.addFullScans fullScans direction

/-- `dispatch_query`. -/
def dispatchQuery (direction : Side) (fullScans : ℤ) : LedgerM Unit := do
  lift (validateNonnegativeInteger fullScans "source query full_scans")
  ledger.requireDeadline (sourceDeadlineMessage "source query dispatch")
  let usage ← readUsage
  lift (refuseIf (ledger.budgets.maxQueries ≤ usage.queries)
    (budgetExceeded "next source query exceeds immutable whole-run max_queries"))
  ledger.chargeFullScans direction fullScans.toNat
  modifyUsage fun usage => { usage with queries := usage.queries + 1 }

/-- The check of the received records. -/
def requireRecords : LedgerM Unit := do
  let usage ← readUsage
  lift (refuseIf (ledger.budgets.maxFetchedRecords < usage.fetchedRecords)
    (budgetExceeded "source reads exceeded immutable whole-run max_fetched_records"))

/-- The check of the received bytes. -/
def requireResultBytes : LedgerM Unit := do
  let usage ← readUsage
  lift (refuseIf (ledger.budgets.maxApplicationResultBytes < usage.resultBytes)
    (budgetExceeded "source reads exceeded immutable whole-run max_application_result_bytes"))

/-- `consume_records`; `consume_record` calls it with one size. -/
def consumeRecords (recordBytes : List ℤ) : LedgerM Unit := do
  lift (recordBytes.forM fun value =>
    validateNonnegativeInteger value "source result record_bytes")
  modifyUsage fun usage =>
    { usage with fetchedRecords := usage.fetchedRecords + recordBytes.length }
  modifyUsage fun usage =>
    { usage with resultBytes := usage.resultBytes + recordBytes.sum.toNat }
  ledger.requireDeadline ("PostgreSQL source work exceeded the immutable whole-run deadline " ++
    "while receiving a result")
  ledger.requireRecords
  ledger.requireResultBytes

/-- `consume_observed_result_bytes`. -/
def consumeObservedResultBytes (resultBytes : ℤ) : LedgerM Unit := do
  lift (validateNonnegativeInteger resultBytes "source observed result_bytes")
  modifyUsage fun usage => { usage with resultBytes := usage.resultBytes + resultBytes.toNat }
  ledger.requireDeadline ("PostgreSQL source work exceeded the immutable whole-run deadline " ++
    "while receiving an unmaterialized result")
  ledger.requireResultBytes

/-- `require_result_fetch_deadline`. -/
def requireResultFetchDeadline : LedgerM Unit :=
  ledger.requireDeadline (sourceDeadlineMessage "source result fetch")

/-- `remaining`, without its deadline. -/
def remaining (usage : UsageCounters) : SourceCapacity where
  queries := ledger.budgets.maxQueries - usage.queries
  fetchedRecords := ledger.budgets.maxFetchedRecords - usage.fetchedRecords
  resultBytes := ledger.budgets.maxApplicationResultBytes - usage.resultBytes
  referenceFullScans := ledger.budgets.maxFullScansPerSide - usage.referenceFullScans
  targetFullScans := ledger.budgets.maxFullScansPerSide - usage.targetFullScans

/-! ## Snapshots and attempts -/

/-- `PostgresSourceUsageSnapshot(...)`. -/
def makeSnapshot (queries fetchedRecords resultBytes referenceFullScans targetFullScans
    elapsedMilliseconds : ℤ) : Except Refusal SourceUsageSnapshot := do
  validateNonnegativeInteger queries "source usage queries"
  validateNonnegativeInteger fetchedRecords "source usage fetched_records"
  validateNonnegativeInteger resultBytes "source usage result_bytes"
  validateNonnegativeInteger referenceFullScans "source usage reference_full_scans"
  validateNonnegativeInteger targetFullScans "source usage target_full_scans"
  validateNonnegativeInteger elapsedMilliseconds "source usage elapsed_milliseconds"
  return {
    queries := queries.toNat
    fetchedRecords := fetchedRecords.toNat
    resultBytes := resultBytes.toNat
    referenceFullScans := referenceFullScans.toNat
    targetFullScans := targetFullScans.toNat
    elapsedMilliseconds := elapsedMilliseconds.toNat }

/-- `snapshot`; `_source_usage_snapshot` of the usage and the time since the
ledger began. -/
def snapshot : LedgerM SourceUsageSnapshot := do
  let usage ← readUsage
  let now ← ledger.monotonicNs
  lift (makeSnapshot usage.queries usage.fetchedRecords usage.resultBytes
    usage.referenceFullScans usage.targetFullScans
    (elapsedMillisecondsSince ledger.startedNanoseconds now))

/-- `PostgresSourceBudgetAttempt`. -/
structure Attempt where
  attemptId : Uuid
  baseline : SourceUsageSnapshot
  startedNanoseconds : ℕ

/-- `start_attempt`. -/
def startAttempt (attemptId : Uuid) : LedgerM Attempt := do
  let attemptIds ← act fun world => (.ok world.ledger.attemptIds, world)
  lift (refuseIf (attemptId ∈ attemptIds)
    { error := .valueError,
      message := "source budget attempt_id has already been started" })
  act fun world =>
    (.ok (), { world with ledger := { world.ledger with attemptIds := attemptId :: attemptIds } })
  let baseline ← ledger.snapshot
  let startedNanoseconds ← ledger.monotonicNs
  return { attemptId, baseline, startedNanoseconds }

/-- `PostgresSourceBudgetAttempt.snapshot`. -/
def attemptSnapshot (attempt : Attempt) : LedgerM SourceUsageSnapshot := do
  let current ← ledger.snapshot
  let now ← ledger.monotonicNs
  lift (makeSnapshot (current.queries - attempt.baseline.queries)
    (current.fetchedRecords - attempt.baseline.fetchedRecords)
    (current.resultBytes - attempt.baseline.resultBytes)
    (current.referenceFullScans - attempt.baseline.referenceFullScans)
    (current.targetFullScans - attempt.baseline.targetFullScans)
    (elapsedMillisecondsSince attempt.startedNanoseconds now))

/-! ## Runs -/

/-- A call on the ledger while a source is read. An attempt and a query's charge
pass theirs on to the ledger. -/
inductive Work where
  | dispatchQuery (direction : Side) (fullScans : ℤ)
  | consumeRecords (recordBytes : List ℤ)
  | consumeObservedResultBytes (resultBytes : ℤ)
  | requireResultFetchDeadline

def perform : Work → LedgerM Unit
  | .dispatchQuery direction fullScans => ledger.dispatchQuery direction fullScans
  | .consumeRecords recordBytes => ledger.consumeRecords recordBytes
  | .consumeObservedResultBytes resultBytes => ledger.consumeObservedResultBytes resultBytes
  | .requireResultFetchDeadline => ledger.requireResultFetchDeadline

/-- A call on the ledger in the course of a run. -/
inductive Call where
  | startAttempt (attemptId : Uuid)
  | work (work : Work)

/-- What a call leaves: the refusal it raised, if any, and the world. -/
def call (world : LedgerWorld) : Call → Except Refusal Unit × LedgerWorld
  | .startAttempt attemptId =>
    (((ledger.startAttempt attemptId) world).result.map fun _ => (),
      ((ledger.startAttempt attemptId) world).world)
  | .work work => (((ledger.perform work) world).result, ((ledger.perform work) world).world)

/-- The world after a list of calls, whichever of them raised. -/
def run (world : LedgerWorld) (calls : List Call) : LedgerWorld :=
  calls.foldl (fun world next => (ledger.call world next).2) world

/-- Attempts one after another: each is started, reads its sources, goes on after
what was refused, and is measured at its end. -/
def runAttempts : List (Uuid × List Work) → LedgerM (List SourceUsageSnapshot)
  | [] => pure []
  | (attemptId, works) :: rest => do
    let attempt ← ledger.startAttempt attemptId
    act fun world => (.ok (), ledger.run world (works.map .work))
    let used ← ledger.attemptSnapshot attempt
    let others ← runAttempts rest
    return used :: others

end SourceBudgetLedger

end ForensicData
