/-
ForensicData.Persistence.Reconciliation — a lifecycle write that may lose its
connection.

A lifecycle write is one transaction that leaves a receipt under the identities
it has locked. Around it is a loop of attempts (`runWithReconciliation`): where
the connection is lost so that the write may have been committed, the loop looks
for the receipt under the same locks before it writes again or gives up
(`tryReconcile`).

What the connections do in each attempt is given by its `AttemptFate`; what
other clients and a transaction of a lost connection do in the meantime is part
of it.
-/
import ForensicData.Lib.KeyedCommits
import ForensicData.Persistence.Registration

namespace ForensicData.Persistence

open ForensicData.Lib
open ForensicData.Result

/-! ## Writes -/

/-- The two errors with which the loop itself ends. -/
def IsRetryError (refusal : Refusal) : Prop :=
  refusal.error = .lifecycleTransactionError ∨ refusal.error = .lifecycleCommitUnknownError

/-- A write with its lookup, under the locks of its identities. -/
structure LifecycleWrite (Store Result : Type) extends Keyed Store where
  operation : String
  /-- The write up to its `COMMIT`: its result, and what it changes. -/
  once : Store → Except Refusal (Result × Effect Store)
  /-- The lookup of its receipt, up to its `COMMIT`. -/
  lookup : Store → Except Refusal (Option Result)
  once_replay : ∀ {store result}, once store = .ok (result, none) → 0 < count store
  once_change : ∀ {store result change}, once store = .ok (result, some change) →
    Free store ∧ toKeyed.Stores change
  once_refusal : ∀ {store refusal}, once store = .error refusal → ¬ IsRetryError refusal
  lookup_none : ∀ {store}, lookup store = .ok none → count store = 0
  lookup_some : ∀ {store result}, lookup store = .ok (some result) → 0 < count store
  lookup_own : ∀ {store}, Own store → ∃ result, lookup store = .ok (some result)
  lookup_refusal : ∀ {store refusal}, lookup store = .error refusal → ¬ IsRetryError refusal

variable {Store Result : Type}

/-! ## Fates -/

/-- `_is_ambiguous_connection_failure`, of the error's SQLSTATE. -/
def isAmbiguousConnectionFailure : Option String → Bool
  | none => true
  | some sqlstate =>
    ['0', '8'].isPrefixOf sqlstate.toList || ["57P01", "57P02", "57P03"].contains sqlstate

/-- A `psycopg.OperationalError` that leaves open what the server did. -/
def DriverError.IsAmbiguous : DriverError → Prop
  | .operationalError _ sqlstate => isAmbiguousConnectionFailure sqlstate = true
  | .otherError _ _ => False

/-- What ends a connection before its `COMMIT`: the driver, or a check of the server
and of its schema. -/
inductive Failure where
  | driver (error : DriverError)
  | check (refusal : Refusal) (other : ¬ IsRetryError refusal)

def Failure.raised : Failure → Raised
  | .driver error => .driver error
  | .check refusal _ => .refusal refusal

/-- What becomes of a transaction whose `COMMIT` is not answered. -/
inductive Landing where
  | committed
  | rolledBack
  | pending

def Landing.land (effect : Effect Store) (server : Server Store) : Landing → Server Store
  | .committed => server.commit effect
  | .rolledBack => server
  | .pending => { server with pending := some effect }

/-- What comes of a `COMMIT`. An error that is not ambiguous is the server's word that
the transaction was rolled back. -/
inductive CommitFate where
  | answered
  | refused (error : DriverError) (definite : ¬ error.IsAmbiguous)
  | lost (errorType : String) (sqlstate : Option String)
      (ambiguous : isAmbiguousConnectionFailure sqlstate = true) (landing : Landing)

/-- What comes of a connection of the write: it does not reach the write, ends in it
before the `COMMIT`, or reaches the `COMMIT`. -/
inductive WriteFate (key : Keyed Store) where
  | unconnected (meanwhile : Meanwhile key) (failure : Failure)
  | interrupted (meanwhile : Meanwhile key) (failure : Failure)
  | commits (granted : Granted key) (beside : Beside key) (commit : CommitFate)

/-- What comes of a connection of the lookup: it fails up to its locks or in one of its
statements, or reaches its `COMMIT`, which may fail. -/
inductive ReconcileFate (key : Keyed Store) where
  | unavailable (meanwhile : Meanwhile key)
  | granted (granted : Granted key) (answered : Bool)

/-- The connections of an attempt: one may look for the receipt before its write, and
one after it. -/
structure AttemptFate (key : Keyed Store) where
  before : ReconcileFate key
  write : WriteFate key
  after : ReconcileFate key

/-! ## The lookup -/

/-- A result, `_ReceiptAbsent` or `_ReconciliationUnavailable`. -/
inductive Reconciled (Result : Type) where
  | receipt (result : Result)
  | absent
  | unavailable

/-- `_try_reconcile`. -/
def tryReconcile (write : LifecycleWrite Store Result) (server : Server Store) :
    ReconcileFate write.toKeyed → Except Refusal (Reconciled Result) × Server Store
  | .unavailable meanwhile => (.ok .unavailable, meanwhile.1 server)
  | .granted granted answered =>
    let server := granted.1 server
    match write.lookup server.store with
    | .error refusal => (.error refusal, server)
    | .ok found =>
      if answered = false then (.ok .unavailable, server)
      else
        match found with
        | some result => (.ok (.receipt result), server)
        | none => (.ok .absent, server)

/-! ## The write -/

/-- How a connection of the write ends; `write_entered` is whether it had begun. -/
inductive WriteEnd (Result : Type) where
  | returned (result : Result)
  | raised (raised : Raised) (writeEntered : Bool)

/-- The `try` block of an attempt. -/
def connectAndWrite (write : LifecycleWrite Store Result) (server : Server Store) :
    WriteFate write.toKeyed → WriteEnd Result × Server Store
  | .unconnected meanwhile failure => (.raised failure.raised false, meanwhile.1 server)
  | .interrupted meanwhile failure => (.raised failure.raised true, meanwhile.1 server)
  | .commits granted beside commit =>
    let server := granted.1 server
    match write.once server.store with
    | .error refusal => (.raised (.refusal refusal) true, server)
    | .ok (result, effect) =>
      let server := { server with store := beside.1 server.store }
      match commit with
      | .answered => (.returned result, server.commit effect)
      | .refused error _ => (.raised (.driver error) true, server)
      | .lost errorType sqlstate _ landing =>
        (.raised (.driver (.operationalError errorType sqlstate)) true,
          landing.land effect server)

/-! ## The loop -/

/-- `PostgresRetryPolicy`, without its delay. -/
structure PostgresRetryPolicy where
  maxAttempts : ℕ
  maxAttempts_pos : 0 < maxAttempts

/-- `PostgresConnectionSettings`, as far as its errors name them. -/
structure PostgresConnectionSettings where
  host : String
  port : ℕ
  dbname : String
  user : String

/-- The last `psycopg.OperationalError`. -/
structure OperationalFailure where
  errorType : String
  sqlstate : Option String

def sqlstateText : Option String → String
  | none => "None"
  | some sqlstate => s!"'{sqlstate}'"

/-- The write raised another error of the driver. -/
def definitivelyFailed (operation errorType : String) (sqlstate : Option String) : Refusal where
  error := .lifecycleTransactionError
  message := "PostgreSQL lifecycle transaction definitively failed and was rolled back: "
    ++ s!"operation='{operation}', error_type={errorType}, sqlstate={sqlstateText sqlstate}"

def afterAttempts (settings : PostgresConnectionSettings) (policy : PostgresRetryPolicy)
    (operation : String) (lastError : OperationalFailure) : String :=
  s!"operation='{operation}', host='{settings.host}', port={settings.port}, "
    ++ s!"dbname='{settings.dbname}', user='{settings.user}', attempts={policy.maxAttempts}, "
    ++ s!"error_type={lastError.errorType}, sqlstate={sqlstateText lastError.sqlstate}"

/-- The attempts are used up. -/
def exhausted (settings : PostgresConnectionSettings) (policy : PostgresRetryPolicy)
    (operation : String) : Option OperationalFailure → Bool → Refusal
  | none, _ =>
    { error := .assertionError
      message := "lifecycle retry loop ended without an operational error" }
  | some lastError, false =>
    { error := .lifecycleTransactionError
      message := "PostgreSQL lifecycle transaction failed and no ambiguous commit remained "
        ++ "after bounded attempts: " ++ afterAttempts settings policy operation lastError }
  | some lastError, true =>
    { error := .lifecycleCommitUnknownError
      message := "PostgreSQL lifecycle operation could not be confirmed after bounded retries: "
        ++ afterAttempts settings policy operation lastError }

/-- What an attempt comes to: an end of the loop, or the last error and whether a
commit is unresolved. -/
inductive Turn (Result : Type) where
  | ended (outcome : Except Refusal Result)
  | again (lastError : Option OperationalFailure) (unresolved : Bool)

section Loop

variable (write : LifecycleWrite Store Result) (fate : AttemptFate write.toKeyed)

/-- An attempt behind its write. -/
def afterWrite (server : Server Store) : WriteEnd Result → Turn Result × Server Store
  | .returned result => (.ended (.ok result), server)
  | .raised (.refusal refusal) _ => (.ended (.error refusal), server)
  | .raised (.driver (.otherError errorType sqlstate)) _ =>
    (.ended (.error (definitivelyFailed write.operation errorType sqlstate)), server)
  | .raised (.driver (.operationalError errorType sqlstate)) writeEntered =>
    let lastError := some { errorType, sqlstate }
    if (writeEntered && isAmbiguousConnectionFailure sqlstate) = true then
      match tryReconcile write server fate.after with
      | (.error refusal, server) => (.ended (.error refusal), server)
      | (.ok (.receipt result), server) => (.ended (.ok result), server)
      | (.ok .absent, server) => (.again lastError false, server)
      | (.ok .unavailable, server) => (.again lastError true, server)
    else (.again lastError false, server)

/-- An attempt without an unresolved commit. -/
def writeTurn (server : Server Store) : Turn Result × Server Store :=
  let (written, server) := connectAndWrite write server fate.write
  afterWrite write fate server written

/-- An attempt. -/
def takeTurn (lastError : Option OperationalFailure) (unresolved : Bool) (server : Server Store) :
    Turn Result × Server Store :=
  if unresolved = true then
    match tryReconcile write server fate.before with
    | (.error refusal, server) => (.ended (.error refusal), server)
    | (.ok (.receipt result), server) => (.ended (.ok result), server)
    | (.ok .absent, server) => writeTurn write fate server
    | (.ok .unavailable, server) =>
      match lastError with
      | none =>
        (.ended (.error
          { error := .assertionError
            message := "unresolved commit has no operational failure" }), server)
      | some lastError => (.again (some lastError) true, server)
  else writeTurn write fate server

end Loop

/-- The attempts, one after the other. -/
def runTurns (write : LifecycleWrite Store Result) (settings : PostgresConnectionSettings)
    (policy : PostgresRetryPolicy) : List (AttemptFate write.toKeyed) →
    Option OperationalFailure → Bool → Server Store → Except Refusal Result × Server Store
  | [], lastError, unresolved, server =>
    (.error (exhausted settings policy write.operation lastError unresolved), server)
  | fate :: fates, lastError, unresolved, server =>
    match takeTurn write fate lastError unresolved server with
    | (.ended outcome, server) => (outcome, server)
    | (.again lastError unresolved, server) =>
      runTurns write settings policy fates lastError unresolved server

/-- `_run_with_reconciliation`; the fates are those of its attempts. -/
def runWithReconciliation (write : LifecycleWrite Store Result)
    (settings : PostgresConnectionSettings) (policy : PostgresRetryPolicy)
    (fates : ℕ → AttemptFate write.toKeyed) (server : Server Store) :
    Except Refusal Result × Server Store :=
  runTurns write settings policy ((List.range policy.maxAttempts).map fates) none false server

end ForensicData.Persistence
