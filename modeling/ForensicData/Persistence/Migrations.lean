/-
ForensicData.Persistence.Migrations — bringing the metadata schema up to date.

A package is the list of migrations that a release ships with. A migrator takes
the advisory lock, compares the journal with its package and runs what is
missing in one transaction, one statement a step; a runtime only compares, and
what its caller makes of an error of the driver is left to it. Any number of
them, of any releases, share a database (`MigrationWorld`). A transaction sees
what is committed and its own changes. A connection that is lost leaves its
transaction on the server, with the lock, until the server ends it: with the
changes if it had been told to commit, or without. Logging is left out.
-/
import Mathlib.Logic.Function.Basic
import ForensicData.Persistence.Anomalies
import ForensicData.Persistence.Registration

namespace ForensicData.Persistence.Migrating

open ForensicData.Canonical
open ForensicData.Lib
open ForensicData.Reporting

/-! ## Packaged migrations -/

/-- The text checks of `Migration.__post_init__`. -/
def isSqlText (sqlBytes : Bytes) : Bool :=
  !sqlBytes.contains 13 && (utf8Decode sqlBytes).any fun text => !isBlank text

/-- `Migration`. -/
structure Migration (sha256 : Sha256) where
  version : ℕ
  name : NonblankText
  checksumSha256 : Sha256Hex
  sqlBytes : Bytes
  version_pos : 0 < version
  isSqlText_sqlBytes : isSqlText sqlBytes = true
  checksum_eq : checksumSha256 = hexDigest sha256 sqlBytes

/-- `_MIGRATION_RESOURCES`. -/
def migrationResources : List (ℕ × String) :=
  [(1, "0001_initial.sql"),
   (2, "0002_run_lifecycle.sql"),
   (3, "0003_completed_comparisons.sql"),
   (4, "0004_retained_anomalies.sql"),
   (5, "0005_frozen_physical_union.sql"),
   (6, "0006_mssql_dataset_adapter.sql"),
   (7, "0007_greengage_dataset_adapter.sql"),
   (8, "0008_greenplum_dataset_adapter.sql"),
   (9, "0009_clickhouse_dataset_adapter.sql"),
   (10, "0010_clickhouse_legacy_source.sql")]

section Loading

variable (sha256 : Sha256)

def packageError (message : String) : Refusal := { error := .runtimeError, message }

/-- `_read_package_resource`: a resource that cannot be read has the name of its error. -/
def readPackageResource (resources : String → Except String Bytes) (path : String) :
    Except Refusal Bytes :=
  match resources path with
  | .error errorType => .error (packageError
      ("packaged metadata SQL resource is unavailable: "
        ++ s!"resource='{path}', error_type={errorType}"))
  | .ok value => do
    refuseIf (value = []) (packageError
      s!"packaged metadata SQL resource must not be empty: resource='{path}'")
    .ok value

/-- `_strict_sql_text`; the offset of the first byte that is not UTF-8 is left out. -/
def strictSqlText (sqlBytes : Bytes) (context : String) : Except Refusal String := do
  refuseIf (sqlBytes.contains 13 = true ∨ sqlBytes.getLast? ≠ some 10)
    (packageError s!"{context} must use LF line endings and end with a newline")
  match utf8Decode sqlBytes with
  | none => .error (packageError s!"{context} must be strict UTF-8")
  | some text =>
    refuseIf (isBlank text = true)
      (packageError s!"{context} must contain at least one SQL statement")
    .ok text

def migrationValueError (message : String) : Refusal := { error := .valueError, message }

/-- `Migration(…)`, with the checksum of its bytes. -/
def Migration.make (version : ℕ) (name : String) (sqlBytes : Bytes) :
    Except Refusal (Migration sha256) :=
  if hversion : 0 < version then
    if hname : isBlank name = false then
      if htext : isSqlText sqlBytes = true then
        .ok
          { version, name := ⟨name, hname⟩, checksumSha256 := hexDigest sha256 sqlBytes, sqlBytes
            version_pos := hversion, isSqlText_sqlBytes := htext, checksum_eq := rfl }
      else .error (migrationValueError "migration SQL must contain a nonblank statement")
    else .error (migrationValueError "migration name must be nonblank text")
  else .error (migrationValueError "migration version must be a positive integer")

/-- `_load_migration`. -/
def loadMigration (resources : String → Except String Bytes) (resource : ℕ × String) :
    Except Refusal (Migration sha256) := do
  let sqlBytes ← readPackageResource resources s!"sql/migrations/{resource.2}"
  let _ ← strictSqlText sqlBytes s!"metadata migration {resource.1}"
  Migration.make sha256 resource.1 resource.2 sqlBytes

/-- `load_postgres_metadata_migrations`. -/
def loadPostgresMetadataMigrations (resources : String → Except String Bytes) :
    Except Refusal (List (Migration sha256)) := do
  let migrations ← migrationResources.mapM (loadMigration sha256 resources)
  let expected := List.range' 1 migrations.length
  let actual := migrations.map Migration.version
  refuseIf (actual ≠ expected) (packageError
    ("packaged metadata migration versions must be contiguous from 1: "
      ++ s!"expected={expected}, actual={actual}"))
  .ok migrations

end Loading

/-! ## The database -/

/-- A row of `dfe_metadata.migrations`. -/
structure JournalRow where
  version : ℕ
  name : String
  checksumSha256 : Bytes
  deriving DecidableEq

def Migration.row {sha256 : Sha256} (migration : Migration sha256) : JournalRow where
  version := migration.version
  name := migration.name.1
  checksumSha256 := fromHex migration.checksumSha256

/-- The journal, if it was created, and the scripts that were run, in order. -/
structure MetadataSchema where
  journal : Option (List JournalRow)
  scripts : List Bytes
  deriving DecidableEq

def MetadataSchema.empty : MetadataSchema := { journal := none, scripts := [] }

/-- A change of a transaction. -/
inductive Change where
  | script (sqlBytes : Bytes)
  | row (row : JournalRow)

/-- What the tables of the journal refuse. -/
inductive ConstraintError where
  | duplicateTable
  | undefinedTable
  | checkViolation
  | uniqueViolation
  deriving DecidableEq, Repr

def ConstraintError.driverError : ConstraintError → DriverError
  | .duplicateTable => .otherError "DuplicateTable" (some "42P07")
  | .undefinedTable => .otherError "UndefinedTable" (some "42P01")
  | .checkViolation => .otherError "CheckViolation" (some "23514")
  | .uniqueViolation => .otherError "UniqueViolation" (some "23505")

section Database

variable (createsJournal : Bytes → Bool)

/-- What is seen once a change was made; `createsJournal` are the scripts that create
the journal. -/
def MetadataSchema.apply (schema : MetadataSchema) : Change → MetadataSchema
  | .script sqlBytes =>
    { journal :=
        if createsJournal sqlBytes = true then some (schema.journal.getD []) else schema.journal
      scripts := schema.scripts ++ [sqlBytes] }
  | .row row => { schema with journal := schema.journal.map (· ++ [row]) }

/-- What a transaction with these changes sees. -/
def MetadataSchema.view (committed : MetadataSchema) (changes : List Change) : MetadataSchema :=
  changes.foldl (MetadataSchema.apply createsJournal) committed

/-- `CREATE TABLE dfe_metadata.migrations` is refused where the table exists. -/
def MetadataSchema.refusesScript (schema : MetadataSchema) (sqlBytes : Bytes) :
    Option ConstraintError :=
  if createsJournal sqlBytes = true ∧ schema.journal.isSome = true then some .duplicateTable
  else none

end Database

/-- `pg_catalog.btrim(name) = ''`. -/
def isTrimmedEmpty (name : String) : Bool := name.toList.all (· = ' ')

/-- The constraints of the journal. -/
def MetadataSchema.refusesRow (schema : MetadataSchema) (row : JournalRow) :
    Option ConstraintError :=
  match schema.journal with
  | none => some .undefinedTable
  | some rows =>
    if row.version = 0 ∨ isTrimmedEmpty row.name = true ∨ row.checksumSha256.length ≠ 32 then
      some .checkViolation
    else if ∃ stored ∈ rows, stored.version = row.version ∨ stored.name = row.name then
      some .uniqueViolation
    else none

/-- `SELECT … ORDER BY version`. -/
def selectJournal (rows : List JournalRow) : List JournalRow :=
  rows.mergeSort fun a b => decide (a.version ≤ b.version)

/-! ## Errors -/

/-- The `MetadataMigrationHistoryError`s of the two comparisons. -/
inductive HistoryError where
  | empty
  | unknownNewer (version packagedLatest : ℕ)
  | notContiguous (position expected actual : ℕ)
  | nameDiffers (version : ℕ) (expected actual : String)
  | behind (applied required next : ℕ)
  | countDiffers (applied required : ℕ)
  | notExact (expected actual : ℕ) (expectedName actualName : String)
  deriving DecidableEq

def HistoryError.message : HistoryError → String
  | .empty => "PostgreSQL migration journal exists but contains no applied migration"
  | .unknownNewer version packagedLatest =>
    "PostgreSQL migration journal contains an unknown newer migration: "
      ++ s!"version={version}, packaged_latest={packagedLatest}"
  | .notContiguous position expected actual =>
    "PostgreSQL migration journal is not a contiguous packaged prefix: "
      ++ s!"position={position}, expected_version={expected}, actual_version={actual}"
  | .nameDiffers version expected actual =>
    "PostgreSQL migration journal name differs from the packaged migration: "
      ++ s!"version={version}, expected_name='{expected}', actual_name='{actual}'"
  | .behind applied required next =>
    "PostgreSQL metadata schema is behind the packaged runtime and must be migrated before use: "
      ++ s!"applied_version={applied}, required_version={required}, next_version={next}"
  | .countDiffers applied required =>
    "PostgreSQL metadata schema version differs from the packaged lifecycle runtime: "
      ++ s!"applied_count={applied}, required_count={required}"
  | .notExact expected actual expectedName actualName =>
    "PostgreSQL migration journal is not the exact packaged prefix: "
      ++ s!"expected_version={expected}, actual_version={actual}, "
      ++ s!"expected_name='{expectedName}', actual_name='{actualName}'"

/-- Why a statement of the migrations failed. -/
inductive StatementError where
  | driver (error : DriverError)
  | constraint (error : ConstraintError)

def StatementError.text : StatementError → String
  | .driver error => error.text
  | .constraint error => error.driverError.text

inductive MigrationError where
  | lockTimeout (stage : String) (timeoutMilliseconds : ℕ) (error : DriverError)
  | history (error : HistoryError)
  | checksum (version : ℕ) (name expected actual : String)
  | apply (current : Option (ℕ × String)) (error : StatementError)
  | connection (attempts : ℕ) (error : DriverError)
  | profile (message : String)
  | driver (error : DriverError)

def applyContext : Option (ℕ × String) → String
  | none => "migration_batch"
  | some (version, name) => s!"version={version}, name='{name}'"

def MigrationError.message : MigrationError → String
  | .lockTimeout stage timeoutMilliseconds error =>
    "PostgreSQL metadata migration lock wait timed out: "
      ++ s!"stage='{stage}', timeout_milliseconds={timeoutMilliseconds}, " ++ error.text
  | .history error => error.message
  | .checksum version name expected actual =>
    "PostgreSQL migration checksum differs from the packaged SQL bytes: "
      ++ s!"version={version}, name='{name}', expected_checksum='{expected}', "
      ++ s!"actual_checksum='{actual}'"
  | .apply current error =>
    "PostgreSQL metadata migration transaction failed and was rolled back: "
      ++ applyContext current ++ ", " ++ error.text
  | .connection attempts error =>
    "PostgreSQL metadata operation failed after bounded attempts: "
      ++ s!"operation='migrate_metadata', attempts={attempts}, " ++ error.text
  | .profile message => message
  | .driver error => error.text

/-! ## Comparing the journal with a package -/

section Comparing

variable {sha256 : Sha256}

def checksumError (expected : Migration sha256) (row : JournalRow) : MigrationError :=
  .checksum expected.version expected.name.1 expected.checksumSha256.1 (toHex row.checksumSha256)

/-- The loop of `_validate_migration_history`. -/
def validateRows : ℕ → List JournalRow → List (Migration sha256) → Except MigrationError Unit
  | index, row :: rows, expected :: rest =>
    if row.version ≠ expected.version then
      .error (.history (.notContiguous (index + 1) expected.version row.version))
    else if row.name ≠ expected.name.1 then
      .error (.history (.nameDiffers expected.version expected.name.1 row.name))
    else if toHex row.checksumSha256 ≠ expected.checksumSha256.1 then
      .error (checksumError expected row)
    else validateRows (index + 1) rows rest
  | _, _, _ => .ok ()

/-- `_validate_migration_history` once the rows were read: how many are applied. -/
def validateMigrationHistory (rows : List JournalRow) (migrations : List (Migration sha256)) :
    Except MigrationError ℕ :=
  if rows = [] then .error (.history .empty)
  else
    match rows[migrations.length]? with
    | some unknown => .error (.history (.unknownNewer unknown.version migrations.length))
    | none => (validateRows 0 rows migrations).map fun _ => rows.length

/-- The end of `_require_current_schema` of a registration. -/
def requireCurrent (applied : ℕ) (migrations : List (Migration sha256)) :
    Except MigrationError Unit :=
  match migrations[applied]? with
  | some next => .error (.history (.behind applied migrations.length next.version))
  | none => .ok ()

/-- The loop of `_require_current_schema` of the lifecycle. -/
def requireExact : List JournalRow → List (Migration sha256) → Except MigrationError Unit
  | row :: rows, expected :: rest =>
    if row.version ≠ expected.version ∨ row.name ≠ expected.name.1 then
      .error (.history (.notExact expected.version row.version expected.name.1 row.name))
    else if toHex row.checksumSha256 ≠ expected.checksumSha256.1 then
      .error (checksumError expected row)
    else requireExact rows rest
  | _, _ => .ok ()

/-- `_require_current_schema` of the lifecycle, once the rows were read. -/
def requireLifecycleSchema (rows : List JournalRow) (migrations : List (Migration sha256)) :
    Except MigrationError Unit :=
  if rows.length ≠ migrations.length then
    .error (.history (.countDiffers rows.length migrations.length))
  else requireExact rows migrations

end Comparing

/-! ## Calls -/

/-- A package: the versions count from 1, no name is used twice, and its first script
creates the journal. -/
structure Package (sha256 : Sha256) (createsJournal : Bytes → Bool) where
  migrations : List (Migration sha256)
  contiguous : migrations.map Migration.version = List.range' 1 migrations.length
  names_nodup : (migrations.map fun migration => migration.name.1).Nodup
  creates : ∀ migration ∈ migrations,
    createsJournal migration.sqlBytes = decide (migration.version = 1)

/-- Who looks at the journal. -/
inductive Purpose where
  | migrate
  | registration
  | lifecycle
  deriving DecidableEq

structure MigrationCall (sha256 : Sha256) (createsJournal : Bytes → Bool) where
  purpose : Purpose
  package : Package sha256 createsJournal
  maxAttempts : ℕ
  lockTimeoutMilliseconds : ℕ

/-- `MigrationReport`. -/
structure MigrationReport where
  appliedVersions : List ℕ
  currentVersion : ℕ
  deriving DecidableEq, Repr

/-- How far a call is; one that has ended has a report if it is a migrator. -/
inductive CallProgress (sha256 : Sha256) where
  | connecting (attempt : ℕ)
  | waiting (attempt : ℕ)
  | looking (attempt : ℕ)
  | reading (attempt : ℕ)
  | executing (attempt : ℕ) (changes : List Change) (pending left : List (Migration sha256))
  | inserting (attempt : ℕ) (changes : List Change) (pending : List (Migration sha256))
      (migration : Migration sha256) (left : List (Migration sha256))
  | ended (outcome : Except MigrationError (Option MigrationReport))

/-- Who holds the advisory lock: a call, or a transaction whose connection was lost. -/
inductive Holder (ι : Type) where
  | call (i : ι)
  | orphan (changes : List Change) (committing : Bool)

structure MigrationWorld (ι : Type) (sha256 : Sha256) where
  committed : MetadataSchema
  lock : Option (Holder ι)
  progress : ι → CallProgress sha256

def MigrationWorld.initial {ι : Type} {sha256 : Sha256} : MigrationWorld ι sha256 where
  committed := .empty
  lock := none
  progress := fun _ => .connecting 1

/-- What happens to a call: its statement returns or raises, or the server is not of
the profile. -/
inductive CallEvent where
  | proceeds
  | fails (error : DriverError)
  | refused (message : String)

inductive MigrationEvent (ι : Type) where
  | call (i : ι) (event : CallEvent)
  | resolves (commits : Bool)

/-! ## Steps -/

section Steps

variable {ι : Type} [DecidableEq ι] {sha256 : Sha256} {createsJournal : Bytes → Bool}
variable (calls : ι → MigrationCall sha256 createsJournal)

namespace MigrationWorld

variable (w : MigrationWorld ι sha256) (i : ι)

def go (progress : CallProgress sha256) : MigrationWorld ι sha256 :=
  { w with progress := Function.update w.progress i progress }

/-- The call ends. -/
def finish (outcome : Except MigrationError (Option MigrationReport)) : MigrationWorld ι sha256 :=
  w.go i (.ended outcome)

/-- The connection is closed or lost: a lock that was held is left to the server. -/
def abandon (changes : List Change) (committing : Bool) : MigrationWorld ι sha256 :=
  match w.lock with
  | some (.call holder) =>
    if holder = i then { w with lock := some (.orphan changes committing) } else w
  | _ => w

end MigrationWorld

/-- `_run_with_retries` after an `OperationalError`. -/
def retried (i : ι) (attempt : ℕ) (error : DriverError) : CallProgress sha256 :=
  if attempt < (calls i).maxAttempts then .connecting (attempt + 1)
  else .ended (.error (.connection (calls i).maxAttempts error))

def lockNotAvailable : String := "LockNotAvailable"

/-- The `except` clauses of `_migrate_once`. -/
def migrationFailure (i : ι) (attempt : ℕ) (stage : String) (current : Option (ℕ × String)) :
    DriverError → CallProgress sha256
  | .operationalError errorType sqlstate =>
    if errorType = lockNotAvailable then
      .ended (.error (.lockTimeout stage (calls i).lockTimeoutMilliseconds
        (.operationalError errorType sqlstate)))
    else retried calls i attempt (.operationalError errorType sqlstate)
  | .otherError errorType sqlstate =>
    .ended (.error (.apply current (.driver (.otherError errorType sqlstate))))

/-- A statement of the transaction raised while the journal was looked at. -/
def failLooking (w : MigrationWorld ι sha256) (i : ι) (attempt : ℕ) (error : DriverError) :
    MigrationWorld ι sha256 :=
  match (calls i).purpose with
  | .migrate =>
    (w.abandon i [] false).go i (migrationFailure calls i attempt "migration_journal" none error)
  | _ => w.finish i (.error (.driver error))

/-- The transaction refuses the journal. -/
def refuse (w : MigrationWorld ι sha256) (i : ι) (error : MigrationError) :
    MigrationWorld ι sha256 :=
  (w.abandon i [] false).finish i (.error error)

def stageText (migration : Migration sha256) : String := s!"migration_{migration.version}"

def currentText (migration : Migration sha256) : Option (ℕ × String) :=
  some (migration.version, migration.name.1)

/-- `_run_with_retries` when a migrator could not connect. -/
def connectionFailure (i : ι) (attempt : ℕ) : DriverError → CallProgress sha256
  | .operationalError errorType sqlstate =>
    retried calls i attempt (.operationalError errorType sqlstate)
  | .otherError errorType sqlstate =>
    .ended (.error (.connection attempt (.otherError errorType sqlstate)))

/-- The next step of a call that connects. -/
def connect (w : MigrationWorld ι sha256) (i : ι) (attempt : ℕ) : CallEvent → MigrationWorld ι sha256
  | .proceeds =>
    match (calls i).purpose with
    | .migrate => w.go i (.waiting attempt)
    | .registration => w.go i (.looking attempt)
    | .lifecycle => w.go i (.reading attempt)
  | .fails error =>
    match (calls i).purpose with
    | .migrate => w.go i (connectionFailure calls i attempt error)
    | _ => w.finish i (.error (.driver error))
  | .refused message => w.finish i (.error (.profile message))

/-- `pg_advisory_xact_lock`: granted when no one has the lock, else it waits. -/
def acquire (w : MigrationWorld ι sha256) (i : ι) (attempt : ℕ) : CallEvent → MigrationWorld ι sha256
  | .proceeds =>
    match w.lock with
    | none => { w with lock := some (.call i) }.go i (.looking attempt)
    | some _ => w
  | .fails error => w.go i (migrationFailure calls i attempt "advisory_lock" none error)
  | .refused _ => w

/-- `to_regclass`: without a journal nothing is applied. -/
def look (w : MigrationWorld ι sha256) (i : ι) (attempt : ℕ) : MigrationWorld ι sha256 :=
  let migrations := (calls i).package.migrations
  match w.committed.journal, (calls i).purpose with
  | some _, _ => w.go i (.reading attempt)
  | none, .migrate => w.go i (.executing attempt [] migrations migrations)
  | none, _ => w.finish i ((requireCurrent 0 migrations).map fun _ => none)

/-- The rows of the journal are read and compared. -/
def compareJournal (w : MigrationWorld ι sha256) (i : ι) (attempt : ℕ) : MigrationWorld ι sha256 :=
  let migrations := (calls i).package.migrations
  let rows := selectJournal (w.committed.journal.getD [])
  match (calls i).purpose with
  | .migrate =>
    match validateMigrationHistory rows migrations with
    | .error error => refuse w i error
    | .ok applied =>
      w.go i (.executing attempt [] (migrations.drop applied) (migrations.drop applied))
  | .registration =>
    w.finish i ((validateMigrationHistory rows migrations).bind fun applied =>
      (requireCurrent applied migrations).map fun _ => none)
  | .lifecycle =>
    if w.committed.journal = none then
      w.finish i (.error (.driver ConstraintError.undefinedTable.driverError))
    else w.finish i ((requireLifecycleSchema rows migrations).map fun _ => none)

/-- What a migrator returns. -/
def migrationReport (i : ι) (pending : List (Migration sha256)) : MigrationReport where
  appliedVersions := pending.map Migration.version
  currentVersion := ((calls i).package.migrations.getLast?.map Migration.version).getD 0

/-- A script, or the commit once no script is left. -/
def executeScript (w : MigrationWorld ι sha256) (i : ι) (attempt : ℕ) (changes : List Change)
    (pending : List (Migration sha256)) : List (Migration sha256) → CallEvent →
      MigrationWorld ι sha256
  | _, .refused _ => w
  | migration :: left, .proceeds =>
    match (w.committed.view createsJournal changes).refusesScript createsJournal
        migration.sqlBytes with
    | some error =>
      (w.abandon i changes false).finish i (.error (.apply (currentText migration)
        (.constraint error)))
    | none =>
      w.go i (.inserting attempt (changes ++ [.script migration.sqlBytes]) pending migration left)
  | migration :: _, .fails error =>
    (w.abandon i changes false).go i
      (migrationFailure calls i attempt (stageText migration) (currentText migration) error)
  | [], .proceeds =>
    { w with committed := w.committed.view createsJournal changes, lock := none }.finish i
      (.ok (some (migrationReport calls i pending)))
  | [], .fails (.operationalError errorType sqlstate) =>
    (w.abandon i changes true).go i
      (migrationFailure calls i attempt ((pending.getLast?.map stageText).getD "migration_journal")
        (pending.getLast?.bind currentText) (.operationalError errorType sqlstate))
  | [], .fails (.otherError errorType sqlstate) =>
    (w.abandon i changes false).go i
      (migrationFailure calls i attempt ((pending.getLast?.map stageText).getD "migration_journal")
        (pending.getLast?.bind currentText) (.otherError errorType sqlstate))

/-- `INSERT INTO dfe_metadata.migrations`. -/
def insertJournal (w : MigrationWorld ι sha256) (i : ι) (attempt : ℕ) (changes : List Change)
    (pending : List (Migration sha256)) (migration : Migration sha256)
    (left : List (Migration sha256)) : CallEvent → MigrationWorld ι sha256
  | .refused _ => w
  | .proceeds =>
    match (w.committed.view createsJournal changes).refusesRow migration.row with
    | some error =>
      (w.abandon i changes false).finish i (.error (.apply (currentText migration)
        (.constraint error)))
    | none => w.go i (.executing attempt (changes ++ [.row migration.row]) pending left)
  | .fails error =>
    (w.abandon i changes false).go i
      (migrationFailure calls i attempt (stageText migration) (currentText migration) error)

/-- The next statement of a call. -/
def afterCall (w : MigrationWorld ι sha256) (i : ι) (event : CallEvent) : MigrationWorld ι sha256 :=
  match w.progress i with
  | .connecting attempt => connect calls w i attempt event
  | .waiting attempt => acquire calls w i attempt event
  | .looking attempt =>
    match event with
    | .proceeds => look calls w i attempt
    | .fails error => failLooking calls w i attempt error
    | .refused _ => w
  | .reading attempt =>
    match event with
    | .proceeds => compareJournal calls w i attempt
    | .fails error => failLooking calls w i attempt error
    | .refused _ => w
  | .executing attempt changes pending left =>
    executeScript calls w i attempt changes pending left event
  | .inserting attempt changes pending migration left =>
    insertJournal calls w i attempt changes pending migration left event
  | .ended _ => w

/-- The server ends a transaction whose connection was lost. -/
def resolve (createsJournal : Bytes → Bool) (w : MigrationWorld ι sha256) (commits : Bool) :
    MigrationWorld ι sha256 :=
  match w.lock with
  | some (.orphan changes committing) =>
    { w with
      committed :=
        if committing = true ∧ commits = true then w.committed.view createsJournal changes
        else w.committed
      lock := none }
  | _ => w

def afterMigration (w : MigrationWorld ι sha256) : MigrationEvent ι → MigrationWorld ι sha256
  | .call i event => afterCall calls w i event
  | .resolves commits => resolve createsJournal w commits

/-- The world after a list of events, in any order. -/
def runMigrations (events : List (MigrationEvent ι)) : MigrationWorld ι sha256 :=
  events.foldl (afterMigration calls) .initial

end Steps

end ForensicData.Persistence.Migrating
