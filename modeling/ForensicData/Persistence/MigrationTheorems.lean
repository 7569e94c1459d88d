/-
ForensicData.Persistence.MigrationTheorems — what a transaction of a migrator
sees and finds.

A database that was only migrated is the outcome of a list of migrations, its
history (`schemaOf`). A transaction whose package begins with the history sees
the longer history that it makes (`Draft`), and no constraint refuses it. A
comparison of a journal finds the packaged rows, or a row that is another
(`Compared`).
-/
import Mathlib.Data.List.Infix
import ForensicData.Persistence.ManifestTheorems
import ForensicData.Persistence.Migrations

namespace ForensicData.Persistence.Migrating

open ForensicData.Canonical
open ForensicData.Lib
open ForensicData.Reporting

variable {sha256 : Sha256} {createsJournal : Bytes → Bool}

/-! ## Histories -/

/-- The schema once these migrations were applied, and nothing else. -/
def schemaOf (history : List (Migration sha256)) : MetadataSchema where
  journal := if history = [] then none else some (history.map Migration.row)
  scripts := history.map Migration.sqlBytes

/-- The changes of a transaction that applies these migrations. -/
def changesOf (migrations : List (Migration sha256)) : List Change :=
  migrations.flatMap fun migration => [.script migration.sqlBytes, .row migration.row]

def Package.rows (package : Package sha256 createsJournal) : List JournalRow :=
  package.migrations.map Migration.row

theorem journal_schemaOf (history : List (Migration sha256)) :
    (schemaOf history).journal.getD [] = history.map Migration.row := by
  unfold schemaOf
  by_cases hhistory : history = []
  · simp [hhistory]
  · simp [hhistory]

theorem changesOf_append (done : List (Migration sha256)) (migration : Migration sha256) :
    changesOf (done ++ [migration])
      = changesOf done ++ [.script migration.sqlBytes] ++ [.row migration.row] := by
  simp [changesOf]

section Views

variable {history : List (Migration sha256)} {migration : Migration sha256}

/-- What a transaction sees between a script and its row. -/
theorem apply_script (hcreates : createsJournal migration.sqlBytes = decide (history = [])) :
    (schemaOf history).apply createsJournal (.script migration.sqlBytes)
      = { journal := some (history.map Migration.row)
          scripts := (history ++ [migration]).map Migration.sqlBytes } := by
  unfold schemaOf MetadataSchema.apply
  by_cases hhistory : history = []
  · simp [hhistory, hcreates]
  · simp [hhistory, hcreates]

theorem apply_row {scripts : List Bytes}
    (hscripts : scripts = (history ++ [migration]).map Migration.sqlBytes) :
    ({ journal := some (history.map Migration.row), scripts } : MetadataSchema).apply createsJournal
      (.row migration.row) = schemaOf (history ++ [migration]) := by
  simp [MetadataSchema.apply, schemaOf, hscripts]

/-- A transaction that applied migrations sees the schema of the longer history. -/
theorem view_changesOf {done : List (Migration sha256)}
    (hcreates : ∀ before migration after, done = before ++ migration :: after →
      createsJournal migration.sqlBytes = decide (history ++ before = [])) :
    (schemaOf history).view createsJournal (changesOf done) = schemaOf (history ++ done) := by
  induction done using List.reverseRecOn with
  | nil => simp [changesOf, MetadataSchema.view]
  | append_singleton done migration ih =>
    have hbefore := ih fun before other after hdone =>
      hcreates before other (after ++ [migration]) (by simp [hdone])
    have hlast := hcreates done migration [] rfl
    unfold MetadataSchema.view at hbefore ⊢
    rw [changesOf_append, List.foldl_append, List.foldl_append, hbefore, List.foldl_cons,
      List.foldl_nil, List.foldl_cons, List.foldl_nil, apply_script hlast, apply_row rfl,
      List.append_assoc]

end Views

/-! ## Packages -/

namespace Package

variable (package : Package sha256 createsJournal)

theorem version_getElem {k : ℕ} (hk : k < package.migrations.length) :
    package.migrations[k].version = k + 1 := by
  have hversions := congrArg (fun versions => versions[k]?) package.contiguous
  simp only [List.getElem?_map, List.getElem?_range', hk, List.getElem?_eq_getElem,
    Option.map_some] at hversions
  have hversion := Option.some.inj hversions
  omega

theorem version_of_append {before after : List (Migration sha256)} {migration : Migration sha256}
    (h : package.migrations = before ++ migration :: after) :
    migration.version = before.length + 1 := by
  have hlt : before.length < package.migrations.length := by
    rw [h, List.length_append, List.length_cons]
    omega
  have hversion := package.version_getElem hlt
  simpa [h] using hversion

/-- The script at a place creates the journal if the place is the first. -/
theorem creates_of_append {before after : List (Migration sha256)} {migration : Migration sha256}
    (h : package.migrations = before ++ migration :: after) :
    createsJournal migration.sqlBytes = decide (before = []) := by
  have hmem : migration ∈ package.migrations := by
    rw [h]
    simp
  rw [package.creates migration hmem, package.version_of_append h, decide_eq_decide]
  simp [List.length_eq_zero_iff]

/-- No row that stands before a migration has its version or its name. -/
theorem not_conflicts {before after : List (Migration sha256)} {migration : Migration sha256}
    (h : package.migrations = before ++ migration :: after) :
    ¬ ∃ stored ∈ before.map Migration.row,
      stored.version = migration.row.version ∨ stored.name = migration.row.name := by
  rintro ⟨stored, hmem, hconflict⟩
  obtain ⟨earlier, hearlier, rfl⟩ := List.mem_map.mp hmem
  obtain ⟨first, second, rfl⟩ := List.append_of_mem hearlier
  rcases hconflict with hversion | hname
  · have hsplit : package.migrations = first ++ earlier :: (second ++ migration :: after) := by
      simpa using h
    have hfirst := package.version_of_append hsplit
    have hlast := package.version_of_append h
    simp only [Migration.row] at hversion
    rw [hfirst, hlast, List.length_append, List.length_cons] at hversion
    omega
  · have hnames := package.names_nodup
    rw [h] at hnames
    simp only [List.map_append, List.map_cons, List.nodup_append, List.nodup_cons] at hnames
    exact hnames.2.2 earlier.name.1 (by simp) migration.name.1 (by simp) hname

theorem versions_drop (applied : ℕ) :
    (package.migrations.drop applied).map Migration.version
      = List.range' (applied + 1) (package.migrations.length - applied) := by
  rw [List.map_drop, package.contiguous, List.drop_range']
  congr 1
  omega

theorem length_rows : package.rows.length = package.migrations.length := by
  simp [Package.rows]

end Package

/-- A row passes the checks of the journal. -/
theorem row_checks (migration : Migration sha256) :
    ¬ (migration.row.version = 0 ∨ isTrimmedEmpty migration.row.name = true ∨
      migration.row.checksumSha256.length ≠ 32) := by
  have hversion := migration.version_pos
  have hchecksum : migration.row.checksumSha256.length = 32 := by
    simp only [Migration.row, migration.checksum_eq, fromHex_hexDigest]
    exact sha256.length_digest _
  have hname : isTrimmedEmpty migration.row.name = false := by
    have hblank := migration.name.2
    simp only [isBlank, List.all_eq_false] at hblank
    obtain ⟨c, hmem, hspace⟩ := hblank
    simp only [isTrimmedEmpty, Migration.row, List.all_eq_false]
    refine ⟨c, hmem, fun hc => hspace ?_⟩
    rw [of_decide_eq_true hc]
    rfl
  rintro (hzero | htrimmed | hlength)
  · simp only [Migration.row] at hzero
    omega
  · rw [hname] at htrimmed
    cases htrimmed
  · exact hlength hchecksum

/-! ## The shipped package -/

theorem name_of_loadMigration {resources : String → Except String Bytes} {resource : ℕ × String}
    {migration : Migration sha256}
    (h : loadMigration sha256 resources resource = .ok migration) :
    migration.name.1 = resource.2 := by
  unfold loadMigration at h
  obtain ⟨sqlBytes, _, h⟩ := bind_eq_ok.mp h
  obtain ⟨text, _, h⟩ := bind_eq_ok.mp h
  unfold Migration.make at h
  split at h
  · split at h
    · split at h
      · cases h
        rfl
      · cases h
    · cases h
  · cases h

/-- The migrations that a release loads are a package if their first script, and no
other, creates the journal. -/
theorem exists_package_of_load {resources : String → Except String Bytes}
    {migrations : List (Migration sha256)}
    (h : loadPostgresMetadataMigrations sha256 resources = .ok migrations)
    (hcreates : ∀ migration ∈ migrations,
      createsJournal migration.sqlBytes = decide (migration.version = 1)) :
    ∃ package : Package sha256 createsJournal, package.migrations = migrations := by
  unfold loadPostgresMetadataMigrations at h
  obtain ⟨loaded, hloaded, h⟩ := bind_eq_ok.mp h
  obtain ⟨u, hversions, h⟩ := bind_eq_ok.mp h
  obtain rfl := Except.ok.inj h
  have hcontiguous := not_ne_iff.mp (refuseIf_eq_ok.mp hversions)
  have hnames : migrationResources.map Prod.snd
      = loaded.map fun migration => migration.name.1 := by
    rw [← List.forall₂_eq_eq_eq, List.forall₂_map_left_iff, List.forall₂_map_right_iff]
    exact (mapM_eq_ok.mp hloaded).imp fun resource migration hload =>
      (name_of_loadMigration hload).symm
  refine ⟨⟨loaded, hcontiguous, ?_, hcreates⟩, rfl⟩
  rw [← hnames]
  decide

/-! ## Comparing -/

/-- Two journals with different rows at a place. -/
def Differ (rows others : List JournalRow) : Prop :=
  ∃ (k : ℕ) (row other : JournalRow),
    rows[k]? = some row ∧ others[k]? = some other ∧ row ≠ other

/-- The errors that say what no reached database shows. -/
def MigrationError.isInternal : MigrationError → Bool
  | .history .empty => true
  | .history (.notContiguous _ _ _) => true
  | .history (.notExact expected actual _ _) => decide (expected ≠ actual)
  | .apply _ (.constraint _) => true
  | _ => false

/-- The errors that say that a stored migration is not the packaged one. -/
def MigrationError.isMismatch : MigrationError → Bool
  | .history (.nameDiffers _ _ _) => true
  | .history (.notExact _ _ _ _) => true
  | .checksum _ _ _ _ => true
  | _ => false

theorem toHex_injective : Function.Injective toHex := by
  intro a b h
  exact hexText_injective (String.ofList_injective h)

/-- A row with the version, the name and the checksum of a migration is its row. -/
theorem row_eq {row : JournalRow} {migration : Migration sha256}
    (hversion : row.version = migration.version) (hname : row.name = migration.name.1)
    (hchecksum : toHex row.checksumSha256 = migration.checksumSha256.1) : row = migration.row := by
  have hbytes : row.checksumSha256 = fromHex migration.checksumSha256 :=
    toHex_injective (by rw [hchecksum, toHex_fromHex])
  cases row
  simp only [Migration.row, JournalRow.mk.injEq]
  exact ⟨hversion, hname, hbytes⟩

/-- Rows whose versions are those of the migrations, place by place. -/
def Aligned (rows : List JournalRow) (migrations : List (Migration sha256)) : Prop :=
  ∀ (k : ℕ) (row : JournalRow) (expected : Migration sha256),
    rows[k]? = some row → migrations[k]? = some expected → row.version = expected.version

theorem Aligned.tail {row : JournalRow} {rows : List JournalRow} {expected : Migration sha256}
    {rest : List (Migration sha256)} (h : Aligned (row :: rows) (expected :: rest)) :
    row.version = expected.version ∧ Aligned rows rest :=
  ⟨h 0 row expected rfl rfl, fun k other next hrow hnext => h (k + 1) other next hrow hnext⟩

theorem Differ.cons {row other : JournalRow} {rows others : List JournalRow}
    (h : Differ rows others) : Differ (row :: rows) (other :: others) := by
  obtain ⟨k, a, b, ha, hb, hne⟩ := h
  exact ⟨k + 1, a, b, ha, hb, hne⟩

/-- What a comparison of aligned rows finds: the rows are the packaged ones, or it
raises what tells of a row that is not. -/
structure Compared (rows : List JournalRow) (migrations : List (Migration sha256))
    (outcome : Except MigrationError Unit) : Prop where
  accepts : outcome = .ok () → rows.length ≤ migrations.length →
    rows = (migrations.take rows.length).map Migration.row
  raises : ∀ error, outcome = .error error → error.isInternal = false ∧
    error.isMismatch = true ∧ Differ (migrations.map Migration.row) rows

theorem compared_row {row : JournalRow} {rows : List JournalRow} {expected : Migration sha256}
    {rest : List (Migration sha256)} {outcome : Except MigrationError Unit}
    (hrow : row = expected.row) (h : Compared rows rest outcome) :
    Compared (row :: rows) (expected :: rest) outcome where
  accepts := fun hok hle => by
    rw [List.length_cons, List.take_succ_cons, List.map_cons, ← hrow,
      ← h.accepts hok (Nat.le_of_succ_le_succ hle)]
  raises := fun error herror => by
    obtain ⟨hinternal, hmismatch, hdiffer⟩ := h.raises error herror
    exact ⟨hinternal, hmismatch, hdiffer.cons⟩

theorem compared_mismatch {row : JournalRow} {rows : List JournalRow} {expected : Migration sha256}
    {rest : List (Migration sha256)} {error : MigrationError} (hrow : expected.row ≠ row)
    (hinternal : error.isInternal = false) (hmismatch : error.isMismatch = true) :
    Compared (row :: rows) (expected :: rest) (.error error) where
  accepts := fun hok => by cases hok
  raises := fun error' herror => by
    cases herror
    exact ⟨hinternal, hmismatch, 0, expected.row, row, rfl, rfl, hrow⟩

theorem compared_end {rows : List JournalRow} {migrations : List (Migration sha256)}
    (h : rows = [] ∨ migrations = []) : Compared rows migrations (.ok ()) where
  accepts := fun _ hle => by
    rcases h with rfl | rfl
    · rfl
    · rw [List.length_eq_zero_iff.mp (Nat.le_zero.mp hle)]
      rfl
  raises := fun error herror => by cases herror

theorem compared_validateRows {rows : List JournalRow} {migrations : List (Migration sha256)}
    (index : ℕ) (haligned : Aligned rows migrations) :
    Compared rows migrations (validateRows index rows migrations) := by
  induction rows generalizing index migrations with
  | nil => exact compared_end (.inl rfl)
  | cons row rows ih =>
    cases migrations with
    | nil => exact compared_end (.inr rfl)
    | cons expected rest =>
      obtain ⟨hversion, htail⟩ := haligned.tail
      rw [validateRows, if_neg (not_not_intro hversion)]
      by_cases hname : row.name ≠ expected.name.1
      · rw [if_pos hname]
        exact compared_mismatch (fun hrow => hname (by rw [← hrow]; rfl)) rfl rfl
      rw [if_neg hname]
      by_cases hchecksum : toHex row.checksumSha256 ≠ expected.checksumSha256.1
      · rw [if_pos hchecksum]
        refine compared_mismatch (fun hrow => hchecksum ?_) rfl rfl
        rw [← hrow]
        exact toHex_fromHex _
      rw [if_neg hchecksum]
      exact compared_row (row_eq hversion (not_ne_iff.mp hname) (not_ne_iff.mp hchecksum))
        (ih (index + 1) htail)

theorem compared_requireExact {rows : List JournalRow} {migrations : List (Migration sha256)}
    (haligned : Aligned rows migrations) :
    Compared rows migrations (requireExact rows migrations) := by
  induction rows generalizing migrations with
  | nil => exact compared_end (.inl rfl)
  | cons row rows ih =>
    cases migrations with
    | nil => exact compared_end (.inr rfl)
    | cons expected rest =>
      obtain ⟨hversion, htail⟩ := haligned.tail
      rw [requireExact]
      by_cases hname : row.version ≠ expected.version ∨ row.name ≠ expected.name.1
      · rw [if_pos hname]
        have hother : row.name ≠ expected.name.1 :=
          hname.resolve_left (not_not_intro hversion)
        refine compared_mismatch (fun hrow => hother (by rw [← hrow]; rfl)) ?_ rfl
        simp [MigrationError.isInternal, hversion]
      rw [if_neg hname]
      obtain ⟨_, hsame⟩ := not_or.mp hname
      by_cases hchecksum : toHex row.checksumSha256 ≠ expected.checksumSha256.1
      · rw [if_pos hchecksum]
        refine compared_mismatch (fun hrow => hchecksum ?_) rfl rfl
        rw [← hrow]
        exact toHex_fromHex _
      rw [if_neg hchecksum]
      exact compared_row (row_eq hversion (not_ne_iff.mp hsame) (not_ne_iff.mp hchecksum))
        (ih htail)

/-! ## What a history keeps to -/

variable {ι : Type} {calls : ι → MigrationCall sha256 createsJournal}
variable {history : List (Migration sha256)} {w : MigrationWorld ι sha256} {i : ι}

/-- What the package of a call has beyond the history. -/
def missing (calls : ι → MigrationCall sha256 createsJournal) (history : List (Migration sha256))
    (i : ι) : List (Migration sha256) :=
  (calls i).package.migrations.drop history.length

/-- The journal is the beginning of the package of a call. -/
structure Fits (calls : ι → MigrationCall sha256 createsJournal)
    (history : List (Migration sha256)) (i : ι) : Prop where
  length_le : history.length ≤ (calls i).package.migrations.length
  rows : history.map Migration.row
    = ((calls i).package.migrations.take history.length).map Migration.row

/-- A journal is the whole journal of a package, or none. -/
structure Historic (calls : ι → MigrationCall sha256 createsJournal)
    (history : List (Migration sha256)) : Prop where
  complete : history = [] ∨ ∃ i, history.map Migration.row = (calls i).package.rows
  packaged : ∀ migration ∈ history, ∃ i, migration ∈ (calls i).package.migrations

theorem fits_nil (calls : ι → MigrationCall sha256 createsJournal) (i : ι) : Fits calls [] i :=
  ⟨Nat.zero_le _, rfl⟩

/-- A package that is applied completes the journal to its own. -/
theorem Fits.rows_append (h : Fits calls history i) :
    (history ++ missing calls history i).map Migration.row = (calls i).package.rows := by
  rw [List.map_append, h.rows, ← List.map_append, missing, List.take_append_drop, Package.rows]

theorem Historic.extend (h : Historic calls history) (hfits : Fits calls history i) :
    Historic calls (history ++ missing calls history i) where
  complete := .inr ⟨i, hfits.rows_append⟩
  packaged := fun migration hmem => by
    rcases List.mem_append.mp hmem with hmem | hmem
    · exact h.packaged migration hmem
    · exact ⟨i, List.mem_of_mem_drop hmem⟩

/-- The versions of a journal count from 1. -/
theorem Historic.version_getElem? (h : Historic calls history) {k : ℕ} {row : JournalRow}
    (hrow : (history.map Migration.row)[k]? = some row) : row.version = k + 1 := by
  rcases h.complete with rfl | ⟨i, hrows⟩
  · cases hrow
  · rw [hrows, Package.rows, List.getElem?_map, Option.map_eq_some_iff] at hrow
    obtain ⟨migration, hmigration, rfl⟩ := hrow
    obtain ⟨hlt, rfl⟩ := List.getElem?_eq_some_iff.mp hmigration
    exact (calls i).package.version_getElem hlt

theorem Historic.aligned (h : Historic calls history) (i : ι) :
    Aligned (history.map Migration.row) (calls i).package.migrations := by
  intro k row expected hrow hexpected
  obtain ⟨hlt, rfl⟩ := List.getElem?_eq_some_iff.mp hexpected
  rw [h.version_getElem? hrow, (calls i).package.version_getElem hlt]

/-- The journal is read in the order in which it was written. -/
theorem Historic.selectJournal (h : Historic calls history) :
    selectJournal (history.map Migration.row) = history.map Migration.row := by
  refine List.mergeSort_of_pairwise (List.pairwise_iff_getElem.mpr fun a b ha hb hab => ?_)
  have hfirst := h.version_getElem? (List.getElem?_eq_getElem ha)
  have hsecond := h.version_getElem? (List.getElem?_eq_getElem hb)
  simp only [decide_eq_true_eq]
  omega

/-- Journals differ only where packages do. -/
theorem Historic.differ (h : Historic calls history) {rows : List JournalRow}
    (hdiffer : Differ rows (history.map Migration.row)) :
    ∃ j, Differ rows (calls j).package.rows := by
  rcases h.complete with rfl | ⟨j, hrows⟩
  · obtain ⟨k, row, other, _, hother, _⟩ := hdiffer
    cases hother
  · rw [hrows] at hdiffer
    exact ⟨j, hdiffer⟩

/-! ## What a transaction sees -/

/-- A transaction that has applied `done` of what is missing, and has `left` to apply. -/
structure Draft (calls : ι → MigrationCall sha256 createsJournal)
    (history : List (Migration sha256)) (i : ι) (pending done left : List (Migration sha256)) :
    Prop where
  purpose : (calls i).purpose = .migrate
  fits : Fits calls history i
  pending_eq : pending = missing calls history i
  split : pending = done ++ left

section Drafts

variable {pending done left : List (Migration sha256)} {migration : Migration sha256}

theorem Draft.migrations (h : Draft calls history i pending done left) :
    (calls i).package.migrations
      = ((calls i).package.migrations.take history.length ++ done) ++ left := by
  rw [List.append_assoc, ← h.split, h.pending_eq, missing, List.take_append_drop]

/-- The next script creates the journal if there is none. -/
theorem Draft.creates (h : Draft calls history i pending done (migration :: left)) :
    createsJournal migration.sqlBytes = decide (history ++ done = []) := by
  rw [(calls i).package.creates_of_append h.migrations, decide_eq_decide]
  have hle := h.fits.length_le
  have htake : (calls i).package.migrations.take history.length = [] ↔ history = [] := by
    rw [← List.length_eq_zero_iff, ← List.length_eq_zero_iff, List.length_take]
    omega
  rw [List.append_eq_nil_iff, List.append_eq_nil_iff, htake]

theorem Draft.view (h : Draft calls history i pending done left) :
    (schemaOf history).view createsJournal (changesOf done) = schemaOf (history ++ done) := by
  refine view_changesOf fun before migration after hdone => ?_
  have hbefore : Draft calls history i pending before (migration :: (after ++ left)) :=
    { purpose := h.purpose
      fits := h.fits
      pending_eq := h.pending_eq
      split := by rw [h.split, hdone, List.append_assoc, List.cons_append] }
  exact hbefore.creates

theorem Draft.refusesScript (h : Draft calls history i pending done (migration :: left)) :
    ((schemaOf history).view createsJournal (changesOf done)).refusesScript createsJournal
      migration.sqlBytes = none := by
  rw [h.view, MetadataSchema.refusesScript, h.creates]
  by_cases hempty : history ++ done = []
  · simp [hempty, schemaOf]
  · simp [hempty]

theorem Draft.view_script (h : Draft calls history i pending done (migration :: left)) :
    (schemaOf history).view createsJournal (changesOf done ++ [.script migration.sqlBytes])
      = { journal := some ((history ++ done).map Migration.row)
          scripts := (history ++ done ++ [migration]).map Migration.sqlBytes } := by
  have hview := h.view
  unfold MetadataSchema.view at hview ⊢
  rw [List.foldl_append, hview, List.foldl_cons, List.foldl_nil, apply_script h.creates]

theorem Draft.refusesRow (h : Draft calls history i pending done (migration :: left)) :
    ((schemaOf history).view createsJournal
      (changesOf done ++ [.script migration.sqlBytes])).refusesRow migration.row = none := by
  have hconflicts := (calls i).package.not_conflicts h.migrations
  rw [List.map_append, ← h.fits.rows, ← List.map_append] at hconflicts
  rw [h.view_script, MetadataSchema.refusesRow]
  dsimp only
  rw [if_neg (row_checks migration), if_neg hconflicts]

theorem Draft.next (h : Draft calls history i pending done (migration :: left)) :
    Draft calls history i pending (done ++ [migration]) left where
  purpose := h.purpose
  fits := h.fits
  pending_eq := h.pending_eq
  split := by rw [h.split, List.append_assoc, List.singleton_append]

end Drafts

end ForensicData.Persistence.Migrating
