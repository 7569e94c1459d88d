/-
ForensicData.Persistence.MigrationRuns — migrators and runtimes of any releases.

Whatever they do and whichever connections are lost, what is committed is the
outcome of a history (`Sound`). A transaction adds all that its package has
beyond the history, or nothing; so the journal is always the whole journal of
one of the packages. `MigrationLaw` is what follows for every run.
-/
import ForensicData.Persistence.MigrationTheorems

namespace ForensicData.Persistence.Migrating

open ForensicData.Canonical
open ForensicData.Lib
open ForensicData.Reporting

variable {sha256 : Sha256} {createsJournal : Bytes → Bool}
variable {ι : Type} {calls : ι → MigrationCall sha256 createsJournal}
variable {history : List (Migration sha256)} {w : MigrationWorld ι sha256} {i : ι}

/-! ## The invariant -/

/-- A refusal is not internal, and what it says of the journal is so. -/
structure ErrorSound (calls : ι → MigrationCall sha256 createsJournal) (i : ι)
    (error : MigrationError) : Prop where
  consistent : error.isInternal = false
  mismatch : error.isMismatch = true → ∃ j, Differ (calls i).package.rows (calls j).package.rows
  newer : ∀ version packagedLatest, error = .history (.unknownNewer version packagedLatest) →
    packagedLatest = (calls i).package.migrations.length ∧
      ∃ j, packagedLatest < (calls j).package.migrations.length

/-- A report names what its transaction added, up to the end of its package. -/
structure Reported (calls : ι → MigrationCall sha256 createsJournal)
    (history : List (Migration sha256)) (i : ι) (report : MigrationReport) : Prop where
  purpose : (calls i).purpose = .migrate
  applied : ∃ before, report.appliedVersions
    = List.range' (before + 1) ((calls i).package.migrations.length - before)
  current : report.currentVersion = (calls i).package.migrations.length
  rows : (calls i).package.rows <+: history.map Migration.row

/-- What holds of a call where it stands. -/
def ProgressSound (calls : ι → MigrationCall sha256 createsJournal)
    (history : List (Migration sha256)) (i : ι) : CallProgress sha256 → Prop
  | .connecting _ => True
  | .waiting _ => (calls i).purpose = .migrate
  | .looking _ => True
  | .reading _ => (calls i).purpose = .lifecycle ∨ history ≠ []
  | .executing _ changes pending left =>
    ∃ done, Draft calls history i pending done left ∧ changes = changesOf done
  | .inserting _ changes pending migration left =>
    ∃ done, Draft calls history i pending done (migration :: left) ∧
      changes = changesOf done ++ [.script migration.sqlBytes]
  | .ended (.ok (some report)) => Reported calls history i report
  | .ended (.ok none) => (calls i).package.rows <+: history.map Migration.row
  | .ended (.error error) => ErrorSound calls i error

/-- A call holds the lock while its transaction looks at the journal and adds to it. -/
def CallProgress.holdsLock (purpose : Purpose) : CallProgress sha256 → Bool
  | .looking _ => decide (purpose = .migrate)
  | .reading _ => decide (purpose = .migrate)
  | .executing _ _ _ _ => true
  | .inserting _ _ _ _ _ => true
  | _ => false

/-- What holds of every reachable world, with its history. -/
structure Sound (calls : ι → MigrationCall sha256 createsJournal) (w : MigrationWorld ι sha256)
    (history : List (Migration sha256)) : Prop where
  committed : w.committed = schemaOf history
  historic : Historic calls history
  lock : ∀ i, (w.progress i).holdsLock (calls i).purpose = true ↔ w.lock = some (.call i)
  orphan : ∀ changes, w.lock = some (.orphan changes true) →
    ∃ i, Draft calls history i (missing calls history i) (missing calls history i) [] ∧
      changes = changesOf (missing calls history i)
  progress : ∀ i, ProgressSound calls history i (w.progress i)
  once : ∀ i j first second, i ≠ j → w.progress i = .ended (.ok (some first)) →
    w.progress j = .ended (.ok (some second)) →
      ∀ version ∈ first.appliedVersions, version ∉ second.appliedVersions

@[simp] theorem CallProgress.holdsLock_looking (purpose : Purpose) (attempt : ℕ) :
    (.looking attempt : CallProgress sha256).holdsLock purpose = decide (purpose = .migrate) := rfl

@[simp] theorem CallProgress.holdsLock_reading (purpose : Purpose) (attempt : ℕ) :
    (.reading attempt : CallProgress sha256).holdsLock purpose = decide (purpose = .migrate) := rfl

theorem sound_initial : Sound calls .initial [] where
  committed := rfl
  historic := ⟨.inl rfl, fun migration hmem => by cases hmem⟩
  lock := fun i => by simp [MigrationWorld.initial, CallProgress.holdsLock]
  orphan := fun changes hlock => by cases hlock
  progress := fun i => trivial
  once := fun i j first second _ hfirst => by cases hfirst

theorem errorSound_of_plain {error : MigrationError} (hinternal : error.isInternal = false)
    (hmismatch : error.isMismatch = false)
    (hnewer : ∀ version packagedLatest, error ≠ .history (.unknownNewer version packagedLatest)) :
    ErrorSound calls i error where
  consistent := hinternal
  mismatch := fun h => by
    rw [hmismatch] at h
    cases h
  newer := fun version packagedLatest h => absurd h (hnewer version packagedLatest)

/-- What was true of a call that does not hold the lock stays true. -/
theorem ProgressSound.grow {progress : CallProgress sha256} {more : List (Migration sha256)}
    (h : ProgressSound calls history i progress)
    (hfree : progress.holdsLock (calls i).purpose = false) :
    ProgressSound calls (history ++ more) i progress := by
  have hrows : history.map Migration.row <+: (history ++ more).map Migration.row := by
    rw [List.map_append]
    exact List.prefix_append _ _
  cases progress with
  | connecting attempt => trivial
  | waiting attempt => exact h
  | looking attempt => trivial
  | reading attempt => exact h.imp_right fun hne => List.append_ne_nil_of_left_ne_nil hne _
  | executing attempt changes pending left => cases hfree
  | inserting attempt changes pending migration left => cases hfree
  | ended outcome =>
    rcases outcome with error | (_ | report)
    · exact h
    · exact List.IsPrefix.trans h hrows
    · exact ⟨h.purpose, h.applied, h.current, h.rows.trans hrows⟩

/-! ## What the comparisons find -/

theorem Compared.errorSound {migrations : List (Migration sha256)}
    {outcome : Except MigrationError Unit} {error : MigrationError} (h : Historic calls history)
    (hmigrations : migrations = (calls i).package.migrations)
    (hcompared : Compared (history.map Migration.row) migrations outcome)
    (herror : outcome = .error error) : ErrorSound calls i error := by
  obtain ⟨hinternal, hmismatch, hdiffer⟩ := hcompared.raises error herror
  rw [hmigrations] at hdiffer
  refine ⟨hinternal, fun _ => h.differ hdiffer, fun version packagedLatest hnewer => ?_⟩
  rw [hnewer] at hmismatch
  cases hmismatch

/-- A history that is not empty is found to fit, or is refused for what it is. -/
theorem Historic.validate (h : Historic calls history) (hne : history ≠ []) (i : ι) :
    (∀ applied, validateMigrationHistory (history.map Migration.row) (calls i).package.migrations
        = .ok applied → applied = history.length ∧ Fits calls history i) ∧
      ∀ error, validateMigrationHistory (history.map Migration.row) (calls i).package.migrations
        = .error error → ErrorSound calls i error := by
  have hrows : history.map Migration.row ≠ [] := by simpa using hne
  have hcompared := compared_validateRows 0 (h.aligned i)
  unfold validateMigrationHistory
  rw [if_neg hrows]
  cases hnext : (history.map Migration.row)[(calls i).package.migrations.length]? with
  | some unknown =>
    dsimp only
    refine ⟨fun applied hok => (by cases hok), fun error herror => ?_⟩
    cases herror
    refine ⟨rfl, fun hmismatch => (by cases hmismatch), fun version packagedLatest hnewer => ?_⟩
    cases hnewer
    refine ⟨rfl, ?_⟩
    obtain ⟨hlt, _⟩ := List.getElem?_eq_some_iff.mp hnext
    rcases h.complete with hempty | ⟨j, hcomplete⟩
    · exact absurd hempty hne
    · refine ⟨j, ?_⟩
      rw [hcomplete, Package.length_rows] at hlt
      exact hlt
  | none =>
    dsimp only
    have hle : (history.map Migration.row).length ≤ (calls i).package.migrations.length :=
      List.getElem?_eq_none_iff.mp hnext
    cases hvalidate :
        validateRows 0 (history.map Migration.row) (calls i).package.migrations with
    | error error =>
      refine ⟨fun applied hok => (by cases hok), fun error' herror => ?_⟩
      cases herror
      exact hcompared.errorSound h rfl hvalidate
    | ok u =>
      refine ⟨fun applied hok => ?_, fun error herror => by cases herror⟩
      cases hok
      have hfits := hcompared.accepts hvalidate hle
      rw [List.length_map] at hle hfits ⊢
      exact ⟨rfl, hle, hfits⟩

/-- A runtime that accepts the journal has the package of the journal. -/
theorem Fits.current (h : Fits calls history i)
    (hcurrent : requireCurrent history.length (calls i).package.migrations = .ok ()) :
    (calls i).package.rows = history.map Migration.row := by
  unfold requireCurrent at hcurrent
  cases hnext : (calls i).package.migrations[history.length]? with
  | some next => simp [hnext] at hcurrent
  | none =>
    have hle := List.getElem?_eq_none_iff.mp hnext
    rw [h.rows, List.take_of_length_le hle, Package.rows]

theorem errorSound_requireCurrent {applied : ℕ} {migrations : List (Migration sha256)}
    {error : MigrationError} (h : requireCurrent applied migrations = .error error) :
    ErrorSound calls i error := by
  unfold requireCurrent at h
  cases hnext : migrations[applied]? with
  | none => simp [hnext] at h
  | some next =>
    simp only [hnext, Except.error.injEq] at h
    subst h
    exact errorSound_of_plain rfl rfl fun _ _ => by simp

theorem Historic.lifecycle (h : Historic calls history) (i : ι) :
    (requireLifecycleSchema (history.map Migration.row) (calls i).package.migrations = .ok () →
        (calls i).package.rows = history.map Migration.row) ∧
      ∀ error, requireLifecycleSchema (history.map Migration.row) (calls i).package.migrations
        = .error error → ErrorSound calls i error := by
  have hcompared := compared_requireExact (h.aligned i)
  unfold requireLifecycleSchema
  by_cases hlength : (history.map Migration.row).length ≠ (calls i).package.migrations.length
  · rw [if_pos hlength]
    refine ⟨fun hok => (by cases hok), fun error herror => ?_⟩
    cases herror
    exact errorSound_of_plain rfl rfl fun _ _ => by simp
  · rw [if_neg hlength]
    have hsame := not_ne_iff.mp hlength
    refine ⟨fun hok => ?_, fun error herror => hcompared.errorSound h rfl herror⟩
    have hrows := hcompared.accepts hok (le_of_eq hsame)
    rw [hrows, hsame, List.take_length, Package.rows]

/-! ## Moves -/

section Moves

variable [DecidableEq ι] {progress : CallProgress sha256}

/-- Two reports of a world in which one call moved to a place without a report. -/
theorem Sound.once_update (h : Sound calls w history)
    (hreport : ∀ report, progress ≠ .ended (.ok (some report))) :
    ∀ j k first second, j ≠ k →
      Function.update w.progress i progress j = .ended (.ok (some first)) →
      Function.update w.progress i progress k = .ended (.ok (some second)) →
        ∀ version ∈ first.appliedVersions, version ∉ second.appliedVersions := by
  intro j k first second hjk hfirst hsecond
  by_cases hj : j = i
  · rw [hj, Function.update_self] at hfirst
    exact absurd hfirst (hreport first)
  by_cases hk : k = i
  · rw [hk, Function.update_self] at hsecond
    exact absurd hsecond (hreport second)
  rw [Function.update_of_ne hj] at hfirst
  rw [Function.update_of_ne hk] at hsecond
  exact h.once j k first second hjk hfirst hsecond

theorem progress_update {history' : List (Migration sha256)}
    (hmoved : ProgressSound calls history' i progress)
    (hothers : ∀ j, j ≠ i → ProgressSound calls history' j (w.progress j)) :
    ∀ j, ProgressSound calls history' j (Function.update w.progress i progress j) := by
  intro j
  by_cases hj : j = i
  · rw [hj, Function.update_self]
    exact hmoved
  · rw [Function.update_of_ne hj]
    exact hothers j hj

/-- A move that neither takes nor leaves the lock. -/
theorem Sound.go (h : Sound calls w history) (hmoved : ProgressSound calls history i progress)
    (hlock : progress.holdsLock (calls i).purpose = (w.progress i).holdsLock (calls i).purpose)
    (hreport : ∀ report, progress ≠ .ended (.ok (some report))) :
    Sound calls (w.go i progress) history where
  committed := h.committed
  historic := h.historic
  lock := fun j => by
    show (Function.update w.progress i progress j).holdsLock _ = true ↔ w.lock = _
    by_cases hj : j = i
    · rw [hj, Function.update_self, hlock]
      exact h.lock i
    · rw [Function.update_of_ne hj]
      exact h.lock j
  orphan := h.orphan
  progress := progress_update hmoved fun j _ => h.progress j
  once := h.once_update hreport

/-- The lock is granted. -/
theorem Sound.acquire (h : Sound calls w history) (hfree : w.lock = none)
    (hmoved : ProgressSound calls history i progress)
    (hholds : progress.holdsLock (calls i).purpose = true)
    (hreport : ∀ report, progress ≠ .ended (.ok (some report))) :
    Sound calls ({ w with lock := some (.call i) }.go i progress) history where
  committed := h.committed
  historic := h.historic
  lock := fun j => by
    show (Function.update w.progress i progress j).holdsLock _ = true ↔ some (Holder.call i) = _
    by_cases hj : j = i
    · rw [hj, Function.update_self]
      simp [hholds]
    · have hnot : (w.progress j).holdsLock (calls j).purpose ≠ true := fun hj' => by
        have := (h.lock j).mp hj'
        rw [hfree] at this
        cases this
      rw [Function.update_of_ne hj]
      simp [hnot, Ne.symm hj]
  orphan := fun changes hlock => by cases hlock
  progress := progress_update hmoved fun j _ => h.progress j
  once := h.once_update hreport

/-- The end of a transaction that held the lock, or none: the server has what is left. -/
theorem Sound.abandon (h : Sound calls w history) {changes : List Change} {committing : Bool}
    (hmoved : ProgressSound calls history i progress)
    (hfree : progress.holdsLock (calls i).purpose = false)
    (hreport : ∀ report, progress ≠ .ended (.ok (some report)))
    (hcommitting : committing = true →
      Draft calls history i (missing calls history i) (missing calls history i) [] ∧
        changes = changesOf (missing calls history i)) :
    Sound calls ((w.abandon i changes committing).go i progress) history := by
  have hothers (lock : Option (Holder ι)) (hlock : lock ≠ some (.call i))
      (hsame : ∀ j, j ≠ i → (lock = some (.call j) ↔ w.lock = some (.call j)))
      (horphan : ∀ left, lock = some (.orphan left true) →
        ∃ j, Draft calls history j (missing calls history j) (missing calls history j) [] ∧
          left = changesOf (missing calls history j)) :
      Sound calls ({ w with lock := lock }.go i progress) history :=
    { committed := h.committed
      historic := h.historic
      lock := fun j => by
        show (Function.update w.progress i progress j).holdsLock _ = true ↔ lock = _
        by_cases hj : j = i
        · rw [hj, Function.update_self, hfree]
          simp [hlock]
        · rw [Function.update_of_ne hj, hsame j hj]
          exact h.lock j
      orphan := horphan
      progress := progress_update hmoved fun j _ => h.progress j
      once := h.once_update hreport }
  unfold MigrationWorld.abandon
  rcases hlock : w.lock with _ | (holder | ⟨left, told⟩)
  · have hsound := hothers none (by simp) (fun j _ => by simp [hlock]) fun left hleft => by
      cases hleft
    rw [← hlock] at hsound
    exact hsound
  · dsimp only
    by_cases hholder : holder = i
    · rw [if_pos hholder]
      refine hothers _ (by simp) (fun j hj => ?_) fun left hleft => ?_
      · simp [hlock, hholder, Ne.symm hj]
      · cases hleft
        exact ⟨i, hcommitting rfl⟩
    · rw [if_neg hholder]
      have hsound := hothers (some (.call holder)) (by simp [hholder])
        (fun j _ => by simp [hlock]) fun left hleft => by cases hleft
      rw [← hlock] at hsound
      exact hsound
  · have hsound := hothers (some (.orphan left told)) (by simp) (fun j _ => by simp [hlock])
      fun changes hchanges => h.orphan changes (hlock.trans hchanges)
    rw [← hlock] at hsound
    exact hsound

end Moves

/-! ## What is committed -/

/-- A history that an event leaves as it is, or completes to a package. -/
def Extends (calls : ι → MigrationCall sha256 createsJournal)
    (before after : List (Migration sha256)) : Prop :=
  after = before ∨ ∃ i, Fits calls before i ∧ after = before ++ missing calls before i

theorem Extends.isPrefix {before after : List (Migration sha256)}
    (h : Extends calls before after) : before <+: after := by
  rcases h with rfl | ⟨i, _, rfl⟩
  · exact List.prefix_rfl
  · exact List.prefix_append _ _

/-- The report of a transaction that applied what was missing. -/
theorem Draft.reported {pending : List (Migration sha256)}
    (h : Draft calls history i pending pending []) :
    Reported calls (history ++ missing calls history i) i (migrationReport calls i pending) where
  purpose := h.purpose
  applied := ⟨history.length, by
    show pending.map Migration.version = _
    rw [h.pending_eq]
    exact (calls i).package.versions_drop history.length⟩
  current := by
    show ((calls i).package.migrations.getLast?.map Migration.version).getD 0 = _
    rw [List.getLast?_eq_getElem?]
    cases hlength : (calls i).package.migrations.length with
    | zero => simp [List.length_eq_zero_iff.mp hlength]
    | succ last =>
      have hlt : last < (calls i).package.migrations.length := by omega
      rw [Nat.add_sub_cancel, List.getElem?_eq_getElem hlt, Option.map_some,
        (calls i).package.version_getElem hlt]
      rfl
  rows := by
    rw [h.fits.rows_append]

/-- What a report names is in the journal. -/
theorem Reported.le {report : MigrationReport} (h : Reported calls history i report) {version : ℕ}
    (hversion : version ∈ report.appliedVersions) : version ≤ history.length := by
  obtain ⟨before, happlied⟩ := h.applied
  rw [happlied, List.mem_range'_1] at hversion
  have hle := h.rows.length_le
  rw [Package.length_rows, List.length_map] at hle
  omega

section Commits

variable [DecidableEq ι]

/-- A transaction that has applied all that was missing is committed. -/
theorem Sound.commit (h : Sound calls w history) {pending : List (Migration sha256)}
    (hdraft : Draft calls history i pending pending []) (hlock : w.lock = some (.call i)) :
    Sound calls
      ({ w with
        committed := w.committed.view createsJournal (changesOf pending), lock := none }.finish i
          (.ok (some (migrationReport calls i pending))))
      (history ++ missing calls history i) where
  committed := by
    show w.committed.view createsJournal (changesOf pending) = _
    rw [h.committed, hdraft.view, hdraft.pending_eq]
  historic := h.historic.extend hdraft.fits
  lock := fun j => by
    show (Function.update w.progress i _ j).holdsLock _ = true ↔ none = _
    by_cases hj : j = i
    · rw [hj, Function.update_self]
      simp [CallProgress.holdsLock]
    · rw [Function.update_of_ne hj, h.lock j, hlock]
      simp [Ne.symm hj]
  orphan := fun changes hnone => by cases hnone
  progress := progress_update hdraft.reported fun j hj => by
    refine (h.progress j).grow ?_
    by_contra hholds
    have hsame := (h.lock j).mp (by simpa using hholds)
    rw [hlock] at hsame
    cases hsame
    exact hj rfl
  once := by
    -- a new report names the versions after those that any earlier one can name
    have hnew : ∀ j report, j ≠ i → w.progress j = .ended (.ok (some report)) →
        ∀ version ∈ report.appliedVersions,
          version ∉ (migrationReport calls i pending).appliedVersions := by
      intro j report hj hended version hversion hmem
      have hsound := h.progress j
      rw [hended] at hsound
      have hle := Reported.le hsound hversion
      rw [migrationReport, hdraft.pending_eq, missing, (calls i).package.versions_drop,
        List.mem_range'_1] at hmem
      omega
    intro j k first second hjk hfirst hsecond version hversion
    simp only [MigrationWorld.finish, MigrationWorld.go] at hfirst hsecond
    by_cases hj : j = i
    · have hk : k ≠ i := fun hk => hjk (hj.trans hk.symm)
      rw [hj, Function.update_self] at hfirst
      rw [Function.update_of_ne hk] at hsecond
      cases hfirst
      exact fun hmem => hnew k second hk hsecond version hmem hversion
    · rw [Function.update_of_ne hj] at hfirst
      by_cases hk : k = i
      · rw [hk, Function.update_self] at hsecond
        cases hsecond
        exact hnew j first hj hfirst version hversion
      · rw [Function.update_of_ne hk] at hsecond
        exact h.once j k first second hjk hfirst hsecond version hversion

end Commits

/-- The server ends a transaction whose connection was lost. -/
theorem Sound.resolve (h : Sound calls w history) (commits : Bool) :
    ∃ history', Sound calls (resolve createsJournal w commits) history' ∧
      Extends calls history history' := by
  unfold ForensicData.Persistence.Migrating.resolve
  rcases hlock : w.lock with _ | (holder | ⟨changes, committing⟩)
  · exact ⟨history, h, .inl rfl⟩
  · exact ⟨history, h, .inl rfl⟩
  · dsimp only
    have hfree (j : ι) : (w.progress j).holdsLock (calls j).purpose = false := by
      by_contra hholds
      have hsame := (h.lock j).mp (by simpa using hholds)
      rw [hlock] at hsame
      cases hsame
    have hnone (j : ι) : (w.progress j).holdsLock (calls j).purpose = true ↔
        (none : Option (Holder ι)) = some (.call j) := by
      simp [hfree j]
    by_cases hcommits : committing = true ∧ commits = true
    · rw [if_pos hcommits]
      obtain ⟨i, hdraft, rfl⟩ := h.orphan changes (by rw [hlock, hcommits.1])
      refine ⟨history ++ missing calls history i, ?_, .inr ⟨i, hdraft.fits, rfl⟩⟩
      exact
        { committed := by
            show w.committed.view createsJournal _ = _
            rw [h.committed, hdraft.view]
          historic := h.historic.extend hdraft.fits
          lock := hnone
          orphan := fun changes hnone => by cases hnone
          progress := fun j => (h.progress j).grow (hfree j)
          once := h.once }
    · rw [if_neg hcommits]
      refine ⟨history, ?_, .inl rfl⟩
      exact
        { committed := h.committed
          historic := h.historic
          lock := hnone
          orphan := fun changes hnone => by cases hnone
          progress := h.progress
          once := h.once }

/-! ## Scripts -/

/-- No two packaged scripts have the same checksum. -/
def CollisionFree (calls : ι → MigrationCall sha256 createsJournal) : Prop :=
  ∀ i j, ∀ a ∈ (calls i).package.migrations, ∀ b ∈ (calls j).package.migrations,
    sha256.digest a.sqlBytes = sha256.digest b.sqlBytes → a.sqlBytes = b.sqlBytes

/-- With distinct checksums the same rows have the same scripts. -/
theorem Historic.scripts (h : Historic calls history) (hfree : CollisionFree calls) :
    history = [] ∨ ∃ i, history.map Migration.sqlBytes
      = (calls i).package.migrations.map Migration.sqlBytes := by
  refine h.complete.imp_right ?_
  rintro ⟨i, hrows⟩
  refine ⟨i, List.ext_getElem ?_ fun k hk hk' => ?_⟩
  · simpa [Package.rows] using congrArg List.length hrows
  · rw [List.length_map] at hk hk'
    obtain ⟨j, hmem⟩ := h.packaged history[k] (List.getElem_mem hk)
    have hrow := congrArg (fun rows => rows[k]?) hrows
    simp only [Package.rows, List.getElem?_map, List.getElem?_eq_getElem hk,
      List.getElem?_eq_getElem hk', Option.map_some] at hrow
    have hchecksum := congrArg JournalRow.checksumSha256 (Option.some.inj hrow)
    simp only [Migration.row, Migration.checksum_eq, fromHex_hexDigest] at hchecksum
    rw [List.getElem_map, List.getElem_map]
    exact hfree j i _ hmem _ (List.getElem_mem hk') hchecksum

/-! ## The steps of a call -/

/-- A place where a call has failed, or tries again. -/
structure Failed (calls : ι → MigrationCall sha256 createsJournal)
    (history : List (Migration sha256)) (i : ι) (progress : CallProgress sha256) : Prop where
  sound : ProgressSound calls history i progress
  free : progress.holdsLock (calls i).purpose = false
  noReport : ∀ report, progress ≠ .ended (.ok (some report))

theorem failed_error {error : MigrationError} (h : ErrorSound calls i error) :
    Failed calls history i (.ended (.error error)) :=
  ⟨h, rfl, fun report heq => by cases heq⟩

theorem failed_retried (i : ι) (attempt : ℕ) (error : DriverError) :
    Failed calls history i (retried calls i attempt error) := by
  unfold retried
  split
  · exact ⟨trivial, rfl, fun report heq => by cases heq⟩
  · exact failed_error (errorSound_of_plain rfl rfl fun _ _ heq => by cases heq)

theorem failed_connectionFailure (i : ι) (attempt : ℕ) (error : DriverError) :
    Failed calls history i (connectionFailure calls i attempt error) := by
  cases error with
  | operationalError errorType sqlstate => exact failed_retried i attempt _
  | otherError errorType sqlstate =>
    exact failed_error (errorSound_of_plain rfl rfl fun _ _ heq => by cases heq)

theorem failed_migrationFailure (i : ι) (attempt : ℕ) (stage : String)
    (current : Option (ℕ × String)) (error : DriverError) :
    Failed calls history i (migrationFailure calls i attempt stage current error) := by
  cases error with
  | operationalError errorType sqlstate =>
    rw [migrationFailure]
    split
    · exact failed_error (errorSound_of_plain rfl rfl fun _ _ heq => by cases heq)
    · exact failed_retried i attempt _
  | otherError errorType sqlstate =>
    exact failed_error (errorSound_of_plain rfl rfl fun _ _ heq => by cases heq)

theorem errorSound_driver (error : DriverError) : ErrorSound calls i (.driver error) :=
  errorSound_of_plain rfl rfl fun _ _ heq => by cases heq

/-- A transaction that has found how far the journal is, and has changed nothing. -/
theorem Fits.draft (h : Fits calls history i) (hpurpose : (calls i).purpose = .migrate) :
    Draft calls history i (missing calls history i) [] (missing calls history i) where
  purpose := hpurpose
  fits := h
  pending_eq := rfl
  split := rfl

/-- The journal is read as it is committed, in order. -/
theorem Sound.rows (h : Sound calls w history) :
    selectJournal (w.committed.journal.getD []) = history.map Migration.row := by
  rw [h.committed, journal_schemaOf, h.historic.selectJournal]

/-- A transaction with nothing left has applied all that was missing. -/
theorem Draft.complete {pending done : List (Migration sha256)}
    (h : Draft calls history i pending done []) :
    done = pending ∧ pending = missing calls history i ∧
      Draft calls history i pending pending [] := by
  have hdone : done = pending := by rw [h.split, List.append_nil]
  subst hdone
  exact ⟨rfl, h.pending_eq, h⟩

section Calls

variable [DecidableEq ι] {progress : CallProgress sha256}

theorem Sound.fails (h : Sound calls w history) (hfailed : Failed calls history i progress)
    (hfree : (w.progress i).holdsLock (calls i).purpose = false) :
    Sound calls (w.go i progress) history :=
  h.go hfailed.sound (hfailed.free.trans hfree.symm) hfailed.noReport

/-- A transaction that fails leaves nothing that the server would commit. -/
theorem Sound.rollsBack (h : Sound calls w history) (hfailed : Failed calls history i progress)
    (changes : List Change) : Sound calls ((w.abandon i changes false).go i progress) history :=
  h.abandon hfailed.sound hfailed.free hfailed.noReport fun heq => by cases heq

theorem Sound.connect (h : Sound calls w history) {attempt : ℕ}
    (hprogress : w.progress i = .connecting attempt) (event : CallEvent) :
    Sound calls (connect calls w i attempt event) history := by
  have hfree : (w.progress i).holdsLock (calls i).purpose = false := by rw [hprogress]; rfl
  cases event with
  | proceeds =>
    unfold ForensicData.Persistence.Migrating.connect
    cases hpurpose : (calls i).purpose with
    | migrate =>
      exact h.go hpurpose (by rw [hfree]; rfl) fun report heq => by cases heq
    | registration =>
      refine h.go trivial ?_ fun report heq => by cases heq
      rw [hfree]
      simp [hpurpose]
    | lifecycle =>
      refine h.go (.inl hpurpose) ?_ fun report heq => by cases heq
      rw [hfree]
      simp [hpurpose]
  | fails error =>
    unfold ForensicData.Persistence.Migrating.connect
    cases (calls i).purpose with
    | migrate => exact h.fails (failed_connectionFailure i attempt error) hfree
    | _ => exact h.fails (failed_error (errorSound_driver error)) hfree
  | refused message =>
    exact h.fails
      (failed_error (errorSound_of_plain rfl rfl fun _ _ heq => by cases heq)) hfree

theorem Sound.acquires (h : Sound calls w history) {attempt : ℕ}
    (hprogress : w.progress i = .waiting attempt) (event : CallEvent) :
    Sound calls (ForensicData.Persistence.Migrating.acquire calls w i attempt event) history := by
  have hfree : (w.progress i).holdsLock (calls i).purpose = false := by rw [hprogress]; rfl
  have hpurpose := h.progress i
  rw [hprogress] at hpurpose
  cases event with
  | proceeds =>
    unfold ForensicData.Persistence.Migrating.acquire
    cases hlock : w.lock with
    | none =>
      exact h.acquire hlock trivial (decide_eq_true hpurpose) fun report heq => by cases heq
    | some holder => exact h
  | fails error => exact h.fails (failed_migrationFailure i attempt _ none error) hfree
  | refused message => exact h

theorem Sound.failLooking (h : Sound calls w history) (attempt : ℕ) (error : DriverError)
    (hfree : (calls i).purpose ≠ .migrate → (w.progress i).holdsLock (calls i).purpose = false) :
    Sound calls (failLooking calls w i attempt error) history := by
  unfold ForensicData.Persistence.Migrating.failLooking
  cases hpurpose : (calls i).purpose with
  | migrate => exact h.rollsBack (failed_migrationFailure i attempt _ none error) []
  | _ => exact h.fails (failed_error (errorSound_driver error)) (hfree (by simp [hpurpose]))

/-- Without a journal nothing was applied. -/
theorem Sound.look (h : Sound calls w history) {attempt : ℕ}
    (hprogress : w.progress i = .looking attempt) :
    Sound calls (look calls w i attempt) history := by
  unfold ForensicData.Persistence.Migrating.look
  have hholds : (w.progress i).holdsLock (calls i).purpose = decide ((calls i).purpose = .migrate) := by
    rw [hprogress]
    rfl
  dsimp only
  rw [h.committed]
  by_cases hempty : history = []
  · subst hempty
    have hruntime (hother : (calls i).purpose ≠ .migrate) :
        Sound calls (w.finish i
          ((requireCurrent 0 (calls i).package.migrations).map fun _ => none)) [] := by
      have hfree : (w.progress i).holdsLock (calls i).purpose = false := by
        rw [hholds, decide_eq_false hother]
      cases hcurrent : requireCurrent 0 (calls i).package.migrations with
      | error error => exact h.fails (failed_error (errorSound_requireCurrent hcurrent)) hfree
      | ok u =>
        refine h.go ?_ hfree.symm fun report heq => by cases heq
        show (calls i).package.rows <+: _
        rw [(fits_nil calls i).current hcurrent]
    cases hpurpose : (calls i).purpose with
    | migrate =>
      refine h.go ⟨[], (fits_nil calls i).draft hpurpose, rfl⟩ ?_ fun report heq => by cases heq
      rw [hholds, decide_eq_true hpurpose]
      rfl
    | registration => exact hruntime (by simp [hpurpose])
    | lifecycle => exact hruntime (by simp [hpurpose])
  · have hjournal : (schemaOf history).journal = some (history.map Migration.row) := by
      simp [schemaOf, hempty]
    rw [hjournal]
    refine h.go (.inr hempty) ?_ fun report heq => by cases heq
    rw [hholds]
    rfl

theorem Sound.compareJournal (h : Sound calls w history) {attempt : ℕ}
    (hprogress : w.progress i = .reading attempt) :
    Sound calls (compareJournal calls w i attempt) history := by
  have hholds : (w.progress i).holdsLock (calls i).purpose = decide ((calls i).purpose = .migrate) := by
    rw [hprogress]
    rfl
  have hreading := h.progress i
  rw [hprogress] at hreading
  unfold ForensicData.Persistence.Migrating.compareJournal
  dsimp only
  rw [h.rows]
  cases hpurpose : (calls i).purpose with
  | migrate =>
    have hne : history ≠ [] := hreading.resolve_left (by simp [hpurpose])
    obtain ⟨haccepts, hraises⟩ := h.historic.validate hne i
    cases hvalidate :
        validateMigrationHistory (history.map Migration.row) (calls i).package.migrations with
    | error error => exact h.rollsBack (failed_error (hraises error hvalidate)) []
    | ok applied =>
      obtain ⟨rfl, hfits⟩ := haccepts applied hvalidate
      refine h.go ⟨[], hfits.draft hpurpose, rfl⟩ ?_ fun report heq => by cases heq
      rw [hholds, decide_eq_true hpurpose]
      rfl
  | registration =>
    have hne : history ≠ [] := hreading.resolve_left (by simp [hpurpose])
    have hfree : (w.progress i).holdsLock (calls i).purpose = false := by
      rw [hholds, hpurpose]
      rfl
    obtain ⟨haccepts, hraises⟩ := h.historic.validate hne i
    dsimp only
    cases hvalidate :
        validateMigrationHistory (history.map Migration.row) (calls i).package.migrations with
    | error error => exact h.fails (failed_error (hraises error hvalidate)) hfree
    | ok applied =>
      obtain ⟨rfl, hfits⟩ := haccepts applied hvalidate
      show Sound calls
        (w.finish i ((requireCurrent history.length _).map fun _ => none)) history
      cases hcurrent : requireCurrent history.length (calls i).package.migrations with
      | error error => exact h.fails (failed_error (errorSound_requireCurrent hcurrent)) hfree
      | ok u =>
        refine h.go ?_ hfree.symm fun report heq => by cases heq
        show (calls i).package.rows <+: _
        rw [hfits.current hcurrent]
  | lifecycle =>
    have hfree : (w.progress i).holdsLock (calls i).purpose = false := by
      rw [hholds, hpurpose]
      rfl
    obtain ⟨haccepts, hraises⟩ := h.historic.lifecycle i
    dsimp only
    split
    · exact h.fails (failed_error (errorSound_driver _)) hfree
    · cases hcurrent :
          requireLifecycleSchema (history.map Migration.row) (calls i).package.migrations with
      | error error => exact h.fails (failed_error (hraises error hcurrent)) hfree
      | ok u =>
        refine h.go ?_ hfree.symm fun report heq => by cases heq
        show (calls i).package.rows <+: _
        rw [haccepts hcurrent]

theorem Sound.executeScript (h : Sound calls w history) {attempt : ℕ} {changes : List Change}
    {pending left : List (Migration sha256)}
    (hprogress : w.progress i = .executing attempt changes pending left) (event : CallEvent) :
    ∃ history', Sound calls (executeScript calls w i attempt changes pending left event) history' ∧
      Extends calls history history' := by
  have hholds : (w.progress i).holdsLock (calls i).purpose = true := by rw [hprogress]; rfl
  have hlock : w.lock = some (.call i) := (h.lock i).mp hholds
  have hsound := h.progress i
  rw [hprogress] at hsound
  obtain ⟨done, hdraft, rfl⟩ := hsound
  cases left with
  | nil =>
    obtain ⟨rfl, hmissing, hcomplete⟩ := hdraft.complete
    cases event with
    | proceeds =>
      exact ⟨_, h.commit hcomplete hlock, .inr ⟨i, hdraft.fits, rfl⟩⟩
    | fails error =>
      cases error with
      | operationalError errorType sqlstate =>
        -- whether the commit took place is not known
        have hfailed := @failed_migrationFailure _ _ _ calls history i attempt
          ((done.getLast?.map stageText).getD "migration_journal") (done.getLast?.bind currentText)
          (.operationalError errorType sqlstate)
        refine ⟨history, ?_, .inl rfl⟩
        refine h.abandon hfailed.sound hfailed.free hfailed.noReport fun _ => ?_
        rw [hmissing] at hcomplete
        exact ⟨hcomplete, by rw [← hmissing]⟩
      | otherError errorType sqlstate =>
        exact ⟨history, h.rollsBack (failed_migrationFailure i attempt _ _ _) _, .inl rfl⟩
    | refused message => exact ⟨history, h, .inl rfl⟩
  | cons migration left =>
    cases event with
    | proceeds =>
      refine ⟨history, ?_, .inl rfl⟩
      rw [ForensicData.Persistence.Migrating.executeScript, h.committed, hdraft.refusesScript]
      exact h.go ⟨done, hdraft, rfl⟩ hholds.symm fun report heq => by cases heq
    | fails error =>
      exact ⟨history, h.rollsBack (failed_migrationFailure i attempt _ _ _) _, .inl rfl⟩
    | refused message => exact ⟨history, h, .inl rfl⟩

theorem Sound.insertJournal (h : Sound calls w history) {attempt : ℕ} {changes : List Change}
    {pending left : List (Migration sha256)} {migration : Migration sha256}
    (hprogress : w.progress i = .inserting attempt changes pending migration left)
    (event : CallEvent) :
    Sound calls (insertJournal calls w i attempt changes pending migration left event) history := by
  have hholds : (w.progress i).holdsLock (calls i).purpose = true := by rw [hprogress]; rfl
  have hsound := h.progress i
  rw [hprogress] at hsound
  obtain ⟨done, hdraft, rfl⟩ := hsound
  cases event with
  | proceeds =>
    rw [ForensicData.Persistence.Migrating.insertJournal, h.committed, hdraft.refusesRow]
    refine h.go ⟨done ++ [migration], hdraft.next, ?_⟩ hholds.symm fun report heq => by cases heq
    rw [changesOf_append]
  | fails error => exact h.rollsBack (failed_migrationFailure i attempt _ _ _) _
  | refused message => exact h

/-- A step of a call. -/
theorem Sound.afterCall (h : Sound calls w history) (i : ι) (event : CallEvent) :
    ∃ history', Sound calls (afterCall calls w i event) history' ∧
      Extends calls history history' := by
  unfold ForensicData.Persistence.Migrating.afterCall
  have hruntime (hpurpose : (calls i).purpose ≠ .migrate) (attempt : ℕ)
      (hprogress : w.progress i = .looking attempt ∨ w.progress i = .reading attempt) :
      (w.progress i).holdsLock (calls i).purpose = false := by
    rcases hprogress with hprogress | hprogress <;> simp [hprogress, hpurpose]
  cases hprogress : w.progress i with
  | connecting attempt => exact ⟨history, h.connect hprogress event, .inl rfl⟩
  | waiting attempt => exact ⟨history, h.acquires hprogress event, .inl rfl⟩
  | looking attempt =>
    refine ⟨history, ?_, .inl rfl⟩
    cases event with
    | proceeds => exact h.look hprogress
    | fails error =>
      exact h.failLooking attempt error fun hpurpose => hruntime hpurpose attempt (.inl hprogress)
    | refused message => exact h
  | reading attempt =>
    refine ⟨history, ?_, .inl rfl⟩
    cases event with
    | proceeds => exact h.compareJournal hprogress
    | fails error =>
      exact h.failLooking attempt error fun hpurpose => hruntime hpurpose attempt (.inr hprogress)
    | refused message => exact h
  | executing attempt changes pending left => exact h.executeScript hprogress event
  | inserting attempt changes pending migration left =>
    exact ⟨history, h.insertJournal hprogress event, .inl rfl⟩
  | ended outcome => exact ⟨history, h, .inl rfl⟩

/-! ## Runs -/

/-- An event completes the journal to a package, or leaves it as it is. -/
theorem Sound.after (h : Sound calls w history) (event : MigrationEvent ι) :
    ∃ history', Sound calls (afterMigration calls w event) history' ∧
      Extends calls history history' := by
  cases event with
  | call i event => exact h.afterCall i event
  | resolves commits => exact h.resolve commits

theorem Sound.foldl (h : Sound calls w history) (events : List (MigrationEvent ι)) :
    ∃ history', Sound calls (events.foldl (afterMigration calls) w) history' ∧
      history <+: history' := by
  induction events generalizing w history with
  | nil => exact ⟨history, h, List.prefix_rfl⟩
  | cons event rest ih =>
    obtain ⟨middle, hmiddle, hextends⟩ := h.after event
    obtain ⟨history', hsound, hprefix⟩ := ih hmiddle
    exact ⟨history', hsound, hextends.isPrefix.trans hprefix⟩

/-! ## The law -/

/-- What the events have left, for a history of the database. What is committed is
what the history leaves: each of its scripts was run once, with its row. The journal
is the whole journal of one of the packages, and where checksums tell scripts apart
its scripts are those of the package. An event leaves it, or completes it to a
package; it never loses a migration. One transaction at a time works on it. A
migrator that reports has its package in the journal, and no version is reported
twice. A runtime that accepts the journal has its package in it. What is refused is
no fault of the migrations themselves, and what a refusal says is so. -/
structure MigrationLaw (calls : ι → MigrationCall sha256 createsJournal)
    (events : List (MigrationEvent ι)) (history : List (Migration sha256)) : Prop where
  committed : (runMigrations calls events).committed = schemaOf history
  historic : Historic calls history
  scripts : CollisionFree calls → history = [] ∨ ∃ i,
    (runMigrations calls events).committed.scripts
      = (calls i).package.migrations.map Migration.sqlBytes
  step : ∀ event, ∃ history', (runMigrations calls (events ++ [event])).committed
    = schemaOf history' ∧ Extends calls history history'
  kept : ∀ more, ∃ later,
    (runMigrations calls (events ++ more)).committed = schemaOf (history ++ later)
  exclusive : ∀ i j,
    ((runMigrations calls events).progress i).holdsLock (calls i).purpose = true →
    ((runMigrations calls events).progress j).holdsLock (calls j).purpose = true → i = j
  reported : ∀ i report, (runMigrations calls events).progress i = .ended (.ok (some report)) →
    Reported calls history i report
  once : ∀ i j first second, i ≠ j →
    (runMigrations calls events).progress i = .ended (.ok (some first)) →
    (runMigrations calls events).progress j = .ended (.ok (some second)) →
      ∀ version ∈ first.appliedVersions, version ∉ second.appliedVersions
  accepted : ∀ i, (runMigrations calls events).progress i = .ended (.ok none) →
    (calls i).package.rows <+: history.map Migration.row
  refused : ∀ i error, (runMigrations calls events).progress i = .ended (.error error) →
    ErrorSound calls i error

/-- Every run of migrators and runtimes keeps to the law. -/
theorem metadata_migration_law (calls : ι → MigrationCall sha256 createsJournal)
    (events : List (MigrationEvent ι)) : ∃ history, MigrationLaw calls events history := by
  obtain ⟨history, hsound, _⟩ := sound_initial.foldl events
  refine ⟨history, ?_⟩
  exact
    { committed := hsound.committed
      historic := hsound.historic
      scripts := fun hfree => by
        have hcommitted : (runMigrations calls events).committed = schemaOf history :=
          hsound.committed
        rw [hcommitted]
        exact hsound.historic.scripts hfree
      step := fun event => by
        obtain ⟨history', hnext, hextends⟩ := hsound.after event
        refine ⟨history', ?_, hextends⟩
        rw [runMigrations, List.foldl_append]
        exact hnext.committed
      kept := fun more => by
        obtain ⟨history', hlater, later, rfl⟩ := hsound.foldl more
        refine ⟨later, ?_⟩
        rw [runMigrations, List.foldl_append]
        exact hlater.committed
      exclusive := fun i j hi hj => by
        have hfirst := (hsound.lock i).mp hi
        rw [(hsound.lock j).mp hj] at hfirst
        cases hfirst
        rfl
      reported := fun i report hended => by
        have hprogress := hsound.progress i
        rw [runMigrations] at hended
        rw [hended] at hprogress
        exact hprogress
      once := hsound.once
      accepted := fun i hended => by
        have hprogress := hsound.progress i
        rw [runMigrations] at hended
        rw [hended] at hprogress
        exact hprogress
      refused := fun i error hended => by
        have hprogress := hsound.progress i
        rw [runMigrations] at hended
        rw [hended] at hprogress
        exact hprogress }

end Calls

end ForensicData.Persistence.Migrating
