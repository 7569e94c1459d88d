/-
ForensicData.Persistence.ReconciliationTheorems — a lifecycle write is stored
once.

The loop keeps two states of the server apart by its flag: `Keyed.Quiet`, in
which nothing of the call is stored or under way, and `Keyed.Unresolved`. The
write starts from the first only (`connectAndWrite_spec`), and the lookup, which
reads under the lock, leads from the second back to it or finds the receipt
(`tryReconcile_spec`). From it `exactly_once_write`: a result stands for one
stored effect, a `LifecycleTransactionError` for none.
-/
import ForensicData.Persistence.Reconciliation

namespace ForensicData.Persistence

open ForensicData.Lib

variable {Store Result : Type} {write : LifecycleWrite Store Result}
variable {server after : Server Store}

/-! ## Ends -/

/-- A check of the server or of its schema raises the exception in this attempt. -/
def WriteFate.Checks {key : Keyed Store} (refusal : Refusal) : WriteFate key → Prop
  | .unconnected _ failure => failure.raised = .refusal refusal
  | .interrupted _ failure => failure.raised = .refusal refusal
  | .commits _ _ _ => False

/-- The exception is one of the write, of its lookup, or of a check of the server. -/
inductive RaisedBy (write : LifecycleWrite Store Result)
    (fates : List (AttemptFate write.toKeyed)) (refusal : Refusal) : Prop
  | once (store : Store) (h : write.once store = .error refusal)
  | lookup (store : Store) (h : write.lookup store = .error refusal)
  | check (fate : AttemptFate write.toKeyed) (hfate : fate ∈ fates)
      (h : fate.write.Checks refusal)

/-- One effect is stored under the locks, and nothing of the call is under way. -/
structure StoredOnce (write : LifecycleWrite Store Result) (server : Server Store) : Prop where
  count_eq : write.count server.store = 1
  pending_eq : server.pending = none
  committed_le : server.committed ≤ 1

/-- What the end of a call says about the server. -/
def EndsWell (write : LifecycleWrite Store Result) (fates : List (AttemptFate write.toKeyed))
    (server : Server Store) : Except Refusal Result → Prop
  | .ok _ => StoredOnce write server
  | .error refusal =>
    refusal.error = .lifecycleTransactionError ∧ write.Quiet server ∨
      refusal.error = .lifecycleCommitUnknownError ∧ write.Unresolved server ∨
      RaisedBy write fates refusal ∧ write.Quiet server

/-- What the flag of the loop says about the server. -/
def FlagHolds (write : LifecycleWrite Store Result) (server : Server Store) : Bool → Prop
  | true => write.Unresolved server
  | false => write.Quiet server

theorem RaisedBy.mono {fates others : List (AttemptFate write.toKeyed)} {refusal : Refusal}
    (h : RaisedBy write fates refusal) (hsub : ∀ fate ∈ fates, fate ∈ others) :
    RaisedBy write others refusal := by
  cases h with
  | once store h => exact .once store h
  | lookup store h => exact .lookup store h
  | check fate hfate h => exact .check fate (hsub fate hfate) h

theorem EndsWell.mono {fates others : List (AttemptFate write.toKeyed)}
    {outcome : Except Refusal Result} (h : EndsWell write fates server outcome)
    (hsub : ∀ fate ∈ fates, fate ∈ others) : EndsWell write others server outcome := by
  cases outcome with
  | ok result => exact h
  | error refusal =>
    rcases h with h | h | ⟨hraised, hquiet⟩
    · exact .inl h
    · exact .inr (.inl h)
    · exact .inr (.inr ⟨hraised.mono hsub, hquiet⟩)

/-! ## The lookup -/

/-- What a lookup says about the server. -/
def ReconciledHolds (write : LifecycleWrite Store Result) (server : Server Store) :
    Except Refusal (Reconciled Result) → Prop
  | .error refusal => (∃ store, write.lookup store = .error refusal) ∧ write.Quiet server
  | .ok (.receipt _) => StoredOnce write server
  | .ok .absent => write.Quiet server
  | .ok .unavailable => write.Unresolved server

theorem storedOnce_of_landed (h : write.Landed server) : StoredOnce write server :=
  ⟨h.count_eq, h.pending_eq, Nat.le_of_eq h.committed_eq⟩

/-- A lookup under the lock finds an effect that was committed, and none that was not. -/
theorem tryReconcile_spec (h : write.Unresolved server) (fate : ReconcileFate write.toKeyed) :
    ReconciledHolds write (tryReconcile write server fate).2 (tryReconcile write server fate).1 := by
  cases fate with
  | unavailable meanwhile => exact h.steps (meanwhile.2 server)
  | granted granted answered =>
    rcases granted.2 server with ⟨hsteps, hpending⟩
    have hunder := h.steps hsteps
    have hlocked := hunder.granted hpending
    unfold tryReconcile
    dsimp only
    generalize granted.1 server = locked at hpending hunder hlocked ⊢
    cases hlookup : write.lookup locked.store with
    | error refusal =>
      -- the effect of the call would have been found
      rcases hlocked with hquiet | hlanded
      · exact ⟨⟨locked.store, hlookup⟩, hquiet⟩
      · rcases write.lookup_own hlanded.own with ⟨result, hfound⟩
        rw [hlookup] at hfound
        cases hfound
    | ok found =>
      cases answered with
      | false => exact hunder
      | true =>
        cases found with
        | none =>
          have hnone := write.lookup_none hlookup
          rcases hlocked with hquiet | hlanded
          · exact hquiet
          · have hone := hlanded.count_eq
            omega
        | some result =>
          have hsome := write.lookup_some hlookup
          rcases hlocked with hquiet | hlanded
          · have hle := hquiet.count_le
            exact ⟨Nat.le_antisymm hle hsome, hpending, by simp [hquiet.committed_eq]⟩
          · exact storedOnce_of_landed hlanded

/-! ## The write -/

/-- What a connection of the write says about the server. -/
def WriteEndHolds (write : LifecycleWrite Store Result) (fate : AttemptFate write.toKeyed)
    (server : Server Store) : WriteEnd Result → Prop
  | .returned _ => StoredOnce write server
  | .raised (.refusal refusal) _ => RaisedBy write [fate] refusal ∧ write.Quiet server
  | .raised (.driver error) entered =>
    write.Unresolved server ∧ (¬ (entered = true ∧ error.IsAmbiguous) → write.Quiet server)

theorem LifecycleWrite.fits {result : Result} {effect : Effect Store} {store : Store}
    (h : write.once store = .ok (result, effect)) : write.Fits effect store := by
  intro change hchange
  cases hchange
  exact write.once_change h

/-- A failure before the `COMMIT` leaves nothing behind. -/
theorem writeEndHolds_failure {fate : AttemptFate write.toKeyed} {failure : Failure}
    (hchecks : ∀ refusal, failure.raised = .refusal refusal → fate.write.Checks refusal)
    (hquiet : write.Quiet after) (entered : Bool) :
    WriteEndHolds write fate after (.raised failure.raised entered) := by
  cases hraised : failure.raised with
  | driver error => exact ⟨.quiet hquiet, fun _ => hquiet⟩
  | refusal refusal =>
    exact ⟨.check fate (List.mem_singleton.mpr rfl) (hchecks refusal hraised), hquiet⟩

/-- An answered `COMMIT` has stored the effect. -/
theorem storedOnce_commit {result : Result} {effect : Effect Store} {next : Store}
    (h : write.Quiet server) (honce : write.once server.store = .ok (result, effect))
    (hbeside : Relation.ReflTransGen write.Apart server.store next) :
    StoredOnce write (Server.commit { server with store := next } effect) := by
  have hquiet := h.beside hbeside
  have hfits : write.Fits effect next := (LifecycleWrite.fits honce).beside hbeside
  cases effect with
  | none =>
    have hreplay := write.once_replay honce
    have hsame := Keyed.count_beside hbeside
    have hle := h.count_le
    exact ⟨hsame.trans (by omega), hquiet.pending_eq, by simp [Server.commit, h.committed_eq]⟩
  | some change =>
    have hchange := hfits change rfl
    exact ⟨hchange.2.count_eq hchange.1, hquiet.pending_eq, by simp [Server.commit, h.committed_eq]⟩

theorem connectAndWrite_spec (h : write.Quiet server) (fate : AttemptFate write.toKeyed) :
    WriteEndHolds write fate (connectAndWrite write server fate.write).2
      (connectAndWrite write server fate.write).1 := by
  cases hfate : fate.write with
  | unconnected meanwhile failure =>
    refine writeEndHolds_failure ?_ (h.steps (meanwhile.2 server)) false
    rw [hfate]
    exact fun _ hraised => hraised
  | interrupted meanwhile failure =>
    refine writeEndHolds_failure ?_ (h.steps (meanwhile.2 server)) true
    rw [hfate]
    exact fun _ hraised => hraised
  | commits granted beside commit =>
    have hlocked : write.Quiet (granted.1 server) := h.steps (granted.2 server).1
    unfold connectAndWrite
    dsimp only
    generalize granted.1 server = locked at hlocked ⊢
    cases honce : write.once locked.store with
    | error refusal => exact ⟨.once locked.store honce, hlocked⟩
    | ok written =>
      rcases written with ⟨result, effect⟩
      have hbeside := beside.2 locked.store
      have hquiet := hlocked.beside hbeside
      have hfits : write.Fits effect (beside.1 locked.store) :=
        (LifecycleWrite.fits honce).beside hbeside
      cases commit with
      | answered => exact storedOnce_commit hlocked honce hbeside
      | refused error definite => exact ⟨.quiet hquiet, fun _ => hquiet⟩
      | lost errorType sqlstate ambiguous landing =>
        -- the error is ambiguous, so the server may be in any state of the three
        refine ⟨?_, fun hdefinite => absurd ⟨rfl, ambiguous⟩ hdefinite⟩
        cases landing with
        | committed => exact hquiet.commit hfits
        | rolledBack => exact .quiet hquiet
        | pending => exact .underWay effect (hquiet.underWay hfits)

/-! ## The loop -/

/-- What an attempt says about the server. -/
def TurnHolds (write : LifecycleWrite Store Result) (fate : AttemptFate write.toKeyed)
    (server : Server Store) : Turn Result → Prop
  | .ended outcome => EndsWell write [fate] server outcome
  | .again lastError unresolved => lastError.isSome = true ∧ FlagHolds write server unresolved

theorem afterWrite_spec {fate : AttemptFate write.toKeyed} {written : WriteEnd Result}
    (h : WriteEndHolds write fate server written) :
    TurnHolds write fate (afterWrite write fate server written).2
      (afterWrite write fate server written).1 := by
  cases written with
  | returned result => exact h
  | raised raised entered =>
    cases raised with
    | refusal refusal => exact .inr (.inr h)
    | driver error =>
      rcases h with ⟨hunresolved, hquiet⟩
      cases error with
      | otherError errorType sqlstate => exact .inl ⟨rfl, hquiet fun hambiguous => hambiguous.2⟩
      | operationalError errorType sqlstate =>
        unfold afterWrite
        dsimp only
        by_cases hambiguous : (entered && isAmbiguousConnectionFailure sqlstate) = true
        · rw [if_pos hambiguous]
          have hlookup := tryReconcile_spec hunresolved fate.after
          generalize tryReconcile write server fate.after = reconciled at hlookup ⊢
          rcases reconciled with ⟨(refusal | result | _ | _), next⟩
          · rcases hlookup with ⟨⟨store, hstore⟩, hnext⟩
            exact .inr (.inr ⟨.lookup store hstore, hnext⟩)
          · exact hlookup
          · exact ⟨rfl, hlookup⟩
          · exact ⟨rfl, hlookup⟩
        · rw [if_neg hambiguous]
          refine ⟨rfl, hquiet fun hboth => hambiguous ?_⟩
          rw [Bool.and_eq_true]
          exact hboth

theorem writeTurn_spec (h : write.Quiet server) (fate : AttemptFate write.toKeyed) :
    TurnHolds write fate (writeTurn write fate server).2 (writeTurn write fate server).1 :=
  afterWrite_spec (connectAndWrite_spec h fate)

theorem takeTurn_spec {lastError : Option OperationalFailure} {unresolved : Bool}
    (hlast : unresolved = true → lastError.isSome = true)
    (h : FlagHolds write server unresolved) (fate : AttemptFate write.toKeyed) :
    TurnHolds write fate (takeTurn write fate lastError unresolved server).2
      (takeTurn write fate lastError unresolved server).1 := by
  cases unresolved with
  | false => exact writeTurn_spec h fate
  | true =>
    rcases Option.isSome_iff_exists.mp (hlast rfl) with ⟨lastError, rfl⟩
    have hlookup := tryReconcile_spec h fate.before
    unfold takeTurn
    rw [if_pos rfl]
    generalize tryReconcile write server fate.before = reconciled at hlookup ⊢
    rcases reconciled with ⟨(refusal | result | _ | _), next⟩
    · rcases hlookup with ⟨⟨store, hstore⟩, hnext⟩
      exact .inr (.inr ⟨.lookup store hstore, hnext⟩)
    · exact hlookup
    · exact writeTurn_spec hlookup fate
    · exact ⟨rfl, hlookup⟩

/-- The attempts end well from every state the flag allows. -/
theorem runTurns_spec (settings : PostgresConnectionSettings) (policy : PostgresRetryPolicy)
    {fates : List (AttemptFate write.toKeyed)} {lastError : Option OperationalFailure}
    {unresolved : Bool} (hlast : fates = [] ∨ unresolved = true → lastError.isSome = true)
    (h : FlagHolds write server unresolved) :
    EndsWell write fates (runTurns write settings policy fates lastError unresolved server).2
      (runTurns write settings policy fates lastError unresolved server).1 := by
  induction fates generalizing lastError unresolved server with
  | nil =>
    rcases Option.isSome_iff_exists.mp (hlast (.inl rfl)) with ⟨lastError, rfl⟩
    cases unresolved with
    | false => exact .inl ⟨rfl, h⟩
    | true => exact .inr (.inl ⟨rfl, h⟩)
  | cons fate fates ih =>
    have hturn := takeTurn_spec (fun hflag => hlast (.inr hflag)) h fate
    unfold runTurns
    generalize takeTurn write fate lastError unresolved server = turn at hturn ⊢
    rcases turn with ⟨(outcome | ⟨lastError, unresolved⟩), next⟩
    · exact EndsWell.mono hturn (by simp)
    · exact EndsWell.mono (ih (fun _ => hturn.1) hturn.2) fun other hother =>
        List.mem_cons_of_mem fate hother

/-- Whatever the connections do, a result is returned only when the effect is stored
once, and a `LifecycleTransactionError` is raised only when none of the call is; else
the commit is unknown, or the write was refused and nothing of it is stored. -/
theorem exactly_once_write (write : LifecycleWrite Store Result)
    (settings : PostgresConnectionSettings) (policy : PostgresRetryPolicy)
    (fates : ℕ → AttemptFate write.toKeyed) (server : Server Store) (h : write.Quiet server) :
    let ends := runWithReconciliation write settings policy fates server
    (∀ result, ends.1 = .ok result →
      write.count ends.2.store = 1 ∧ ends.2.pending = none ∧ ends.2.committed ≤ 1) ∧
    (∀ refusal, ends.1 = .error refusal → refusal.error = .lifecycleTransactionError →
      ends.2.committed = 0 ∧ ends.2.pending = none) ∧
    ∀ refusal, ends.1 = .error refusal → refusal.error ≠ .lifecycleTransactionError →
      refusal.error = .lifecycleCommitUnknownError ∧ ends.2.committed ≤ 1 ∨
        RaisedBy write ((List.range policy.maxAttempts).map fates) refusal ∧
          ends.2.committed = 0 ∧ ends.2.pending = none := by
  have hsome : (List.range policy.maxAttempts).map fates ≠ [] := by
    simp [policy.maxAttempts_pos.ne']
  have hends : EndsWell write _ (runWithReconciliation write settings policy fates server).2
      (runWithReconciliation write settings policy fates server).1 :=
    runTurns_spec settings policy (fun hempty => by simp [hsome] at hempty) h
  intro ends
  change EndsWell write _ ends.2 ends.1 at hends
  refine ⟨?_, ?_, ?_⟩
  · intro result hresult
    rw [hresult] at hends
    exact ⟨hends.count_eq, hends.pending_eq, hends.committed_le⟩
  · intro refusal hrefusal herror
    rw [hrefusal] at hends
    rcases hends with ⟨-, hquiet⟩ | ⟨hunknown, -⟩ | ⟨-, hquiet⟩
    · exact ⟨hquiet.committed_eq, hquiet.pending_eq⟩
    · rw [herror] at hunknown
      cases hunknown
    · exact ⟨hquiet.committed_eq, hquiet.pending_eq⟩
  · intro refusal hrefusal herror
    rw [hrefusal] at hends
    rcases hends with ⟨htransaction, -⟩ | ⟨hunknown, hunresolved⟩ | ⟨hraised, hquiet⟩
    · exact absurd htransaction herror
    · exact .inl ⟨hunknown, hunresolved.committed_le⟩
    · exact .inr ⟨hraised, hquiet.committed_eq, hquiet.pending_eq⟩

end ForensicData.Persistence
