/-
ForensicData.Persistence.ClaimRun — claiming a run.

The receipt of a claim is the run itself: a row of `dfe_metadata.runs` under the
operation, the request and the run id that the claim has locked
(`claimRunOnce`, `lookupClaimedRun`). `claimRun` is the claim as a lifecycle
write.
-/
import ForensicData.Persistence.Records
import ForensicData.Persistence.ReconciliationTheorems

namespace ForensicData.Persistence

open ForensicData.Lib
open ForensicData.Result

/-! ## Rows -/

/-- The columns of `dfe_metadata.runs` that a claim inserts; a digest is given by its
hexadecimal text, the payload by the canonical text of its `jsonb` value. -/
structure RunClaim where
  runId : Uuid
  creationOperationId : Uuid
  requestId : Uuid
  requestIdentityDigest : Sha256Hex
  requestPayload : String
  contractVersionId : Uuid
  origin : String
  scopeDigest : Sha256Hex
  createdAt : Instant
  deriving DecidableEq

/-- A row with the columns that later operations set. -/
structure RunRow extends RunClaim where
  boundInputCutDigest : Option Sha256Hex
  cutBindingOperationId : Option Uuid
  selectedTerminalAttemptId : Option Uuid
  terminalOperationId : Option Uuid

/-- The table and the time of its database. -/
structure RunStore where
  runs : List RunRow
  now : Instant

/-- `RunRequestDefinition`, as far as a claim stores it; the payload is the canonical
text of the whole request. -/
structure RunRequest where
  requestId : Uuid
  contractVersionId : Uuid
  origin : String
  scopeDigest : Sha256Hex
  requestIdentityDigest : Sha256Hex
  payloadJson : String

/-- `_RunExpectation`. -/
structure RunExpectation where
  candidateRunId : Uuid
  creationOperationId : Uuid
  request : RunRequest

/-- `_lock_operation_identities` locks the distinct identities in order. -/
def lockOperationIdentities (identities : List Uuid) : List Uuid :=
  identities.dedup.mergeSort (· ≤ ·)

def RunExpectation.identities (expected : RunExpectation) : List Uuid :=
  [expected.candidateRunId, expected.creationOperationId, expected.request.requestId]

def RunClaim.identities (claim : RunClaim) : List Uuid :=
  [claim.runId, claim.creationOperationId, claim.requestId]

/-! ## The claim -/

section Claim

variable (expected : RunExpectation)

/-- `_claimed_run_from_row`. -/
def claimedRunFromRow (row : RunRow) : Except Refusal ClaimedRun :=
  if row.requestId ≠ expected.request.requestId ∨
      ¬ (row.requestIdentityDigest = expected.request.requestIdentityDigest ∧
        row.requestPayload = expected.request.payloadJson ∧
        row.contractVersionId = expected.request.contractVersionId ∧
        row.origin = expected.request.origin ∧ row.scopeDigest = expected.request.scopeDigest) then
    .error
      (if row.requestId = expected.request.requestId then
        { error := .runRequestConflictError
          message := "request UUID is already bound to a different full canonical request payload" }
      else
        { error := .lifecycleOperationConflictError
          message := "run creation operation UUID is already bound to a different request" })
  else
    .ok
      { runId := row.runId
        creationOperationId := row.creationOperationId
        createdAt := row.createdAt
        boundInputCutDigest := row.boundInputCutDigest
        cutBindingOperationId := row.cutBindingOperationId
        selectedTerminalAttemptId := row.selectedTerminalAttemptId
        terminalOperationId := row.terminalOperationId }

def RunStore.selectRunByCreationOperation (store : RunStore) (operationId : Uuid) :
    Option RunRow :=
  store.runs.find? fun row => row.creationOperationId = operationId

def RunStore.selectRunByRequest (store : RunStore) (requestId : Uuid) : Option RunRow :=
  store.runs.find? fun row => row.requestId = requestId

def RunStore.selectRunById (store : RunStore) (runId : Uuid) : Option RunRow :=
  store.runs.find? fun row => row.runId = runId

/-- The inserted row. -/
def RunExpectation.row (now : Instant) : RunRow where
  runId := expected.candidateRunId
  creationOperationId := expected.creationOperationId
  requestId := expected.request.requestId
  requestIdentityDigest := expected.request.requestIdentityDigest
  requestPayload := expected.request.payloadJson
  contractVersionId := expected.request.contractVersionId
  origin := expected.request.origin
  scopeDigest := expected.request.scopeDigest
  createdAt := now
  boundInputCutDigest := none
  cutBindingOperationId := none
  selectedTerminalAttemptId := none
  terminalOperationId := none

def RunStore.insert (row : RunRow) (store : RunStore) : RunStore :=
  { store with runs := store.runs ++ [row] }

def boundRunConflict : Refusal where
  error := .lifecycleOperationConflictError
  message := "candidate run UUID is already bound to another lifecycle aggregate"

/-- `_claim_run_once` behind its locks, up to its `COMMIT`. -/
def claimRunOnce (store : RunStore) : Except Refusal (ClaimedRun × Effect RunStore) :=
  match store.selectRunByCreationOperation expected.creationOperationId with
  | some row => (claimedRunFromRow expected row).map fun run => (run, none)
  | none =>
    match store.selectRunByRequest expected.request.requestId with
    | some row => (claimedRunFromRow expected row).map fun run => (run, none)
    | none =>
      match store.selectRunById expected.candidateRunId with
      | some _ => .error boundRunConflict
      | none =>
        let row := expected.row store.now
        match (store.insert row).selectRunByRequest expected.request.requestId with
        | none => .error
          { error := .storedLifecycleIntegrityError
            message := "run claim insert produced no durable request identity row" }
        | some inserted =>
          (claimedRunFromRow expected inserted).map fun run => (run, some (RunStore.insert row))

/-- `_lookup_claimed_run`, up to its `COMMIT`. -/
def lookupClaimedRun (store : RunStore) : Except Refusal (Option ClaimedRun) :=
  match store.selectRunByCreationOperation expected.creationOperationId with
  | some row => (claimedRunFromRow expected row).map some
  | none =>
    match store.selectRunByRequest expected.request.requestId with
    | some row => (claimedRunFromRow expected row).map some
    | none =>
      match store.selectRunById expected.candidateRunId with
      | some _ => .error boundRunConflict
      | none => .ok none

end Claim

/-! ## What a claim finds -/

/-- What the columns of a claim and its checks agree on. -/
structure RunClaim.Matches (claim : RunClaim) (expected : RunExpectation) : Prop where
  requestId : claim.requestId = expected.request.requestId
  requestIdentityDigest : claim.requestIdentityDigest = expected.request.requestIdentityDigest
  requestPayload : claim.requestPayload = expected.request.payloadJson
  contractVersionId : claim.contractVersionId = expected.request.contractVersionId
  origin : claim.origin = expected.request.origin
  scopeDigest : claim.scopeDigest = expected.request.scopeDigest

section Claim

variable {expected : RunExpectation} {store : RunStore}

theorem claimedRunFromRow_matches {row : RunRow} (h : row.toRunClaim.Matches expected) :
    ∃ run, claimedRunFromRow expected row = .ok run := by
  unfold claimedRunFromRow
  rw [if_neg]
  · exact ⟨_, rfl⟩
  · simp [h.requestId, h.requestIdentityDigest, h.requestPayload, h.contractVersionId, h.origin,
      h.scopeDigest]

theorem requestId_of_claimedRunFromRow {row : RunRow} {run : ClaimedRun}
    (h : claimedRunFromRow expected row = .ok run) :
    row.requestId = expected.request.requestId := by
  unfold claimedRunFromRow at h
  split at h
  · cases h
  · rename_i hmatches
    exact not_not.mp fun hdiffers => hmatches (.inl hdiffers)

theorem claimedRunFromRow_refusal {row : RunRow} {refusal : Refusal}
    (h : claimedRunFromRow expected row = .error refusal) : ¬ IsRetryError refusal := by
  unfold claimedRunFromRow at h
  split at h
  · cases h
    split <;> simp [IsRetryError]
  · cases h

theorem row_matches (expected : RunExpectation) (now : Instant) :
    (expected.row now).toRunClaim.Matches expected :=
  ⟨rfl, rfl, rfl, rfl, rfl, rfl⟩

/-- How many runs the request has. -/
def runsOfRequest (expected : RunExpectation) (store : RunStore) : ℕ :=
  store.runs.countP fun row => row.requestId = expected.request.requestId

theorem runsOfRequest_pos {row : RunRow} (hmem : row ∈ store.runs)
    (h : row.requestId = expected.request.requestId) : 0 < runsOfRequest expected store :=
  List.countP_pos_iff.mpr ⟨row, hmem, decide_eq_true h⟩

theorem runsOfRequest_eq_zero
    (h : store.selectRunByRequest expected.request.requestId = none) :
    runsOfRequest expected store = 0 := by
  rw [RunStore.selectRunByRequest, List.find?_eq_none] at h
  exact List.countP_eq_zero.mpr h

/-- None of the identities of the claim is taken. -/
structure Unclaimed (expected : RunExpectation) (store : RunStore) : Prop where
  operation : store.selectRunByCreationOperation expected.creationOperationId = none
  request : store.selectRunByRequest expected.request.requestId = none
  run : store.selectRunById expected.candidateRunId = none

/-- The operation of the claim has the run of its request. -/
def Claimed (expected : RunExpectation) (store : RunStore) : Prop :=
  ∃ row, store.selectRunByCreationOperation expected.creationOperationId = some row ∧
    row.toRunClaim.Matches expected

/-! ## Other transactions -/

/-- Rows are updated in the columns that no claim sets. -/
def KeepsClaims (update : RunRow → RunRow) : Prop :=
  ∀ row, (update row).toRunClaim = row.toRunClaim

/-- A transaction without the locks of the claim: it updates runs, or claims runs of
which it has locked the identities. -/
def ClaimApart (expected : RunExpectation) (store after : RunStore) : Prop :=
  ∃ (update : RunRow → RunRow) (claimed : List RunRow), KeepsClaims update ∧
    (∀ row ∈ claimed, ∀ identity ∈ row.identities,
      identity ∉ lockOperationIdentities expected.identities) ∧
    after.runs = store.runs.map update ++ claimed

/-- A transaction under one of the locks of the claim: it claims one run, whose
identities are unique in the table. -/
def ClaimRival (store after : RunStore) : Prop :=
  ∃ (row : RunRow), (∀ other ∈ store.runs, other.runId ≠ row.runId ∧
      other.creationOperationId ≠ row.creationOperationId ∧ other.requestId ≠ row.requestId) ∧
    after.runs = store.runs ++ [row]

theorem mem_lockOperationIdentities {identities : List Uuid} {identity : Uuid} :
    identity ∈ lockOperationIdentities identities ↔ identity ∈ identities := by
  rw [lockOperationIdentities, List.mem_mergeSort, List.mem_dedup]

/-- A search by the columns of a claim passes over updates and over other claims. -/
theorem find?_apart (key : RunClaim → Uuid) {after : RunStore} {value : Uuid}
    {update : RunRow → RunRow} {claimed : List RunRow} (hkeeps : KeepsClaims update)
    (hother : ∀ row ∈ claimed, key row.toRunClaim ≠ value)
    (hafter : after.runs = store.runs.map update ++ claimed) :
    after.runs.find? (fun row => key row.toRunClaim = value)
      = (store.runs.find? fun row => key row.toRunClaim = value).map update := by
  have hnone : claimed.find? (fun row => key row.toRunClaim = value) = none :=
    List.find?_eq_none.mpr fun row hrow => by simpa using hother row hrow
  have hcomp : (fun row => decide (key row.toRunClaim = value)) ∘ update
      = fun row : RunRow => decide (key row.toRunClaim = value) := by
    funext row
    simp only [Function.comp_apply, hkeeps row]
  rw [hafter, List.find?_append, List.find?_map, hcomp, hnone, Option.or_none]

/-- The identities of other claims are not those of this one. -/
theorem ClaimApart.differs {claimed : List RunRow}
    (hother : ∀ row ∈ claimed, ∀ identity ∈ row.identities,
      identity ∉ lockOperationIdentities expected.identities)
    {row : RunRow} (hrow : row ∈ claimed) {identity own : Uuid} (hidentity : identity ∈ row.identities)
    (hown : own ∈ expected.identities) : identity ≠ own := by
  rintro rfl
  exact hother row hrow identity hidentity (mem_lockOperationIdentities.mpr hown)

theorem Unclaimed.apart {after : RunStore} (h : Unclaimed expected store)
    (hapart : ClaimApart expected store after) : Unclaimed expected after := by
  rcases hapart with ⟨update, claimed, hkeeps, hother, hafter⟩
  have hoperation : ∀ row ∈ claimed, row.creationOperationId ≠ expected.creationOperationId :=
    fun row hrow => ClaimApart.differs hother hrow (by simp [RunClaim.identities])
      (by simp [RunExpectation.identities])
  have hrequest : ∀ row ∈ claimed, row.requestId ≠ expected.request.requestId :=
    fun row hrow => ClaimApart.differs hother hrow (by simp [RunClaim.identities])
      (by simp [RunExpectation.identities])
  have hrun : ∀ row ∈ claimed, row.runId ≠ expected.candidateRunId :=
    fun row hrow => ClaimApart.differs hother hrow (by simp [RunClaim.identities])
      (by simp [RunExpectation.identities])
  constructor
  · exact (find?_apart RunClaim.creationOperationId hkeeps hoperation hafter).trans
      (congrArg (Option.map update) h.operation)
  · exact (find?_apart RunClaim.requestId hkeeps hrequest hafter).trans
      (congrArg (Option.map update) h.request)
  · exact (find?_apart RunClaim.runId hkeeps hrun hafter).trans
      (congrArg (Option.map update) h.run)

theorem Claimed.apart {after : RunStore} (h : Claimed expected store)
    (hapart : ClaimApart expected store after) : Claimed expected after := by
  rcases hapart with ⟨update, claimed, hkeeps, hother, hafter⟩
  rcases h with ⟨row, hrow, hmatches⟩
  have hoperation : ∀ other ∈ claimed, other.creationOperationId ≠ expected.creationOperationId :=
    fun other hmem => ClaimApart.differs hother hmem (by simp [RunClaim.identities])
      (by simp [RunExpectation.identities])
  refine ⟨update row, ?_, ?_⟩
  · exact (find?_apart RunClaim.creationOperationId hkeeps hoperation hafter).trans
      (congrArg (Option.map update) hrow)
  · rw [hkeeps row]
    exact hmatches

theorem runsOfRequest_apart {after : RunStore} (hapart : ClaimApart expected store after) :
    runsOfRequest expected after = runsOfRequest expected store := by
  rcases hapart with ⟨update, claimed, hkeeps, hother, hafter⟩
  have hnone : claimed.countP (fun row => row.requestId = expected.request.requestId) = 0 := by
    rw [List.countP_eq_zero]
    intro row hrow
    have hdiffers : row.requestId ≠ expected.request.requestId :=
      ClaimApart.differs hother hrow (by simp [RunClaim.identities])
        (by simp [RunExpectation.identities])
    simpa using hdiffers
  have hcomp : (fun row => decide (row.requestId = expected.request.requestId)) ∘ update
      = fun row : RunRow => decide (row.requestId = expected.request.requestId) := by
    funext row
    have hsame : (update row).requestId = row.requestId := congrArg RunClaim.requestId (hkeeps row)
    simp only [Function.comp_apply, hsame]
  rw [runsOfRequest, hafter, List.countP_append, hnone, List.countP_map, hcomp]
  rfl

theorem runsOfRequest_rival {after : RunStore} (hrival : ClaimRival store after)
    (h : runsOfRequest expected store ≤ 1) : runsOfRequest expected after ≤ 1 := by
  rcases hrival with ⟨row, hunique, hafter⟩
  rw [runsOfRequest, hafter, List.countP_append, List.countP_singleton]
  by_cases hrequest : row.requestId = expected.request.requestId
  · have hzero : store.runs.countP (fun other => other.requestId = expected.request.requestId) = 0 := by
      rw [List.countP_eq_zero]
      intro other hother
      have hdiffers := (hunique other hother).2.2
      rw [hrequest] at hdiffers
      simpa using hdiffers
    rw [hzero]
    simp [hrequest]
  · simpa [hrequest, runsOfRequest] using h

theorem Claimed.rival {after : RunStore} (h : Claimed expected store)
    (hrival : ClaimRival store after) : Claimed expected after := by
  rcases hrival with ⟨other, hunique, hafter⟩
  rcases h with ⟨row, hrow, hmatches⟩
  refine ⟨row, ?_, hmatches⟩
  rw [RunStore.selectRunByCreationOperation] at hrow
  rw [RunStore.selectRunByCreationOperation, hafter, List.find?_append, hrow]
  rfl

/-! ## The claim as a write -/

theorem Claimed.runsOfRequest_pos (h : Claimed expected store) :
    0 < runsOfRequest expected store := by
  rcases h with ⟨row, hrow, hmatches⟩
  exact ForensicData.Persistence.runsOfRequest_pos (List.mem_of_find?_eq_some hrow)
    hmatches.requestId

/-- The inserted row is found by its identities. -/
theorem Unclaimed.select_insert (h : Unclaimed expected store) (now : Instant) :
    (store.insert (expected.row now)).selectRunByRequest expected.request.requestId
        = some (expected.row now) ∧
      (store.insert (expected.row now)).selectRunByCreationOperation expected.creationOperationId
        = some (expected.row now) := by
  have hrequest := h.request
  have hoperation := h.operation
  rw [RunStore.selectRunByRequest] at hrequest
  rw [RunStore.selectRunByCreationOperation] at hoperation
  rw [RunStore.selectRunByRequest, RunStore.selectRunByCreationOperation, RunStore.insert,
    List.find?_append, List.find?_append, hrequest, hoperation]
  simp [RunExpectation.row]

theorem Unclaimed.insert (h : Unclaimed expected store) (now : Instant) :
    runsOfRequest expected (store.insert (expected.row now)) = 1 ∧
      Claimed expected (store.insert (expected.row now)) := by
  have hzero := runsOfRequest_eq_zero h.request
  rw [runsOfRequest] at hzero
  refine ⟨?_, expected.row now, (h.select_insert now).2, row_matches expected now⟩
  rw [runsOfRequest, RunStore.insert, List.countP_append, hzero]
  simp [RunExpectation.row]

/-- A claim returns a run of its request, or inserts it where nothing is claimed. -/
theorem claimRunOnce_eq_ok {run : ClaimedRun} {effect : Effect RunStore}
    (h : claimRunOnce expected store = .ok (run, effect)) :
    (effect = none ∧ 0 < runsOfRequest expected store) ∨
      (effect = some (RunStore.insert (expected.row store.now)) ∧ Unclaimed expected store) := by
  have hreplay : ∀ {row : RunRow} {found : ClaimedRun × Effect RunStore}, row ∈ store.runs →
      (claimedRunFromRow expected row).map (fun run => (run, (none : Effect RunStore))) = .ok found →
      found.2 = none ∧ 0 < runsOfRequest expected store := by
    intro row found hmem hfound
    cases hread : claimedRunFromRow expected row with
    | error refusal =>
      rw [hread] at hfound
      cases hfound
    | ok run =>
      rw [hread] at hfound
      cases hfound
      exact ⟨rfl, runsOfRequest_pos hmem (requestId_of_claimedRunFromRow hread)⟩
  unfold claimRunOnce at h
  cases hoperation : store.selectRunByCreationOperation expected.creationOperationId with
  | some row =>
    rw [hoperation] at h
    exact .inl (hreplay (List.mem_of_find?_eq_some hoperation) h)
  | none =>
    cases hrequest : store.selectRunByRequest expected.request.requestId with
    | some row =>
      simp only [hoperation, hrequest] at h
      exact .inl (hreplay (List.mem_of_find?_eq_some hrequest) h)
    | none =>
      cases hrun : store.selectRunById expected.candidateRunId with
      | some row =>
        simp only [hoperation, hrequest, hrun] at h
        cases h
      | none =>
        have hunclaimed : Unclaimed expected store := ⟨hoperation, hrequest, hrun⟩
        have hinserted := (hunclaimed.select_insert store.now).1
        rcases claimedRunFromRow_matches (row_matches expected store.now) with ⟨claimed, hclaimed⟩
        simp only [hoperation, hrequest, hrun, hinserted, hclaimed] at h
        cases h
        exact .inr ⟨rfl, hunclaimed⟩

theorem map_eq_error {α β : Type} {x : Except Refusal α} {f : α → β} {refusal : Refusal}
    (h : x.map f = .error refusal) : x = .error refusal := by
  cases x with
  | error other => simpa [Except.map] using h
  | ok value => cases h

theorem claimRunOnce_refusal {refusal : Refusal}
    (h : claimRunOnce expected store = .error refusal) : ¬ IsRetryError refusal := by
  unfold claimRunOnce at h
  split at h
  · exact claimedRunFromRow_refusal (map_eq_error h)
  · split at h
    · exact claimedRunFromRow_refusal (map_eq_error h)
    · split at h
      · cases h
        simp [IsRetryError, boundRunConflict]
      · dsimp only at h
        split at h
        · cases h
          simp [IsRetryError]
        · exact claimedRunFromRow_refusal (map_eq_error h)

theorem lookupClaimedRun_refusal {refusal : Refusal}
    (h : lookupClaimedRun expected store = .error refusal) : ¬ IsRetryError refusal := by
  unfold lookupClaimedRun at h
  split at h
  · exact claimedRunFromRow_refusal (map_eq_error h)
  · split at h
    · exact claimedRunFromRow_refusal (map_eq_error h)
    · split at h
      · cases h
        simp [IsRetryError, boundRunConflict]
      · cases h

/-- A lookup finds a run of the request, or nothing claimed. -/
theorem lookupClaimedRun_eq_ok {found : Option ClaimedRun}
    (h : lookupClaimedRun expected store = .ok found) :
    (found.isSome = true ∧ 0 < runsOfRequest expected store) ∨
      (found = none ∧ runsOfRequest expected store = 0) := by
  have hreplay : ∀ {row : RunRow} {found : Option ClaimedRun}, row ∈ store.runs →
      (claimedRunFromRow expected row).map some = .ok found →
      found.isSome = true ∧ 0 < runsOfRequest expected store := by
    intro row found hmem hfound
    cases hread : claimedRunFromRow expected row with
    | error refusal =>
      rw [hread] at hfound
      cases hfound
    | ok run =>
      rw [hread] at hfound
      cases hfound
      exact ⟨rfl, runsOfRequest_pos hmem (requestId_of_claimedRunFromRow hread)⟩
  unfold lookupClaimedRun at h
  cases hoperation : store.selectRunByCreationOperation expected.creationOperationId with
  | some row =>
    rw [hoperation] at h
    exact .inl (hreplay (List.mem_of_find?_eq_some hoperation) h)
  | none =>
    cases hrequest : store.selectRunByRequest expected.request.requestId with
    | some row =>
      simp only [hoperation, hrequest] at h
      exact .inl (hreplay (List.mem_of_find?_eq_some hrequest) h)
    | none =>
      simp only [hoperation, hrequest] at h
      split at h
      · cases h
      · cases h
        exact .inr ⟨rfl, runsOfRequest_eq_zero hrequest⟩

theorem Claimed.lookup (h : Claimed expected store) :
    ∃ run, lookupClaimedRun expected store = .ok (some run) := by
  rcases h with ⟨row, hrow, hmatches⟩
  rcases claimedRunFromRow_matches hmatches with ⟨run, hrun⟩
  refine ⟨run, ?_⟩
  rw [lookupClaimedRun, hrow]
  simp only [hrun]
  rfl

/-- `claim_postgres_run`, in its loop. -/
def claimRun (expected : RunExpectation) : LifecycleWrite RunStore ClaimedRun where
  count := runsOfRequest expected
  Free := Unclaimed expected
  Own := Claimed expected
  Apart := ClaimApart expected
  Rival := ClaimRival
  count_own := Claimed.runsOfRequest_pos
  apart_count := runsOfRequest_apart
  apart_free := fun hapart hfree => hfree.apart hapart
  apart_own := fun hapart hown => hown.apart hapart
  rival_count := runsOfRequest_rival
  rival_own := fun hrival hown => hown.rival hrival
  operation := "claim_run"
  once := claimRunOnce expected
  lookup := lookupClaimedRun expected
  once_replay := by
    intro store run h
    rcases claimRunOnce_eq_ok h with ⟨-, hpos⟩ | ⟨hchange, -⟩
    · exact hpos
    · cases hchange
  once_change := by
    intro store run change h
    rcases claimRunOnce_eq_ok h with ⟨hnone, -⟩ | ⟨hchange, hunclaimed⟩
    · cases hnone
    · cases hchange
      exact ⟨hunclaimed, fun hfree => (hfree.insert _).1, fun hfree => (hfree.insert _).2⟩
  once_refusal := claimRunOnce_refusal
  lookup_none := by
    intro store h
    rcases lookupClaimedRun_eq_ok h with ⟨hsome, -⟩ | ⟨-, hzero⟩
    · cases hsome
    · exact hzero
  lookup_some := by
    intro store run h
    rcases lookupClaimedRun_eq_ok h with ⟨-, hpos⟩ | ⟨hnone, -⟩
    · exact hpos
    · cases hnone
  lookup_own := Claimed.lookup
  lookup_refusal := lookupClaimedRun_refusal

end Claim

/-! ## A commit without an answer -/

def sampleExpectation : RunExpectation where
  candidateRunId := 1
  creationOperationId := 2
  request :=
    { requestId := 3, contractVersionId := 4, origin := "manual"
      scopeDigest := ⟨String.ofList (List.replicate 64 'd'), by decide⟩
      requestIdentityDigest := ⟨String.ofList (List.replicate 64 'e'), by decide⟩
      payloadJson := "first" }

def sampleSettings : PostgresConnectionSettings where
  host := "localhost"
  port := 5432
  dbname := "metadata"
  user := "writer"

def twoAttempts : PostgresRetryPolicy := ⟨2, Nat.le_add_left 1 1⟩

/-- A transaction under way commits before another one gets the lock. -/
def settles (key : Keyed RunStore) : Granted key where
  val server :=
    match server.pending with
    | none => server
    | some effect => Server.commit { server with pending := none } effect
  property := by
    intro server
    rcases server with ⟨store, pending, committed⟩
    cases pending with
    | none => exact ⟨.refl, rfl⟩
    | some effect =>
      refine ⟨.single .commits, ?_⟩
      cases effect <;> rfl

/-- The first attempt loses the answer to its `COMMIT`, the lookup behind it has no
connection, the second attempt looks first. -/
def lostAnswer (key : Keyed RunStore) (_ : ℕ) : AttemptFate key where
  before := .granted (settles key) true
  write := .commits (settles key) ⟨id, fun _ => .refl⟩ (.lost "OperationalError" none rfl .pending)
  after := .unavailable ⟨id, fun _ => .refl⟩

def emptyServer : Server RunStore := ⟨⟨[], 5⟩, none, 0⟩

theorem exactly_once_write_lostAnswer :
    ∃ run, (runWithReconciliation (claimRun sampleExpectation) sampleSettings twoAttempts
        (lostAnswer _) emptyServer).1 = .ok run ∧
      (claimRun sampleExpectation).count (runWithReconciliation (claimRun sampleExpectation)
        sampleSettings twoAttempts (lostAnswer _) emptyServer).2.store = 1 := by
  have hquiet : (claimRun sampleExpectation).Quiet emptyServer :=
    ⟨rfl, rfl, Nat.zero_le 1⟩
  have hends := exactly_once_write (claimRun sampleExpectation) sampleSettings twoAttempts
    (lostAnswer _) emptyServer hquiet
  have hrun : (runWithReconciliation (claimRun sampleExpectation) sampleSettings twoAttempts
      (lostAnswer _) emptyServer).1 = .ok ⟨1, 2, 5, none, none, none, none⟩ := rfl
  exact ⟨_, hrun, (hends.1 _ hrun).1⟩

/-- A request that is bound to another payload is refused, whatever becomes of the
connections. -/
theorem exactly_once_write_refuses :
    ¬ ∀ (write : LifecycleWrite RunStore ClaimedRun) (settings : PostgresConnectionSettings)
      (policy : PostgresRetryPolicy) (fates : ℕ → AttemptFate write.toKeyed)
      (server : Server RunStore), write.Quiet server →
      ∀ refusal, (runWithReconciliation write settings policy fates server).1 = .error refusal →
        refusal.error = .lifecycleTransactionError ∨
          refusal.error = .lifecycleCommitUnknownError := by
  intro h
  have hrefused := h (claimRun sampleExpectation) sampleSettings twoAttempts (lostAnswer _)
    ⟨⟨[{ sampleExpectation.row 4 with requestPayload := "second" }], 5⟩, none, 0⟩
    ⟨rfl, rfl, Nat.le_refl 1⟩ _ rfl
  rcases hrefused with herror | herror
  · cases herror
  · cases herror

end ForensicData.Persistence
