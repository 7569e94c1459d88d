/-
ForensicData.Lib.KeyedCommits — a store that clients change under the lock of a key.

A transaction holds the lock of its key until it ends. A client whose connection
is lost while its transaction commits does not learn how it ended: the
transaction stays on the server, holds the lock, and ends some time later
(`Server.Step`). Who is granted the lock finds it ended (`Granted`), so what a
client then reads under the key is final (`Unresolved.granted`).
-/
import Mathlib.Data.Nat.Notation
import Mathlib.Logic.Relation

namespace ForensicData.Lib

/-- What a store holds under a key, and what transactions can do to it. -/
structure Keyed (Store : Type) where
  /-- How many effects are stored under the key. -/
  count : Store → ℕ
  /-- Nothing is stored that an effect under the key would collide with. -/
  Free : Store → Prop
  /-- An effect is stored as this client leaves it. -/
  Own : Store → Prop
  /-- A transaction without the lock of the key. -/
  Apart : Store → Store → Prop
  /-- A transaction of another client under the lock of the key. -/
  Rival : Store → Store → Prop
  count_own : ∀ {store}, Own store → 0 < count store
  apart_count : ∀ {store after}, Apart store after → count after = count store
  apart_free : ∀ {store after}, Apart store after → Free store → Free after
  apart_own : ∀ {store after}, Apart store after → Own store → Own after
  rival_count : ∀ {store after}, Rival store after → count store ≤ 1 → count after ≤ 1
  rival_own : ∀ {store after}, Rival store after → Own store → Own after

/-- What a transaction changes at its commit; one that only reads changes nothing. -/
abbrev Effect (Store : Type) := Option (Store → Store)

/-- A store as its server has it, the transaction of the client that was told to
commit over a connection that was lost, and how many effects of the client were
committed. -/
structure Server (Store : Type) where
  store : Store
  pending : Option (Effect Store)
  committed : ℕ

variable {Store : Type}

/-- A transaction of the client ends with its effect. -/
def Server.commit (server : Server Store) : Effect Store → Server Store
  | none => server
  | some change =>
    { server with store := change server.store, committed := server.committed + 1 }

/-- What happens at the server without the client. -/
inductive Server.Step (key : Keyed Store) : Server Store → Server Store → Prop
  | apart {store after : Store} {pending : Option (Effect Store)} {committed : ℕ}
      (h : key.Apart store after) : Step key ⟨store, pending, committed⟩ ⟨after, pending, committed⟩
  | rival {store after : Store} {committed : ℕ} (h : key.Rival store after) :
      Step key ⟨store, none, committed⟩ ⟨after, none, committed⟩
  | commits {store : Store} {effect : Effect Store} {committed : ℕ} :
      Step key ⟨store, some effect, committed⟩ (Server.commit ⟨store, none, committed⟩ effect)
  | rollsBack {store : Store} {effect : Effect Store} {committed : ℕ} :
      Step key ⟨store, some effect, committed⟩ ⟨store, none, committed⟩

/-- Any number of steps. -/
abbrev Server.Steps (key : Keyed Store) : Server Store → Server Store → Prop :=
  Relation.ReflTransGen (Server.Step key)

/-- What happens while the client does not hold the lock. -/
abbrev Meanwhile (key : Keyed Store) :=
  { next : Server Store → Server Store // ∀ server, Server.Steps key server (next server) }

/-- What happens until the client is granted the lock. -/
abbrev Granted (key : Keyed Store) :=
  { next : Server Store → Server Store //
    ∀ server, Server.Steps key server (next server) ∧ (next server).pending = none }

/-- What happens while the client holds the lock. -/
abbrev Beside (key : Keyed Store) :=
  { next : Store → Store // ∀ store, Relation.ReflTransGen key.Apart store (next store) }

namespace Keyed

variable {key : Keyed Store} {server after : Server Store}

/-- A change that stores one effect where none is. -/
structure Stores (key : Keyed Store) (change : Store → Store) : Prop where
  count_eq : ∀ {store}, key.Free store → key.count (change store) = 1
  own : ∀ {store}, key.Free store → key.Own (change store)

/-- What a transaction may commit to the store. -/
def Fits (key : Keyed Store) (effect : Effect Store) (store : Store) : Prop :=
  ∀ change ∈ effect, key.Free store ∧ key.Stores change

/-- Nothing of the client is stored or under way. -/
structure Quiet (key : Keyed Store) (server : Server Store) : Prop where
  pending_eq : server.pending = none
  committed_eq : server.committed = 0
  count_le : key.count server.store ≤ 1

/-- The effect of the client is stored, and nothing of it is under way. -/
structure Landed (key : Keyed Store) (server : Server Store) : Prop where
  pending_eq : server.pending = none
  committed_eq : server.committed = 1
  count_le : key.count server.store ≤ 1
  own : key.Own server.store

/-- A transaction of the client is under way that fits the store. -/
structure UnderWay (key : Keyed Store) (server : Server Store) (effect : Effect Store) : Prop where
  pending_eq : server.pending = some effect
  committed_eq : server.committed = 0
  count_le : key.count server.store ≤ 1
  fits : key.Fits effect server.store

/-- What can be after a commit without an answer. -/
inductive Unresolved (key : Keyed Store) (server : Server Store) : Prop
  | quiet (h : key.Quiet server)
  | landed (h : key.Landed server)
  | underWay (effect : Effect Store) (h : key.UnderWay server effect)

theorem Landed.count_eq (h : key.Landed server) : key.count server.store = 1 := by
  have hpos := key.count_own h.own
  have hle := h.count_le
  omega

/-! ## Steps of the server -/

theorem Quiet.step (h : key.Quiet server) (hstep : Server.Step key server after) :
    key.Quiet after := by
  rcases h with ⟨hpending, hcommitted, hcount⟩
  cases hstep with
  | apart hapart => exact ⟨hpending, hcommitted, by rwa [key.apart_count hapart]⟩
  | rival hrival => exact ⟨rfl, hcommitted, key.rival_count hrival hcount⟩
  | commits => cases hpending
  | rollsBack => cases hpending

theorem Quiet.steps (h : key.Quiet server) (hsteps : Server.Steps key server after) :
    key.Quiet after := by
  induction hsteps with
  | refl => exact h
  | tail _ hstep ih => exact ih.step hstep

theorem Landed.step (h : key.Landed server) (hstep : Server.Step key server after) :
    key.Landed after := by
  rcases h with ⟨hpending, hcommitted, hcount, hown⟩
  cases hstep with
  | apart hapart =>
    exact ⟨hpending, hcommitted, by rwa [key.apart_count hapart], key.apart_own hapart hown⟩
  | rival hrival => exact ⟨rfl, hcommitted, key.rival_count hrival hcount, key.rival_own hrival hown⟩
  | commits => cases hpending
  | rollsBack => cases hpending

theorem Fits.apart {effect : Effect Store} {store next : Store} (h : key.Fits effect store)
    (hapart : key.Apart store next) : key.Fits effect next := by
  intro change hchange
  have hfits := h change hchange
  exact ⟨key.apart_free hapart hfits.1, hfits.2⟩

/-- A transaction that fits commits once, or changes nothing. -/
theorem unresolved_commit {effect : Effect Store} {store : Store} (hfits : key.Fits effect store)
    (hcount : key.count store ≤ 1) : key.Unresolved (Server.commit ⟨store, none, 0⟩ effect) := by
  cases effect with
  | none => exact .quiet ⟨rfl, rfl, hcount⟩
  | some change =>
    have hchange := hfits change rfl
    have hstored : key.count (change store) = 1 := hchange.2.count_eq hchange.1
    exact .landed ⟨rfl, rfl, Nat.le_of_eq hstored, hchange.2.own hchange.1⟩

theorem Unresolved.step (h : key.Unresolved server) (hstep : Server.Step key server after) :
    key.Unresolved after := by
  cases h with
  | quiet h => exact .quiet (h.step hstep)
  | landed h => exact .landed (h.step hstep)
  | underWay effect h =>
    rcases h with ⟨hpending, hcommitted, hcount, hfits⟩
    cases hstep with
    | apart hapart =>
      exact .underWay effect
        ⟨hpending, hcommitted, by rwa [key.apart_count hapart], hfits.apart hapart⟩
    | rival => cases hpending
    | commits =>
      cases hpending
      cases hcommitted
      exact unresolved_commit hfits hcount
    | rollsBack =>
      cases hcommitted
      exact .quiet ⟨rfl, rfl, hcount⟩

theorem Unresolved.steps (h : key.Unresolved server) (hsteps : Server.Steps key server after) :
    key.Unresolved after := by
  induction hsteps with
  | refl => exact h
  | tail _ hstep ih => exact ih.step hstep

/-- Under the lock, the effect of the client is stored or never will be. -/
theorem Unresolved.granted (h : key.Unresolved server) (hgranted : server.pending = none) :
    key.Quiet server ∨ key.Landed server := by
  cases h with
  | quiet h => exact .inl h
  | landed h => exact .inr h
  | underWay effect h =>
    rw [h.pending_eq] at hgranted
    cases hgranted

theorem Unresolved.committed_le (h : key.Unresolved server) : server.committed ≤ 1 := by
  cases h with
  | quiet h => simp [h.committed_eq]
  | landed h => simp [h.committed_eq]
  | underWay effect h => simp [h.committed_eq]

/-! ## Transactions of the client -/

/-- While the client holds the lock, what it has read under the key stays. -/
theorem Fits.beside {effect : Effect Store} {store next : Store} (h : key.Fits effect store)
    (hbeside : Relation.ReflTransGen key.Apart store next) : key.Fits effect next := by
  induction hbeside with
  | refl => exact h
  | tail _ hapart ih => exact ih.apart hapart

theorem count_beside {store next : Store} (hbeside : Relation.ReflTransGen key.Apart store next) :
    key.count next = key.count store := by
  induction hbeside with
  | refl => rfl
  | tail _ hapart ih => rw [key.apart_count hapart, ih]

theorem Quiet.beside {next : Store} (h : key.Quiet server)
    (hbeside : Relation.ReflTransGen key.Apart server.store next) :
    key.Quiet { server with store := next } := by
  have hcount : key.count next ≤ 1 := by
    rw [count_beside hbeside]
    exact h.count_le
  exact ⟨h.pending_eq, h.committed_eq, hcount⟩

/-- A commit on a quiet server. -/
theorem Quiet.commit {effect : Effect Store} (h : key.Quiet server)
    (hfits : key.Fits effect server.store) : key.Unresolved (server.commit effect) := by
  rcases server with ⟨store, pending, committed⟩
  rcases h with ⟨hpending, hcommitted, hcount⟩
  cases hpending
  cases hcommitted
  exact unresolved_commit hfits hcount

/-- A commit on a quiet server that is not answered. -/
theorem Quiet.underWay {effect : Effect Store} (h : key.Quiet server)
    (hfits : key.Fits effect server.store) :
    key.UnderWay { server with pending := some effect } effect :=
  ⟨rfl, h.committed_eq, h.count_le, hfits⟩

end Keyed

end ForensicData.Lib
