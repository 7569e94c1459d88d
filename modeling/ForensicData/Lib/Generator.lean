/-
ForensicData.Lib.Generator — programs that yield values while they run.

A generator is a function of the world it starts in. Its run leaves the values
it yielded, oldest first, the world after the last step, and either a result or
the error that stopped it. What was yielded before an error stays yielded, so
a caller that resumes the generator until it stops has seen the whole list.

`Ensures` is the weakest precondition of a run: every yielded value satisfies
an invariant, and the way the run ends satisfies a postcondition. The rules are
equations for the operations (`ensures_bind`, `ensures_yield`, …), a rule of
consequence, and one invariant rule for a loop over a list.
-/
import Mathlib.Data.List.Basic

namespace ForensicData.Lib

/-- What a run leaves behind. -/
structure Run (σ ρ ε α : Type) where
  yielded : List ρ
  world : σ
  result : Except ε α

/-- A program over worlds `σ` that yields `ρ`, raises `ε` and returns `α`. -/
def Generator (σ ρ ε α : Type) : Type := σ → Run σ ρ ε α

namespace Generator

variable {σ ρ ε α β : Type}

protected def pure (a : α) : Generator σ ρ ε α :=
  fun s => { yielded := [], world := s, result := .ok a }

/-- Run `g`, then `f` on its result, unless `g` stopped. -/
protected def bind (g : Generator σ ρ ε α) (f : α → Generator σ ρ ε β) : Generator σ ρ ε β :=
  fun s =>
    match (g s).result with
    | .error e => { yielded := (g s).yielded, world := (g s).world, result := .error e }
    | .ok a =>
      let rest := f a (g s).world
      { yielded := (g s).yielded ++ rest.yielded, world := rest.world, result := rest.result }

instance : Monad (Generator σ ρ ε) where
  pure := Generator.pure
  bind := Generator.bind

/-- Hand `event` to the caller and go on. -/
def yield (event : ρ) : Generator σ ρ ε Unit :=
  fun s => { yielded := [event], world := s, result := .ok () }

/-- Stop with an error. -/
def raise (e : ε) : Generator σ ρ ε α :=
  fun s => { yielded := [], world := s, result := .error e }

/-- A step that neither reads nor changes the world. -/
def lift (r : Except ε α) : Generator σ ρ ε α :=
  fun s => { yielded := [], world := s, result := r }

/-- A step that may change the world, whether or not it succeeds. -/
def act (step : σ → Except ε α × σ) : Generator σ ρ ε α :=
  fun s => { yielded := [], world := (step s).2, result := (step s).1 }

theorem bind_of_ok {g : Generator σ ρ ε α} {f : α → Generator σ ρ ε β} {s : σ} {a : α}
    (h : (g s).result = .ok a) :
    (g >>= f) s =
      { yielded := (g s).yielded ++ (f a (g s).world).yielded, world := (f a (g s).world).world
        result := (f a (g s).world).result } := by
  simp only [bind, Generator.bind, h]

theorem bind_of_error {g : Generator σ ρ ε α} {f : α → Generator σ ρ ε β} {s : σ} {e : ε}
    (h : (g s).result = .error e) :
    (g >>= f) s = { yielded := (g s).yielded, world := (g s).world, result := .error e } := by
  simp only [bind, Generator.bind, h]

/-- A run whose last step only passes its result on is the run without it. -/
theorem id_map (g : Generator σ ρ ε α) : id <$> g = g := by
  funext s
  change (g >>= fun a => pure a) s = g s
  cases h : (g s).result with
  | ok a =>
    rw [bind_of_ok h]
    simp [pure, Generator.pure, ← h]
  | error e => rw [bind_of_error h, ← h]

theorem bind_assoc_run {γ : Type} (g : Generator σ ρ ε α) (f : α → Generator σ ρ ε β)
    (k : β → Generator σ ρ ε γ) : g >>= f >>= k = g >>= fun a => f a >>= k := by
  funext s
  cases h : (g s).result with
  | error e => simp [bind, Generator.bind, h]
  | ok a =>
    cases h' : (f a (g s).world).result with
    | error e => simp [bind, Generator.bind, h, h']
    | ok b => simp [bind, Generator.bind, h, h', List.append_assoc]

instance : LawfulMonad (Generator σ ρ ε) :=
  LawfulMonad.mk' _ id_map
    (fun a f => funext fun s => by simp [bind, Generator.bind, pure, Generator.pure])
    bind_assoc_run

/-- Every value `g` yields from `s` satisfies `inv`; a result satisfies `post`
and an error `fail`, each together with the world it leaves. -/
def Ensures (inv : ρ → Prop) (fail : ε → σ → Prop) (g : Generator σ ρ ε α) (s : σ)
    (post : α → σ → Prop) : Prop :=
  (∀ event ∈ (g s).yielded, inv event) ∧
    match (g s).result with
    | .ok a => post a (g s).world
    | .error e => fail e (g s).world

variable {inv : ρ → Prop} {fail : ε → σ → Prop} {s : σ}

/-! ## The operations -/

@[simp] theorem ensures_pure {a : α} {post : α → σ → Prop} :
    Ensures inv fail (pure a) s post ↔ post a s := by
  simp [Ensures, pure, Generator.pure]

@[simp] theorem ensures_bind {g : Generator σ ρ ε α} {f : α → Generator σ ρ ε β}
    {post : β → σ → Prop} :
    Ensures inv fail (g >>= f) s post ↔
      Ensures inv fail g s fun a s' => Ensures inv fail (f a) s' post := by
  simp only [Ensures, bind, Generator.bind]
  cases (g s).result with
  | error e => simp
  | ok a =>
    simp only [List.mem_append]
    constructor
    · intro h
      obtain ⟨hyielded, hresult⟩ := h
      exact ⟨fun event he => hyielded event (.inl he),
        fun event he => hyielded event (.inr he), hresult⟩
    · intro h
      obtain ⟨hfirst, hrest, hresult⟩ := h
      refine ⟨fun event he => ?_, hresult⟩
      cases he with
      | inl he => exact hfirst event he
      | inr he => exact hrest event he

@[simp] theorem ensures_yield {event : ρ} {post : Unit → σ → Prop} :
    Ensures inv fail (yield event) s post ↔ inv event ∧ post () s := by
  simp [Ensures, yield]

@[simp] theorem ensures_raise {e : ε} {post : α → σ → Prop} :
    Ensures inv fail (raise e) s post ↔ fail e s := by
  simp [Ensures, raise]

theorem ensures_lift {r : Except ε α} {post : α → σ → Prop} :
    Ensures inv fail (lift r) s post ↔
      (∀ a, r = .ok a → post a s) ∧ ∀ e, r = .error e → fail e s := by
  cases r <;> simp [Ensures, lift]

theorem ensures_act {step : σ → Except ε α × σ} {post : α → σ → Prop} :
    Ensures inv fail (act step) s post ↔
      (∀ a, (step s).1 = .ok a → post a (step s).2) ∧
        ∀ e, (step s).1 = .error e → fail e (step s).2 := by
  cases hstep : (step s).1 <;> simp [Ensures, act, hstep]

/-! ## Using a specification -/

/-- The rule of consequence for the postcondition. -/
theorem Ensures.mono {g : Generator σ ρ ε α} {post post' : α → σ → Prop}
    (h : Ensures inv fail g s post) (himp : ∀ a s', post a s' → post' a s') :
    Ensures inv fail g s post' := by
  refine ⟨h.1, ?_⟩
  have hresult := h.2
  cases hg : (g s).result with
  | ok a =>
    rw [hg] at hresult
    exact himp a _ hresult
  | error e =>
    rw [hg] at hresult
    exact hresult

/-- The rule of consequence for the invariant and the way of failing. -/
theorem Ensures.weaken {inv' : ρ → Prop} {fail' : ε → σ → Prop} {g : Generator σ ρ ε α}
    {post : α → σ → Prop} (h : Ensures inv fail g s post) (hinv : ∀ event, inv event → inv' event)
    (hfail : ∀ e s', fail e s' → fail' e s') : Ensures inv' fail' g s post := by
  refine ⟨fun event he => hinv event (h.1 event he), ?_⟩
  have hresult := h.2
  cases hg : (g s).result with
  | ok a =>
    rw [hg] at hresult
    exact hresult
  | error e =>
    rw [hg] at hresult
    exact hfail e _ hresult

/-- What two runs of one program ensure. -/
theorem Ensures.and {inv' : ρ → Prop} {fail' : ε → σ → Prop} {g : Generator σ ρ ε α}
    {post post' : α → σ → Prop} (h : Ensures inv fail g s post)
    (h' : Ensures inv' fail' g s post') :
    Ensures (fun event => inv event ∧ inv' event) (fun e now => fail e now ∧ fail' e now) g s
      fun a now => post a now ∧ post' a now := by
  obtain ⟨hyielded, hresult⟩ := h
  obtain ⟨hyielded', hresult'⟩ := h'
  refine ⟨fun event he => ⟨hyielded event he, hyielded' event he⟩, ?_⟩
  cases hrun : (g s).result with
  | ok a =>
    rw [hrun] at hresult hresult'
    exact ⟨hresult, hresult'⟩
  | error e =>
    rw [hrun] at hresult hresult'
    exact ⟨hresult, hresult'⟩

/-- A run that returned satisfies the postcondition. -/
theorem Ensures.of_result {g : Generator σ ρ ε α} {post : α → σ → Prop} {a : α}
    (h : Ensures inv fail g s post) (hresult : (g s).result = .ok a) : post a (g s).world := by
  have := h.2
  rwa [hresult] at this

/-- A run that stopped with an error satisfies the failure condition. -/
theorem Ensures.of_error {g : Generator σ ρ ε α} {post : α → σ → Prop} {e : ε}
    (h : Ensures inv fail g s post) (herror : (g s).result = .error e) : fail e (g s).world := by
  have := h.2
  rwa [herror] at this

/-! ## Loops -/

/-- Carry a value through a list, one step of the program an element. -/
def fold (step : β → α → Generator σ ρ ε β) : β → List α → Generator σ ρ ε β
  | b, [] => pure b
  | b, a :: as => do
    let b ← step b a
    fold step b as

@[simp] theorem fold_nil {step : β → α → Generator σ ρ ε β} {b : β} : fold step b [] = pure b := rfl

@[simp] theorem fold_cons {step : β → α → Generator σ ρ ε β} {b : β} {a : α} {as : List α} :
    fold step b (a :: as) = step b a >>= fun b => fold step b as := rfl

/-- The invariant rule: what holds before the loop of the value, of the elements
still to come and of the world, and what every step preserves, holds after it. -/
theorem ensures_fold {step : β → α → Generator σ ρ ε β} (loopInv : List α → β → σ → Prop)
    (hstep : ∀ a as b s, loopInv (a :: as) b s → Ensures inv fail (step b a) s (loopInv as))
    {as : List α} {b : β} {s : σ} (hinit : loopInv as b s) :
    Ensures inv fail (fold step b as) s (loopInv []) := by
  induction as generalizing b s with
  | nil => simpa using hinit
  | cons a as ih =>
    rw [fold_cons, ensures_bind]
    exact (hstep a as b s hinit).mono fun b' s' h => ih h

/-! ## Counting in the world -/

/-- Whichever way a run ends, a count of its world grows by at most `n`. -/
def GrowsBy (count : σ → ℕ) (n : ℕ) (g : Generator σ ρ ε α) : Prop :=
  ∀ s, count (g s).world ≤ count s + n

section

variable {count : σ → ℕ} {m n : ℕ}

theorem GrowsBy.mono {g : Generator σ ρ ε α} (h : GrowsBy count m g) (hle : m ≤ n) :
    GrowsBy count n g :=
  fun s => Nat.le_trans (h s) (Nat.add_le_add_left hle _)

theorem GrowsBy.pure (a : α) : GrowsBy count n (pure a : Generator σ ρ ε α) :=
  fun _ => Nat.le_add_right _ _

theorem GrowsBy.yield (event : ρ) : GrowsBy count n (yield event : Generator σ ρ ε Unit) :=
  fun _ => Nat.le_add_right _ _

theorem GrowsBy.raise (e : ε) : GrowsBy count n (raise e : Generator σ ρ ε α) :=
  fun _ => Nat.le_add_right _ _

theorem GrowsBy.lift (r : Except ε α) : GrowsBy count n (lift r : Generator σ ρ ε α) :=
  fun _ => Nat.le_add_right _ _

theorem GrowsBy.act {step : σ → Except ε α × σ} (h : ∀ s, count (step s).2 ≤ count s + n) :
    GrowsBy count n (act step : Generator σ ρ ε α) := h

/-- The rest of a program runs only on a result of its first part. -/
theorem GrowsBy.bind_result {g : Generator σ ρ ε α} {f : α → Generator σ ρ ε β}
    (hg : GrowsBy count m g)
    (hf : ∀ s a, (g s).result = .ok a → GrowsBy count n (f a)) :
    GrowsBy count (m + n) (g >>= f) := by
  intro s
  cases h : (g s).result with
  | error e =>
    rw [bind_of_error h]
    have hfirst := hg s
    dsimp only
    omega
  | ok a =>
    rw [bind_of_ok h]
    have hfirst := hg s
    have hrest := hf s a h (g s).world
    dsimp only
    omega

theorem GrowsBy.bind {g : Generator σ ρ ε α} {f : α → Generator σ ρ ε β}
    (hg : GrowsBy count m g) (hf : ∀ a, GrowsBy count n (f a)) : GrowsBy count (m + n) (g >>= f) :=
  hg.bind_result fun _ a _ => hf a

/-- A quiet first part leaves the whole bound to the rest. -/
theorem GrowsBy.after {g : Generator σ ρ ε α} {f : α → Generator σ ρ ε β}
    (hg : GrowsBy count 0 g) (hf : ∀ a, GrowsBy count n (f a)) : GrowsBy count n (g >>= f) := by
  have := hg.bind hf
  rwa [Nat.zero_add] at this

theorem GrowsBy.fold {step : β → α → Generator σ ρ ε β} (h : ∀ b a, GrowsBy count 0 (step b a))
    (b : β) (as : List α) : GrowsBy count 0 (fold step b as) := by
  induction as generalizing b with
  | nil => exact .pure b
  | cons a as ih => exact (h b a).after ih

end

end Generator

end ForensicData.Lib
