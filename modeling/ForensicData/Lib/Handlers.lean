/-
ForensicData.Lib.Handlers — what surrounds a program that may fail.

A handler and a cleanup are both a program after `attempted`, which turns the
error of a run into a value. `focused` runs a program on a part of the world.
`retry` tries again while attempts are left. Each comes with its rule for
`Ensures`.
-/
import ForensicData.Lib.Generator

namespace ForensicData.Lib.Generator

variable {σ τ ρ ε ε' α : Type}

/-! ## Errors as values -/

/-- The way a run ended, as a value. -/
def attempted (g : Generator σ ρ ε α) : Generator σ ρ ε' (Except ε α) :=
  fun s => { yielded := (g s).yielded, world := (g s).world, result := .ok (g s).result }

@[simp] theorem ensures_attempted {inv : ρ → Prop} {fail : ε' → σ → Prop}
    {g : Generator σ ρ ε α} {s : σ} {post : Except ε α → σ → Prop} :
    Ensures inv fail (attempted g) s post ↔
      Ensures inv (fun e s' => post (.error e) s') g s (fun a s' => post (.ok a) s') := by
  simp only [Ensures, attempted]
  cases (g s).result with
  | ok a => rfl
  | error e => rfl

/-- Go on with a result, or with the handler of an error. -/
def recovered (handler : ε → Generator σ ρ ε' α) : Except ε α → Generator σ ρ ε' α
  | .ok a => pure a
  | .error e => handler e

/-- `try: … except: …`. -/
def handled (g : Generator σ ρ ε α) (handler : ε → Generator σ ρ ε' α) : Generator σ ρ ε' α :=
  attempted g >>= recovered handler

@[simp] theorem ensures_handled {inv : ρ → Prop} {fail : ε' → σ → Prop} {g : Generator σ ρ ε α}
    {handler : ε → Generator σ ρ ε' α} {s : σ} {post : α → σ → Prop} :
    Ensures inv fail (handled g handler) s post ↔
      Ensures inv (fun e s' => Ensures inv fail (handler e) s' post) g s post := by
  simp [handled, recovered]

/-- `try: … finally: …`, where the cleanup is left out for the results that are kept. -/
def releasedUnless (kept : α → Bool) (g : Generator σ ρ ε α) (release : Generator σ ρ ε Unit) :
    Generator σ ρ ε α :=
  attempted g >>= fun outcome =>
    if outcome.toOption.any kept = true then lift outcome
    else release >>= fun _ => lift outcome

theorem ensures_releasedUnless {inv : ρ → Prop} {fail : ε → σ → Prop} {kept : α → Bool}
    {g : Generator σ ρ ε α} {release : Generator σ ρ ε Unit} {s : σ} {post : α → σ → Prop} :
    Ensures inv fail (releasedUnless kept g release) s post ↔
      Ensures inv (fun e s' => Ensures inv fail release s' fun _ s'' => fail e s'') g s
        (fun a s' => if kept a = true then post a s'
          else Ensures inv fail release s' fun _ s'' => post a s'') := by
  have hlift (outcome : Except ε α) (s' : σ) :
      Ensures inv fail (lift outcome) s' post ↔
        (∀ a, outcome = .ok a → post a s') ∧ ∀ e, outcome = .error e → fail e s' := ensures_lift
  rw [releasedUnless, ensures_bind, ensures_attempted]
  have herror (e : ε) (s' : σ) :
      Ensures inv fail (if (Except.error e : Except ε α).toOption.any kept = true
          then lift (.error e) else release >>= fun _ => lift (.error e)) s' post ↔
        Ensures inv fail release s' fun _ s'' => fail e s'' := by
    simp [Except.toOption, hlift]
  have hok (a : α) (s' : σ) :
      Ensures inv fail (if (Except.ok a : Except ε α).toOption.any kept = true
          then lift (.ok a) else release >>= fun _ => lift (.ok a)) s' post ↔
        if kept a = true then post a s'
          else Ensures inv fail release s' fun _ s'' => post a s'' := by
    by_cases hkept : kept a = true
    · simp [Except.toOption, hkept, hlift]
    · simp [Except.toOption, hkept, hlift]
  simp only [herror, hok]

/-! ## A part of the world -/

/-- A program on the part of the world that `get` reads and `set` replaces. -/
def focused (get : σ → τ) (set : τ → σ → σ) (g : Generator τ ρ ε α) : Generator σ ρ ε α :=
  fun s =>
    { yielded := (g (get s)).yielded, world := set (g (get s)).world s
      result := (g (get s)).result }

@[simp] theorem ensures_focused {inv : ρ → Prop} {fail : ε → σ → Prop} {get : σ → τ}
    {set : τ → σ → σ} {g : Generator τ ρ ε α} {s : σ} {post : α → σ → Prop} :
    Ensures inv fail (focused get set g) s post ↔
      Ensures inv (fun e part => fail e (set part s)) g (get s)
        (fun a part => post a (set part s)) := by
  simp only [Ensures, focused]

/-! ## Trying again -/

/-- Attempts, numbered from `n`, until one gives a result or none is left. -/
def retry (attempt : ℕ → Generator σ ρ ε (Option α)) (exhausted : Generator σ ρ ε α) :
    ℕ → ℕ → Generator σ ρ ε α
  | 0, _ => exhausted
  | left + 1, n => attempt n >>= fun outcome =>
    match outcome with
    | some a => pure a
    | none => retry attempt exhausted left (n + 1)

/-- The invariant rule: `loopInv n` holds before attempt `n`, and an attempt that
gives no result restores it for the next. -/
theorem ensures_retry {inv : ρ → Prop} {fail : ε → σ → Prop}
    {attempt : ℕ → Generator σ ρ ε (Option α)} {exhausted : Generator σ ρ ε α}
    {post : α → σ → Prop} (loopInv : ℕ → σ → Prop)
    (hattempt : ∀ n s, loopInv n s → Ensures inv fail (attempt n) s fun outcome s' =>
      (∀ a, outcome = some a → post a s') ∧ (outcome = none → loopInv (n + 1) s'))
    {left n : ℕ} {s : σ} (hinit : loopInv n s)
    (hexhausted : ∀ s', loopInv (n + left) s' → Ensures inv fail exhausted s' post) :
    Ensures inv fail (retry attempt exhausted left n) s post := by
  induction left generalizing n s with
  | zero => exact hexhausted s hinit
  | succ left ih =>
    rw [retry, ensures_bind]
    refine (hattempt n s hinit).mono fun outcome s' h => ?_
    cases outcome with
    | some a => exact ensures_pure.mpr (h.1 a rfl)
    | none =>
      have hrest : n + 1 + left = n + (left + 1) := by omega
      exact ih (h.2 rfl) (by rwa [hrest])

end ForensicData.Lib.Generator
