import Acceptance.Error

/-!
# Work in steps

* `Act`: what is done in steps that may fail and that change a state. What was changed stays changed
  when a step fails.
* `Act.within`: work on a part of a larger state. `Act.onFirst`, `Act.onSecond`: on one of a pair.
* `Act.result`: work whose errors are looked at instead of ending it.

Results:
* `run_bind`: a failing step is the last one.
* `run_bind_eq_ok_iff`: when two steps succeed.
* `bind_eq_ok_iff`: when two steps without a state succeed.
* `mapError_eq_ok_iff`, `mapError_eq_error_iff`: when a step succeeds or fails whose errors are told in
  another way.
-/

namespace Acceptance

/-- A piece of work on a state: it gives a result or an error, and the state after it either way. -/
def Act (σ α : Type) : Type := σ → Except Error α × σ

namespace Act

variable {σ τ α β : Type}

/-- Does a piece of work from a state. -/
def run (a : Act σ α) (s : σ) : Except Error α × σ := a s

/-- The work whose result and state are given. -/
def of (f : σ → Except Error α × σ) : Act σ α := f

instance : Monad (Act σ) where
  pure x := fun s => (.ok x, s)
  bind a f := fun s => match a s with
    | (.ok x, s) => f x s
    | (.error e, s) => (.error e, s)

/-- Work that only looks at the state. -/
def look (f : σ → Except Error α) : Act σ α := of fun s => (f s, s)

/-- Work that always succeeds. -/
def step (f : σ → α × σ) : Act σ α := of fun s => let (a, s) := f s; (.ok a, s)

/-- Work on a part of the state. -/
def within (get : τ → σ) (set : σ → τ → τ) (a : Act σ α) : Act τ α :=
  of fun t => let (r, s) := a.run (get t); (r, set s t)

/-- Work on the first part of a pair. -/
def onFirst (a : Act σ α) : Act (σ × τ) α := within Prod.fst (fun s p => (s, p.2)) a

/-- Work on the second part of a pair. -/
def onSecond (a : Act σ α) : Act (τ × σ) α := within Prod.snd (fun s p => (p.1, s)) a

/-- What a piece of work gives, errors included. -/
def result (a : Act σ α) : Act σ (Except Error α) := step a.run

/-- Fails with an error. -/
def fail (e : Error) : Act σ α := of fun s => (.error e, s)

/-- Gives what is already known. -/
def give (r : Except Error α) : Act σ α := of fun s => (r, s)

theorem run_bind (a : Act σ α) (f : α → Act σ β) (s : σ) :
    (a >>= f).run s = match a.run s with
      | (.ok x, s) => (f x).run s
      | (.error e, s) => (.error e, s) := rfl

theorem run_bind_pure (a : Act σ α) (f : α → β) (s : σ) :
    (a >>= fun x => pure (f x)).run s = ((a.run s).1.map f, (a.run s).2) := by
  rw [run_bind]
  rcases a.run s with ⟨e | x, t⟩ <;> rfl

/-- Two steps succeed exactly if the first one does, and the second one from where it ended. -/
theorem run_bind_eq_ok_iff {a : Act σ α} {f : α → Act σ β} {s u : σ} {y : β} :
    (a >>= f).run s = (.ok y, u) ↔ ∃ x t, a.run s = (.ok x, t) ∧ (f x).run t = (.ok y, u) := by
  rw [run_bind]
  rcases a.run s with ⟨e | x, t⟩
  · constructor
    · nofun
    · rintro ⟨x, t, hx, -⟩
      cases hx
  · constructor
    · exact fun h => ⟨x, t, rfl, h⟩
    · rintro ⟨_, _, hx, h⟩
      cases hx
      exact h

theorem run_pure (x : α) (s : σ) : (pure x : Act σ α).run s = (.ok x, s) := rfl

theorem run_look (f : σ → Except Error α) (s : σ) : (look f).run s = (f s, s) := rfl

theorem run_give (r : Except Error α) (s : σ) : (give r : Act σ α).run s = (r, s) := rfl

theorem run_step (f : σ → α × σ) (s : σ) : (step f).run s = (.ok (f s).1, (f s).2) := rfl

theorem run_within (get : τ → σ) (set : σ → τ → τ) (a : Act σ α) (t : τ) :
    (within get set a).run t = ((a.run (get t)).1, set (a.run (get t)).2 t) := rfl

theorem run_onFirst (a : Act σ α) (s : σ) (t : τ) :
    a.onFirst.run (s, t) = ((a.run s).1, (a.run s).2, t) := rfl

theorem run_onSecond (a : Act σ α) (s : σ) (t : τ) :
    a.onSecond.run (t, s) = ((a.run s).1, t, (a.run s).2) := rfl

theorem run_result (a : Act σ α) (s : σ) : a.result.run s = (.ok (a.run s).1, (a.run s).2) := rfl

end Act

/-- What comes after another step succeeds exactly if both do. -/
theorem bind_eq_ok_iff {ε α β : Type} {x : Except ε α} {f : α → Except ε β} {b : β} :
    (x >>= f) = .ok b ↔ ∃ a, x = .ok a ∧ f a = .ok b := by
  cases x with
  | error e => exact ⟨nofun, nofun⟩
  | ok a =>
    constructor
    · intro h
      exact ⟨a, rfl, h⟩
    · rintro ⟨c, hc, h⟩
      cases hc
      exact h

section Errors

variable {ε ε' α : Type} {f : ε → ε'} {x : Except ε α}

/-- Telling an error in another way makes no result. -/
theorem mapError_eq_ok_iff {a : α} : x.mapError f = .ok a ↔ x = .ok a := by
  cases x with
  | ok b =>
    constructor
    · intro h
      cases h
      rfl
    · intro h
      cases h
      rfl
  | error d =>
    constructor
    · intro h
      cases h
    · intro h
      cases h

theorem mapError_eq_error_iff {e : ε'} : x.mapError f = .error e ↔ ∃ d, x = .error d ∧ e = f d := by
  cases x with
  | ok b =>
    constructor
    · intro h
      cases h
    · rintro ⟨d, hd, -⟩
      cases hd
  | error d =>
    constructor
    · intro h
      exact ⟨d, rfl, (Except.error.inj h).symm⟩
    · rintro ⟨d', hd, rfl⟩
      cases hd
      rfl

end Errors

end Acceptance
