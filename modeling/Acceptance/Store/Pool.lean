import Acceptance.Act

/-!
# Pools of connections (specification, section 4.5)

Connections are used again: one that is idle goes before a new one, and each goes back to the pool
however the work with it ended.

* `Pool`, `take`, `put`.
* `Pool.withConnection`: work with a connection.
-/

namespace Acceptance.Store

/-- The idle connections; the one put back last comes first. -/
structure Pool (κ : Type) where
  idle : List κ
deriving DecidableEq, Repr

namespace Pool

variable {κ α : Type}

/-- No connections. -/
def empty : Pool κ := ⟨[]⟩

/-- An idle connection and the pool without it. -/
def take (p : Pool κ) : Option (κ × Pool κ) :=
  match p.idle with
  | [] => none
  | c :: cs => some (c, ⟨cs⟩)

/-- The pool with a connection put back. -/
def put (c : κ) (p : Pool κ) : Pool κ := ⟨c :: p.idle⟩

/-- Work with an idle connection, or with a new one where there is none: the pooled connections of
section 4.5. -/
def withConnection (fresh : Except Error κ) (work : κ → Except Error α) : Act (Pool κ) α :=
  .of fun p => match p.take with
    | some (c, p) => (work c, p.put c)
    | none => match fresh with
      | .ok c => (work c, p.put c)
      | .error e => (.error e, p)

theorem take_eq_none_iff {p : Pool κ} : p.take = none ↔ p.idle = [] := by
  cases p with
  | mk cs => cases cs <;> simp [take]

theorem take_eq_some_iff {p q : Pool κ} {c : κ} : p.take = some (c, q) ↔ p.idle = c :: q.idle := by
  obtain ⟨cs⟩ := p
  obtain ⟨ds⟩ := q
  cases cs <;> simp [take]

end Pool
end Acceptance.Store
