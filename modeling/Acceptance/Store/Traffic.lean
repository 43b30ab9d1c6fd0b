import Acceptance.Store.Source

/-!
# Calls at the same time (specification, section 5)

Calls on a store share its slots and its pool, and take turns. A call waits for a slot, takes an idle
connection or opens one, puts its query, gives the connection back and leaves. Between any two of
these steps other calls may take theirs, and the machine and the database systems may change.

* `World`: the database systems and the machine as they are at the time of a step.
* `Phase`, `Call`: how far a call has come. Connections are numbered in the order they were opened in.
* `Shared`: what the calls on a store have in common.
* `Call.next`: the next step of a call.
* `holding`, `inUse`, `opening`: the slots and the connections that some calls have, and how many of
  the calls are about to open one.
* `Traffic`, `Move`: the calls on a store; what may happen next: a call comes, or one takes a step.
* `Traffic.step?`, `Traffic.run?`: what comes of one move, and of some of them in turn.

Results:
* `holding_cons`, `opening_cons`, `inUse_cons`: what one call adds.
* `step?_go`: what comes of a step of a call.
-/

namespace Acceptance.Store

/-- The database systems and the machine. -/
structure World (κ : Type) where
  systems : Systems κ
  machine : Host.Machine

/-- How far a call has come. -/
inductive Phase (κ : Type) where
  | waiting
  | admitted
  /-- No connection was idle, and a new one is still to be opened. -/
  | opening
  | connected (k : Nat × κ)
  | answered (k : Nat × κ) (r : Except Error (List Json))
  /-- There is no connection any more, and the slot is still to be given up. -/
  | leaving (r : Except Error (List Json))
  | ended (r : Except Error (List Json))

namespace Phase

variable {κ : Type}

/-- Whether a call holds a slot. -/
def holdsSlot : Phase κ → Bool
  | waiting | ended _ => false
  | _ => true

/-- The connection that a call has. -/
def connection? : Phase κ → Option (Nat × κ)
  | connected k | answered k _ => some k
  | _ => none

/-- Whether a call is about to open a connection. -/
def isOpening : Phase κ → Bool
  | opening => true
  | _ => false

/-- Whether a call is over. -/
def isOver : Phase κ → Bool
  | ended _ => true
  | _ => false

end Phase

/-- A call for the records of a stream. -/
structure Call (κ : Type) where
  stream : String
  space : Option String
  phase : Phase κ

/-- The slots that are free, the idle connections, and how many connections were opened so far. -/
structure Shared (κ : Type) where
  free : Nat
  pool : Pool (Nat × κ)
  opened : Nat

variable {κ : Type}

/-- The next step of a call, if it can take one: where it is then, and what it leaves to the others. -/
def Call.next (s : Source) (w : World κ) (c : Call κ) (h : Shared κ) :
    Option (Phase κ × Shared κ) :=
  match c.phase with
  | .waiting => if 0 < h.free then some (.admitted, { h with free := h.free - 1 }) else none
  | .admitted => match h.pool.take with
    | some (k, p) => some (.connected k, { h with pool := p })
    | none => some (.opening, h)
  | .opening => match s.connect w.systems w.machine with
    | .ok k => some (.connected (h.opened, k), { h with opened := h.opened + 1 })
    | .error q => some (.leaving (.error (.retrieval q)), h)
  | .connected k =>
    some (.answered k ((s.ask w.systems c.stream c.space k.2).mapError .retrieval), h)
  | .answered k r => some (.leaving r, { h with pool := h.pool.put k })
  | .leaving r => some (.ended r, { h with free := h.free + 1 })
  | .ended _ => none

/-! ## What calls have -/

/-- How many slots some calls hold. -/
def holding (calls : List (Call κ)) : Nat := calls.countP (·.phase.holdsSlot)

/-- The connections that some calls have. -/
def inUse (calls : List (Call κ)) : List (Nat × κ) := calls.filterMap (·.phase.connection?)

/-- How many calls are about to open a connection. -/
def opening (calls : List (Call κ)) : Nat := calls.countP (·.phase.isOpening)

section Counting

variable {c : Call κ} {calls : List (Call κ)}

theorem holding_cons :
    holding (c :: calls) = holding calls + if c.phase.holdsSlot then 1 else 0 :=
  List.countP_cons

theorem opening_cons :
    opening (c :: calls) = opening calls + if c.phase.isOpening then 1 else 0 :=
  List.countP_cons

theorem inUse_cons : inUse (c :: calls) = c.phase.connection?.toList ++ inUse calls := by
  rw [inUse, List.filterMap_cons]
  cases c.phase.connection? <;> rfl

end Counting

/-! ## Traffic -/

/-- The calls on a store, and what they share. -/
structure Traffic (κ : Type) where
  shared : Shared κ
  calls : List (Call κ)

/-- What may happen: a call comes, or one takes a step in the world as it is then. -/
inductive Move (κ : Type) where
  | arrive (stream : String) (space : Option String)
  | go (i : Nat) (w : World κ)

namespace Traffic

/-- No calls yet on a store with some slots. -/
def start (slots : Nat) : Traffic κ := ⟨⟨slots, .empty, 0⟩, []⟩

/-- The phase of a call. -/
def phase? (i : Nat) (t : Traffic κ) : Option (Phase κ) := t.calls[i]?.map (·.phase)

/-- The connection that a call has. -/
def connection? (i : Nat) (t : Traffic κ) : Option (Nat × κ) := (t.phase? i).bind (·.connection?)

/-- What comes of a move, if it can be made. -/
def step? (s : Source) (t : Traffic κ) : Move κ → Option (Traffic κ)
  | .arrive stream space => some { t with calls := t.calls ++ [⟨stream, space, .waiting⟩] }
  | .go i w => match t.calls[i]? with
    | none => none
    | some c => (c.next s w t.shared).map fun (ph, h) => ⟨h, t.calls.set i { c with phase := ph }⟩

/-- What comes of some moves in turn. -/
def run? (s : Source) : List (Move κ) → Traffic κ → Option (Traffic κ)
  | [], t => some t
  | m :: ms, t => (t.step? s m).bind (run? s ms)

variable {s : Source} {t t' : Traffic κ} {i : Nat}

/-- What comes of a step of a call. -/
theorem step?_go {w : World κ} (hs : t.step? s (.go i w) = some t') :
    ∃ c ph h, t.calls[i]? = some c ∧ c.next s w t.shared = some (ph, h) ∧
      t' = ⟨h, t.calls.set i { c with phase := ph }⟩ := by
  simp only [Traffic.step?] at hs
  cases hc : t.calls[i]? with
  | none =>
    rw [hc] at hs
    cases hs
  | some c =>
    rw [hc] at hs
    obtain ⟨⟨ph, h⟩, hnext, rfl⟩ := Option.map_eq_some_iff.mp hs
    exact ⟨c, ph, h, rfl, hnext, rfl⟩

theorem connection?_eq_some_iff {k : Nat × κ} :
    t.connection? i = some k ↔ ∃ c, t.calls[i]? = some c ∧ c.phase.connection? = some k := by
  simp only [Traffic.connection?, Traffic.phase?, Option.bind_eq_some_iff, Option.map_eq_some_iff]
  constructor
  · rintro ⟨ph, ⟨c, hc, rfl⟩, hck⟩
    exact ⟨c, hc, hck⟩
  · rintro ⟨c, hc, hck⟩
    exact ⟨c.phase, ⟨c, hc, rfl⟩, hck⟩

end Traffic
end Acceptance.Store
