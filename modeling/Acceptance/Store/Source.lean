import Acceptance.Config.Basic
import Acceptance.Sql
import Acceptance.Store.Basic
import Acceptance.Store.Pool

/-!
# Where records are read back from (specification, section 4.5)

* `Source`: a database file or a server, with the schema of streams without a namespace.
* `Source.ofRecords`: the source that a configuration describes.
* `slots`: how many calls a source with a limit may serve at once.
* `Source.fetch`, `Source.store`: the records of a stream.

Results:
* `slots_cases`, `ofRecords_cases`: a configuration is refused, or ends the program, or gives a source
  with as many slots as it asks for.
* `run_fetch_idle`, `run_fetch_opened`, `run_fetch_refused`: what a call comes to with an idle
  connection, with a new one, and without any.
* `fetch_error`: what goes wrong is an error of retrieval.
-/

namespace Acceptance

/-- Why something does not come about: an error, or the end of the program on the spot. -/
inductive Stop where
  | error (e : Error)
  | crash
deriving DecidableEq, Repr

namespace Store

/-- A database file, or a server. -/
inductive Origin where
  | file (path : String) (slots : Nat)
  | server (access : Access)
deriving DecidableEq, Repr

/-- Where records are read back from. -/
structure Source where
  origin : Origin
  schema : String
deriving DecidableEq, Repr

/-- The number of slots where no limit is set. -/
def usualSlots : Nat := 16

/-- The largest number of slots there can be. -/
def mostSlots : Nat := 2305843009213693951

/-- The number of slots for a limit. It is at least one; more than there can be end the program. -/
def slots (limit : Nat) : Except Stop Nat :=
  if mostSlots < max limit 1 then .error .crash else .ok (max limit 1)

theorem slots_cases (limit : Nat) :
    mostSlots < limit ∧ slots limit = .error .crash ∨
      limit ≤ mostSlots ∧ slots limit = .ok (max limit 1) := by
  have hone : 1 ≤ mostSlots := by decide
  by_cases h : mostSlots < limit
  · exact Or.inl ⟨h, if_pos (by omega)⟩
  · exact Or.inr ⟨by omega, if_neg (by omega)⟩

namespace Source

/-- The source that a configuration describes, if it describes one. -/
def ofRecords (r : Config.Records) : Except Stop (Option Source) :=
  match r.kind with
  | .none => .ok none
  | .duckdb =>
    match r.path with
    | none => .error (.error (.notConfigured "records.path"))
    | some path =>
      match slots r.maxConcurrency with
      | .error s => .error s
      | .ok n => .ok (some ⟨.file path n, r.defaultSchema.getD "main"⟩)
  | .postgres =>
    match r.connection with
    | none => .error (.error (.notConfigured "records.connection_string"))
    | some text =>
      match Access.ofText text with
      | .error p => .error (.error (.config p))
      | .ok a => .ok (some ⟨.server a, r.defaultSchema.getD "public"⟩)

theorem ofRecords_cases (r : Config.Records) :
    (∃ e, e.isConfiguration = true ∧ ofRecords r = .error (.error e)) ∨
      (r.kind = .duckdb ∧ r.path.isSome ∧ mostSlots < r.maxConcurrency ∧
        ofRecords r = .error .crash) ∨
      ∃ source, ofRecords r = .ok source ∧
        ∀ s, source = some s → ∀ path n, s.origin = .file path n → n = max r.maxConcurrency 1 := by
  unfold ofRecords
  cases r.kind with
  | none => exact Or.inr (Or.inr ⟨none, rfl, nofun⟩)
  | duckdb =>
    cases r.path with
    | none => exact Or.inl ⟨_, rfl, rfl⟩
    | some path =>
      rcases slots_cases r.maxConcurrency with ⟨hlimit, hslots⟩ | ⟨-, hslots⟩
      · exact Or.inr (Or.inl ⟨rfl, rfl, hlimit, by simp only [hslots]⟩)
      · refine Or.inr (Or.inr ⟨some ⟨.file path (max r.maxConcurrency 1), r.defaultSchema.getD "main"⟩,
          by simp only [hslots], ?_⟩)
        rintro s hs path' n hn
        cases hs
        cases hn
        rfl
  | postgres =>
    cases r.connection with
    | none => exact Or.inl ⟨_, rfl, rfl⟩
    | some text =>
      cases ha : Access.ofText text with
      | error p => exact Or.inl ⟨.config p, rfl, by simp only [ha]⟩
      | ok a =>
        refine Or.inr (Or.inr ⟨some ⟨.server a, r.defaultSchema.getD "public"⟩, by simp only [ha], ?_⟩)
        rintro s hs path n hn
        cases hs
        cases hn

/-- The kind of database system. -/
def dialect (s : Source) : Sql.Dialect :=
  match s.origin with
  | .file .. => .duckdb
  | .server _ => .postgres

variable {κ σ : Type}

/-- A new connection. A database file has to be there, so that none is made by looking for it. -/
def connect (sys : Systems κ) (s : Source) (m : Host.Machine) : Except RetrievalProblem κ :=
  match s.origin with
  | .file path _ =>
    if m.files.isFile m.directory path then
      match m.files.read m.directory path with
      | .ok octets => (sys.openFile octets).mapError .notOpened
      | .error c => .error (.notOpened c.message)
    else .error (.noDatabase path)
  | .server a => (sys.connect a m).mapError .notConnected

/-- What it means that a query for a stream fails. -/
def failed (s : Source) (stream reason : String) : RetrievalProblem :=
  match s.origin with
  | .file .. => .queryFailed stream (Error.database reason).message
  | .server _ => .queryFailed stream reason

/-- What it means that a row of a stream cannot be read. -/
def unread (s : Source) (stream reason : String) : RetrievalProblem :=
  match s.origin with
  | .file .. => .queryFailed stream (Error.database reason).message
  | .server _ => .rowUnread stream reason

/-- The records of a stream over a connection. -/
def ask (sys : Systems κ) (s : Source) (stream : String) (space : Option String) (c : κ) :
    Except RetrievalProblem (List Json) :=
  match sys.query c (Sql.rawRecords s.dialect s.schema stream space) with
  | .error reason => .error (s.failed stream reason)
  | .ok rows => records (s.unread stream) rows

/-- The records of a stream. -/
def fetch (sys : Systems κ) (s : Source) (stream : String) (space : Option String) :
    Act (Pool κ × Host.Machine) (List Json) :=
  .of fun (p, m) =>
    let (r, p) := (Pool.withConnection ((s.connect sys m).mapError .retrieval)
      fun c => (s.ask sys stream space c).mapError .retrieval).run p
    (r, p, m)

section Calls

variable {sys : Systems κ} {s : Source} {m : Host.Machine} {c : κ} (stream : String)
  (space : Option String)

theorem run_fetch_idle (cs : List κ) :
    (s.fetch sys stream space).run (⟨c :: cs⟩, m) =
      ((s.ask sys stream space c).mapError .retrieval, ⟨c :: cs⟩, m) := rfl

theorem run_fetch_opened (h : s.connect sys m = .ok c) :
    (s.fetch sys stream space).run (⟨[]⟩, m) =
      ((s.ask sys stream space c).mapError .retrieval, ⟨[c]⟩, m) := by
  simp only [fetch, Act.run, Act.of, Pool.withConnection, Pool.take, h]
  rfl

theorem run_fetch_refused {q : RetrievalProblem} (h : s.connect sys m = .error q) :
    (s.fetch sys stream space).run (⟨[]⟩, m) = (.error (.retrieval q), ⟨[]⟩, m) := by
  simp only [fetch, Act.run, Act.of, Pool.withConnection, Pool.take, h]
  rfl

end Calls

/-- The store that reads from a source, with its pool and the machine in a larger state. -/
def store (sys : Systems κ) (s : Source) (get : σ → Pool κ × Host.Machine)
    (set : Pool κ × Host.Machine → σ → σ) : Store σ where
  schema := s.schema
  fetch stream space := Act.within get set (s.fetch sys stream space)

theorem fetch_error {sys : Systems κ} {s : Source} {stream : String} {space : Option String}
    {p : Pool κ} {m : Host.Machine} {e : Error}
    (h : ((s.fetch sys stream space).run (p, m)).1 = .error e) : ∃ q, e = .retrieval q := by
  obtain ⟨cs⟩ := p
  cases cs with
  | cons c cs =>
    rw [run_fetch_idle] at h
    obtain ⟨q, -, rfl⟩ := mapError_eq_error_iff.mp h
    exact ⟨q, rfl⟩
  | nil =>
    cases hc : s.connect sys m with
    | error q =>
      rw [run_fetch_refused _ _ hc] at h
      exact ⟨q, (Except.error.inj h).symm⟩
    | ok c =>
      rw [run_fetch_opened _ _ hc] at h
      obtain ⟨q, -, rfl⟩ := mapError_eq_error_iff.mp h
      exact ⟨q, rfl⟩

end Source
end Store
end Acceptance
