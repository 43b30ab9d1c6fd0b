import Acceptance.Host.Machine
import Acceptance.Json.Reader
import Acceptance.Store.Access

/-!
# Reading records back (specification, section 4.5)

A destination keeps the records of a stream as JSON texts in a column of a raw table. A store is what
gives the records of a stream.

* `Cell`, `Row`: what a query answers with.
* `record`, `records`: the records of cells and rows. The first row that gives no record decides.
* `Store`: what gives the records of a stream.
* `Systems`: the database systems as seen from here; `Systems.absent`: none.

Results:
* `records_eq_ok_iff`: there are records exactly if every row gives one.
-/

namespace Acceptance

/-- What gives the records of a stream. -/
structure Store (σ : Type) where
  /-- The schema of streams without a namespace. -/
  schema : String
  /-- The records of a stream by its name and its namespace. -/
  fetch : String → Option String → Act σ (List Json)

namespace Store

/-- The content of a cell, which may be null. -/
abbrev Cell := Option String

/-- The cell of a row, or why the row cannot be read. -/
abbrev Row := Except String Cell

/-- The database systems, whose connections are of type `κ`. -/
structure Systems (κ : Type) where
  /-- A connection to a database file with the octets given. -/
  openFile : List UInt8 → Except String κ
  /-- A connection to a server. -/
  connect : Access → Host.Machine → Except String κ
  /-- The rows that answer a query. -/
  query : κ → String → Except String (List Row)

/-- Where there are no database systems no connection comes about. -/
def Systems.absent : Systems Empty where
  openFile _ := .error "there is no database system"
  connect _ _ := .error "there is no database system"
  query c := nomatch c

/-- The record of a cell. -/
def record : Cell → Except RetrievalProblem Json
  | none => .error .nullCell
  | some text => (Json.parse text).mapError .malformedCell

/-- The record of a row; `unread` says what it means that a row cannot be read. -/
def rowRecord (unread : String → RetrievalProblem) : Row → Except RetrievalProblem Json
  | .ok cell => record cell
  | .error reason => .error (unread reason)

/-- The records of rows. -/
def records (unread : String → RetrievalProblem) : List Row → Except RetrievalProblem (List Json)
  | [] => .ok []
  | r :: rs => match rowRecord unread r with
    | .error e => .error e
    | .ok v => match records unread rs with
      | .error e => .error e
      | .ok vs => .ok (v :: vs)

theorem records_eq_ok_iff {unread : String → RetrievalProblem} {rs : List Row} {vs : List Json} :
    records unread rs = .ok vs ↔ rs.map (rowRecord unread) = vs.map .ok := by
  induction rs generalizing vs with
  | nil => cases vs <;> simp [records]
  | cons r rs ih =>
    cases hr : rowRecord unread r with
    | error e => cases vs <;> simp [records, hr]
    | ok v =>
      cases hs : records unread rs with
      | error e =>
        cases vs with
        | nil => simp [records, hr, hs]
        | cons w ws =>
          have hn : ¬ rs.map (rowRecord unread) = ws.map .ok := fun h => by
            rw [ih.2 h] at hs
            cases hs
          simp [records, hr, hs, hn]
      | ok us =>
        cases vs with
        | nil => simp [records, hr, hs]
        | cons w ws =>
          have h := @ih ws
          simp only [hs, Except.ok.injEq] at h
          simp [records, hr, hs, ← h]

end Store
end Acceptance
