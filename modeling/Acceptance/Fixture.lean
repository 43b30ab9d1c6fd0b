import Acceptance.Catalog
import Acceptance.Config.Basic
import Acceptance.Message.Lines

/-!
# Fixtures (specification, section 4.6)

What the round trip writes, and what it expects to read back.

* `Fixture`: a catalog and messages.
* `Fixture.validate`: every record belongs to a stream of the catalog.
* `Fixture.expected`: the records that each stream of the catalog is expected to hold.
* `Fixture.builtin`, `Fixture.load`: the fixture that is there without any files, and the fixture
  that a configuration asks for.

Results:
* `validate_eq_ok_iff`: when a fixture is in order.
-/

namespace Acceptance

/-- A catalog and the messages written with it. -/
structure Fixture where
  catalog : Catalog
  messages : List Message
deriving Repr

/-- The records that a stream is expected to hold after the write. -/
structure Fixture.Expectation where
  stream : String
  space : Option String
  schema : Json
  records : List Json
deriving Repr

namespace Fixture

/-- Whether a record belongs to a stream of a catalog. -/
def lists (c : Catalog) (r : Message.Record) : Bool := (c.find r.stream r.space).isSome

/-- The records of some messages, of whatever kind the messages are. -/
def recordsOf (ms : List Message) : List Message.Record := ms.filterMap (·.record)

/-- Checks that every record belongs to a stream of the catalog. -/
def validate (f : Fixture) : Except Error Unit :=
  match (recordsOf f.messages).find? fun r => !lists f.catalog r with
  | some r => .error (.config (.unlistedRecord r.stream r.space))
  | none => .ok ()

/-- The data of the records of a stream among some messages, in their order. -/
def dataOf (stream : String) (space : Option String) (ms : List Message) : List Json :=
  ((recordsOf (ms.filter fun m => m.kind == .record)).filter fun r =>
    r.stream == stream && r.space == space).map (·.data)

/-- The expectation for each stream of the catalog, in order. -/
def expected (f : Fixture) : List Expectation :=
  f.catalog.streams.map fun e =>
    ⟨e.stream.name, e.stream.space, e.stream.schema,
      dataOf e.stream.name e.stream.space f.messages⟩

/-! ## The built-in fixture -/

/-- The stream of the built-in fixture. -/
def builtinStream : String := "exchange_rate"

/-- A type, and a format if it has one. -/
def typeSchema (type : String) (format : Option String) : Json :=
  .obj (Json.member? "format" (format.map .str) ++ [("type", .str type)])

/-- The schema of the built-in stream. -/
def builtinSchema : Json :=
  .obj [
    ("properties", .obj [
      ("HKD", typeSchema "number" none), ("NZD", typeSchema "number" none),
      ("USD", typeSchema "number" none), ("currency", typeSchema "string" none),
      ("date", typeSchema "string" (some "date")), ("id", typeSchema "integer" none)]),
    ("type", .str "object")]

/-- A small natural number. -/
def natural (n : Nat) : Json :=
  match Json.Integer.ofInt? n with
  | some i => .num (.int i)
  | none => .null

/-- A number of hundredths. -/
def hundredths (n : Nat) : Json :=
  match Number.Binary64.ofRatio false n 100 with
  | some x => .num (.float x)
  | none => .null

/-- The rows of the built-in stream. -/
def builtinRows : List Json := [
  .obj [("HKD", hundredths 213), ("NZD", hundredths 114), ("currency", .str "USD"),
    ("date", .str "2020-08-29"), ("id", natural 1)],
  .obj [("HKD", hundredths 715), ("NZD", hundredths 389), ("currency", .str "EUR"),
    ("date", .str "2020-08-30"), ("id", natural 2)],
  .obj [("HKD", hundredths 547), ("NZD", hundredths 243), ("USD", hundredths 100),
    ("currency", .str "GBP"), ("date", .str "2020-08-31"), ("id", natural 3)]]

/-- The time of the first built-in row. -/
def builtinTime : Int64 := 1602637589000

/-- The fixture that is there without any files: one stream, its rows, and a state behind them. -/
def builtin : Fixture where
  catalog := ⟨[⟨⟨builtinStream, none, builtinSchema, [.fullRefresh]⟩, .fullRefresh, .overwrite⟩]⟩
  messages :=
    (builtinRows.zipIdx.map fun (row, i) =>
      Message.ofRecord ⟨builtinStream, none, row, builtinTime + Int64.ofNat i⟩) ++
    [Message.ofState (.obj [("checkpoint", natural 3)])]

/-- The fixture that a configuration asks for. -/
def load (t : Config.Target) (m : Host.Machine) : Except Error Fixture := do
  let f ← match ← t.fixturePaths with
    | some (catalog, messages) => do
      let c ← Catalog.ofFile catalog m
      let ms ← Message.ofFile messages m
      .ok ⟨c, ms⟩
    | none => .ok builtin
  f.validate
  .ok f

theorem validate_eq_ok_iff {f : Fixture} :
    f.validate = .ok () ↔ ∀ r ∈ recordsOf f.messages, lists f.catalog r = true := by
  unfold validate
  split
  · rename_i r hr
    simp only [reduceCtorEq, false_iff]
    intro h
    have := List.find?_some hr
    simp [h r (List.mem_of_find?_eq_some hr)] at this
  · rename_i hr
    simp only [true_iff]
    intro r hm
    have := List.find?_eq_none.1 hr r hm
    simpa using this

end Fixture
end Acceptance
