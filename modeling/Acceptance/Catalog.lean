import Acceptance.Host.Machine
import Acceptance.Message.Codec

/-!
# Catalogs (specification, section 4.3)

Which streams are written, and how.

* `Stream`, `Catalog.Entry`, `Catalog`.
* `Catalog.find`: the entry of a stream.
* `Catalog.toJson`, `Catalog.read`, `Catalog.ofFile`.
-/

namespace Acceptance

/-- How a stream is read. -/
inductive Catalog.SyncMode where
  | fullRefresh
  | incremental
deriving DecidableEq, Repr

/-- What becomes of records that are there already. -/
inductive Catalog.WriteMode where
  | append
  | overwrite
  | appendDedup
deriving DecidableEq, Repr

/-- A stream. -/
structure Catalog.Stream where
  name : String
  space : Option String
  schema : Json
  supported : List SyncMode
deriving Repr

/-- A stream and how it is to be written. -/
structure Catalog.Entry where
  stream : Stream
  syncMode : SyncMode
  writeMode : WriteMode
deriving Repr

/-- The streams of a write, in order. -/
structure Catalog where
  streams : List Catalog.Entry
deriving Repr

namespace Catalog

open Schema (Field)
open Json (Node)

/-- The entry of a stream by its name and namespace. -/
def find (name : String) (space : Option String) (c : Catalog) : Option Entry :=
  c.streams.find? fun e => e.stream.name == name && e.stream.space == space

/-- The names of the ways of reading. -/
def SyncMode.table : List (String × SyncMode) :=
  [("full_refresh", .fullRefresh), ("incremental", .incremental)]

/-- The name of a way of reading. -/
def SyncMode.name : SyncMode → String
  | fullRefresh => "full_refresh"
  | incremental => "incremental"

/-- The names of the ways of writing. -/
def WriteMode.table : List (String × WriteMode) :=
  [("append", .append), ("overwrite", .overwrite), ("append_dedup", .appendDedup)]

/-- The name of a way of writing. -/
def WriteMode.name : WriteMode → String
  | append => "append"
  | overwrite => "overwrite"
  | appendDedup => "append_dedup"

/-! ## Writing -/

/-- A stream as an object. -/
def Stream.toJson (s : Stream) : Json :=
  .obj (("name", .str s.name) :: Json.member? "namespace" (s.space.map .str) ++
    [("json_schema", s.schema),
      ("supported_sync_modes", .arr (s.supported.map fun m => .str m.name))])

/-- An entry as an object. -/
def Entry.toJson (e : Entry) : Json :=
  .obj [("stream", e.stream.toJson), ("sync_mode", .str e.syncMode.name),
    ("destination_sync_mode", .str e.writeMode.name)]

/-- A catalog as an object. -/
def toJson (c : Catalog) : Json := .obj [("streams", .arr (c.streams.map Entry.toJson))]

/-! ## Reading -/

/-- The fields of a stream. -/
def Stream.fields : List (Field Node Json.Fault Stream) := [
  .of ["name"] true Json.format.text fun v s => { s with name := v },
  .of ["namespace"] false (Json.format.maybe Json.format.text) fun v s => { s with space := v },
  .of ["json_schema"] true Node.value fun v s => { s with schema := v },
  .of ["supported_sync_modes"] false (Json.format.list (Json.format.choice SyncMode.table))
    fun v s => { s with supported := v }]

/-- Reads a stream. -/
def Stream.read : Node → Except Json.Fault Stream :=
  Json.format.record Stream.fields ⟨"", none, .null, []⟩

/-- The fields of an entry. -/
def Entry.fields : List (Field Node Json.Fault Entry) := [
  .of ["stream"] true Stream.read fun v e => { e with stream := v },
  .of ["sync_mode"] true (Json.format.choice SyncMode.table) fun v e => { e with syncMode := v },
  .of ["destination_sync_mode"] true (Json.format.choice WriteMode.table)
    fun v e => { e with writeMode := v }]

/-- Reads an entry. -/
def Entry.read : Node → Except Json.Fault Entry :=
  Json.format.record Entry.fields ⟨⟨"", none, .null, []⟩, .fullRefresh, .append⟩

/-- The fields of a catalog. -/
def fields : List (Field Node Json.Fault Catalog) := [
  .of ["streams"] true (Json.format.list Entry.read) fun v _ => ⟨v⟩]

/-- Reads a catalog. -/
def read : Node → Except Json.Fault Catalog := Json.format.record fields ⟨[]⟩

/-- The catalog of a text. -/
def ofText (s : List Char) : Except Error Catalog := (Json.readText read s).mapError .json

/-- The catalog of a file. -/
def ofFile (path : String) (m : Host.Machine) : Except Error Catalog := do
  let text ← m.readText path
  ofText text.toList

end Catalog
end Acceptance
