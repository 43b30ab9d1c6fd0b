import Acceptance.Json.Printer
import Acceptance.Json.Reader
import Acceptance.Message.Basic

/-!
# Messages as JSON (specification, section 4.3)

* `Message.toJson`: a message as an object. The members stand in a fixed order, and absent payloads
  are left out.
* `Message.read`: the message of a node.
* `Message.ofLine`, `Message.line`: single lines.

Results:
* `lookup_kindName`, `lookup_verdictName`: kinds and outcomes are found by their names.
-/

namespace Acceptance

/-- An integer of the signed 64-bit range as a number. -/
def Json.Integer.ofInt64 (x : Int64) : Json.Integer :=
  ⟨x.toInt, Int64.le_toInt x, by have := Int64.toInt_lt x; omega⟩

/-- A member that is left out when it is absent. -/
def Json.member? (name : String) : Option Json → List (String × Json)
  | none => []
  | some v => [(name, v)]

namespace Message

open Schema (Field)
open Json (Node)

/-- The names of the kinds. -/
def Kind.table : List (String × Kind) := [
  ("RECORD", .record), ("STATE", .state), ("LOG", .log), ("SPEC", .spec),
  ("CONNECTION_STATUS", .connectionStatus), ("CATALOG", .catalog), ("TRACE", .trace)]

/-- The name of a kind. -/
def Kind.name : Kind → String
  | record => "RECORD"
  | state => "STATE"
  | log => "LOG"
  | spec => "SPEC"
  | connectionStatus => "CONNECTION_STATUS"
  | catalog => "CATALOG"
  | trace => "TRACE"

/-- The names of the outcomes of a check. -/
def Verdict.table : List (String × Verdict) := [("SUCCEEDED", .succeeded), ("FAILED", .failed)]

/-- The name of the outcome of a check. -/
def Verdict.name : Verdict → String
  | succeeded => "SUCCEEDED"
  | failed => "FAILED"

/-! ## Writing -/

/-- A record as an object. -/
def Record.toJson (r : Record) : Json :=
  .obj (("stream", .str r.stream) :: Json.member? "namespace" (r.space.map .str) ++
    [("data", r.data), ("emitted_at", .num (.int (.ofInt64 r.emittedAt)))])

/-- A line of a log as an object. -/
def Log.toJson (l : Log) : Json := .obj [("level", .str l.level), ("message", .str l.message)]

/-- The answer to a check as an object. -/
def Connection.toJson (c : Connection) : Json :=
  .obj (("status", .str c.verdict.name) :: Json.member? "message" (c.message.map .str))

/-- A message as an object. -/
def toJson (m : Message) : Json :=
  .obj (("type", .str m.kind.name) ::
    Json.member? "record" (m.record.map Record.toJson) ++ Json.member? "state" m.state ++
    Json.member? "log" (m.log.map Log.toJson) ++ Json.member? "spec" m.spec ++
    Json.member? "connectionStatus" (m.connection.map Connection.toJson) ++
    Json.member? "catalog" m.catalog ++ Json.member? "trace" m.trace)

/-- A message on one line. -/
def line (m : Message) : List Char := m.toJson.text

/-! ## Reading -/

/-- A time: an integer of the signed 64-bit range. -/
def readTime (n : Node) : Except Json.Fault Int64 := do
  let i ← n.integerIn (-9223372036854775808) 9223372036854775808
  .ok (Int64.ofInt i)

/-- The fields of a record. -/
def Record.fields : List (Field Node Json.Fault Record) := [
  .of ["stream"] true Json.format.text fun v r => { r with stream := v },
  .of ["namespace"] false (Json.format.maybe Json.format.text) fun v r => { r with space := v },
  .of ["data"] true Node.value fun v r => { r with data := v },
  .of ["emitted_at"] true readTime fun v r => { r with emittedAt := v }]

/-- Reads a record. -/
def Record.read : Node → Except Json.Fault Record :=
  Json.format.record Record.fields ⟨"", none, .null, 0⟩

/-- The fields of a line of a log. -/
def Log.fields : List (Field Node Json.Fault Log) := [
  .of ["level"] true Json.format.text fun v l => { l with level := v },
  .of ["message"] true Json.format.text fun v l => { l with message := v }]

/-- Reads a line of a log. -/
def Log.read : Node → Except Json.Fault Log := Json.format.record Log.fields ⟨"", ""⟩

/-- The fields of the answer to a check. -/
def Connection.fields : List (Field Node Json.Fault Connection) := [
  .of ["status"] true (Json.format.choice Verdict.table) fun v c => { c with verdict := v },
  .of ["message"] false (Json.format.maybe Json.format.text) fun v c => { c with message := v }]

/-- Reads the answer to a check. -/
def Connection.read : Node → Except Json.Fault Connection :=
  Json.format.record Connection.fields ⟨.failed, none⟩

/-- The fields of a message. -/
def fields : List (Field Node Json.Fault Message) := [
  .of ["type"] true (Json.format.choice Kind.table) fun v m => { m with kind := v },
  .of ["record"] false (Json.format.maybe Record.read) fun v m => { m with record := v },
  .of ["state"] false (Json.format.maybe Node.value) fun v m => { m with state := v },
  .of ["log"] false (Json.format.maybe Log.read) fun v m => { m with log := v },
  .of ["spec"] false (Json.format.maybe Node.value) fun v m => { m with spec := v },
  .of ["connectionStatus"] false (Json.format.maybe Connection.read)
    fun v m => { m with connection := v },
  .of ["catalog"] false (Json.format.maybe Node.value) fun v m => { m with catalog := v },
  .of ["trace"] false (Json.format.maybe Node.value) fun v m => { m with trace := v }]

/-- Reads a message. -/
def read : Node → Except Json.Fault Message := Json.format.record fields (empty .record)

/-- The message of a text. -/
def ofLine (s : List Char) : Except Json.Fault Message := Json.readText read s

theorem lookup_kindName (k : Kind) : Kind.table.lookup k.name = some k := by cases k <;> rfl

theorem lookup_verdictName (v : Verdict) : Verdict.table.lookup v.name = some v := by cases v <;> rfl

end Message
end Acceptance
