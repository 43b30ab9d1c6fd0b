import Acceptance.Store.Source

/-!
# Database systems with answers given beforehand

* `Holding`: what a database holds: the rows for each text of a query.
* `Holding.ofText?`: a database file as the text of a JSON object.
* `Server`: a server with its socket on the machine.
* `systems`: the database systems of a rehearsal.
-/

namespace Acceptance.Rehearsal

open Store (Cell Row Systems Access)

/-- What a database holds, and what it says of queries that it knows nothing of. -/
structure Holding where
  tables : List (String × List Row)
  unknown : String

/-- The cell that a value stands for. -/
def cellOf? : Json → Option Cell
  | .null => some none
  | .str s => some (some s)
  | _ => none

/-- The rows that a list of cells stands for. -/
def rowsOf? : Json → Option (List Row)
  | .arr xs => xs.mapM fun x => (cellOf? x).map .ok
  | _ => none

/-- The tables that an object stands for. -/
def tablesOf? : Json → Option (List (String × List Row))
  | .obj ms => ms.mapM fun (q, v) => (rowsOf? v).map fun rows => (q, rows)
  | _ => none

/-- The database of a file. -/
def Holding.ofText? (octets : List UInt8) : Option Holding :=
  match Text.Utf8.decode? octets with
  | none => none
  | some t => match Json.parse t with
    | .error _ => none
    | .ok v => (tablesOf? v).map fun tables => ⟨tables, "no such table"⟩

/-- The rows that answer a query. -/
def Holding.query (h : Holding) (text : String) : Except String (List Row) :=
  match h.tables.lookup text with
  | some rows => .ok rows
  | none => .error h.unknown

/-- A server with its socket. -/
structure Server where
  socket : Host.Key
  holding : Holding

/-- The rows of a column that is no text. -/
def withoutText (rows : List Row) : List Row :=
  rows.map fun _ => .error "error deserializing column 0"

/-- The path of the socket that a server has in a directory for a port. -/
def socketPath (directory : String) (port : Nat) : String :=
  Path.join directory (".s.PGSQL." ++ toString port)

/-- The ports of the listeners; a single one holds for all. -/
def portsOf (a : Access) : Option (List Nat) :=
  match a.ports with
  | [] => some (a.listeners.map fun _ => Access.usualPort)
  | [p] => some (a.listeners.map fun _ => p)
  | ps => if ps.length == a.listeners.length then some ps else none

/-- Whether a server can be reached: its socket is at one of the places to look at, and neither
encryption nor a bound channel is asked for. -/
def Server.reached (s : Server) (a : Access) (m : Host.Machine) : Bool :=
  match portsOf a with
  | none => false
  | some ps =>
    a.addresses.isEmpty && !a.encrypted && !a.bound && (a.listeners.zip ps).any fun
      | (.directory d, p) =>
        match m.files.locate m.directory (socketPath d p) with
        | .ok (.taken k _) => k == s.socket
        | _ => false
      | (.host _, _) => false

/-- Database systems with at most one server. -/
def systems (server : Option Server) : Systems Holding where
  openFile octets := match Holding.ofText? octets with
    | some h => .ok h
    | none => .error "not a database file"
  connect a m := match server with
    | some s => if s.reached a m then .ok s.holding else .error "no server is there"
    | none => .error "no server is there"
  query h text := h.query text

end Acceptance.Rehearsal
