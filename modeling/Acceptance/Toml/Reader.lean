import Acceptance.Schema
import Acceptance.Toml.Parser

/-!
# Reading values out of TOML documents

* `format`: TOML as a format that records are read from. A record is a table or the array of its
  fields, of which further ones do not count.
* `read`: reads the document of a text.
-/

namespace Acceptance.Toml

/-- Reading fails in one way only. -/
inductive Fault where
  | unsuitable
deriving DecidableEq, Repr

namespace Value

/-- The value as a record. A moment is a record of its own parts, none of which is a field here. -/
def shape : Value → Schema.Shape Value Fault
  | table es => .members (es.map fun e => (.ok e.1, e.2)) (.ok ())
  | array xs => .sequence xs (.ok ()) (.ok ())
  | moment _ => .members [] (.ok ())
  | _ => .other .unsuitable

/-- The value as a list. -/
def items : Value → Except Fault (List Value × Except Fault Unit)
  | array xs => .ok (xs, .ok ())
  | _ => .error .unsuitable

/-- The value as a text. -/
def text : Value → Except Fault String
  | string s => .ok s
  | _ => .error .unsuitable

/-- The value as a truth value. -/
def flag : Value → Except Fault Bool
  | bool b => .ok b
  | _ => .error .unsuitable

/-- The value as an unsigned number. -/
def natural : Value → Except Fault Nat
  | integer i => if 0 ≤ i then .ok i.toNat else .error .unsuitable
  | _ => .error .unsuitable

/-- Whether a value holds nothing. -/
def isEmpty : Value → Bool
  | table es => es.isEmpty
  | array xs => xs.isEmpty
  | _ => false

/-- The value as a name: a string, or a table of which the name is the only key, for nothing. -/
def name : Value → Except Fault (String × Except Fault Unit)
  | string s => .ok (s, .ok ())
  | table [(k, v)] => .ok (k, if v.isEmpty then .ok () else .error .unsuitable)
  | _ => .error .unsuitable

end Value

/-- TOML as a format. -/
def format : Schema.Format Value Fault where
  unsuitable := .unsuitable
  shape := Value.shape
  items := Value.items
  optional v := .ok (some v)
  text := Value.text
  flag := Value.flag
  natural := Value.natural
  name := Value.name
  pass _ := .ok ()

/-- Reads the document of a text. -/
def read {α : Type} (reader : Value → Except Fault α) (s : String) : Except Fault α :=
  match parse s with
  | some v => reader v
  | none => .error .unsuitable

end Acceptance.Toml
