import Acceptance.Schema
import Acceptance.Yaml.Node

/-!
# Reading values out of YAML documents

A YAML document tells texts, numbers and truth values apart by how a scalar is written: only a plain
scalar can be a number, a truth value or nothing at all, and any scalar can be a text.

* `Place`: a node, and what the aliases in it stand for.
* `format`: YAML as a format that records are read from.
* `read`: reads the document of a text.
-/

namespace Acceptance.Yaml

/-- A node of a document; nothing at all is the document of an empty text. -/
structure Place where
  anchored : List (Nat × Node)
  node : Option Node

/-- Reading fails in one way only. -/
inductive Fault where
  | unsuitable
deriving DecidableEq, Repr

/-- The texts of nothing. -/
def isNull (s : String) : Bool := s == "null" || s == "Null" || s == "NULL" || s == "~"

/-- The tag of a core type. -/
def coreTag (name : String) : String := "tag:yaml.org,2002:" ++ name

/-- Digits of a radix, as a number. -/
def digitsIn? (radix : Nat) (cs : List Char) : Option Nat :=
  if cs.isEmpty then none
  else cs.foldlM (fun n c => do
    let d ← hexDigit? c
    if d < radix then some (n * radix + d) else none) 0

/-- Whether a text is digits only, with a zero before others. -/
def zeroPadded : List Char → Bool
  | '0' :: c :: r => (c :: r).all Char.isDigit
  | _ => false

/-- The text without one sign of the given ones. -/
def dropSign (signs : List Char) : List Char → List Char
  | c :: r => if signs.contains c then r else c :: r
  | [] => []

/-- A number below `2^64`. -/
def word? (n : Nat) : Option Nat := if n < 18446744073709551616 then some n else none

/-- The unsigned number that a plain scalar stands for: hexadecimal, octal, binary or decimal. -/
def natural? (s : List Char) : Option Nat :=
  let body := dropSign ['+'] s
  let radix : Option (Nat × List Char) := match body with
    | '0' :: 'x' :: r => some (16, r)
    | '0' :: 'o' :: r => some (8, r)
    | '0' :: 'b' :: r => some (2, r)
    | _ => none
  match radix with
  | some (base, r) =>
    if r.head? == some '+' || r.head? == some '-' then none else digitsIn? base r >>= word?
  | none =>
    if body.head? == some '+' || body.head? == some '-' ||
        zeroPadded (dropSign ['+', '-'] s) then none
    else digitsIn? 10 body >>= word?

/-- The truth value that a plain scalar stands for. -/
def flag? (s : String) : Option Bool :=
  if s == "true" || s == "True" || s == "TRUE" then some true
  else if s == "false" || s == "False" || s == "FALSE" then some false
  else none

namespace Place

/-- The node behind the aliases. -/
def resolved (p : Place) : Option Node := p.node >>= resolve p.anchored

/-- Another node of the same document. -/
def child (p : Place) (n : Node) : Place := { p with node := some n }

/-- The node as a text. -/
def text (p : Place) : Except Fault String :=
  match p.resolved with
  | some (.scalar _ _ s) => .ok s
  | _ => .error .unsuitable

/-- The scalar here, where it may be read as a value of a core type. -/
def valueText (type : String) (p : Place) : Option String :=
  match p.resolved with
  | some (.scalar _ .plain s) => some s
  | some (.scalar (some t) .literal s) => if t == coreTag type then some s else none
  | _ => none

/-- The node as a record. -/
def shape (p : Place) : Schema.Shape Place Fault :=
  match p.resolved with
  | none => .members [] (.ok ())
  | some (.mapping ps) => .members (ps.map fun m => ((p.child m.1).text, p.child m.2)) (.ok ())
  | some (.scalar _ .plain s) => if s.isEmpty then .members [] (.ok ()) else .other .unsuitable
  | some _ => .other .unsuitable

/-- The node as a list. -/
def items (p : Place) : Except Fault (List Place × Except Fault Unit) :=
  match p.resolved with
  | some (.sequence xs) => .ok (xs.map p.child, .ok ())
  | some (.scalar _ .plain s) => if s.isEmpty then .ok ([], .ok ()) else .error .unsuitable
  | none => .ok ([], .ok ())
  | some _ => .error .unsuitable

/-- The node where nothing may stand. -/
def optional (p : Place) : Except Fault (Option Place) :=
  match p.resolved with
  | none => .ok none
  | some (.scalar none .plain s) => .ok (if s.isEmpty || isNull s then none else some p)
  | some (.scalar (some t) .plain s) =>
    if t == coreTag "null" then (if isNull s then .ok none else .error .unsuitable) else .ok (some p)
  | some _ => .ok (some p)

/-- Whether the node stands for nothing. -/
def isNothing (p : Place) : Bool :=
  match p.resolved with
  | some (.scalar _ .plain s) => s.isEmpty || isNull s
  | _ => false

/-- The node as a name: the tag of a scalar of its own kind, whose text is nothing then, or its
text. -/
def name (p : Place) : Except Fault (String × Except Fault Unit) :=
  match p.resolved with
  | some (.scalar tag _ s) =>
    match tag.map String.toList with
    | some ('!' :: own) =>
      .ok (String.ofList own, if p.isNothing then .ok () else .error .unsuitable)
    | _ => .ok (s, .ok ())
  | _ => .error .unsuitable

end Place

/-- What is there, or the failure. -/
def orUnsuitable {α : Type} : Option α → Except Fault α
  | some x => .ok x
  | none => .error .unsuitable

/-- YAML as a format. -/
def format : Schema.Format Place Fault where
  unsuitable := .unsuitable
  shape := Place.shape
  items := Place.items
  optional := Place.optional
  text := Place.text
  flag p := orUnsuitable (p.valueText "bool" >>= flag?)
  natural p := orUnsuitable (p.valueText "int" >>= fun s => natural? s.toList)
  name := Place.name
  pass _ := .ok ()

/-- Reads the document of a text. -/
def read {α : Type} (reader : Place → Except Fault α) (s : String) : Except Fault α := do
  let d ← orUnsuitable (document? s)
  reader ⟨d.anchored, d.root⟩

end Acceptance.Yaml
