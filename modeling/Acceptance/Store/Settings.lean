import Acceptance.Error
import Acceptance.Number.Decimal
import Acceptance.Text.Blank

/-!
# Settings of a connection (specification, section 4.5)

A connection string is an address that starts with its scheme, or pieces of the form `key=value`
between blanks.

* `Key`, `Settings`: what the pieces may set.
* `splitPiece`: the key and the value of a piece.
* `Settings.set`, `Settings.ofPieces`: the settings after a piece, and after all of them. A later
  piece replaces an earlier one, and pieces with other keys set nothing.
* `Connection.ofText`: what a connection string says.

Results:
* `splitPiece_eq_none_iff`: a piece has a key exactly if it has an equals sign.
* `splitPiece_append`: the value of a piece may hold equals signs.
* `eq_append_of_splitPiece`: a piece is its key, an equals sign and its value.
-/

namespace Acceptance.Store

/-- The keys that count. -/
inductive Key where
  | host
  | port
  | user
  | password
  | database
deriving DecidableEq, Repr

/-- The spelling of a key. -/
def Key.name : Key → String
  | host => "host"
  | port => "port"
  | user => "user"
  | password => "password"
  | database => "dbname"

/-- All keys. -/
def Key.all : List Key := [host, port, user, password, database]

/-- The key of a spelling. -/
def Key.named? (name : List Char) : Option Key := all.find? fun k => k.name.toList == name

/-- The settings of a connection. -/
structure Settings where
  host : Option String
  port : Option Nat
  user : Option String
  password : Option String
  database : Option String
deriving DecidableEq, Repr

/-- Nothing is set. -/
def Settings.empty : Settings := ⟨none, none, none, none, none⟩

/-- The key and the value of a piece, which its first equals sign parts. -/
def splitPiece : List Char → Option (List Char × List Char)
  | [] => none
  | c :: r => if c = '=' then some ([], r) else (splitPiece r).map fun (k, v) => (c :: k, v)

/-- The largest number of a port. -/
def lastPort : Nat := 65535

/-- The settings after one piece. -/
def Settings.set (s : Settings) (piece : List Char) : Except ConfigProblem Settings :=
  match splitPiece piece with
  | none => .error (.malformedParameter (String.ofList piece))
  | some (key, value) =>
    let text := String.ofList value
    match Key.named? key with
    | some .host => .ok { s with host := some text }
    | some .port =>
      match Number.natural? lastPort value with
      | some n => .ok { s with port := some n }
      | none => .error (.invalidPort text)
    | some .user => .ok { s with user := some text }
    | some .password => .ok { s with password := some text }
    | some .database => .ok { s with database := some text }
    | none => .ok s

/-- The settings after some pieces. -/
def Settings.setAll (s : Settings) : List (List Char) → Except ConfigProblem Settings
  | [] => .ok s
  | p :: ps => match s.set p with
    | .ok s => s.setAll ps
    | .error e => .error e

/-- The settings that pieces make. -/
def Settings.ofPieces (ps : List (List Char)) : Except ConfigProblem Settings := empty.setAll ps

/-- What a connection string says. -/
inductive Connection where
  | address (text : List Char)
  | settings (s : Settings)
deriving DecidableEq, Repr

/-- What an address starts with. -/
def schemes : List String := ["postgres://", "postgresql://"]

/-- Whether a text is an address. -/
def isAddress (s : List Char) : Bool := schemes.any fun p => p.toList.isPrefixOf s

/-- What a connection string says; blanks around it do not count. -/
def Connection.ofText (text : String) : Except ConfigProblem Connection :=
  let s := Text.trim text.toList
  if isAddress s then .ok (.address s)
  else (Settings.ofPieces (Text.words s)).map .settings

theorem splitPiece_eq_none_iff {p : List Char} : splitPiece p = none ↔ '=' ∉ p := by
  induction p with
  | nil => simp [splitPiece]
  | cons c r ih =>
    by_cases h : c = '='
    · simp [splitPiece, h]
    · have h' : '=' ≠ c := fun e => h e.symm
      simp [splitPiece, h, h', ih]

theorem splitPiece_append {k v : List Char} (h : '=' ∉ k) :
    splitPiece (k ++ '=' :: v) = some (k, v) := by
  induction k with
  | nil => simp [splitPiece]
  | cons c r ih =>
    simp only [List.mem_cons, not_or] at h
    have hc : c ≠ '=' := fun e => h.1 e.symm
    simp [splitPiece, hc, ih h.2]

theorem eq_append_of_splitPiece {p k v : List Char} (h : splitPiece p = some (k, v)) :
    p = k ++ '=' :: v ∧ '=' ∉ k := by
  induction p generalizing k with
  | nil => simp [splitPiece] at h
  | cons c r ih =>
    unfold splitPiece at h
    split at h
    · simp_all
    · next hc =>
      obtain ⟨⟨k', v'⟩, hr, hk⟩ := Option.map_eq_some_iff.1 h
      cases hk
      obtain ⟨e, hn⟩ := ih hr
      exact ⟨by simp [e], by simpa [hn] using Ne.symm hc⟩

end Acceptance.Store
