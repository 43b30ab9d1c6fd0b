import Acceptance.Json.Printer

/-!
# Fingerprints of records (specification, section 4.5)

Two records count as the same when their fingerprints agree. A destination may add members of its own
to a record, and may store an integer as a binary value.

* `prune`: a record without the members a destination adds.
* `canonical`: a value with an integer for every binary value that is one, up to `2^63` in size.
* `fingerprint`: the text of a pruned record in canonical form.
-/

namespace Acceptance.Record

/-- The start of the names of the members that a destination adds. -/
def internalStem : List Char := ['_', 'a', 'i', 'r', 'b', 'y', 't', 'e', '_']

/-- Whether a member is one that a destination adds. -/
def isInternal (name : String) : Bool := internalStem.isPrefixOf name.toList

/-- A record without the members that a destination adds; only its own members are looked at, not
those of values inside it. -/
def prune : Json → Json
  | .obj ms => .obj (ms.filter fun m => !isInternal m.1)
  | v => v

/-- The integer that a binary value is, below `2^63` in size. -/
def smallInteger? (x : Number.Binary64) : Option Json.Integer :=
  match x.toInt? with
  | some i => if i.natAbs < 9223372036854775808 then Json.Integer.ofInt? i else none
  | none => none

/-- The canonical form of a number. -/
def canonicalNumber : Json.Number → Json.Number
  | .int i => .int i
  | .float x =>
    match smallInteger? x with
    | some i => .int i
    | none => .float x

mutual

/-- The canonical form of a value. -/
def canonical : Json → Json
  | .num n => .num (canonicalNumber n)
  | .arr xs => .arr (canonicalItems xs)
  | .obj ms => .obj (canonicalMembers ms)
  | .null => .null
  | .bool b => .bool b
  | .str s => .str s

/-- The canonical forms of the items of an array. -/
def canonicalItems : List Json → List Json
  | [] => []
  | x :: r => canonical x :: canonicalItems r

/-- The members of an object with their values in canonical form. -/
def canonicalMembers : List (String × Json) → List (String × Json)
  | [] => []
  | (k, x) :: r => (k, canonical x) :: canonicalMembers r

end

/-- The fingerprint of a record. -/
def fingerprint (v : Json) : String := (canonical (prune v)).render

end Acceptance.Record
