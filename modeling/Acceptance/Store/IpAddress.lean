import Acceptance.Number.Decimal
import Acceptance.Text.Percent

/-!
# Numeric addresses of hosts

* `isDotted`: four numbers between points.
* `isGrouped`: eight groups of hexadecimal digits between colons, where two colons may stand for
  groups that are zero and a dotted address for the last two groups.
* `isIpAddress`: one of the two.
-/

namespace Acceptance.Store

/-- The pieces between the occurrences of a character; there is always one. -/
def piecesAt (sep : Char) : List Char → List (List Char)
  | [] => [[]]
  | c :: r =>
    match piecesAt sep r with
    | [] => [[c]]
    | p :: ps => if c = sep then [] :: p :: ps else (c :: p) :: ps

/-- A number of an octet, without needless zeros. -/
def isOctet (s : List Char) : Bool :=
  (Number.digits? 255 s).isSome && s.length ≤ 3 && (s.length == 1 || s.head? != some '0')

/-- Four numbers between points. -/
def isDotted (s : List Char) : Bool :=
  let ps := piecesAt '.' s
  ps.length == 4 && ps.all isOctet

/-- One to four hexadecimal digits. -/
def isGroup (s : List Char) : Bool :=
  !s.isEmpty && s.length ≤ 4 && s.all fun c => (Text.Percent.hexValue? c).isSome

/-- The number of groups that pieces between colons make, if they make groups; where they end the
address, the last of them may be dotted. -/
def groupCount? (final : Bool) : List (List Char) → Option Nat
  | [] => some 0
  | [p] => if isGroup p then some 1 else if final && isDotted p then some 2 else none
  | p :: ps => if isGroup p then (groupCount? final ps).map (· + 1) else none

/-- The parts before and after the first two colons that stand together. -/
def atGap? : List Char → Option (List Char × List Char)
  | ':' :: ':' :: r => some ([], r)
  | c :: r => (atGap? r).map fun (a, b) => (c :: a, b)
  | [] => none

/-- The groups of a text between colons; the empty text has none. -/
def groups (s : List Char) : List (List Char) := if s.isEmpty then [] else piecesAt ':' s

/-- Eight groups, or fewer around a gap. -/
def isGrouped (s : List Char) : Bool :=
  match atGap? s with
  | none => groupCount? true (groups s) == some 8
  | some (a, b) =>
    match groupCount? false (groups a), groupCount? true (groups b) with
    | some m, some n => m + n ≤ 7
    | _, _ => false

/-- A numeric address. -/
def isIpAddress (s : List Char) : Bool := isDotted s || isGrouped s

end Acceptance.Store
