/-!
# Decimal whole numbers

Whole numbers as they stand in settings: digits, with a sign before them if one likes.

* `ofDigits`: the number that digits make.
* `natural?`, `integer?`: the numbers of a range, read.
-/

namespace Acceptance.Number

/-- The number that digits make behind a number. -/
def ofDigits (n : Nat) (ds : List Char) : Nat := ds.foldl (fun n d => n * 10 + (d.toNat - 48)) n

/-- A number up to a largest one, as digits. -/
def digits? (most : Nat) (s : List Char) : Option Nat :=
  if s.isEmpty || !s.all Char.isDigit then none
  else if ofDigits 0 s ≤ most then some (ofDigits 0 s)
  else none

/-- A number up to a largest one; it may have a plus sign. -/
def natural? (most : Nat) : List Char → Option Nat
  | '+' :: s => digits? most s
  | s => digits? most s

/-- A number of a range; it may have a sign. -/
def integer? (least most : Nat) : List Char → Option Int
  | '-' :: s => (digits? least s).map fun n => -(n : Int)
  | s => (natural? most s).map fun n => (n : Int)

end Acceptance.Number
