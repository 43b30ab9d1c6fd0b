import Acceptance.Number.Binary64

/-!
# JSON values

* `Number`: an integer of the signed or unsigned 64-bit range, or a finite binary value.
* `Json`: a value. The members of an object stand in ascending order of their names.
* `insertMember`, `ofMembers`: objects out of members in any order; a later member replaces an
  earlier one of the same name.
* `same`: equality of values, in which the two zeros of the binary format are equal.

Results:
* `same_refl`: a value equals itself.
-/

namespace Acceptance

/-- An integer from `-2^63` up to `2^64 - 1`. -/
structure Json.Integer where
  val : Int
  lower : -9223372036854775808 ≤ val
  upper : val < 18446744073709551616
deriving DecidableEq, Repr

/-- A number of a JSON text: integers and binary values are kept apart, as they print apart. -/
inductive Json.Number where
  | int (i : Json.Integer)
  | float (x : Number.Binary64)
deriving DecidableEq, Repr

/-- A JSON value. -/
inductive Json where
  | null
  | bool (b : Bool)
  | num (n : Json.Number)
  | str (s : String)
  | arr (items : List Json)
  | obj (members : List (String × Json))
deriving Repr, Inhabited

namespace Json

/-- The integer value, where it lies in the range. -/
def Integer.ofInt? (i : Int) : Option Integer :=
  if h : -9223372036854775808 ≤ i ∧ i < 18446744073709551616 then some ⟨i, h.1, h.2⟩ else none

/-- The members with one more, in its place; it replaces a member of the same name. -/
def insertMember (name : String) (v : Json) : List (String × Json) → List (String × Json)
  | [] => [(name, v)]
  | (k, w) :: r =>
    if name < k then (name, v) :: (k, w) :: r
    else if name = k then (name, v) :: r
    else (k, w) :: insertMember name v r

/-- The object of some members, the last of each name. -/
def ofMembers (ms : List (String × Json)) : Json :=
  obj (ms.foldl (fun acc m => insertMember m.1 m.2 acc) [])

/-- The value of a member. -/
def get? (name : String) : Json → Option Json
  | obj ms => ms.lookup name
  | _ => none

/-- Whether a value is an object. -/
def isObject : Json → Bool
  | obj _ => true
  | _ => false

/-- Equality of numbers: two integers, or two binary values up to the sign of zero. -/
def Number.same : Number → Number → Bool
  | .int i, .int j => i == j
  | .float x, .float y => x.same y
  | _, _ => false

mutual

/-- Equality of values, with equal zeros. -/
def same : Json → Json → Bool
  | null, null => true
  | bool a, bool b => a == b
  | num m, num n => m.same n
  | str s, str t => s == t
  | arr xs, arr ys => sameItems xs ys
  | obj xs, obj ys => sameMembers xs ys
  | _, _ => false

/-- Equality of the items of two arrays. -/
def sameItems : List Json → List Json → Bool
  | [], [] => true
  | x :: xs, y :: ys => same x y && sameItems xs ys
  | _, _ => false

/-- Equality of the members of two objects. -/
def sameMembers : List (String × Json) → List (String × Json) → Bool
  | [], [] => true
  | (k, x) :: xs, (l, y) :: ys => k == l && same x y && sameMembers xs ys
  | _, _ => false

end

/-- The names of members in strictly ascending order. -/
def Ascending (ms : List (String × Json)) : Prop := ms.Pairwise fun a b => a.1 < b.1

theorem Number.same_refl (n : Number) : n.same n = true := by
  cases n <;> simp [Number.same, Number.Binary64.same]

mutual

theorem same_refl : ∀ v : Json, same v v = true
  | null | bool _ | str _ => by simp [same]
  | num n => by simp [same, Number.same_refl]
  | arr xs => by rw [same]; exact sameItems_refl xs
  | obj ms => by rw [same]; exact sameMembers_refl ms

theorem sameItems_refl : ∀ xs : List Json, sameItems xs xs = true
  | [] => by simp [sameItems]
  | x :: xs => by rw [sameItems, same_refl x, sameItems_refl xs]; rfl

theorem sameMembers_refl : ∀ ms : List (String × Json), sameMembers ms ms = true
  | [] => by simp [sameMembers]
  | (k, x) :: ms => by rw [sameMembers, same_refl x, sameMembers_refl ms]; simp

end

end Json
end Acceptance
