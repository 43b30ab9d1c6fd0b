import Acceptance.Text.Utf8

/-!
# Percent signs

In an address an octet may be written as a percent sign with two hexadecimal digits.

* `octets`: the octets of a text that is written so. A percent sign without two digits stands for
  itself.
* `decode?`: the text they make, if they make one.
-/

namespace Acceptance.Text.Percent

/-- The value of a hexadecimal digit. -/
def hexValue? (c : Char) : Option Nat :=
  if c.isDigit then some (c.toNat - 48)
  else if 'a' ≤ c ∧ c ≤ 'f' then some (c.toNat - 87)
  else if 'A' ≤ c ∧ c ≤ 'F' then some (c.toNat - 55)
  else none

/-- The octets that a text stands for. -/
def octets : List Char → List UInt8
  | [] => []
  | '%' :: a :: b :: r =>
    match hexValue? a, hexValue? b with
    | some x, some y => UInt8.ofNat (x * 16 + y) :: octets r
    | _, _ => Utf8.encode "%" ++ octets (a :: b :: r)
  | c :: r => Utf8.encode (String.singleton c) ++ octets r

/-- The text that a text stands for. -/
def decode? (s : List Char) : Option String := Utf8.decode? (octets s)

end Acceptance.Text.Percent
