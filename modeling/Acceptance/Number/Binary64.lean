/-!
# Binary floating-point numbers

The finite values of the 64-bit binary format, held exactly: a value is
`± significand · 2^scale · 2^-1074`, with one representation for each.

* `Binary64`: sign, significand and scale, with the bounds that make the representation unique.
* `ofRatio`: the nearest value of a quotient of natural numbers, a tie going to the even significand.
* `mul`, `div`, `ofNat`: correctly rounded arithmetic, through `ofRatio`.
* `toInt?`: the integer that a value is, if it is one.
* `tenTo`: the powers of ten.

Results:
* `toInt?_eq_some_iff`: a value is the integer `i` exactly when its units are `i` times `2^1074`.
-/

namespace Acceptance.Number

/-- The power of ten with a given exponent. -/
def tenTo (e : Nat) : Nat := Nat.pow 10 e

/-- A finite value `± significand · 2^scale · 2^-1074`. The significand is below `2^53`, and not below
`2^52` where the scale is not zero. Both zeros are values. -/
structure Binary64 where
  negative : Bool
  significand : Nat
  scale : Nat
  significand_lt : significand < 9007199254740992
  normal : scale = 0 ∨ 4503599627370496 ≤ significand
  scale_le : scale ≤ 2045
deriving DecidableEq, Repr

namespace Binary64

/-- The units of `2^-1074` in the number one. -/
def one : Nat := 1 <<< 1074

/-- The magnitude in units of `2^-1074`. -/
def units (x : Binary64) : Nat := x.significand <<< x.scale

/-- The value with the given parts, where they are parts of one. -/
def ofParts? (negative : Bool) (significand scale : Nat) : Option Binary64 :=
  if h : significand < 9007199254740992 ∧ (scale = 0 ∨ 4503599627370496 ≤ significand) ∧
      scale ≤ 2045 then
    some ⟨negative, significand, scale, h.1, h.2.1, h.2.2⟩
  else none

/-- Zero with a sign. -/
def zero (negative : Bool) : Binary64 :=
  ⟨negative, 0, 0, by decide, Or.inl rfl, by decide⟩

/-- Either zero. -/
def isZero (x : Binary64) : Bool := x.significand == 0

/-- Equality of values: the two zeros are equal. -/
def same (x y : Binary64) : Bool := x == y || (x.isZero && y.isZero)

/-- The quotient rounded to the nearest natural number, a tie to the even one. -/
def roundQuotient (num den : Nat) : Nat :=
  let q := num / den
  let r := num % den
  if 2 * r < den then q else if den < 2 * r then q + 1 else q + q % 2

/-- The nearest value of `num / den`, where it lies in the range of the format. The significand
takes the leading 53 bits; a carry out of them moves the scale. -/
def ofRatio (negative : Bool) (num den : Nat) : Option Binary64 :=
  let whole := num * one / den
  let scale := if whole < 9007199254740992 then 0 else whole.log2 - 52
  let significand := roundQuotient (num * one) (den <<< scale)
  if significand < 9007199254740992 then ofParts? negative significand scale
  else ofParts? negative (significand / 2) (scale + 1)

/-- The nearest value of a natural number. -/
def ofNat (n : Nat) : Option Binary64 := ofRatio false n 1

/-- The nearest value of the product of two magnitudes. -/
def mul (x : Binary64) (y : Binary64) : Option Binary64 :=
  ofRatio x.negative (x.units * y.units) (one * one)

/-- The nearest value of the quotient of two magnitudes. -/
def div (x : Binary64) (y : Binary64) : Option Binary64 :=
  ofRatio x.negative x.units y.units

/-- The value with the other sign. -/
def neg (x : Binary64) : Binary64 := { x with negative := !x.negative }

/-- The integer a value is, if it has no fraction. -/
def toInt? (x : Binary64) : Option Int :=
  if x.units % one = 0 then
    some (if x.negative then -((x.units / one : Nat) : Int) else ((x.units / one : Nat) : Int))
  else none

/-- The signed number of units of `2^-1074`. -/
def signedUnits (x : Binary64) : Int := if x.negative then -(x.units : Int) else (x.units : Int)

theorem one_pos : 0 < one := by decide +kernel

theorem toInt?_eq_some_iff {x : Binary64} {i : Int} :
    x.toInt? = some i ↔ x.signedUnits = i * (one : Int) := by
  have hone : 0 < one := one_pos
  unfold toInt? signedUnits
  generalize x.units = u
  generalize one = w at hone
  constructor
  · intro h
    split at h
    · rename_i hd
      have hu : ((u / w : Nat) : Int) * (w : Int) = (u : Int) := by
        rw [← Int.natCast_mul, Nat.div_mul_cancel (Nat.dvd_of_mod_eq_zero hd)]
      cases hn : x.negative <;> simp only [hn, Option.some.injEq] at h ⊢ <;> subst h
      · exact hu.symm
      · simp only [if_true, Int.neg_mul, hu]
    · cases h
  · intro h
    have hw : (w : Int) ≠ 0 := by omega
    have hd : u % w = 0 := by
      have : (w : Int) ∣ (u : Int) := by
        cases hn : x.negative <;> simp only [hn] at h
        · exact ⟨i, by rw [Int.mul_comm]; exact h⟩
        · refine ⟨-i, ?_⟩
          have : (u : Int) = -(i * (w : Int)) := by simp at h; omega
          rw [this, Int.mul_neg, Int.mul_comm]
      exact Nat.mod_eq_zero_of_dvd (Int.natCast_dvd_natCast.1 this)
    have hu : ((u / w : Nat) : Int) * (w : Int) = (u : Int) := by
      rw [← Int.natCast_mul, Nat.div_mul_cancel (Nat.dvd_of_mod_eq_zero hd)]
    rw [if_pos hd]
    cases hn : x.negative <;> simp only [hn] at h ⊢
    · simp only [Bool.false_eq_true, if_false, Option.some.injEq] at h ⊢
      exact Int.eq_of_mul_eq_mul_right hw (hu.trans h)
    · simp only [if_true, Option.some.injEq] at h ⊢
      apply Int.eq_of_mul_eq_mul_right hw
      rw [Int.neg_mul, hu, h]

end Binary64
end Acceptance.Number
