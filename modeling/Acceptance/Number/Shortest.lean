import Acceptance.Number.Binary64

/-!
# Shortest decimal form

The decimal with the fewest digits among those that round to a given binary value; among several,
the nearest one, and of two equally near the one with an even last digit.

Magnitudes are counted in quarters of the smallest unit, so that the ends of the interval of
decimals that round to a value are whole numbers.

* `interval`: the ends of that interval; they belong to it exactly when the significand is even.
* `onGrid`: the nearest multiple of a power of ten inside the interval, if it has one.
* `shortest`: the multiple on the coarsest grid that has one.

Results:
* `onGrid_mem`: what `onGrid` gives lies in the interval.
* `isNumberText_intText`, `isNumberText_text`: a printed number holds digits, a sign, a point and an
  exponent mark only.
-/

namespace Acceptance.Number

/-- The decimal `digits · 10^exponent`. -/
structure Decimal where
  digits : Nat
  exponent : Int
deriving DecidableEq, Repr

namespace Binary64

/-- The magnitude in units of `2^-1076`. -/
def quarters (x : Binary64) : Nat := 4 * x.units

/-- The units of `2^-1076` in the number one. -/
def quarterOne : Nat := 4 * one

/-- The ends of the interval that rounds to a value: half way to its neighbours. Below a power of
two the lower neighbour is nearer. -/
def interval (x : Binary64) : Nat × Nat :=
  let half := 2 <<< x.scale
  let below := if x.significand = 4503599627370496 ∧ x.scale ≠ 0 then 1 <<< x.scale else half
  (x.quarters - below, x.quarters + half)

/-- The factors of a grid `10^e`: the multiple `d` of `10^e` is `d * gridUnit e / gridScale e` in
units of `2^-1076`. -/
def gridUnit (e : Int) : Nat := tenTo e.toNat * quarterOne

/-- The denominator of a grid `10^e`. -/
def gridScale (e : Int) : Nat := tenTo (-e).toNat

/-- Whether the multiple `d` of `10^e` lies in the interval of a value. -/
def admits (x : Binary64) (e : Int) (d : Nat) : Bool :=
  let p := d * gridUnit e
  let low := x.interval.1 * gridScale e
  let high := x.interval.2 * gridScale e
  if x.significand % 2 = 0 then low ≤ p && p ≤ high else low < p && p < high

/-- Of `d` and `d + 1`, at distances `below` and `above`, the nearer one; the even one if equal. -/
def nearer (d below above : Nat) : Nat :=
  if below < above then d else if above < below then d + 1 else d + d % 2

/-- The nearer of the multiples of `g` on either side of `v`, among those that are admitted. -/
def nearestMultiple (inside : Nat → Bool) (v g : Nat) : Option Nat :=
  let d := v / g
  match d != 0 && inside d, inside (d + 1) with
  | true, true => some (nearer d (v - d * g) ((d + 1) * g - v))
  | true, false => some d
  | false, true => some (d + 1)
  | false, false => none

/-- The nearest multiple of `10^e` in the interval of a value, if there is one. -/
def onGrid (x : Binary64) (e : Int) : Option Nat :=
  nearestMultiple (admits x e) (x.quarters * gridScale e) (gridUnit e)

/-- The multiple on the first grid that has one, from `10^e` down. -/
def firstMultiple (grid : Int → Option Nat) : Nat → Int → Decimal
  | 0, e => ⟨0, e⟩
  | fuel + 1, e =>
    match grid e with
    | some d => ⟨d, e⟩
    | none => firstMultiple grid fuel (e - 1)

/-- An exponent whose power of ten exceeds the interval of a value. -/
def exponentAbove (x : Binary64) : Int :=
  let bits := x.interval.2.log2 + 1
  if 1076 ≤ bits then (((bits - 1076) / 3 + 1 : Nat) : Int)
  else -((3 * ((1076 - bits) / 10) : Nat) : Int)

/-- The shortest decimal that rounds to a value other than zero. -/
def shortest (x : Binary64) : Decimal := firstMultiple (onGrid x) 400 x.exponentAbove

theorem nearer_eq (d below above : Nat) :
    nearer d below above = d ∨ nearer d below above = d + 1 := by
  unfold nearer
  split
  · exact Or.inl rfl
  · split
    · exact Or.inr rfl
    · have : d % 2 = 0 ∨ d % 2 = 1 := by omega
      cases this with
      | inl h => exact Or.inl (by rw [h, Nat.add_zero])
      | inr h => exact Or.inr (by rw [h])

theorem nearestMultiple_inside {inside : Nat → Bool} {v g d : Nat}
    (h : nearestMultiple inside v g = some d) : inside d = true := by
  unfold nearestMultiple at h
  dsimp only at h
  split at h
  · rename_i hu ho
    rw [Bool.and_eq_true] at hu
    obtain rfl := Option.some.inj h
    cases nearer_eq (v / g) (v - v / g * g) ((v / g + 1) * g - v) with
    | inl hn => rw [hn]; exact hu.2
    | inr hn => rw [hn]; exact ho
  · rename_i hu _
    rw [Bool.and_eq_true] at hu
    obtain rfl := Option.some.inj h
    exact hu.2
  · rename_i ho
    obtain rfl := Option.some.inj h
    exact ho
  · cases h

theorem onGrid_mem {x : Binary64} {e : Int} {d : Nat} (h : onGrid x e = some d) :
    admits x e d = true :=
  nearestMultiple_inside h

end Binary64

/-- Where a number text changes between its two forms: the decimal exponents of the first digit that
are written with a point alone run from `least` up to `most`. -/
structure Layout where
  least : Int
  most : Int

/-- The digits of a natural number. -/
def digitsOf (n : Nat) : List Char := Nat.toDigits 10 n

/-- An integer with its sign. -/
def intText (i : Int) : List Char :=
  match i with
  | .ofNat n => digitsOf n
  | .negSucc n => '-' :: digitsOf (n + 1)

/-- The text of a decimal: with a point and at least one digit on either side of it, or as one digit,
a fraction if there is more, and an exponent with its sign. -/
def Decimal.text (layout : Layout) (d : Decimal) : List Char :=
  let ds := digitsOf d.digits
  let lead : Int := ds.length + d.exponent - 1
  if layout.least ≤ lead ∧ lead ≤ layout.most then
    if 0 ≤ d.exponent then ds ++ List.replicate d.exponent.toNat '0' ++ ['.', '0']
    else if 0 ≤ lead then ds.take (lead.toNat + 1) ++ '.' :: ds.drop (lead.toNat + 1)
    else '0' :: '.' :: (List.replicate (-lead - 1).toNat '0' ++ ds)
  else
    let mantissa := match ds with
      | [] => []
      | [c] => [c]
      | c :: r => c :: '.' :: r
    mantissa ++ 'e' ::
      (if 0 ≤ lead then '+' :: digitsOf lead.toNat else '-' :: digitsOf (-lead).toNat)

/-- The text of a binary value: the sign, and the shortest decimal; zero as `0.0`. -/
def Binary64.text (layout : Layout) (x : Binary64) : List Char :=
  let body := if x.isZero then ['0', '.', '0'] else x.shortest.text layout
  if x.negative then '-' :: body else body

/-- The characters that the text of a number is made of. -/
def isNumberChar (c : Char) : Bool := c.isDigit || ['.', '-', '+', 'e'].contains c

/-- A text of such characters. -/
def IsNumberText (s : List Char) : Prop := ∀ c ∈ s, isNumberChar c = true

theorem isNumberText_append {s t : List Char} :
    IsNumberText (s ++ t) ↔ IsNumberText s ∧ IsNumberText t := List.forall_mem_append

theorem isNumberText_cons {c : Char} {s : List Char} :
    IsNumberText (c :: s) ↔ isNumberChar c = true ∧ IsNumberText s := List.forall_mem_cons

theorem isNumberText_nil : IsNumberText [] := fun _ h => absurd h List.not_mem_nil

theorem isNumberText_pointZero : IsNumberText ['.', '0'] :=
  isNumberText_cons.2 ⟨by decide, isNumberText_cons.2 ⟨by decide, isNumberText_nil⟩⟩

theorem isNumberText_digitsOf (n : Nat) : IsNumberText (digitsOf n) := fun c h => by
  rw [isNumberChar, Nat.isDigit_of_mem_toDigits (by decide) (by decide) h, Bool.true_or]

theorem isNumberText_zeros (n : Nat) : IsNumberText (List.replicate n '0') := fun c h => by
  rw [List.eq_of_mem_replicate h]
  decide

theorem isNumberText_intText (i : Int) : IsNumberText (intText i) := by
  cases i with
  | ofNat n => exact isNumberText_digitsOf n
  | negSucc n => exact isNumberText_cons.2 ⟨by decide, isNumberText_digitsOf _⟩

theorem isNumberText_of_subset {s t : List Char} (h : IsNumberText t) (hs : s ⊆ t) :
    IsNumberText s := fun c hc => h c (hs hc)

theorem Decimal.isNumberText_text (layout : Layout) (d : Decimal) :
    IsNumberText (d.text layout) := by
  have hd := isNumberText_digitsOf d.digits
  unfold Decimal.text
  dsimp only
  split
  · split
    · exact isNumberText_append.2 ⟨isNumberText_append.2 ⟨hd, isNumberText_zeros _⟩,
        isNumberText_pointZero⟩
    · split
      · exact isNumberText_append.2 ⟨isNumberText_of_subset hd (List.take_subset _ _),
          isNumberText_cons.2 ⟨by decide, isNumberText_of_subset hd (List.drop_subset _ _)⟩⟩
      · exact isNumberText_cons.2 ⟨by decide, isNumberText_cons.2 ⟨by decide,
          isNumberText_append.2 ⟨isNumberText_zeros _, hd⟩⟩⟩
  · refine isNumberText_append.2 ⟨?_, isNumberText_cons.2 ⟨by decide, ?_⟩⟩
    · split
      · exact isNumberText_nil
      · next h => exact h ▸ hd
      · next c r h =>
        rw [h] at hd
        exact isNumberText_cons.2 ⟨(isNumberText_cons.1 hd).1,
          isNumberText_cons.2 ⟨by decide, (isNumberText_cons.1 hd).2⟩⟩
    · split <;> exact isNumberText_cons.2 ⟨by decide, isNumberText_digitsOf _⟩

theorem Binary64.isNumberText_text (layout : Layout) (x : Binary64) :
    IsNumberText (x.text layout) := by
  have hb : IsNumberText (if x.isZero then ['0', '.', '0'] else x.shortest.text layout) := by
    split
    · exact isNumberText_cons.2 ⟨by decide, isNumberText_pointZero⟩
    · exact Decimal.isNumberText_text layout _
  unfold Binary64.text
  dsimp only
  split
  · exact isNumberText_cons.2 ⟨by decide, hb⟩
  · exact hb

end Acceptance.Number
