import Acceptance.Number.Shortest
import Mathlib.Algebra.Order.Field.Rat
import Mathlib.Algebra.Order.Field.Power
import Mathlib.Tactic.Positivity
import Mathlib.Tactic.Ring

/-!
# Shortest decimals tell values apart

No number rounds to two values of different size, and the shortest decimal of a value rounds to it.
So values of different size have different shortest decimals.

* `Decimal.value`: the number that a decimal stands for.
* `Binary64.Rounds`: a number lies in the interval of those that round to a value.
* `Binary64.printed`: the number that is printed for a value, but for the sign.

Results:
* `interval_lt`: the interval of a value lies below that of a larger one.
* `units_eq_of_rounds`: a number rounds to values of one size only.
* `onGrid_fine`: a grid as fine as the values around has a multiple in the interval.
* `rounds_shortest`: the shortest decimal rounds to its value.
* `units_eq_of_printed`: so what is printed determines the value, but for the sign.
-/

namespace Acceptance.Number

/-- The number that a decimal stands for. -/
def Decimal.value (d : Decimal) : ℚ := d.digits * 10 ^ d.exponent

namespace Binary64

variable {x y : Binary64} {d fuel : Nat} {e : Int}

/-! ## Intervals -/

theorem units_eq (x : Binary64) : x.units = x.significand * 2 ^ x.scale := Nat.shiftLeft_eq _ _

theorem high_eq (x : Binary64) : x.interval.2 = 4 * x.units + 2 * 2 ^ x.scale := by
  simp only [interval, quarters, Nat.shiftLeft_eq]

/-- The lower end of an interval is half a step below the value, or a quarter of one where the lower
neighbour is nearer. -/
theorem low_cases (hx : 0 < x.significand) :
    x.interval.1 + 2 * 2 ^ x.scale = 4 * x.units ∧
        (x.significand ≠ 4503599627370496 ∨ x.scale = 0) ∨
      x.interval.1 + 2 ^ x.scale = 4 * x.units ∧ x.significand = 4503599627370496 := by
  have hpos : 2 ^ x.scale ≤ x.units := by
    rw [units_eq]
    exact Nat.le_mul_of_pos_left _ hx
  simp only [interval, quarters, Nat.shiftLeft_eq]
  split
  · rename_i h
    exact Or.inr ⟨by omega, h.1⟩
  · rename_i h
    exact Or.inl ⟨by omega, by omega⟩

/-- A value that is no smaller has no smaller scale. -/
theorem scale_le_of_units_le (h : x.units ≤ y.units) : x.scale ≤ y.scale := by
  refine Nat.le_of_not_lt fun hlt => ?_
  have hx : 4503599627370496 ≤ x.significand := x.normal.resolve_left (by omega)
  have hstep : 2 * 2 ^ y.scale ≤ 2 ^ x.scale := by
    rw [← Nat.pow_succ']
    exact Nat.pow_le_pow_right (by decide) hlt
  have hlow : 4503599627370496 * 2 ^ x.scale ≤ x.units := by
    rw [units_eq]
    exact Nat.mul_le_mul_right _ hx
  have hhigh : y.units < 9007199254740992 * 2 ^ y.scale := by
    rw [units_eq]
    exact Nat.mul_lt_mul_of_pos_right y.significand_lt (Nat.two_pow_pos _)
  omega

/-- Values of one size and sign are one value. -/
theorem eq_of_units (hunits : x.units = y.units) (hneg : x.negative = y.negative) : x = y := by
  have hscale : x.scale = y.scale :=
    Nat.le_antisymm (scale_le_of_units_le hunits.le) (scale_le_of_units_le hunits.ge)
  rw [units_eq, units_eq, hscale] at hunits
  have hsignificand : x.significand = y.significand :=
    Nat.eq_of_mul_eq_mul_right (Nat.two_pow_pos _) hunits
  cases x
  cases y
  cases hscale
  cases hneg
  cases hsignificand
  rfl

theorem eq_of_signedUnits (h : x.signedUnits = y.signedUnits) (h0 : x.signedUnits ≠ 0) : x = y := by
  unfold signedUnits at h h0
  refine eq_of_units ?_ ?_
  · split at h <;> split at h <;> omega
  · cases hx : x.negative <;> cases hy : y.negative <;> simp [hx, hy] at h h0 ⊢ <;> omega

/-- **The interval of a value lies below that of a larger one.** Where the two have an end in common,
it does not belong to both of them. -/
theorem interval_lt (h : x.units < y.units) :
    x.interval.2 < y.interval.1 ∨
      x.interval.2 = y.interval.1 ∧ (x.significand % 2 = 1 ∨ y.significand % 2 = 1) := by
  have hx : x.units = x.significand * 2 ^ x.scale := units_eq x
  have hy : y.units = y.significand * 2 ^ y.scale := units_eq y
  have hpos : 0 < 2 ^ x.scale := Nat.two_pow_pos _
  have hsig : 0 < y.significand := by
    refine Nat.pos_of_ne_zero fun h0 => ?_
    rw [hy, h0, Nat.zero_mul] at h
    exact Nat.not_lt_zero _ h
  have hlow := low_cases hsig
  have hhigh := high_eq x
  rcases Nat.eq_or_lt_of_le (scale_le_of_units_le h.le) with hs | hs
  · -- Values of one scale are whole steps apart, and neighbours differ in parity.
    rw [← hs] at hy hlow
    have hlt : x.significand < y.significand := by
      rw [hx, hy] at h
      exact Nat.lt_of_mul_lt_mul_right h
    rcases Nat.eq_or_lt_of_le hlt with hnext | hfar
    · have hstep : y.units = x.units + 2 ^ x.scale := by rw [hx, hy, ← hnext, Nat.succ_mul]
      omega
    · have hstep : x.units + 2 * 2 ^ x.scale ≤ y.units := by
        rw [hx, hy, ← Nat.add_mul]
        exact Nat.mul_le_mul_right _ hfar
      omega
  · -- Below a larger scale there are at most `2^53 - 1` steps of the smaller one.
    have hnormal : 4503599627370496 ≤ y.significand := y.normal.resolve_left (by omega)
    have hdouble : 2 * 2 ^ x.scale ≤ 2 ^ y.scale := by
      rw [← Nat.pow_succ']
      exact Nat.pow_le_pow_right (by decide) hs
    have hbelow : x.units ≤ 9007199254740991 * 2 ^ x.scale := by
      rw [hx]
      exact Nat.mul_le_mul_right _ (Nat.le_of_lt_succ x.significand_lt)
    rcases hlow with ⟨hlow, hne⟩ | ⟨hlow, heq⟩
    · have hat : 4503599627370497 * 2 ^ y.scale ≤ y.units := by
        rw [hy]
        exact Nat.mul_le_mul_right _ (by omega)
      omega
    · rw [heq] at hy
      rcases Nat.eq_or_lt_of_le (Nat.le_of_lt_succ x.significand_lt) with hlast | hless
      · omega
      · have hless : x.units ≤ 9007199254740990 * 2 ^ x.scale := by
          rw [hx]
          exact Nat.mul_le_mul_right _ (Nat.le_of_lt_succ hless)
        omega

/-- A number, counted in quarters of the smallest unit, lies in the interval of those that round to a
value. -/
def Rounds (x : Binary64) (p : ℚ) : Prop :=
  if x.significand % 2 = 0 then (x.interval.1 : ℚ) ≤ p ∧ p ≤ x.interval.2
  else (x.interval.1 : ℚ) < p ∧ p < x.interval.2

theorem Rounds.bounds {p : ℚ} (h : Rounds x p) :
    (x.interval.1 : ℚ) ≤ p ∧ p ≤ x.interval.2 ∧
      (x.significand % 2 = 1 → (x.interval.1 : ℚ) < p ∧ p < x.interval.2) := by
  unfold Rounds at h
  split at h
  · exact ⟨h.1, h.2, fun _ => by omega⟩
  · exact ⟨h.1.le, h.2.le, fun _ => h⟩

theorem not_rounds_of_lt {p : ℚ} (h : x.units < y.units) (hx : Rounds x p) : ¬ Rounds y p := by
  intro hy
  obtain ⟨-, hxp, hxodd⟩ := hx.bounds
  obtain ⟨hyp, -, hyodd⟩ := hy.bounds
  rcases interval_lt h with hlt | ⟨heq, hodd⟩
  · have hlt : (x.interval.2 : ℚ) < y.interval.1 := Nat.cast_lt.mpr hlt
    exact absurd (hyp.trans hxp) (not_le.mpr hlt)
  · rw [heq] at hxp hxodd
    rcases hodd with hodd | hodd
    · exact absurd hyp (not_le.mpr (hxodd hodd).2)
    · exact absurd hxp (not_le.mpr (hyodd hodd).1)

/-- **A number rounds to values of one size only.** -/
theorem units_eq_of_rounds {p : ℚ} (hx : Rounds x p) (hy : Rounds y p) : x.units = y.units := by
  rcases Nat.lt_trichotomy x.units y.units with h | h | h
  · exact absurd hy (not_rounds_of_lt h hx)
  · exact h
  · exact absurd hx (not_rounds_of_lt h hy)

/-! ## Grids -/

theorem gridScale_pos (e : Int) : 0 < gridScale e := Nat.pow_pos (by decide)

/-- The multiples of a power of ten, in quarters of the smallest unit. -/
theorem gridUnit_eq (e : Int) : (gridUnit e : ℚ) = 10 ^ e * quarterOne * gridScale e := by
  have hten : (10 : ℚ) ^ e.toNat = 10 ^ e * 10 ^ (-e).toNat := by
    rw [← zpow_natCast, ← zpow_natCast, ← zpow_add₀ (by norm_num)]
    congr 1
    omega
  have hunit : (gridUnit e : ℚ) = 10 ^ e.toNat * quarterOne := by
    rw [gridUnit, Nat.cast_mul]
    congr 1
    exact Nat.cast_pow 10 _
  have hscale : (gridScale e : ℚ) = 10 ^ (-e).toNat := Nat.cast_pow 10 _
  rw [hunit, hscale, hten]
  ring

/-- What a grid admits rounds to the value. -/
theorem rounds_of_admits (h : admits x e d = true) :
    Rounds x ((⟨d, e⟩ : Decimal).value * quarterOne) := by
  have hscale : (0 : ℚ) < gridScale e := Nat.cast_pos.mpr (gridScale_pos e)
  have hvalue : (⟨d, e⟩ : Decimal).value * quarterOne * gridScale e = ((d * gridUnit e : ℕ) : ℚ) := by
    rw [Nat.cast_mul, gridUnit_eq, Decimal.value]
    ring
  have hlow (n : ℕ) : (n : ℚ) ≤ (⟨d, e⟩ : Decimal).value * quarterOne ↔
      n * gridScale e ≤ d * gridUnit e := by
    rw [← mul_le_mul_iff_left₀ hscale, hvalue, ← Nat.cast_mul, Nat.cast_le]
  have hhigh (n : ℕ) : (⟨d, e⟩ : Decimal).value * quarterOne ≤ n ↔
      d * gridUnit e ≤ n * gridScale e := by
    rw [← mul_le_mul_iff_left₀ hscale, hvalue, ← Nat.cast_mul, Nat.cast_le]
  simp only [admits] at h
  unfold Rounds
  split at h
  · rename_i heven
    rw [Bool.and_eq_true, decide_eq_true_eq, decide_eq_true_eq] at h
    rw [if_pos heven, hlow, hhigh]
    exact h
  · rename_i hodd
    rw [Bool.and_eq_true, decide_eq_true_eq, decide_eq_true_eq] at h
    rw [if_neg hodd, ← not_le, ← not_le, hlow, hhigh, not_le, not_le]
    exact h

theorem nearestMultiple_ne_zero {inside : Nat → Bool} {v g : Nat}
    (h : nearestMultiple inside v g = some d) : d ≠ 0 := by
  unfold nearestMultiple at h
  dsimp only at h
  split at h
  · rename_i hu _
    rw [Bool.and_eq_true, bne_iff_ne] at hu
    obtain rfl := Option.some.inj h
    rcases nearer_eq (v / g) (v - v / g * g) ((v / g + 1) * g - v) with hn | hn
    · rw [hn]
      exact hu.1
    · rw [hn]
      exact Nat.succ_ne_zero _
  · rename_i hu _
    rw [Bool.and_eq_true, bne_iff_ne] at hu
    obtain rfl := Option.some.inj h
    exact hu.1
  · obtain rfl := Option.some.inj h
    exact Nat.succ_ne_zero _
  · cases h

theorem isSome_nearestMultiple {inside : Nat → Bool} {v g : Nat} (h0 : v / g ≠ 0)
    (h : inside (v / g) = true) : (nearestMultiple inside v g).isSome = true := by
  have hu : (v / g != 0 && inside (v / g)) = true := by rw [h, Bool.and_true, bne_iff_ne]; exact h0
  unfold nearestMultiple
  dsimp only
  rw [hu]
  cases inside (v / g + 1) <;> rfl

/-- **A grid as fine as the values around has a multiple in the interval.** -/
theorem onGrid_fine (hx : 0 < x.significand) (h : gridUnit e ≤ 2 ^ x.scale * gridScale e) :
    (onGrid x e).isSome = true := by
  have hunit : 0 < gridUnit e := Nat.mul_pos (Nat.pow_pos (by decide)) (by decide +kernel)
  have hscale : 0 < gridScale e := gridScale_pos e
  have hpos : 0 < 2 ^ x.scale := Nat.two_pow_pos _
  -- The multiple below the value is less than one step away from it.
  have hlow : (x.interval.1 + 2 ^ x.scale) * gridScale e ≤ x.quarters * gridScale e :=
    Nat.mul_le_mul_right _ (by have := low_cases hx; simp only [quarters]; omega)
  have hhigh : x.quarters * gridScale e < x.interval.2 * gridScale e :=
    Nat.mul_lt_mul_of_pos_right (by rw [high_eq, quarters]; omega) hscale
  rw [Nat.add_mul] at hlow
  have hbelow := Nat.div_mul_le_self (x.quarters * gridScale e) (gridUnit e)
  have habove := Nat.lt_div_mul_add hunit (a := x.quarters * gridScale e)
  refine isSome_nearestMultiple (fun h0 => ?_) ?_
  · rw [h0, Nat.zero_mul] at habove
    omega
  · simp only [admits]
    split <;> (rw [Bool.and_eq_true, decide_eq_true_eq, decide_eq_true_eq]; omega)

/-! ## The search -/

/-- The search ends on a grid with a multiple, if it comes to one. -/
theorem grid_firstMultiple {grid : Int → Option Nat} {most : Int} (hle : e ≤ most)
    (hfuel : most < e + fuel) (h : (grid e).isSome = true) :
    grid (firstMultiple grid fuel most).exponent = some (firstMultiple grid fuel most).digits := by
  induction fuel generalizing most with
  | zero => omega
  | succ fuel ih =>
    rw [firstMultiple]
    cases hm : grid most with
    | some d => exact hm
    | none =>
      have hne : e ≠ most := by
        rintro rfl
        rw [hm] at h
        cases h
      exact ih (by omega) (by omega)

/-- The smallest unit of a large value is more than one. -/
theorem fine_of_large (h : 1076 ≤ x.scale) : gridUnit 0 ≤ 2 ^ x.scale * gridScale 0 := by
  -- The power is kept closed: written out it is a number of 324 digits.
  obtain ⟨k, hk⟩ : ∃ k, k = 1076 := ⟨1076, rfl⟩
  have hone : gridUnit 0 = 2 ^ k * gridScale 0 := by
    subst hk
    decide +kernel
  rw [hone]
  exact Nat.mul_le_mul_right _ (Nat.pow_le_pow_right (by decide) (by omega))

/-- `10^-324` is less than the smallest unit of all. -/
theorem fine_least (x : Binary64) : gridUnit (-324) ≤ 2 ^ x.scale * gridScale (-324) := by
  have hone : gridUnit (-324) ≤ 1 * gridScale (-324) := by decide +kernel
  exact hone.trans (Nat.mul_le_mul_right _ (Nat.two_pow_pos _))

/-- The search passes a grid that is fine enough. -/
theorem exists_fine (x : Binary64) : ∃ e, e ≤ x.exponentAbove ∧ x.exponentAbove < e + (400 : ℕ) ∧
    gridUnit e ≤ 2 ^ x.scale * gridScale e := by
  have hunits : x.units ≤ 9007199254740991 * 2 ^ x.scale := by
    rw [units_eq]
    exact Nat.mul_le_mul_right _ (Nat.le_of_lt_succ x.significand_lt)
  have hhigh : x.interval.2 < 2 ^ (x.scale + 55) := by
    have hpos : 0 < 2 ^ x.scale := Nat.two_pow_pos _
    rw [high_eq, Nat.pow_add]
    omega
  have hne : x.interval.2 ≠ 0 := by
    have hpos : 0 < 2 ^ x.scale := Nat.two_pow_pos _
    rw [high_eq]
    omega
  have hbits : x.interval.2.log2 < x.scale + 55 := (Nat.log2_lt hne).mpr hhigh
  have hscale := x.scale_le
  unfold exponentAbove
  generalize x.interval.2.log2 = bits at hbits
  dsimp only
  by_cases hlarge : 1300 ≤ bits
  · refine ⟨0, ?_, ?_, fine_of_large (by omega)⟩
    · split <;> omega
    · split <;> omega
  · refine ⟨-324, ?_, ?_, fine_least x⟩
    · split <;> omega
    · split <;> omega

theorem onGrid_shortest (hx : 0 < x.significand) :
    onGrid x x.shortest.exponent = some x.shortest.digits := by
  obtain ⟨e, hle, hfuel, hfine⟩ := exists_fine x
  rw [shortest]
  exact grid_firstMultiple hle hfuel (onGrid_fine hx hfine)

/-- What is found on a grid rounds to the value, and is not zero. -/
theorem rounds_of_onGrid {d : Decimal} (h : onGrid x d.exponent = some d.digits) :
    Rounds x (d.value * quarterOne) ∧ 0 < d.digits :=
  ⟨rounds_of_admits (onGrid_mem h), Nat.pos_of_ne_zero (nearestMultiple_ne_zero h)⟩

/-- **The shortest decimal rounds to its value**, and is not zero. -/
theorem rounds_shortest (hx : 0 < x.significand) :
    Rounds x (x.shortest.value * quarterOne) ∧ 0 < x.shortest.digits :=
  rounds_of_onGrid (onGrid_shortest hx)

/-! ## What is printed -/

/-- The number that is printed for the magnitude of a value. -/
def printed (x : Binary64) : ℚ := if x.isZero then 0 else x.shortest.value

theorem significand_pos (h : ¬ x.isZero = true) : 0 < x.significand := by
  rw [isZero, beq_iff_eq] at h
  exact Nat.pos_of_ne_zero h

theorem units_eq_zero (h : x.isZero = true) : x.units = 0 := by
  rw [isZero, beq_iff_eq] at h
  rw [units_eq, h, Nat.zero_mul]

theorem shortest_value_pos (hx : 0 < x.significand) : 0 < x.shortest.value := by
  have hdigits : (0 : ℚ) < x.shortest.digits := Nat.cast_pos.mpr (rounds_shortest hx).2
  rw [Decimal.value]
  positivity

/-- **What is printed determines the value**, but for the sign. -/
theorem units_eq_of_printed (h : x.printed = y.printed) : x.units = y.units := by
  unfold printed at h
  split at h
  · rename_i hx
    split at h
    · rename_i hy
      rw [units_eq_zero hx, units_eq_zero hy]
    · rename_i hy
      exact absurd h (shortest_value_pos (significand_pos hy)).ne
  · rename_i hx
    split at h
    · exact absurd h (shortest_value_pos (significand_pos hx)).ne'
    · rename_i hy
      have hrounds := (rounds_shortest (significand_pos hy)).1
      rw [← h] at hrounds
      exact units_eq_of_rounds (rounds_shortest (significand_pos hx)).1 hrounds

end Binary64
end Acceptance.Number
