import Acceptance.Proofs.Json.Injective
import Acceptance.Proofs.Record.Matching
import Mathlib.Data.List.Sort

/-!
# What fingerprints tell of records

Records with one fingerprint are alike in everything but the form of their numbers: an integer on one
side may be a binary value on the other. Below `2^63` in size the form makes no difference. From there
on it does.

* `Json.Number.value`: the number that a number of a text stands for.
* `Alike`: values that are alike part by part, their numbers in some way of their own.
* `SameValue`, `Agree`: two such ways.

Results:
* `canonicalNumber_eq_iff`: which numbers have one canonical form.
* `canonical_eq_iff`: which values do.
* `sameValue_of_fingerprint_eq`: there is no false match.
* `isMatch_iff_agree`: which records match.
-/

namespace Acceptance

open Number (Binary64)

/-- The number that a number of a text stands for. -/
def Json.Number.value : Json.Number → ℚ
  | .int i => i.val
  | .float x => x.signedUnits / Binary64.one

/-- Whether a number of a text is an integer in form. -/
def Json.Number.isInteger : Json.Number → Bool
  | .int _ => true
  | .float _ => false

namespace Record

open Json (Integer)

variable {m n : Json.Number} {x y : Binary64} {R S : Json.Number → Json.Number → Prop}

/-! ## Numbers -/

/-- The numbers have one value. -/
def SameValue (m n : Json.Number) : Prop := m.value = n.value

/-- The numbers have one value, and one form as well where it is not below `2^63` in size. -/
def Agree (m n : Json.Number) : Prop :=
  m.value = n.value ∧ (m.isInteger = n.isInteger ∨ |m.value| < 9223372036854775808)

theorem binary64_one_ne_zero : (Binary64.one : ℚ) ≠ 0 := Nat.cast_ne_zero.mpr Binary64.one_pos.ne'

theorem value_float_eq_int_iff {i : Int} :
    (Json.Number.float x).value = i ↔ x.toInt? = some i := by
  rw [Binary64.toInt?_eq_some_iff, Json.Number.value, div_eq_iff binary64_one_ne_zero]
  exact_mod_cast Iff.rfl

theorem value_float_eq_iff :
    (Json.Number.float x).value = (Json.Number.float y).value ↔ x.signedUnits = y.signedUnits := by
  rw [Json.Number.value, Json.Number.value, div_left_inj' binary64_one_ne_zero, Int.cast_inj]

theorem ofInt?_eq_some_iff {i : Int} {j : Integer} : Integer.ofInt? i = some j ↔ i = j.val := by
  unfold Integer.ofInt?
  constructor
  · intro h
    split at h
    · rw [← Option.some.inj h]
    · cases h
  · rintro rfl
    rw [dif_pos ⟨j.lower, j.upper⟩]

theorem smallInteger?_eq_some_iff {i : Integer} :
    smallInteger? x = some i ↔ x.toInt? = some i.val ∧ i.val.natAbs < 9223372036854775808 := by
  unfold smallInteger?
  cases x.toInt? with
  | none => simp
  | some j =>
    simp only [Option.some.injEq]
    constructor
    · intro h
      split at h
      · rename_i hlt
        obtain rfl := ofInt?_eq_some_iff.mp h
        exact ⟨rfl, hlt⟩
      · cases h
    · rintro ⟨rfl, hlt⟩
      rw [if_pos hlt, ofInt?_eq_some_iff]

theorem canonicalNumber_float_eq_int_iff {i : Integer} :
    canonicalNumber (.float x) = .int i ↔
      (Json.Number.float x).value = (Json.Number.int i).value ∧
        |(Json.Number.int i).value| < 9223372036854775808 := by
  have hcanonical : canonicalNumber (.float x) = .int i ↔ smallInteger? x = some i := by
    rw [canonicalNumber]
    cases smallInteger? x <;> simp
  have hsize : |(Json.Number.int i).value| < 9223372036854775808 ↔
      i.val.natAbs < 9223372036854775808 := by
    rw [Json.Number.value, ← Int.cast_abs, Int.abs_eq_natAbs]
    exact_mod_cast Iff.rfl
  rw [hcanonical, smallInteger?_eq_some_iff, hsize, Json.Number.value.eq_1, value_float_eq_int_iff]

/-- Making a number canonical keeps its value. -/
theorem value_canonicalNumber (n : Json.Number) : (canonicalNumber n).value = n.value := by
  cases n with
  | int i => rfl
  | float x =>
    cases hx : canonicalNumber (.float x) with
    | int i => exact (canonicalNumber_float_eq_int_iff.mp hx).1.symm
    | float y =>
      rw [canonicalNumber] at hx
      split at hx
      · cases hx
      · cases hx
        rfl

/-- A value that has no small integer is not zero. -/
theorem signedUnits_ne_zero (h : smallInteger? x = none) : x.signedUnits ≠ 0 := by
  intro h0
  have hzero : smallInteger? x = some ⟨0, by decide, by decide⟩ := by
    rw [smallInteger?_eq_some_iff, Binary64.toInt?_eq_some_iff, h0, Int.zero_mul]
    exact ⟨rfl, by decide⟩
  rw [h] at hzero
  cases hzero

theorem canonicalNumber_float_congr
    (h : (Json.Number.float x).value = (Json.Number.float y).value) :
    canonicalNumber (.float x) = canonicalNumber (.float y) := by
  rw [value_float_eq_iff] at h
  have hsmall : smallInteger? x = smallInteger? y := by
    refine Option.ext fun i => ?_
    rw [smallInteger?_eq_some_iff, smallInteger?_eq_some_iff, Binary64.toInt?_eq_some_iff,
      Binary64.toInt?_eq_some_iff, h]
  cases hx : smallInteger? x with
  | some i => simp only [canonicalNumber, ← hsmall, hx]
  | none => rw [Binary64.eq_of_signedUnits h (signedUnits_ne_zero hx)]

/-- **Which numbers have one canonical form.** -/
theorem canonicalNumber_eq_iff : canonicalNumber m = canonicalNumber n ↔ Agree m n := by
  have hvalue (h : canonicalNumber m = canonicalNumber n) : m.value = n.value := by
    rw [← value_canonicalNumber m, h, value_canonicalNumber]
  cases m with
  | int i =>
    cases n with
    | int j =>
      refine ⟨fun h => ⟨hvalue h, Or.inl rfl⟩, fun h => ?_⟩
      have hval : i.val = j.val := Int.cast_injective h.1
      cases i
      cases j
      cases hval
      rfl
    | float y =>
      rw [Agree, eq_comm, canonicalNumber, canonicalNumber_float_eq_int_iff, eq_comm]
      simp [Json.Number.isInteger]
  | float x =>
    cases n with
    | int j =>
      rw [Agree, canonicalNumber.eq_1 j, canonicalNumber_float_eq_int_iff]
      simp only [Json.Number.isInteger, Bool.false_eq_true, false_or]
      exact and_congr_right fun h => by rw [h]
    | float y => exact ⟨fun h => ⟨hvalue h, Or.inl rfl⟩, fun h => canonicalNumber_float_congr h.1⟩

/-! ## Values -/

mutual

/-- Values that are alike part by part, their numbers in a way of their own. The members of both
objects stand in the order of their names, so that equal names stand in equal places. -/
def Alike (R : Json.Number → Json.Number → Prop) : Json → Json → Prop
  | .null, .null => True
  | .bool a, .bool b => a = b
  | .num m, .num n => R m n
  | .str s, .str t => s = t
  | .arr xs, .arr ys => AlikeItems R xs ys
  | .obj ms, .obj ns => AlikeMembers R ms ns
  | _, _ => False

/-- Arrays of one length whose items are alike one by one. -/
def AlikeItems (R : Json.Number → Json.Number → Prop) : List Json → List Json → Prop
  | [], [] => True
  | x :: xs, y :: ys => Alike R x y ∧ AlikeItems R xs ys
  | _, _ => False

/-- Members of the same names whose values are alike one by one. -/
def AlikeMembers (R : Json.Number → Json.Number → Prop) :
    List (String × Json) → List (String × Json) → Prop
  | [], [] => True
  | (k, x) :: ms, (l, y) :: ns => k = l ∧ Alike R x y ∧ AlikeMembers R ms ns
  | _, _ => False

end

mutual

/-- **Which values have one canonical form.** -/
theorem canonical_eq_iff : (v w : Json) → (canonical v = canonical w ↔ Alike Agree v w)
  | .null, w => by cases w <;> simp [canonical, Alike]
  | .bool b, w => by cases w <;> simp [canonical, Alike]
  | .str s, w => by cases w <;> simp [canonical, Alike]
  | .num m, w => by cases w <;> simp [canonical, Alike, canonicalNumber_eq_iff]
  | .arr xs, w => by
    cases w with
    | arr ys => simp [canonical, Alike, canonicalItems_eq_iff xs ys]
    | _ => simp [canonical, Alike]
  | .obj ms, w => by
    cases w with
    | obj ns => simp [canonical, Alike, canonicalMembers_eq_iff ms ns]
    | _ => simp [canonical, Alike]

theorem canonicalItems_eq_iff : (xs ys : List Json) →
    (canonicalItems xs = canonicalItems ys ↔ AlikeItems Agree xs ys)
  | [], ys => by cases ys <;> simp [canonicalItems, AlikeItems]
  | x :: xs, ys => by
    cases ys with
    | nil => simp [canonicalItems, AlikeItems]
    | cons y ys =>
      simp [canonicalItems, AlikeItems, canonical_eq_iff x y, canonicalItems_eq_iff xs ys]

theorem canonicalMembers_eq_iff : (ms ns : List (String × Json)) →
    (canonicalMembers ms = canonicalMembers ns ↔ AlikeMembers Agree ms ns)
  | [], ns => by
    cases ns with
    | nil => simp [canonicalMembers, AlikeMembers]
    | cons n ns => simp [canonicalMembers, AlikeMembers]
  | (k, x) :: ms, ns => by
    cases ns with
    | nil => simp [canonicalMembers, AlikeMembers]
    | cons n ns =>
      simp [canonicalMembers, AlikeMembers, canonical_eq_iff x n.2, canonicalMembers_eq_iff ms ns,
        and_assoc]

end

mutual

theorem Alike.mono (h : ∀ m n, R m n → S m n) : (v w : Json) → Alike R v w → Alike S v w
  | .null, w, hv => by cases w <;> exact hv
  | .bool b, w, hv => by cases w <;> exact hv
  | .str s, w, hv => by cases w <;> exact hv
  | .num m, w, hv => by
    cases w with
    | num n => exact h m n hv
    | _ => exact hv.elim
  | .arr xs, w, hv => by
    cases w with
    | arr ys => exact AlikeItems.mono h xs ys hv
    | _ => exact hv.elim
  | .obj ms, w, hv => by
    cases w with
    | obj ns => exact AlikeMembers.mono h ms ns hv
    | _ => exact hv.elim

theorem AlikeItems.mono (h : ∀ m n, R m n → S m n) :
    (xs ys : List Json) → AlikeItems R xs ys → AlikeItems S xs ys
  | [], [], _ => trivial
  | [], _ :: _, hv => hv.elim
  | _ :: _, [], hv => hv.elim
  | x :: xs, y :: ys, hv => ⟨Alike.mono h x y hv.1, AlikeItems.mono h xs ys hv.2⟩

theorem AlikeMembers.mono (h : ∀ m n, R m n → S m n) :
    (ms ns : List (String × Json)) → AlikeMembers R ms ns → AlikeMembers S ms ns
  | [], [], _ => trivial
  | [], _ :: _, hv => hv.elim
  | _ :: _, [], hv => hv.elim
  | (_, x) :: ms, (_, y) :: ns, hv =>
    ⟨hv.1, Alike.mono h x y hv.2.1, AlikeMembers.mono h ms ns hv.2.2⟩

end

/-! ## Records -/

variable {a b : Json}

theorem fingerprint_eq_iff_canonical :
    fingerprint a = fingerprint b ↔ canonical (prune a) = canonical (prune b) :=
  ⟨Json.render_inj, congrArg Json.render⟩

/-- **There is no false match**: records with one fingerprint are alike, but for the members that a
destination adds, and their numbers have one value. -/
theorem sameValue_of_fingerprint_eq (h : fingerprint a = fingerprint b) :
    Alike SameValue (prune a) (prune b) :=
  Alike.mono (fun _ _ hmn => hmn.1) _ _
    ((canonical_eq_iff _ _).mp (fingerprint_eq_iff_canonical.mp h))

/-- The integer four. -/
def four : Integer := ⟨4, by decide, by decide⟩

/-- The binary value four. -/
def binaryFour : Binary64 :=
  ⟨false, 4503599627370496, 1024, by decide, Or.inr (by decide), by decide⟩

/-- A record of one number with a member that a destination added. -/
def stamped : Json := .obj [("_airbyte_ab_id", .str "1"), ("usd", .num (.float binaryFour))]

theorem sameValue_stamped : fingerprint (.obj [("usd", .num (.int four))]) = fingerprint stamped ∧
    Alike SameValue (prune (.obj [("usd", .num (.int four))])) (prune stamped) := by
  have hstamp : isInternal "_airbyte_ab_id" = true := by decide +kernel
  have husd : isInternal "usd" = false := by decide +kernel
  have hnumber : canonicalNumber (.float binaryFour) = .int four := by decide +kernel
  have h : fingerprint (.obj [("usd", .num (.int four))]) = fingerprint stamped := by
    rw [fingerprint_eq_iff_canonical]
    simp [stamped, prune, hstamp, husd, canonical, canonicalMembers, hnumber, canonicalNumber.eq_1]
  exact ⟨h, sameValue_of_fingerprint_eq h⟩

/-- **Which records match**: those that are alike, apart from the members that a destination adds, and
whose numbers agree. -/
theorem isMatch_iff_agree (a b : Json) :
    (fingerprint a = fingerprint b ↔ Alike Agree (prune a) (prune b)) ∧
      ((compare [a] [b]).isMatch = true ↔ Alike Agree (prune a) (prune b)) := by
  have hagree : fingerprint a = fingerprint b ↔ Alike Agree (prune a) (prune b) :=
    fingerprint_eq_iff_canonical.trans (canonical_eq_iff _ _)
  refine ⟨hagree, ?_⟩
  rw [isMatch_iff_perm, List.map_singleton, List.map_singleton, List.singleton_perm_singleton]
  exact hagree

/-- The least integer of the range. -/
def least : Integer := ⟨-9223372036854775808, by decide, by decide⟩

/-- The same number as a binary value. -/
def binaryLeast : Binary64 :=
  ⟨true, 4503599627370496, 1085, by decide, Or.inr (by decide), by decide⟩

theorem not_isMatch_least :
    Alike SameValue (prune (.obj [("n", .num (.int least))]))
      (prune (.obj [("n", .num (.float binaryLeast))])) ∧
    fingerprint (.obj [("n", .num (.int least))]) ≠
      fingerprint (.obj [("n", .num (.float binaryLeast))]) ∧
    (compare [.obj [("n", .num (.int least))]]
      [.obj [("n", .num (.float binaryLeast))]]).isMatch = false := by
  have hname : isInternal "n" = false := by decide +kernel
  have hvalue : binaryLeast.toInt? = some least.val := by decide +kernel
  have hnumber : canonicalNumber (.float binaryLeast) = .float binaryLeast := by decide +kernel
  have hne : fingerprint (.obj [("n", .num (.int least))]) ≠
      fingerprint (.obj [("n", .num (.float binaryLeast))]) := by
    rw [Ne, fingerprint_eq_iff_canonical]
    simp [prune, hname, canonical, canonicalMembers, hnumber, canonicalNumber.eq_1]
  refine ⟨?_, hne, ?_⟩
  · simp [prune, hname, Alike, AlikeMembers, SameValue, value_float_eq_int_iff.mpr hvalue,
      Json.Number.value.eq_1]
  · rw [Bool.eq_false_iff, Ne, isMatch_iff_perm]
    simpa using hne

end Record
end Acceptance
