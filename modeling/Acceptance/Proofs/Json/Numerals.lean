import Acceptance.Act
import Acceptance.Json.Outline
import Acceptance.Json.Printer

/-!
# Numbers read back

The text of a number, as the reader meets it.

* `EndsNumber`: a text that does not go on with a number.
* `Number.Stable`: a number that is read back from its text.

Results:
* `takeNumber_eq_ok_iff`: what a number consists of.
* `stable_int`: all integers are read back.
-/

namespace Acceptance.Json

open Acceptance.Number (digitsOf intText isNumberChar)

/-- A text that does not go on with a number: it is at its end, or another character follows. -/
def EndsNumber (rest : List Char) : Prop := ∀ c ∈ rest.head?, isNumberChar c = false ∧ c ≠ 'E'

/-- Printing the number and reading its text gives it back. -/
def Number.Stable (n : Number) : Prop :=
  ∃ l, takeNumber n.text = .ok (l, []) ∧ l.number = .ok n

/-! ## What a number consists of -/

variable {s t rest : List Char}

theorem endsNumber_nil : EndsNumber [] := by
  intro c hc
  cases hc

theorem endsNumber_cons {c : Char} (h : isNumberChar c = false) (hE : c ≠ 'E') :
    EndsNumber (c :: rest) := by
  intro d hd
  cases hd
  exact ⟨h, hE⟩

/-- What follows an item or a member ends a number. -/
theorem endsNumber_closing (c : Char) (rest : List Char)
    (h : c = ',' ∨ c = ']' ∨ c = Char.ofNat 0x7d) : EndsNumber (c :: rest) := by
  obtain rfl | rfl | rfl := h
  all_goals exact endsNumber_cons (by decide) (by decide)

theorem digit?_eq_none {c : Char} (h : c.isDigit = false) : digit? c = none := by
  unfold digit?
  rw [if_neg]
  rintro ⟨h0, h9⟩
  simp only [Char.isDigit, Bool.and_eq_false_iff, decide_eq_false_iff_not] at h
  rcases h with h | h
  · exact h h0
  · exact h h9

theorem digit?_eq_some {c : Char} (h : c.isDigit = true) : digit? c = some (c.toNat - 48) := by
  unfold digit?
  rw [if_pos]
  · rfl
  · simp only [Char.isDigit, Bool.and_eq_true, decide_eq_true_eq] at h
    exact h

theorem EndsNumber.not_digit {c : Char} (h : EndsNumber (c :: rest)) : digit? c = none := by
  refine digit?_eq_none ?_
  have hc := (h c rfl).1
  unfold isNumberChar at hc
  exact (Bool.or_eq_false_iff.mp hc).1

/-- Digits stand before a point, and a zero does not lead. -/
theorem takeWhole_eq_ok_iff {ds : List Nat} :
    takeWhole s = .ok (ds, t) ↔
      takeDigits s = (ds, t) ∧ ds ≠ [] ∧ ∀ d es, ds ≠ 0 :: d :: es := by
  unfold takeWhole
  constructor
  · intro h
    split at h
    · cases h
    · cases h
    · rename_i hne hz hd
      cases h
      exact ⟨hd, hne, hz⟩
  · rintro ⟨hd, hne, hz⟩
    rw [hd]
    split
    · rename_i he
      cases he
      exact absurd rfl hne
    · rename_i he
      cases he
      exact absurd rfl (hz _ _)
    · rename_i he
      cases he
      rfl

theorem takeWhole_nil {ds : List Nat} : takeWhole [] ≠ .ok (ds, t) := nofun

theorem takeExponent_stop (h : EndsNumber rest) : takeExponent rest = .ok (none, rest) := by
  cases rest with
  | nil => rfl
  | cons c r =>
    have hc : ¬ (c = 'e' ∨ c = 'E') := by
      rintro (rfl | rfl)
      · exact absurd (h 'e' rfl).1 (by decide)
      · exact (h 'E' rfl).2 rfl
    simp only [takeExponent, if_neg hc]

/-- What a number consists of. -/
theorem takeNumber_eq_ok_iff {l : Lexeme} :
    takeNumber s = .ok (l, t) ↔
      l.negative = (takeMinus s).1 ∧ ∃ u v, takeWhole (takeMinus s).2 = .ok (l.whole, u) ∧
        takeFraction u = .ok (l.fraction, v) ∧ takeExponent v = .ok (l.exponent, t) := by
  unfold takeNumber
  constructor
  · intro h
    obtain ⟨⟨whole, u⟩, hw, h⟩ := bind_eq_ok_iff.mp h
    obtain ⟨⟨fraction, v⟩, hf, h⟩ := bind_eq_ok_iff.mp h
    obtain ⟨⟨exponent, w⟩, he, h⟩ := bind_eq_ok_iff.mp h
    cases h
    exact ⟨rfl, u, v, hw, hf, he⟩
  · obtain ⟨negative, whole, fraction, exponent⟩ := l
    rintro ⟨rfl, u, v, hw, hf, he⟩
    exact bind_eq_ok_iff.mpr ⟨_, hw, bind_eq_ok_iff.mpr ⟨_, hf, bind_eq_ok_iff.mpr ⟨_, he, rfl⟩⟩⟩

/-- A number starts with a minus or a digit. -/
theorem takeNumber_head {l : Lexeme} (h : takeNumber s = .ok (l, t)) :
    ∃ c r, s = c :: r ∧ (c = '-' ∨ (digit? c).isSome = true) := by
  obtain ⟨-, u, v, hw, -, -⟩ := takeNumber_eq_ok_iff.mp h
  cases s with
  | nil => exact absurd hw takeWhole_nil
  | cons c r =>
    refine ⟨c, r, rfl, ?_⟩
    by_cases hc : c = '-'
    · exact Or.inl hc
    · have hm : takeMinus (c :: r) = (false, c :: r) := by simp [takeMinus, hc]
      rw [hm] at hw
      obtain ⟨hd, hne, -⟩ := takeWhole_eq_ok_iff.mp hw
      rw [takeDigits] at hd
      cases hdigit : digit? c with
      | none =>
        rw [hdigit] at hd
        exact absurd (congrArg Prod.fst hd).symm hne
      | some d => exact Or.inr rfl

/-! ## Integers -/

/-- The value of a digit. -/
def digitValue (c : Char) : Nat := c.toNat - 48

theorem takeDigits_of_isDigit (h : ∀ c ∈ s, c.isDigit = true) :
    takeDigits s = (s.map digitValue, []) := by
  induction s with
  | nil => rfl
  | cons c r ih =>
    rw [takeDigits, digit?_eq_some (h c List.mem_cons_self)]
    simp only [ih fun d hd => h d (List.mem_cons_of_mem c hd)]
    rfl

theorem isDigit_of_mem_digitsOf {n : Nat} {c : Char} (h : c ∈ digitsOf n) : c.isDigit = true :=
  Nat.isDigit_of_mem_toDigits (by decide) (by decide) h

/-- The digits of a number are not led by a zero. -/
theorem digitsOf_head {n : Nat} (h : 0 < n) : ∃ c r, digitsOf n = c :: r ∧ digitValue c ≠ 0 := by
  unfold digitsOf
  induction n using Nat.base_induction 10 (by decide) with
  | single m hm =>
    refine ⟨m.digitChar, [], Nat.toDigits_of_lt_base hm, ?_⟩
    rw [digitValue, Nat.toNat_digitChar_sub_48_of_lt_ten hm]
    exact Nat.ne_of_gt h
  | digit m k hk hm ih =>
    obtain ⟨c, r, hc, h0⟩ := ih hm
    refine ⟨c, r ++ Nat.toDigits 10 k, ?_, h0⟩
    rw [← Nat.toDigits_append_toDigits (by decide) hm hk, hc]
    rfl

theorem foldl_digitsOf (n : Nat) :
    ((digitsOf n).map digitValue).foldl (fun n d => n * 10 + d) 0 = n := by
  conv => rhs; rw [← Nat.ofDigitChars_ten_toDigits (n := n), Nat.ofDigitChars_eq_foldl]
  rw [List.foldl_map]
  congr 1
  funext m c
  rw [Nat.mul_comm]
  rfl

theorem le_foldl_digits (ds : List Nat) (n : Nat) : n ≤ ds.foldl (fun n d => n * 10 + d) n := by
  induction ds generalizing n with
  | nil => exact Nat.le_refl n
  | cons d r ih =>
    have h := ih (n * 10 + d)
    rw [List.foldl_cons]
    omega

/-- All digits are taken in where their number stays below `2^64`. -/
theorem accumulate_eq {n : Nat} {ds : List Nat}
    (h : ds.foldl (fun n d => n * 10 + d) n < 18446744073709551616) :
    accumulate n ds = (ds.foldl (fun n d => n * 10 + d) n, 0) := by
  induction ds generalizing n with
  | nil => rfl
  | cons d r ih =>
    rw [List.foldl_cons] at h ⊢
    have hle := le_foldl_digits r (n * 10 + d)
    rw [accumulate, if_pos (Nat.lt_of_le_of_lt hle h), ih h]

theorem takeWhole_digitsOf (n : Nat) :
    takeWhole (digitsOf n) = .ok ((digitsOf n).map digitValue, []) := by
  rw [takeWhole_eq_ok_iff]
  refine ⟨takeDigits_of_isDigit fun c hc => isDigit_of_mem_digitsOf hc, ?_, ?_⟩
  · intro h
    exact Nat.toDigits_ne_nil (List.map_eq_nil_iff.mp h)
  · intro d es h
    rcases Nat.eq_zero_or_pos n with rfl | hn
    · cases h
    · obtain ⟨c, r, hc, h0⟩ := digitsOf_head hn
      rw [hc, List.map_cons, List.cons.injEq] at h
      exact h0 h.1

/-- The lexeme of an integer. -/
def Lexeme.ofInt (i : Int) : Lexeme :=
  ⟨i < 0, (digitsOf i.natAbs).map digitValue, none, none⟩

theorem takeNumber_intText (i : Int) : takeNumber (intText i) = .ok (.ofInt i, []) := by
  rw [takeNumber_eq_ok_iff]
  cases i with
  | ofNat n =>
    have hm : takeMinus (digitsOf n) = (false, digitsOf n) := by
      cases hd : digitsOf n with
      | nil => rfl
      | cons c r =>
        have hc : c.isDigit = true := isDigit_of_mem_digitsOf (hd ▸ List.mem_cons_self)
        have hne : c ≠ '-' := by
          rintro rfl
          cases hc
        simp [takeMinus, hne]
    rw [intText, hm]
    exact ⟨by simp [Lexeme.ofInt], [], [], takeWhole_digitsOf n, rfl, rfl⟩
  | negSucc n =>
    exact ⟨by simp [Lexeme.ofInt, intText, takeMinus], [], [], takeWhole_digitsOf (n + 1), rfl, rfl⟩

theorem significand_ofInt {i : Int} (h : i.natAbs < 18446744073709551616) :
    (Lexeme.ofInt i).significand = (i.natAbs, 0) := by
  have hfold := foldl_digitsOf i.natAbs
  have hacc : accumulate 0 ((digitsOf i.natAbs).map digitValue) = (i.natAbs, 0) := by
    rw [accumulate_eq (by rw [hfold]; exact h), hfold]
  unfold Lexeme.significand
  simp only [Lexeme.ofInt, hacc]
  rfl

theorem integer_ofInt (i : Integer) : (Lexeme.ofInt i.val).integer i.val.natAbs = .ok (.int i) := by
  obtain ⟨i, lower, upper⟩ := i
  have hint : ¬ ((Lexeme.ofInt i).negative = true ∧
      (i.natAbs = 0 ∨ 9223372036854775808 < i.natAbs)) := by
    rintro ⟨hi, h⟩
    have := of_decide_eq_true hi
    omega
  have hval : (if (Lexeme.ofInt i).negative then -(i.natAbs : Int) else i.natAbs) = i := by
    split
    · rename_i hi
      have := of_decide_eq_true hi
      omega
    · rename_i hi
      have := of_decide_eq_false (Bool.eq_false_iff.mpr hi)
      omega
  have hrange : Integer.ofInt? i = some ⟨i, lower, upper⟩ := by
    rw [Integer.ofInt?, dif_pos ⟨lower, upper⟩]
  unfold Lexeme.integer
  rw [if_neg hint, hval, hrange]

theorem number_ofInt (i : Integer) : (Lexeme.ofInt i.val).number = .ok (.int i) := by
  have hsize : i.val.natAbs < 18446744073709551616 := by
    have := i.lower
    have := i.upper
    omega
  unfold Lexeme.number
  rw [significand_ofInt hsize, ← integer_ofInt i]
  rfl

/-- **All integers are read back.** -/
theorem stable_int (i : Integer) : (Number.int i).Stable :=
  ⟨.ofInt i.val, takeNumber_intText i.val, number_ofInt i⟩

end Acceptance.Json
