import Acceptance.Proofs.Json.Lexemes
import Acceptance.Proofs.Number.Shortest

/-!
# The texts of decimals

A decimal is printed in one of four forms: with zeros up to the point, with the point among its
digits, with zeros behind the point, or with an exponent. The pieces of each form make up the number
that the decimal stands for, so that different numbers have different texts.

* `Lexeme.magnitude`: the number that the pieces of a number make up, but for the sign.
* `Lexeme.Marked`: a number has a point or an exponent.
* `Writes`: a text is that of a number with such pieces.

Results:
* `writes_decimal`: the pieces of a printed decimal make up its value.
* `binary64_text_inj`: different binary values have different texts.
* `binary64_text_ne_intText`: and none has the text of an integer.
* `Number.text_inj`: different numbers have different texts.
-/

namespace Acceptance.Json

open Acceptance.Number (Binary64 Decimal Layout digitsOf intText)

variable {p : List Char}

/-! ## Digits -/

theorem foldl_digits (ds : List Nat) (n : Nat) :
    ds.foldl (fun n d => n * 10 + d) n = n * 10 ^ ds.length + digitsValue ds := by
  unfold digitsValue
  induction ds generalizing n with
  | nil => simp
  | cons d ds ih =>
    rw [List.foldl_cons, List.foldl_cons, ih, ih (0 * 10 + d), List.length_cons]
    ring

theorem digitsValue_append (ds es : List Nat) :
    digitsValue (ds ++ es) = digitsValue ds * 10 ^ es.length + digitsValue es := by
  rw [digitsValue, List.foldl_append, foldl_digits]
  rfl

theorem digitsValue_zeros (n : Nat) : digitsValue (List.replicate n 0) = 0 := by
  induction n with
  | zero => rfl
  | succ n ih =>
    rw [List.replicate_succ, ← List.singleton_append, digitsValue_append, ih]
    simp [digitsValue]

theorem digitsValue_digitsOf (n : Nat) : digitsValue ((digitsOf n).map digitValue) = n :=
  foldl_digitsOf n

theorem digitText_map (h : ∀ c ∈ p, c.isDigit = true) : DigitText (p.map digitValue) p := ⟨h, rfl⟩

/-- Digits that no zero leads may stand before the point. -/
theorem wholeText_map {c : Char} {r : List Char} (h : ∀ d ∈ c :: r, d.isDigit = true)
    (hc : digitValue c ≠ 0) : WholeText ((c :: r).map digitValue) (c :: r) := by
  refine ⟨digitText_map h, List.cons_ne_nil _ _, fun d es heq => ?_⟩
  exact hc (List.cons.inj heq).1

theorem digitText_zero : DigitText [0] ['0'] := ⟨List.forall_mem_singleton.mpr rfl, rfl⟩

theorem wholeText_zero : WholeText [0] ['0'] :=
  ⟨digitText_zero, List.cons_ne_nil _ _, fun _ _ h => by cases h⟩

theorem fractionText_zero : FractionText (some [0]) ['.', '0'] :=
  ⟨['0'], rfl, digitText_zero, List.cons_ne_nil _ _⟩

theorem fractionText_none : FractionText none [] := rfl

theorem exponentText_none : ExponentText none [] := rfl

/-! ## The number of a lexeme -/

/-- The digits of a number, those before the point and those behind it. -/
def Lexeme.digits (l : Lexeme) : List Nat := l.whole ++ l.fraction.getD []

/-- The power of ten that an exponent stands for. -/
def powerOf : Option (Bool × List Nat) → Int
  | none => 0
  | some (true, ds) => -digitsValue ds
  | some (false, ds) => digitsValue ds

/-- The number that the pieces of a number make up, but for the sign. -/
def Lexeme.magnitude (l : Lexeme) : ℚ :=
  digitsValue l.digits * 10 ^ (powerOf l.exponent - (l.fraction.getD []).length)

/-- A number has a point or an exponent. -/
def Lexeme.Marked (l : Lexeme) : Prop := l.fraction.isSome = true ∨ l.exponent.isSome = true

/-- A text is that of a number without a sign, but with a point or an exponent. -/
def Writes (p : List Char) (q : ℚ) : Prop :=
  ∃ l : Lexeme, l.Spells p ∧ l.negative = false ∧ l.Marked ∧ l.magnitude = q

/-- The pieces of a number write a decimal, if their digits are those of the decimal, with some zeros
behind them, and their exponent is the one for that. -/
theorem writes_of {whole fraction exponent : List Char} {ws : List Nat} {f : Option (List Nat)}
    {e : Option (Bool × List Nat)} {d : Decimal} (k : Nat) (hw : WholeText ws whole)
    (hf : FractionText f fraction) (he : ExponentText e exponent)
    (hmarked : f.isSome = true ∨ e.isSome = true)
    (hdigits : digitsValue (ws ++ f.getD []) = d.digits * 10 ^ k)
    (hpower : powerOf e - (f.getD []).length + k = d.exponent) :
    Writes (whole ++ (fraction ++ exponent)) d.value := by
  refine ⟨⟨false, ws, f, e⟩, ⟨whole, fraction, exponent, rfl, hw, hf, he⟩, rfl, hmarked, ?_⟩
  have hten : (10 : ℚ) ≠ 0 := by norm_num
  rw [Lexeme.magnitude, Lexeme.digits, Decimal.value, hdigits, Nat.cast_mul, Nat.cast_pow,
    mul_assoc, ← hpower, Nat.cast_ofNat, ← zpow_natCast, ← zpow_add₀ hten, add_comm]

/-- The exponent of a first digit that stands at some power of ten. -/
theorem exponentText_lead (lead : Int) :
    ∃ e, ExponentText (some e) ('e' ::
        (if 0 ≤ lead then '+' :: digitsOf lead.toNat else '-' :: digitsOf (-lead).toNat)) ∧
      powerOf (some e) = lead := by
  have htext (n : Nat) : DigitText ((digitsOf n).map digitValue) (digitsOf n) ∧
      (digitsOf n).map digitValue ≠ [] :=
    ⟨digitText_map fun c hc => isDigit_of_mem_digitsOf hc, fun h =>
      Nat.toDigits_ne_nil (List.map_eq_nil_iff.mp h)⟩
  split
  · refine ⟨(false, (digitsOf lead.toNat).map digitValue),
      ⟨'e', ['+'], _, Or.inl rfl, rfl, Or.inr ⟨Or.inl rfl, rfl⟩, htext _⟩, ?_⟩
    rw [powerOf, digitsValue_digitsOf]
    omega
  · refine ⟨(true, (digitsOf (-lead).toNat).map digitValue),
      ⟨'e', ['-'], _, Or.inl rfl, rfl, Or.inl ⟨rfl, rfl⟩, htext _⟩, ?_⟩
    rw [powerOf, digitsValue_digitsOf]
    omega

theorem map_zeros (n : Nat) : (List.replicate n '0').map digitValue = List.replicate n 0 :=
  List.map_replicate

theorem isDigit_zeros {n : Nat} {c : Char} (h : c ∈ List.replicate n '0') : c.isDigit = true := by
  rw [List.eq_of_mem_replicate h]
  rfl

/-- Digits may stand behind the point. -/
theorem fractionText_map (h : ∀ c ∈ p, c.isDigit = true) (hne : p ≠ []) :
    FractionText (some (p.map digitValue)) ('.' :: p) :=
  ⟨p, rfl, digitText_map h, fun hnil => hne (List.map_eq_nil_iff.mp hnil)⟩

section Forms

variable {d : Decimal} {c : Char} {r : List Char}

theorem isDigit_of_mem_cons {n : Nat} (hc : digitsOf n = c :: r) : ∀ a ∈ c :: r, a.isDigit = true :=
  fun a ha => isDigit_of_mem_digitsOf (hc ▸ ha : a ∈ digitsOf n)

theorem digitsValue_cons {n : Nat} (hc : digitsOf n = c :: r) :
    digitsValue ((c :: r).map digitValue) = n := by
  rw [← hc, digitsValue_digitsOf]

/-- Zeros stand between the digits and the point. -/
theorem writes_zeros (hc : digitsOf d.digits = c :: r) (hlead : digitValue c ≠ 0)
    (hexp : 0 ≤ d.exponent) :
    Writes (c :: r ++ List.replicate d.exponent.toNat '0' ++ ['.', '0']) d.value := by
  have hdigits : ∀ a ∈ c :: r ++ List.replicate d.exponent.toNat '0', a.isDigit = true :=
    List.forall_mem_append.mpr ⟨isDigit_of_mem_cons hc, fun _ => isDigit_zeros⟩
  refine writes_of (d.exponent.toNat + 1) (wholeText_map hdigits hlead)
    fractionText_zero exponentText_none (Or.inl rfl) ?_ ?_
  · show digitsValue ((c :: r ++ List.replicate d.exponent.toNat '0').map digitValue ++ [0]) = _
    rw [List.map_append, map_zeros, List.append_assoc, ← List.replicate_succ', digitsValue_append,
      digitsValue_cons hc, digitsValue_zeros, List.length_replicate, Nat.add_zero]
  · show 0 - 1 + ((d.exponent.toNat + 1 : Nat) : Int) = d.exponent
    omega

/-- The point stands among the digits. -/
theorem writes_among {n : Nat} (hc : digitsOf d.digits = c :: r) (hlead : digitValue c ≠ 0)
    (hn : n + 1 < (c :: r).length) (hexp : (n + 1 : Int) = (c :: r).length + d.exponent) :
    Writes ((c :: r).take (n + 1) ++ '.' :: (c :: r).drop (n + 1)) d.value := by
  have hdigits := isDigit_of_mem_cons hc
  have hwhole : WholeText ((c :: r.take n).map digitValue) (c :: r.take n) :=
    wholeText_map (fun a ha => hdigits a (List.mem_of_mem_take (i := n + 1) ha)) hlead
  have hne : (c :: r).drop (n + 1) ≠ [] := fun h => by
    rw [List.drop_eq_nil_iff] at h
    omega
  have hfraction := fractionText_map (fun a ha => hdigits a (List.mem_of_mem_drop ha)) hne
  have hw := writes_of (d := d) 0 hwhole hfraction exponentText_none (Or.inl rfl)
  rw [List.append_nil] at hw
  refine hw ?_ ?_
  · show digitsValue (((c :: r).take (n + 1)).map digitValue ++
      ((c :: r).drop (n + 1)).map digitValue) = _
    rw [← List.map_append, List.take_append_drop, digitsValue_cons hc, Nat.pow_zero, Nat.mul_one]
  · simp only [powerOf, Option.getD_some, List.length_map, List.length_drop]
    omega

/-- Zeros stand between the point and the digits. -/
theorem writes_behind {n : Nat} (hc : digitsOf d.digits = c :: r)
    (hexp : (n : Int) + (c :: r).length = -d.exponent) :
    Writes ('0' :: '.' :: (List.replicate n '0' ++ c :: r)) d.value := by
  have hdigits : ∀ a ∈ List.replicate n '0' ++ c :: r, a.isDigit = true :=
    List.forall_mem_append.mpr ⟨fun _ => isDigit_zeros, isDigit_of_mem_cons hc⟩
  have hfraction := fractionText_map hdigits (List.append_ne_nil_of_right_ne_nil _ (by simp))
  have hw := writes_of (d := d) 0 wholeText_zero hfraction exponentText_none (Or.inl rfl)
  rw [List.append_nil] at hw
  refine hw ?_ ?_
  · show digitsValue (List.replicate 1 0 ++ (List.replicate n '0' ++ c :: r).map digitValue) = _
    rw [List.map_append, map_zeros, digitsValue_append, digitsValue_zeros, digitsValue_append,
      digitsValue_zeros, digitsValue_cons hc]
    simp
  · simp only [powerOf, Option.getD_some, List.length_map, List.length_append,
      List.length_replicate]
    omega

/-- One digit stands before the point, if there is one, and an exponent behind. -/
theorem writes_mantissa {e : Bool × List Nat} {exponent : List Char}
    (hc : digitsOf d.digits = c :: r) (hlead : digitValue c ≠ 0)
    (he : ExponentText (some e) exponent) (hexp : powerOf (some e) = r.length + d.exponent) :
    Writes ((match c :: r with
      | [] => []
      | [c] => [c]
      | c :: r => c :: '.' :: r) ++ exponent) d.value := by
  have hdigits := isDigit_of_mem_cons hc
  have hwhole : WholeText ([c].map digitValue) [c] :=
    wholeText_map (fun a ha => hdigits a (List.mem_of_mem_take (i := 1) ha)) hlead
  cases r with
  | nil =>
    refine writes_of 0 hwhole fractionText_none he (Or.inr rfl) ?_ ?_
    · rw [Option.getD_none, List.append_nil, digitsValue_cons hc, Nat.pow_zero, Nat.mul_one]
    · rw [hexp]
      simp
  | cons b r =>
    have hfraction := fractionText_map (fun a ha => hdigits a (List.mem_cons_of_mem c ha))
      (List.cons_ne_nil b r)
    refine writes_of 0 hwhole hfraction he (Or.inl rfl) ?_ ?_
    · rw [Option.getD_some, ← List.map_append, List.singleton_append, digitsValue_cons hc,
        Nat.pow_zero, Nat.mul_one]
    · rw [hexp]
      simp

end Forms

/-- **The pieces of a printed decimal make up its value.** -/
theorem writes_decimal (layout : Layout) {d : Decimal} (hd : 0 < d.digits) :
    Writes (d.text layout) d.value := by
  obtain ⟨c, r, hc, hlead⟩ := digitsOf_head hd
  have hlength : (c :: r).length = r.length + 1 := List.length_cons
  unfold Decimal.text
  simp only [hc]
  split
  · split
    · exact writes_zeros hc hlead ‹_›
    · split
      · exact writes_among hc hlead (by omega) (by omega)
      · exact writes_behind hc (by omega)
  · obtain ⟨e, he, hpower⟩ := exponentText_lead ((c :: r).length + d.exponent - 1)
    exact writes_mantissa hc hlead he (by omega)

/-! ## Numbers -/

variable {layout : Layout} {x y : Binary64} {i j : Int}

/-- A text is made of the pieces of one number only. -/
theorem Lexeme.Spells.unique {l m : Lexeme} (hl : l.Spells p) (hm : m.Spells p) : l = m := by
  have h := (takeNumber_of_spells hl endsNumber_nil).symm.trans (takeNumber_of_spells hm endsNumber_nil)
  cases h
  rfl

theorem writes_zero : Writes ['0', '.', '0'] 0 :=
  ⟨⟨false, [0], some [0], none⟩, ⟨['0'], ['.', '0'], [], rfl, wholeText_zero,
    fractionText_zero, rfl⟩, rfl, Or.inl rfl, by
      simp [Lexeme.magnitude, Lexeme.digits, digitsValue]⟩

/-- The pieces of a printed binary value. -/
theorem exists_spells_text (layout : Layout) (x : Binary64) :
    ∃ l : Lexeme, l.Spells (x.text layout) ∧ l.negative = x.negative ∧ l.Marked ∧
      l.magnitude = x.printed := by
  have hbody : Writes (if x.isZero then ['0', '.', '0'] else x.shortest.text layout) x.printed := by
    unfold Binary64.printed
    split
    · exact writes_zero
    · exact writes_decimal layout (Binary64.rounds_shortest (Binary64.significand_pos ‹_›)).2
  obtain ⟨⟨n, ws, f, e⟩, ⟨whole, fraction, exponent, hp, hpieces⟩, rfl, hmarked, hl⟩ := hbody
  refine ⟨⟨x.negative, ws, f, e⟩, ⟨whole, fraction, exponent, ?_, hpieces⟩, rfl, hmarked, hl⟩
  unfold Binary64.text
  rw [hp]
  cases x.negative <;> rfl

/-- **Different binary values have different texts.** -/
theorem binary64_text_inj (h : x.text layout = y.text layout) : x = y := by
  obtain ⟨l, hl, hneg, -, hx⟩ := exists_spells_text layout x
  obtain ⟨m, hm, hneg', -, hy⟩ := exists_spells_text layout y
  obtain rfl : l = m := hl.unique (h ▸ hm)
  exact Binary64.eq_of_units (Binary64.units_eq_of_printed (hx.symm.trans hy)) (hneg.symm.trans hneg')

theorem spells_intText (i : Int) : (Lexeme.ofInt i).Spells (intText i) :=
  spells_of_takeNumber_nil (takeNumber_intText i)

/-- Different integers have different texts. -/
theorem intText_inj (h : intText i = intText j) : i = j := by
  have hl := (spells_intText i).unique (h ▸ spells_intText j)
  have hneg : i < 0 ↔ j < 0 := decide_eq_decide.mp (congrArg Lexeme.negative hl)
  have habs : i.natAbs = j.natAbs := by
    rw [← digitsValue_digitsOf i.natAbs, ← digitsValue_digitsOf j.natAbs]
    exact congrArg digitsValue (congrArg Lexeme.whole hl)
  omega

/-- **No binary value has the text of an integer.** -/
theorem binary64_text_ne_intText : x.text layout ≠ intText i := by
  intro h
  obtain ⟨l, hl, -, hmarked, -⟩ := exists_spells_text layout x
  obtain rfl : l = .ofInt i := hl.unique (h ▸ spells_intText i)
  rcases hmarked with h | h <;> cases h

/-- **Different numbers have different texts.** -/
theorem Number.text_inj {m n : Number} (h : m.text = n.text) : m = n := by
  cases m with
  | int i =>
    cases n with
    | int j =>
      have hval := intText_inj h
      cases i
      cases j
      cases hval
      rfl
    | float y => exact absurd h.symm binary64_text_ne_intText
  | float x =>
    cases n with
    | int j => exact absurd h binary64_text_ne_intText
    | float y => rw [binary64_text_inj h]

end Acceptance.Json
