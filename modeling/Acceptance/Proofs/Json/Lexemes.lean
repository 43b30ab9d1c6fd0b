import Acceptance.Proofs.Json.Numerals

/-!
# The texts of numbers

A number is a sign, digits without a leading zero, a fraction and an exponent, of which all but the
digits may be missing. The reader of numbers accepts these texts and no others.

* `Lexeme.Spells`: a text is made of the pieces of a number.

Results:
* `takeDigits_digitText`, `digitText_of_takeDigits`: the digits at the head of a text.
* `spells_of_takeNumber`, `takeNumber_of_spells`: what is read as a number is the text of its pieces,
  and such a text is read back, unless a number goes on behind it.
-/

namespace Acceptance.Json

variable {s t p : List Char}

/-! ## Digits -/

/-- A text of digits with some values. -/
def DigitText (ds : List Nat) (p : List Char) : Prop :=
  (∀ c ∈ p, c.isDigit = true) ∧ ds = p.map digitValue

/-- No digit stands at the head of a text. -/
def EndsDigits (t : List Char) : Prop := ∀ c ∈ t.head?, digit? c = none

theorem EndsNumber.endsDigits (h : EndsNumber t) : EndsDigits t := by
  cases t with
  | nil => exact nofun
  | cons c r =>
    rintro d ⟨⟩
    exact h.not_digit

theorem isDigit_of_digit? {c : Char} {d : Nat} (h : digit? c = some d) :
    c.isDigit = true ∧ d = digitValue c := by
  cases hc : c.isDigit with
  | false =>
    rw [digit?_eq_none hc] at h
    cases h
  | true =>
    rw [digit?_eq_some hc] at h
    exact ⟨rfl, (Option.some.inj h).symm⟩

/-- Digits are read up to the first character that is none. -/
theorem takeDigits_digitText {ds : List Nat} (h : DigitText ds p) (ht : EndsDigits t) :
    takeDigits (p ++ t) = (ds, t) := by
  obtain ⟨hdigits, rfl⟩ := h
  induction p with
  | nil =>
    cases t with
    | nil => rfl
    | cons c r => rw [List.nil_append, takeDigits, ht c rfl]; rfl
  | cons c r ih =>
    rw [List.cons_append, takeDigits, digit?_eq_some (hdigits c List.mem_cons_self)]
    simp only [ih fun d hd => hdigits d (List.mem_cons_of_mem c hd)]
    rfl

/-- What is read as digits are digits, and no digit follows. -/
theorem digitText_of_takeDigits {ds : List Nat} (h : takeDigits s = (ds, t)) :
    ∃ p, s = p ++ t ∧ DigitText ds p ∧ EndsDigits t := by
  induction s generalizing ds with
  | nil =>
    cases h
    exact ⟨[], rfl, ⟨nofun, rfl⟩, nofun⟩
  | cons c r ih =>
    rw [takeDigits] at h
    cases hc : digit? c with
    | none =>
      rw [hc] at h
      cases h
      refine ⟨[], rfl, ⟨nofun, rfl⟩, ?_⟩
      rintro d ⟨⟩
      exact hc
    | some d =>
      obtain ⟨hdigit, rfl⟩ := isDigit_of_digit? hc
      rcases hr : takeDigits r with ⟨es, u⟩
      rw [hc, hr] at h
      cases h
      obtain ⟨q, rfl, ⟨hdigits, rfl⟩, hu⟩ := ih hr
      exact ⟨c :: q, rfl, ⟨List.forall_mem_cons.mpr ⟨hdigit, hdigits⟩, rfl⟩, hu⟩

/-! ## The pieces of a number -/

/-- The digits before the point: there are some, and no zero leads others. -/
def WholeText (ds : List Nat) (p : List Char) : Prop :=
  DigitText ds p ∧ ds ≠ [] ∧ ∀ d es, ds ≠ 0 :: d :: es

/-- The point and the digits behind it, if there are any. -/
def FractionText : Option (List Nat) → List Char → Prop
  | none, p => p = []
  | some ds, p => ∃ q, p = '.' :: q ∧ DigitText ds q ∧ ds ≠ []

/-- The sign of an exponent: whether it is a minus. -/
def SignText (below : Bool) (p : List Char) : Prop :=
  p = ['-'] ∧ below = true ∨ (p = ['+'] ∨ p = []) ∧ below = false

/-- The mark, the sign and the digits of an exponent, if there is one. -/
def ExponentText : Option (Bool × List Nat) → List Char → Prop
  | none, p => p = []
  | some (below, ds), p => ∃ c sign q, (c = 'e' ∨ c = 'E') ∧ p = c :: (sign ++ q) ∧
      SignText below sign ∧ DigitText ds q ∧ ds ≠ []

/-- A text is made of the pieces of a number. -/
def Lexeme.Spells (l : Lexeme) (p : List Char) : Prop :=
  ∃ whole fraction exponent,
    p = (if l.negative then ['-'] else []) ++ (whole ++ (fraction ++ exponent)) ∧
      WholeText l.whole whole ∧ FractionText l.fraction fraction ∧ ExponentText l.exponent exponent

variable {below : Bool} {ds : List Nat} {whole fraction exponent sign : List Char}
  {f : Option (List Nat)} {e : Option (Bool × List Nat)}

/-- An exponent starts with its mark, and no digits go on there. -/
theorem ExponentText.endsDigits (h : ExponentText e exponent) (ht : EndsNumber t) :
    EndsDigits (exponent ++ t) := by
  rcases e with _ | ⟨below, ds⟩
  · rw [show exponent = [] from h]
    exact ht.endsDigits
  · obtain ⟨c, sign, q, hc, rfl, -, -, -⟩ := h
    rintro d ⟨⟩
    rcases hc with rfl | rfl <;> decide

/-- A fraction starts with its point, and no digits go on there. -/
theorem FractionText.endsDigits (h : FractionText f fraction) (ht : EndsDigits t) :
    EndsDigits (fraction ++ t) := by
  cases f with
  | none =>
    rw [show fraction = [] from h]
    exact ht
  | some ds =>
    obtain ⟨q, rfl, -, -⟩ := h
    rintro d ⟨⟩
    decide

/-- A text of digits starts with neither sign, if it holds any. -/
theorem DigitText.head (h : DigitText ds p) (hds : ds ≠ []) :
    ∃ c r, p = c :: r ∧ c ≠ '-' ∧ c ≠ '+' := by
  cases p with
  | nil => exact absurd h.2 hds
  | cons c r =>
    have hc := h.1 c List.mem_cons_self
    refine ⟨c, r, rfl, ?_, ?_⟩ <;> (rintro rfl; cases hc)

/-! ## What is read as a number -/

theorem eq_of_takeMinus : (if (takeMinus s).1 then ['-'] else []) ++ (takeMinus s).2 = s := by
  unfold takeMinus
  split <;> rfl

theorem exists_sign_of_takeSign : ∃ p, s = p ++ (takeSign s).2 ∧ SignText (takeSign s).1 p := by
  unfold takeSign
  split
  · exact ⟨['+'], rfl, Or.inr ⟨Or.inl rfl, rfl⟩⟩
  · rename_i r _
    unfold takeMinus
    split
    · exact ⟨['-'], rfl, Or.inl ⟨rfl, rfl⟩⟩
    · exact ⟨[], rfl, Or.inr ⟨Or.inr rfl, rfl⟩⟩

theorem wholeText_of_takeWhole (h : takeWhole s = .ok (ds, t)) :
    ∃ p, s = p ++ t ∧ WholeText ds p := by
  obtain ⟨hd, hds⟩ := takeWhole_eq_ok_iff.mp h
  obtain ⟨p, hp, hdigits, -⟩ := digitText_of_takeDigits hd
  exact ⟨p, hp, hdigits, hds⟩

theorem fractionText_of_takeFraction (h : takeFraction s = .ok (f, t)) :
    ∃ p, s = p ++ t ∧ FractionText f p := by
  unfold takeFraction at h
  split at h
  · rename_i r
    rcases hd : takeDigits r with ⟨_ | ⟨d, ds⟩, u⟩
    · rw [hd] at h
      cases h
    · rw [hd] at h
      cases h
      obtain ⟨q, rfl, hdigits, -⟩ := digitText_of_takeDigits hd
      exact ⟨'.' :: q, rfl, q, rfl, hdigits, List.cons_ne_nil _ _⟩
  · cases h
    exact ⟨[], rfl, rfl⟩

theorem exponentText_of_takeExponent (h : takeExponent s = .ok (e, t)) :
    ∃ p, s = p ++ t ∧ ExponentText e p := by
  cases s with
  | nil =>
    cases h
    exact ⟨[], rfl, rfl⟩
  | cons c r =>
    by_cases hc : c = 'e' ∨ c = 'E'
    · simp only [takeExponent, if_pos hc] at h
      obtain ⟨sign, hsign, hsignText⟩ := exists_sign_of_takeSign (s := r)
      rcases hd : takeDigits (takeSign r).2 with ⟨_ | ⟨d, ds⟩, u⟩
      · rw [hd] at h
        cases h
      · rw [hd] at h
        cases h
        obtain ⟨q, hq, hdigits, -⟩ := digitText_of_takeDigits hd
        refine ⟨c :: (sign ++ q), ?_, c, sign, q, hc, rfl, hsignText, hdigits,
          List.cons_ne_nil _ _⟩
        rw [List.cons_append, List.append_assoc, ← hq, ← hsign]
    · simp only [takeExponent, if_neg hc] at h
      cases h
      exact ⟨[], rfl, rfl⟩

/-- **What is read as a number is the text of its pieces.** -/
theorem spells_of_takeNumber {l : Lexeme} (h : takeNumber s = .ok (l, t)) :
    ∃ p, s = p ++ t ∧ l.Spells p := by
  obtain ⟨hn, u, v, hw, hf, he⟩ := takeNumber_eq_ok_iff.mp h
  obtain ⟨whole, hu, hwhole⟩ := wholeText_of_takeWhole hw
  obtain ⟨fraction, hv, hfraction⟩ := fractionText_of_takeFraction hf
  obtain ⟨exponent, ht, hexponent⟩ := exponentText_of_takeExponent he
  refine ⟨_, ?_, whole, fraction, exponent, rfl, hwhole, hfraction, hexponent⟩
  have hs := eq_of_takeMinus (s := s)
  rw [hu, hv, ht] at hs
  rw [hn]
  exact hs.symm.trans (by simp only [List.append_assoc])

theorem spells_of_takeNumber_nil {l : Lexeme} (h : takeNumber s = .ok (l, [])) : l.Spells s := by
  obtain ⟨p, hp, hspells⟩ := spells_of_takeNumber h
  rw [List.append_nil] at hp
  rwa [hp]

/-! ## What is read back -/

theorem takeWhole_wholeText (h : WholeText ds p) (ht : EndsDigits t) :
    takeWhole (p ++ t) = .ok (ds, t) :=
  takeWhole_eq_ok_iff.mpr ⟨takeDigits_digitText h.1 ht, h.2⟩

theorem takeFraction_fractionText (h : FractionText f fraction) (ht : EndsDigits t)
    (hpoint : '.' ∉ t.head?) : takeFraction (fraction ++ t) = .ok (f, t) := by
  cases f with
  | none =>
    rw [show fraction = [] from h, List.nil_append]
    unfold takeFraction
    split
    · exact absurd rfl hpoint
    · rfl
  | some ds =>
    obtain ⟨q, rfl, hdigits, hds⟩ := h
    rw [List.cons_append, takeFraction, takeDigits_digitText hdigits ht]
    cases ds with
    | nil => exact absurd rfl hds
    | cons d ds => rfl

theorem takeSign_signText (h : SignText below sign) {q : List Char} {c : Char} {r : List Char}
    (hq : q = c :: r) (hminus : c ≠ '-') (hplus : c ≠ '+') :
    takeSign (sign ++ q) = (below, q) := by
  subst hq
  rcases h with ⟨rfl, rfl⟩ | ⟨rfl | rfl, rfl⟩
  · rfl
  · rfl
  · simp [takeSign, takeMinus, hminus, hplus]

theorem takeExponent_exponentText (h : ExponentText e exponent) (ht : EndsNumber t) :
    takeExponent (exponent ++ t) = .ok (e, t) := by
  rcases e with _ | ⟨below, ds⟩
  · rw [show exponent = [] from h]
    exact takeExponent_stop ht
  · obtain ⟨c, sign, q, hc, rfl, hsign, hdigits, hds⟩ := h
    obtain ⟨d, r, hq, hminus, hplus⟩ := hdigits.head hds
    have hqt : q ++ t = d :: (r ++ t) := by rw [hq]; rfl
    rw [List.cons_append, List.append_assoc, takeExponent, if_pos hc,
      takeSign_signText hsign hqt hminus hplus]
    simp only [takeDigits_digitText hdigits ht.endsDigits]

/-- No point stands where an exponent may. -/
theorem ExponentText.not_point (h : ExponentText e exponent) (ht : EndsNumber t) :
    '.' ∉ (exponent ++ t).head? := by
  rcases e with _ | ⟨below, ds⟩
  · rw [show exponent = [] from h, List.nil_append]
    intro hp
    exact absurd (ht '.' hp).1 (by decide)
  · obtain ⟨c, sign, q, hc, rfl, -, -, -⟩ := h
    rintro ⟨⟩
    rcases hc with hc | hc <;> cases hc

/-- **A text of the pieces of a number is read back**, unless a number goes on behind it. -/
theorem takeNumber_of_spells {l : Lexeme} (h : l.Spells p) (ht : EndsNumber t) :
    takeNumber (p ++ t) = .ok (l, t) := by
  obtain ⟨whole, fraction, exponent, rfl, hwhole, hfraction, hexponent⟩ := h
  have hends := hfraction.endsDigits (hexponent.endsDigits ht)
  have hminus : takeMinus ((if l.negative then ['-'] else []) ++ (whole ++ (fraction ++ exponent)) ++ t)
      = (l.negative, whole ++ (fraction ++ (exponent ++ t))) := by
    obtain ⟨c, r, hc, hm, -⟩ := hwhole.1.head hwhole.2.1
    cases l.negative with
    | true => simp [takeMinus]
    | false => simp [takeMinus, hc, hm]
  rw [takeNumber_eq_ok_iff, hminus]
  exact ⟨rfl, _, _, takeWhole_wholeText hwhole hends,
    takeFraction_fractionText hfraction (hexponent.endsDigits ht) (hexponent.not_point ht),
    takeExponent_exponentText hexponent ht⟩

end Acceptance.Json
