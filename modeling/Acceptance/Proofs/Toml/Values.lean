import Acceptance.Proofs.Json.Numerals
import Acceptance.Proofs.Toml.Strings

/-!
# Values of TOML texts read back

A printed value is read back, on one line or with a line for each item.

* `Ready`: values that are read back: strings, integers of 64 bits, truth values, and arrays of such,
  up to a depth.
* `Reads`: a text is that of a value.
* `ItemsText`: the text of the items of an array, up to its bracket.

Results:
* `takeNumber_intText`: an integer is read back.
* `takeItems_itemsText`: the items of an array are read back.
* `reads_inline`, `reads_printValue`: a value is read back from the text that is printed for it.
-/

namespace Acceptance.Toml

open Acceptance.Json (digitValue isDigit_of_mem_digitsOf digitsOf_head foldl_digitsOf)
open Acceptance.Number (digitsOf intText)

variable {c : Char} {p s t rest : List Char}

/-! ## Integers -/

theorem Ends.not_digit (h : Ends (c :: t)) : hexDigit? c = none ∧ c.isDigit = false := by
  have hmem := h.mem
  simp only [List.mem_cons, List.not_mem_nil, or_false] at hmem
  rcases hmem with rfl | rfl | rfl <;> decide

theorem hexDigit?_of_isDigit (h : c.isDigit = true) :
    hexDigit? c = some (digitValue c) ∧ digitValue c < 10 := by
  have hbounds : '0' ≤ c ∧ c ≤ '9' := by
    simpa [Char.isDigit, Char.le_def] using h
  refine ⟨by rw [hexDigit?, if_pos hbounds]; rfl, ?_⟩
  have hupper : c.toNat ≤ '9'.toNat := hbounds.2
  have hnine : '9'.toNat = 57 := rfl
  unfold digitValue
  omega

/-- Digits are read to their end. -/
theorem takeDigits_digits (h : ∀ c ∈ p, c.isDigit = true) (hne : p ≠ []) (hrest : Ends rest) :
    takeDigits 10 (p ++ rest) = some (p.map digitValue, rest) := by
  induction p with
  | nil => exact absurd rfl hne
  | cons c r ih =>
    obtain ⟨hc, hr⟩ := List.forall_mem_cons.mp h
    obtain ⟨hvalue, hten⟩ := hexDigit?_of_isDigit hc
    have hten' := Nat.not_le.mpr hten
    cases r with
    | nil =>
      obtain ⟨d, u, rfl, -⟩ := id hrest
      have hunder : d ≠ '_' := hrest.ne (by decide)
      simp [takeDigits, hvalue, hten', hrest.not_digit.1]
    | cons d r =>
      obtain ⟨hd, -⟩ := List.forall_mem_cons.mp hr
      obtain ⟨hvalue', hnext⟩ := hexDigit?_of_isDigit hd
      have hunder : d ≠ '_' := by rintro rfl; cases hd
      have hread := ih hr (List.cons_ne_nil d r)
      simp only [List.cons_append] at hread ⊢
      simp [takeDigits, hvalue, hten', hvalue', hnext, hread]

theorem digitsValue_digitsOf (n : Nat) : digitsValue 10 ((digitsOf n).map digitValue) = n :=
  foldl_digitsOf n

/-- The digits of a number are read, where a zero stands alone. -/
theorem takeWhole_digitsOf (n : Nat) (hrest : Ends rest) :
    takeWhole (digitsOf n ++ rest) = some ((digitsOf n).map digitValue, rest) := by
  rcases Nat.eq_zero_or_pos n with rfl | hn
  · rfl
  · obtain ⟨c, r, hc, hlead⟩ := digitsOf_head hn
    have hzero : ∀ u, digitsOf n ++ rest ≠ '0' :: u := by
      rintro u heq
      rw [hc, List.cons_append] at heq
      exact hlead (congrArg digitValue (List.cons.inj heq).1)
    rw [takeWhole]
    · exact takeDigits_digits (fun c => isDigit_of_mem_digitsOf) (hc ▸ List.cons_ne_nil c r) hrest
    · exact hzero

theorem takeFraction_ends (h : Ends rest) : takeFraction rest = some (none, rest) := by
  rw [takeFraction]
  exact h.ne_cons (by decide)

theorem takeExponent_ends (h : Ends rest) : takeExponent rest = some (none, rest) := by
  obtain ⟨c, r, rfl, -⟩ := id h
  have he : c ≠ 'e' := h.ne (by decide)
  have hE : c ≠ 'E' := h.ne (by decide)
  simp [takeExponent, he, hE]

theorem exists_digitsOf (n : Nat) : ∃ c r, digitsOf n = c :: r ∧ c.isDigit = true := by
  cases hd : digitsOf n with
  | nil => exact absurd hd Nat.toDigits_ne_nil
  | cons c r => exact ⟨c, r, rfl, isDigit_of_mem_digitsOf (hd ▸ List.mem_cons_self)⟩

/-- Digits behind a sign are a number, unless they tell of another radix. -/
theorem takeNumber_of_sign {negative : Bool} {n : Nat}
    (hsign : takeSign s = (negative, digitsOf n ++ rest)) (hrest : Ends rest)
    (hx : ∀ r, s ≠ '0' :: 'x' :: r) (ho : ∀ r, s ≠ '0' :: 'o' :: r) (hb : ∀ r, s ≠ '0' :: 'b' :: r) :
    takeNumber s = (word? (if negative then -(n : Int) else n)).map fun v => (v, rest) := by
  obtain ⟨c, r, hc, hdigit⟩ := exists_digitsOf n
  have hwhole := takeWhole_digitsOf n hrest
  have hword (d : Char) (u : List Char) (hd : d.isDigit = false) : digitsOf n ++ rest ≠ d :: u := by
    rintro heq
    rw [hc, List.cons_append] at heq
    rw [(List.cons.inj heq).1, hd] at hdigit
    cases hdigit
  unfold takeNumber
  simp only [hsign]
  split
  · exact absurd ‹_› (hword _ _ rfl)
  · exact absurd ‹_› (hword _ _ rfl)
  · simp only [hwhole, takeFraction_ends hrest, takeExponent_ends hrest, bind, Option.bind,
      digitsValue_digitsOf]
    cases word? (if negative then -(n : Int) else n) <;> rfl

/-- Only a zero starts with one, and nothing that tells of a radix stands behind it. -/
theorem digitsOf_append_ne {n : Nat} (hrest : Ends rest) (hc : c ∉ ['\n', ',', ']'])
    (u : List Char) : digitsOf n ++ rest ≠ '0' :: c :: u := by
  intro heq
  rcases Nat.eq_zero_or_pos n with rfl | hn
  · exact hrest.ne_cons hc u (List.cons.inj heq).2
  · obtain ⟨d, r, hd, hlead⟩ := digitsOf_head hn
    rw [hd, List.cons_append] at heq
    exact hlead (congrArg digitValue (List.cons.inj heq).1)

/-- **An integer of 64 bits is read back.** -/
theorem takeNumber_intText {i : Int} (hlower : -9223372036854775808 ≤ i)
    (hupper : i < 9223372036854775808) (hrest : Ends rest) :
    takeNumber (intText i ++ rest) = some (.integer i, rest) := by
  have hword : word? i = some (.integer i) := if_pos ⟨hlower, hupper⟩
  cases i with
  | ofNat n =>
    obtain ⟨c, r, hc, hdigit⟩ := exists_digitsOf n
    have hsign : takeSign (digitsOf n ++ rest) = (false, digitsOf n ++ rest) := by
      rw [hc, List.cons_append, takeSign]
      all_goals
        rintro u heq
        rw [(List.cons.inj heq).1] at hdigit
        cases hdigit
    have hread := takeNumber_of_sign hsign hrest (digitsOf_append_ne hrest (by decide))
      (digitsOf_append_ne hrest (by decide)) (digitsOf_append_ne hrest (by decide))
    refine hread.trans ?_
    show (word? (.ofNat n)).map _ = _
    rw [hword]
    rfl
  | negSucc n =>
    have hsign : takeSign (intText (.negSucc n) ++ rest) = (true, digitsOf (n + 1) ++ rest) := rfl
    rw [takeNumber_of_sign hsign hrest nofun nofun nofun]
    show (word? (.negSucc n)).map _ = _
    rw [hword]
    rfl

/-! ## No moments -/

theorem takeFixed_eq_some {n m : Nat} (h : takeFixed n s = some (m, t)) :
    ∃ q, s = q ++ t ∧ q.length = n ∧ ∀ c ∈ q, c.isDigit = true := by
  unfold takeFixed at h
  simp only at h
  split at h
  · rename_i hcond
    obtain ⟨hlength, hdigits⟩ := Bool.and_eq_true_iff.mp hcond
    obtain ⟨-, rfl⟩ := Prod.mk.inj (Option.some.inj h)
    exact ⟨s.take n, (List.take_append_drop n s).symm, beq_iff_eq.mp hlength,
      List.all_eq_true.mp hdigits⟩
  · cases h

/-- Behind some of the digits of a number stands no mark of a moment: that would be one more digit, or
what follows the number. -/
theorem takeFixed_digits {n : Nat} (hp : ∀ c ∈ p, c.isDigit = true) (hrest : Ends rest)
    (hc : c = '-' ∨ c = ':') : ((takeFixed n (p ++ rest)).bind fun x => takeChar c x.2) = none := by
  have hmark : c.isDigit = false := by rcases hc with rfl | rfl <;> rfl
  have hends := hrest.ne_cons (d := c) (by rcases hc with rfl | rfl <;> decide)
  have hbehind {q u : List Char} (hq : ∀ d ∈ q, d.isDigit = true) : p ++ rest ≠ q ++ c :: u := by
    intro heq
    rcases List.append_eq_append_iff.mp heq with ⟨_ | ⟨d, a⟩, rfl, hr⟩ | ⟨_ | ⟨d, a⟩, rfl, hr⟩
    · exact hends _ hr
    · rw [List.cons_append] at hr
      subst hr
      have hd := hq d (by simp)
      rw [hrest.not_digit.2] at hd
      cases hd
    · exact hends _ hr.symm
    · obtain rfl := (List.cons.inj hr).1
      have hd := hp c (by simp)
      rw [hmark] at hd
      cases hd
  cases h : takeFixed n (p ++ rest) with
  | none => rfl
  | some x =>
    obtain ⟨m, t⟩ := x
    obtain ⟨q, heq, -, hq⟩ := takeFixed_eq_some h
    cases t with
    | nil => rfl
    | cons d t =>
      have hd : c ≠ d := by
        rintro rfl
        exact hbehind hq heq
      simp [takeChar, hd]

theorem startsMoment_intText (i : Int) (hrest : Ends rest) :
    startsMoment (intText i ++ rest) = false := by
  cases i with
  | ofNat n =>
    have hp : ∀ c ∈ digitsOf n, c.isDigit = true := fun c => isDigit_of_mem_digitsOf
    show startsMoment (digitsOf n ++ rest) = false
    simp [startsMoment, takeFixed_digits hp hrest]
  | negSucc n =>
    have hnone (k : Nat) : takeFixed (k + 1) (intText (.negSucc n) ++ rest) = none := by
      simp [takeFixed, intText]
    simp [startsMoment, hnone]

/-! ## What a value starts with -/

variable {fuel room depth : Nat} {v : Value} {xs : List Value}

theorem takeValue_string (hc : c = '"' ∨ c = '\'') :
    takeValue (fuel + 1) room (c :: t) =
      (takeString (c :: t)).map fun x => (.string x.1, x.2) := by
  unfold takeValue
  have hquote : (c == '"' || c == '\'') = true := by simpa using hc
  rw [if_pos hquote]
  cases takeString (c :: t) <;> rfl

theorem takeValue_array :
    takeValue (fuel + 1) (room + 1) ('[' :: t) =
      (takeItems fuel room t).map fun x => (.array x.1, x.2) := by
  unfold takeValue
  rw [if_neg (by decide), if_pos (beq_self_eq_true '[')]
  simp only
  cases takeItems fuel room t <;> rfl

theorem takeValue_bool (b : Bool) :
    takeValue (fuel + 1) room (inline (.bool b) ++ t) = some (.bool b, t) := by
  cases b <;> rfl

theorem takeValue_number (hc : c.isDigit = true ∨ c = '-') (hm : startsMoment (c :: t) = false) :
    takeValue (fuel + 1) room (c :: t) = takeNumber (c :: t) := by
  have hc' : c ≠ '"' ∧ c ≠ '\'' ∧ c ≠ '[' ∧ c ≠ '\x7b' ∧ c ≠ 't' ∧ c ≠ 'f' := by
    refine ⟨?_, ?_, ?_, ?_, ?_, ?_⟩ <;> (rintro rfl; revert hc; decide)
  obtain ⟨hdouble, hsingle, hbracket, hbrace, ht, hf⟩ := hc'
  unfold takeValue
  simp [hdouble, hsingle, hbracket, hbrace, ht, hf, hm]

/-! ## Arrays -/

/-- A text is that of a value: it starts with neither a gap nor a bracket that ends an array, and the
value is read to its end. -/
structure Reads (depth : Nat) (p : List Char) (v : Value) : Prop where
  head : ∃ c r, p = c :: r ∧ isBlank c = false ∧ c ∉ ['#', '\n', '\r', ']']
  take : ∀ fuel room rest, 2 * p.length < fuel → depth ≤ room → Ends rest →
    takeValue fuel room (p ++ rest) = some (v, rest)

/-- A gap between items: blanks and line ends. -/
def Gap (g : List Char) : Prop := ∀ c ∈ g, c = ' ' ∨ c = '\n'

theorem gap_nil : Gap [] := fun _ hc => absurd hc List.not_mem_nil

/-- The text of the items of an array, up to its bracket. A comma may follow the last one. -/
inductive ItemsText (depth : Nat) : List Value → List Char → Prop
  | close {g : List Char} (hg : Gap g) : ItemsText depth [] (g ++ [']'])
  | last {g p : List Char} {v : Value} (hg : Gap g) (hp : Reads depth p v) :
      ItemsText depth [v] (g ++ (p ++ [']']))
  | item {g p t : List Char} {v : Value} {xs : List Value} (hg : Gap g) (hp : Reads depth p v)
      (h : ItemsText depth xs t) : ItemsText depth (v :: xs) (g ++ (p ++ ',' :: t))

theorem isBlank_eq_false_iff : isBlank c = false ↔ c ≠ ' ' ∧ c ≠ '\t' := by
  simp [isBlank]

theorem skipLines_stop (hb : isBlank c = false) (hc : c ∉ ['#', '\n', '\r']) (fuel : Nat) :
    skipLines fuel (c :: t) = some (c :: t) := by
  simp only [List.mem_cons, List.not_mem_nil, or_false, not_or] at hc
  obtain ⟨hcomment, hn, hr⟩ := hc
  have hblank : skipBlanks (c :: t) = c :: t := by simp [skipBlanks, hb]
  cases fuel with
  | zero => rfl
  | succ fuel =>
    rw [skipLines, hblank]
    split
    · rename_i heq
      exact absurd (List.cons.inj heq).1 hcomment
    · rw [takeNewline_eq_none hn hr]

/-- A gap is skipped. -/
theorem skipLines_gap {g : List Char} (hg : Gap g) (hb : isBlank c = false)
    (hc : c ∉ ['#', '\n', '\r']) (h : g.length < fuel) :
    skipLines fuel (g ++ c :: t) = some (c :: t) := by
  induction g generalizing fuel with
  | nil => exact skipLines_stop hb hc fuel
  | cons d g ih =>
    obtain ⟨hd, hg'⟩ := List.forall_mem_cons.mp hg
    obtain ⟨fuel, rfl⟩ := Nat.exists_eq_succ_of_ne_zero (Nat.ne_zero_of_lt h)
    rcases hd with rfl | rfl
    · have hskip : skipLines (fuel + 1) (' ' :: (g ++ c :: t)) =
          skipLines (fuel + 1) (g ++ c :: t) := rfl
      exact hskip.trans (ih hg' (Nat.lt_of_succ_lt h))
    · exact ih hg' (Nat.lt_of_succ_lt_succ h)

theorem length_lt_append (g u : List Char) : g.length < (g ++ u).length + 1 := by
  rw [List.length_append]
  omega

/-- One item: the comma behind it leads to the others, the bracket ends the array. -/
theorem takeItems_value {g : List Char} (hg : Gap g) (hp : Reads depth p v)
    (hfuel : 2 * p.length < fuel) (hroom : depth ≤ room) (hc : c = ',' ∨ c = ']') :
    takeItems (fuel + 1) room (g ++ (p ++ c :: t)) =
      if c = ',' then (takeItems fuel room t).map fun x => (v :: x.1, x.2) else some ([v], t) := by
  have hends : Ends (c :: t) := ⟨c, t, rfl, by rcases hc with rfl | rfl <;> decide⟩
  have hvalue := hp.take fuel room (c :: t) hfuel hroom hends
  have hbehind : skipLines ((c :: t).length + 1) (c :: t) = some (c :: t) := by
    rcases hc with rfl | rfl <;> exact skipLines_stop rfl (by decide) _
  obtain ⟨d, r, rfl, hblank, hd⟩ := hp.head
  simp only [List.mem_cons, List.not_mem_nil, or_false, not_or] at hd
  obtain ⟨hcomment, hn, hr, hbracket⟩ := hd
  have hskip : skipLines ((g ++ (d :: r ++ c :: t)).length + 1) (g ++ (d :: r ++ c :: t)) =
      some (d :: r ++ c :: t) :=
    skipLines_gap hg hblank (by simp [hcomment, hn, hr]) (length_lt_append g _)
  rw [takeItems, hskip]
  simp only [bind, Option.bind]
  split
  · rename_i heq
    exact absurd (List.cons.inj heq).1 hbracket
  · rw [hvalue]
    simp only [hbehind]
    rcases hc with rfl | rfl
    · rw [if_pos rfl]
      simp only
      cases takeItems fuel room t <;> rfl
    · rfl

/-- **The items of an array are read back.** -/
theorem takeItems_itemsText (h : ItemsText depth xs t) (hfuel : 2 * t.length + 1 < fuel)
    (hroom : depth ≤ room) : takeItems fuel room (t ++ rest) = some (xs, rest) := by
  induction h generalizing fuel with
  | @close g hg =>
    obtain ⟨fuel, rfl⟩ := Nat.exists_eq_succ_of_ne_zero (Nat.ne_zero_of_lt hfuel)
    have hskip : skipLines ((g ++ ']' :: rest).length + 1) (g ++ ']' :: rest) = some (']' :: rest) :=
      skipLines_gap hg rfl (by decide) (length_lt_append g _)
    rw [List.append_assoc, List.singleton_append, takeItems, hskip]
    rfl
  | @last g p v hg hp =>
    obtain ⟨fuel, rfl⟩ := Nat.exists_eq_succ_of_ne_zero (Nat.ne_zero_of_lt hfuel)
    have hp' : 2 * p.length < fuel := by simp at hfuel; omega
    have hone := takeItems_value (t := rest) hg hp hp' hroom (Or.inr rfl)
    simpa using hone
  | @item g p t v xs hg hp _ ih =>
    obtain ⟨fuel, rfl⟩ := Nat.exists_eq_succ_of_ne_zero (Nat.ne_zero_of_lt hfuel)
    have hp' : 2 * p.length < fuel := by simp at hfuel; omega
    have ht : 2 * t.length + 1 < fuel := by simp at hfuel; omega
    have hone := takeItems_value (t := t ++ rest) hg hp hp' hroom (Or.inl rfl)
    simpa [ih ht] using hone

/-! ## Values -/

/-- Values that are read back from what is printed: strings, integers of 64 bits, truth values, and
arrays of such up to a depth. -/
inductive Ready : Nat → Value → Prop
  | string (depth : Nat) (s : String) : Ready depth (.string s)
  | integer (depth : Nat) {i : Int} (hlower : -9223372036854775808 ≤ i)
      (hupper : i < 9223372036854775808) : Ready depth (.integer i)
  | bool (depth : Nat) (b : Bool) : Ready depth (.bool b)
  | array {depth : Nat} {xs : List Value} (h : ∀ x ∈ xs, Ready depth x) :
      Ready (depth + 1) (.array xs)

theorem Reads.array (h : ItemsText depth xs t) : Reads (depth + 1) ('[' :: t) (.array xs) := by
  refine ⟨⟨'[', t, rfl, rfl, by decide⟩, fun fuel room rest hfuel hroom _ => ?_⟩
  obtain ⟨fuel, rfl⟩ := Nat.exists_eq_succ_of_ne_zero (Nat.ne_zero_of_lt hfuel)
  obtain ⟨room, rfl⟩ := Nat.exists_eq_succ_of_ne_zero (Nat.ne_zero_of_lt hroom)
  have hitems : takeItems fuel room (t ++ rest) = some (xs, rest) :=
    takeItems_itemsText h (by simp at hfuel; omega) (Nat.le_of_succ_le_succ hroom)
  rw [List.cons_append, takeValue_array, hitems]
  rfl

theorem Reads.mono {depth' : Nat} (h : Reads depth p v) (hle : depth ≤ depth') : Reads depth' p v :=
  ⟨h.head, fun fuel room rest hfuel hroom => h.take fuel room rest hfuel (Nat.le_trans hle hroom)⟩

theorem inlineItems_eq_map (xs : List Value) : inlineItems xs = xs.map inline := by
  induction xs with
  | nil => rfl
  | cons x xs ih => rw [inlineItems, ih, List.map_cons]

/-- Items on one line, with a comma and a blank between two. -/
theorem itemsText_line {g : List Char} (hg : Gap g) (h : ∀ x ∈ xs, Reads depth (inline x) x) :
    ItemsText depth xs (g ++ (List.intercalate [',', ' '] (xs.map inline) ++ [']'])) := by
  induction xs generalizing g with
  | nil => exact .close hg
  | cons x xs ih =>
    obtain ⟨hx, hxs⟩ := List.forall_mem_cons.mp h
    cases xs with
    | nil => simpa using ItemsText.last hg hx
    | cons y xs =>
      have hrest := ih (g := [' ']) (List.forall_mem_singleton.mpr (Or.inl rfl)) hxs
      have htext : List.intercalate [',', ' '] ((x :: y :: xs).map inline) ++ [']'] =
          inline x ++ ',' :: ([' '] ++
            (List.intercalate [',', ' '] ((y :: xs).map inline) ++ [']'])) := by
        simp [List.intercalate]
      rw [htext]
      exact .item hg hx hrest

/-- Items on lines of their own, with a comma behind each. -/
theorem itemsText_lines {g : List Char} (hg : Gap g) (h : ∀ x ∈ xs, Reads depth (inline x) x) :
    ItemsText depth xs
      (g ++ ((xs.flatMap fun x => [' ', ' ', ' ', ' '] ++ inline x ++ [',', '\n']) ++ [']'])) := by
  induction xs generalizing g with
  | nil => exact .close hg
  | cons x xs ih =>
    obtain ⟨hx, hxs⟩ := List.forall_mem_cons.mp h
    have hrest := ih (g := ['\n']) (List.forall_mem_singleton.mpr (Or.inr rfl)) hxs
    have hgap : Gap (g ++ [' ', ' ', ' ', ' ']) :=
      List.forall_mem_append.mpr ⟨hg, by simp⟩
    have hitem := ItemsText.item hgap hx hrest
    simpa using hitem

theorem quoted_head (cs : List Char) : ∃ c r, quoted cs = c :: r ∧ (c = '"' ∨ c = '\'') := by
  unfold quoted
  cases quoting cs
  · exact ⟨_, _, rfl, Or.inl rfl⟩
  · exact ⟨_, _, rfl, Or.inr rfl⟩
  · exact ⟨_, _, rfl, Or.inl rfl⟩
  · exact ⟨_, _, rfl, Or.inr rfl⟩

theorem reads_quoted (s : String) : Reads 0 (quoted s.toList) (.string s) := by
  obtain ⟨c, r, hc, hquote⟩ := quoted_head s.toList
  refine ⟨⟨c, r, hc, ?_⟩, fun fuel room rest hfuel _ hrest => ?_⟩
  · rcases hquote with rfl | rfl <;> decide
  · obtain ⟨fuel, rfl⟩ := Nat.exists_eq_succ_of_ne_zero (Nat.ne_zero_of_lt hfuel)
    have hread := takeString_quoted s.toList hrest
    rw [hc, List.cons_append] at hread ⊢
    rw [takeValue_string hquote, hread, String.ofList_toList]
    rfl

theorem intText_head (i : Int) :
    ∃ c r, intText i = c :: r ∧ (c.isDigit = true ∨ c = '-') := by
  cases i with
  | ofNat n =>
    obtain ⟨c, r, hc, hdigit⟩ := exists_digitsOf n
    exact ⟨c, r, hc, Or.inl hdigit⟩
  | negSucc n => exact ⟨'-', _, rfl, Or.inr rfl⟩

theorem reads_intText {i : Int} (hlower : -9223372036854775808 ≤ i)
    (hupper : i < 9223372036854775808) : Reads 0 (intText i) (.integer i) := by
  obtain ⟨c, r, hc, hhead⟩ := intText_head i
  refine ⟨⟨c, r, hc, ?_, ?_⟩, fun fuel room rest hfuel _ hrest => ?_⟩
  · refine isBlank_eq_false_iff.mpr ⟨?_, ?_⟩ <;> (rintro rfl; revert hhead; decide)
  · intro hmem
    simp only [List.mem_cons, List.not_mem_nil, or_false] at hmem
    rcases hmem with rfl | rfl | rfl | rfl <;> revert hhead <;> decide
  · obtain ⟨fuel, rfl⟩ := Nat.exists_eq_succ_of_ne_zero (Nat.ne_zero_of_lt hfuel)
    have hread := takeNumber_intText hlower hupper hrest
    have hmoment := startsMoment_intText i hrest
    rw [hc, List.cons_append] at hread hmoment ⊢
    rw [takeValue_number hhead hmoment, hread]

theorem reads_bool (b : Bool) : Reads 0 (inline (.bool b)) (.bool b) := by
  refine ⟨?_, fun fuel room rest hfuel _ hrest => ?_⟩
  · cases b <;> exact ⟨_, _, rfl, by decide, by decide⟩
  · obtain ⟨fuel, rfl⟩ := Nat.exists_eq_succ_of_ne_zero (Nat.ne_zero_of_lt hfuel)
    exact takeValue_bool b

/-- **A value is read back from its line.** -/
theorem reads_inline (h : Ready depth v) : Reads depth (inline v) v := by
  induction h with
  | string depth s => exact (reads_quoted s).mono (Nat.zero_le depth)
  | integer depth hlower hupper => exact (reads_intText hlower hupper).mono (Nat.zero_le depth)
  | bool depth b => exact (reads_bool b).mono (Nat.zero_le depth)
  | array _ ih =>
    rw [inline, inlineItems_eq_map]
    exact Reads.array (itemsText_line gap_nil ih)

/-- **A value is read back from its lines.** -/
theorem reads_printValue (h : Ready depth v) : Reads depth (printValue v) v := by
  unfold printValue
  split
  · rename_i x y r
    cases h with
    | array h =>
      have hitems := itemsText_lines (g := ['\n']) (List.forall_mem_singleton.mpr (Or.inr rfl))
        fun x hx => reads_inline (h x hx)
      simpa using Reads.array hitems
  · exact reads_inline h

end Acceptance.Toml
