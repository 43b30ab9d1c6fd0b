import Acceptance.Toml.Parser
import Acceptance.Toml.Printer

/-!
# Strings of TOML texts read back

A printed string is read back, whichever quotes it was given.

* `Ends`: what may follow a value in a printed document.
* `Escapes`: an escape stands for a character.
* `Shows`: a character that stands for itself between double quotes.

Results:
* `escaped_cons`: what stands for a character between double quotes: an escape, the character itself,
  or a quote that is not the third of a row.
* `takeBasic_escaped`, `takeLongBasic_escaped`, `takeLiteral_append`, `takeLongLiteral_append`: each
  of the four kinds of strings is read to its end.
* `takeString_quoted`: a string is read back from the quotes that it was given.
-/

namespace Acceptance.Toml

variable {c d : Char} {cs t rest e : List Char}

/-- What follows a value starts with a line end, a comma or a bracket. -/
def Ends (rest : List Char) : Prop := ∃ c r, rest = c :: r ∧ c ∈ ['\n', ',', ']']

theorem Ends.mem (h : Ends (c :: t)) : c ∈ ['\n', ',', ']'] := by
  obtain ⟨_, _, heq, hc⟩ := h
  rwa [(List.cons.inj heq).1]

theorem Ends.ne (h : Ends (c :: t)) (hd : d ∉ ['\n', ',', ']']) : c ≠ d := by
  rintro rfl
  exact hd h.mem

theorem Ends.ne_cons (h : Ends rest) (hd : d ∉ ['\n', ',', ']']) (u : List Char) :
    rest ≠ d :: u := by
  rintro rfl
  exact hd h.mem

/-! ## Escapes -/

/-- An escape stands for a character: a letter behind a backslash, or four digits. -/
inductive Escapes : Char → List Char → Prop
  | letter {c l : Char} (h : unescape? l = some c) : Escapes c ['\\', l]
  | number {c i j k l : Char} (h : charOfHex? [i, j, k, l] = some c) :
      Escapes c ['\\', 'u', i, j, k, l]

/-- A character stands for itself between double quotes; a line end does so between three. -/
def Shows (isLong : Bool) (c : Char) : Prop :=
  c ≠ '"' ∧ c ≠ '\\' ∧ (isText c = true ∨ isLong = true ∧ c = '\n')

theorem charOfHex?_hexQuad :
    ∀ n < 128, (hexQuad n).length = 4 ∧ charOfHex? (hexQuad n) = some (Char.ofNat n) := by
  decide +kernel

theorem isControl_lt (h : isControl c = true) : c.toNat < 128 := by
  simp only [isControl, Bool.or_eq_true, Bool.and_eq_true, decide_eq_true_eq, beq_iff_eq] at h
  rcases h with ⟨⟨h, -⟩, -⟩ | rfl
  · have hlt : c.toNat < ' '.toNat := h
    exact Nat.lt_trans hlt (by decide)
  · decide

theorem isText_of_not_control (h : isControl c = false) (hn : c ≠ '\n') : isText c = true := by
  simp only [isControl, Bool.or_eq_false_iff, Bool.and_eq_false_iff, decide_eq_false_iff_not,
    bne_eq_false_iff_eq, beq_eq_false_iff_ne] at h
  obtain ⟨(h | h) | h, hdel⟩ := h
  · simp [isText, hdel, Char.not_lt.mp h]
  · simp [isText, h]
  · exact absurd h hn

theorem escapes_hexQuad (h : c.toNat < 128) : Escapes c ('\\' :: 'u' :: hexQuad c.toNat) := by
  obtain ⟨hlength, hchar⟩ := charOfHex?_hexQuad c.toNat h
  rw [Char.ofNat_toNat] at hchar
  match hexQuad c.toNat, hlength, hchar with
  | [i, j, k, l], _, hchar => exact .number hchar

/-- A character that always has an escape has one that stands for it. -/
theorem escapes_of_escape? (h : escape? c = some e) : Escapes c e := by
  unfold escape? at h
  repeat' split at h
  all_goals first
    | (obtain rfl := Option.some.inj h; rename_i heq; obtain rfl := beq_iff_eq.mp heq
       exact .letter rfl)
    | skip
  · obtain rfl := Option.some.inj h
    exact escapes_hexQuad (isControl_lt ‹_›)
  · cases h

theorem shows_of_escape? {isLong : Bool} (h : escape? c = none) (hq : c ≠ '"')
    (hn : c = '\n' → isLong = true) : Shows isLong c := by
  unfold escape? at h
  repeat' split at h
  all_goals first
    | cases h; done
    | skip
  rename_i hb hcontrol
  refine ⟨hq, fun hc => hb (beq_iff_eq.mpr hc), ?_⟩
  by_cases hline : c = '\n'
  · exact Or.inr ⟨hn hline, hline⟩
  · exact Or.inl (isText_of_not_control (Bool.eq_false_iff.mpr hcontrol) hline)

/-- What stands for a character between double quotes: a quote that two others do not precede, an
escape, or the character itself. -/
theorem escaped_cons (isLong : Bool) (run : Nat) (c : Char) (r : List Char) :
    (c = '"' ∧ isLong = true ∧ run < 2 ∧
        escaped isLong run (c :: r) = '"' :: escaped isLong (run + 1) r) ∨
      (∃ e, Escapes c e ∧ escaped isLong run (c :: r) = e ++ escaped isLong 0 r) ∨
      (Shows isLong c ∧ escaped isLong run (c :: r) = c :: escaped isLong 0 r) := by
  rw [escaped]
  split
  · rename_i hq
    obtain rfl := beq_iff_eq.mp hq
    by_cases hrun : run < if isLong then 2 else 0
    · rw [if_pos hrun]
      cases isLong with
      | false => exact absurd hrun (Nat.not_lt_zero run)
      | true => exact Or.inl ⟨rfl, rfl, hrun, rfl⟩
    · rw [if_neg hrun]
      exact Or.inr (Or.inl ⟨['\\', '"'], .letter rfl, rfl⟩)
  · rename_i hq
    have hq' : c ≠ '"' := fun hc => hq (beq_iff_eq.mpr hc)
    split
    · rename_i hline
      obtain rfl : c = '\n' := beq_iff_eq.mp (Bool.and_eq_true_iff.mp hline).1
      exact Or.inr (Or.inl ⟨['\\', 'n'], .letter rfl, rfl⟩)
    · rename_i hline
      cases he : escape? c with
      | some e => exact Or.inr (Or.inl ⟨e, escapes_of_escape? he, rfl⟩)
      | none =>
        refine Or.inr (Or.inr ⟨shows_of_escape? he hq' fun hc => ?_, rfl⟩)
        simpa [hc] using hline

/-! ## Between one quote each -/

theorem takeBasic_escapes (h : Escapes c e) (ht : takeBasic t = some (cs, rest)) :
    takeBasic (e ++ t) = some (c :: cs, rest) := by
  cases h with
  | number h => simp [takeBasic, h, ht]
  | @letter l h =>
    have hu : l ≠ 'u' := by rintro rfl; cases h
    have hU : l ≠ 'U' := by rintro rfl; cases h
    simp [takeBasic, hu, hU, h, ht]

theorem takeBasic_shows (h : Shows false c) (ht : takeBasic t = some (cs, rest)) :
    takeBasic (c :: t) = some (c :: cs, rest) := by
  obtain ⟨hq, hb, htext | ⟨hlong, -⟩⟩ := h
  · simp [takeBasic, hb, htext, ht]
  · cases hlong

/-- A string between double quotes is read to its end. -/
theorem takeBasic_escaped (run : Nat) (cs rest : List Char) :
    takeBasic (escaped false run cs ++ '"' :: rest) = some (cs, rest) := by
  induction cs generalizing run with
  | nil => rfl
  | cons c r ih =>
    obtain ⟨-, hlong, -⟩ | ⟨e, he, heq⟩ | ⟨hc, heq⟩ := escaped_cons false run c r
    · cases hlong
    · rw [heq, List.append_assoc]
      exact takeBasic_escapes he (ih 0)
    · rw [heq, List.cons_append]
      exact takeBasic_shows hc (ih 0)

/-- A string between single quotes is read to its end. -/
theorem takeLiteral_append (h : ∀ c ∈ cs, isText c = true ∧ c ≠ '\'') :
    takeLiteral (cs ++ '\'' :: rest) = some (cs, rest) := by
  induction cs with
  | nil => rfl
  | cons c r ih =>
    obtain ⟨⟨htext, hq⟩, hr⟩ := List.forall_mem_cons.mp h
    simp [takeLiteral, htext, ih hr]

/-! ## Between three quotes -/

theorem takeLongBasic_escapes (h : Escapes c e) (ht : takeLongBasic .text t = some (cs, rest)) :
    takeLongBasic .text (e ++ t) = some (c :: cs, rest) := by
  cases h with
  | number h => simp [takeLongBasic, h, ht]
  | @letter l h =>
    have hu : l ≠ 'u' := by rintro rfl; cases h
    have hU : l ≠ 'U' := by rintro rfl; cases h
    simp [takeLongBasic, hu, hU, h, ht]

theorem takeLongBasic_shows (h : Shows true c) (ht : takeLongBasic .text t = some (cs, rest)) :
    takeLongBasic .text (c :: t) = some (c :: cs, rest) := by
  obtain ⟨hq, hb, htext⟩ := h
  have hr : c ≠ '\r' := by rintro rfl; revert htext; decide
  have hc : (c == '\n' || (isText c && c != '\\')) = true := by
    rcases htext with htext | ⟨-, rfl⟩
    · simp [htext, hb]
    · rfl
  simp [takeLongBasic, hq, hb, hr, hc, ht]

/-- A quote is part of the string if the last three do not begin with it. -/
theorem takeLongBasic_quote (h : ∀ u, t ≠ '"' :: '"' :: u)
    (ht : takeLongBasic .text t = some (cs, rest)) :
    takeLongBasic .text ('"' :: t) = some ('"' :: cs, rest) := by
  simp [takeLongBasic, h, ht, isText]

/-- Unless it is a quote of its own, what stands for a character does not start with one. -/
theorem escaped_head (isLong : Bool) (run : Nat) (h : c = '"' → isLong = true → 2 ≤ run)
    (r : List Char) : ∃ x u, escaped isLong run (c :: r) = x :: u ∧ x ≠ '"' := by
  obtain ⟨hc, hlong, hrun, -⟩ | ⟨e, he, heq⟩ | ⟨⟨hq, -⟩, heq⟩ := escaped_cons isLong run c r
  · exact absurd hrun (Nat.not_lt.mpr (h hc hlong))
  · cases he <;> exact ⟨_, _, heq, by decide⟩
  · exact ⟨_, _, heq, hq⟩

/-- Behind a quote two more follow only at the end of the string. -/
theorem escaped_append_ne {run : Nat} (hrun : 0 < run) (hne : cs ≠ [])
    (hquote : cs = ['"'] → 2 ≤ run) (t u : List Char) :
    escaped true run cs ++ t ≠ '"' :: '"' :: u := by
  obtain ⟨c, r, rfl⟩ := List.exists_cons_of_ne_nil hne
  by_cases hc : c = '"' → 2 ≤ run
  · obtain ⟨x, v, hx, hxq⟩ := escaped_head true run (fun h _ => hc h) r
    simp [hx, hxq]
  · obtain ⟨rfl, hlt⟩ := Classical.not_imp.mp hc
    have hone : escaped true run ('"' :: r) = '"' :: escaped true (run + 1) r := by
      simp [escaped, Nat.lt_of_not_le hlt]
    have hr : r ≠ [] := by
      rintro rfl
      exact hlt (hquote rfl)
    obtain ⟨d, r, rfl⟩ := List.exists_cons_of_ne_nil hr
    obtain ⟨x, v, hx, hxq⟩ := escaped_head (c := d) true (run + 1) (fun _ _ => Nat.succ_le_succ hrun) r
    simp [hone, hx, hxq]

/-- A string between three double quotes is read to its end, where up to two quotes of its own may
stand before them. -/
theorem takeLongBasic_escaped (hrest : ∀ r, rest ≠ '"' :: r) (run : Nat) (cs : List Char) :
    takeLongBasic .text (escaped true run cs ++ '"' :: '"' :: '"' :: rest) = some (cs, rest) := by
  induction cs generalizing run with
  | nil => simp [escaped, takeLongBasic, hrest]
  | cons c r ih =>
    obtain ⟨rfl, -, hrun, heq⟩ | ⟨e, he, heq⟩ | ⟨hc, heq⟩ := escaped_cons true run c r
    · rw [heq, List.cons_append]
      -- What follows a quote: the last three, one more and the last three, or no three quotes.
      by_cases hnil : r = []
      · subst hnil
        simp [escaped, takeLongBasic]
      by_cases hlast : r = ['"'] ∧ run = 0
      · obtain ⟨rfl, rfl⟩ := hlast
        simp [escaped, takeLongBasic]
      · refine takeLongBasic_quote (escaped_append_ne run.succ_pos hnil ?_ _) (ih (run + 1))
        exact fun hr => Nat.succ_le_succ (Nat.pos_of_ne_zero fun h0 => hlast ⟨hr, h0⟩)
    · rw [heq, List.append_assoc]
      exact takeLongBasic_escapes he (ih 0)
    · rw [heq, List.cons_append]
      exact takeLongBasic_shows hc (ih 0)

theorem takeLongLiteral_quote (h : ∀ u, t ≠ '\'' :: '\'' :: u)
    (ht : takeLongLiteral t = some (cs, rest)) :
    takeLongLiteral ('\'' :: t) = some ('\'' :: cs, rest) := by
  simp [takeLongLiteral, h, ht, isText]

theorem append_ne_of_longestRun {n : Nat} (h : longestRun '\'' cs (n + 1) ≤ 2) (hne : cs ≠ [])
    (hquote : cs ≠ ['\'']) (t u : List Char) : cs ++ t ≠ '\'' :: '\'' :: u := by
  match cs, hne, hquote, h with
  | [c], _, hquote, _ =>
    have hc : c ≠ '\'' := fun hc => hquote (hc ▸ rfl)
    simp [hc]
  | c :: d :: r, _, _, h =>
    rintro heq
    obtain ⟨rfl, rfl, -⟩ : c = '\'' ∧ d = '\'' ∧ r ++ t = u := by simpa using heq
    simp only [longestRun, beq_self_eq_true, if_true] at h
    omega

/-- A string between three single quotes is read to its end, where up to two quotes of its own may
stand before them. -/
theorem takeLongLiteral_append (hrest : ∀ r, rest ≠ '\'' :: r) {n : Nat}
    (hplain : ∀ c ∈ cs, c = '\n' ∨ isText c = true) (hrun : longestRun '\'' cs n ≤ 2) :
    takeLongLiteral (cs ++ '\'' :: '\'' :: '\'' :: rest) = some (cs, rest) := by
  induction cs generalizing n with
  | nil => simp [takeLongLiteral, hrest]
  | cons c r ih =>
    obtain ⟨hc, hr⟩ := List.forall_mem_cons.mp hplain
    by_cases hq : c = '\''
    · subst hq
      simp only [longestRun, beq_self_eq_true, if_true, Nat.max_le] at hrun
      rw [List.cons_append]
      by_cases hnil : r = []
      · subst hnil
        simp [takeLongLiteral]
      by_cases hlast : r = ['\'']
      · subst hlast
        simp [takeLongLiteral]
      · exact takeLongLiteral_quote (append_ne_of_longestRun hrun.2 hnil hlast _) (ih hr hrun.2)
    · have hreturn : c ≠ '\r' := by rintro rfl; revert hc; decide
      simp only [longestRun, beq_iff_eq, hq, if_false] at hrun
      simp [takeLongLiteral, hq, hreturn, hc, ih hr hrun]

/-! ## Any quotes -/

theorem takeNewline_eq_none (hn : c ≠ '\n') (hr : c ≠ '\r') : takeNewline (c :: t) = none := by
  simp [takeNewline, hn, hr]

/-- The line end that a long string starts with is dropped, and there is none to drop otherwise. -/
theorem dropNewline_lead (h : '\n' ∉ cs → takeNewline t = none) :
    dropNewline ((if cs.contains '\n' then ['\n'] else []) ++ t) = t := by
  split
  · rfl
  · rename_i hn
    have hnone := h (by simpa using hn)
    simp [dropNewline, hnone]

theorem takeNewline_escaped (h : '\n' ∉ cs) :
    takeNewline (escaped true 0 cs ++ '"' :: t) = none := by
  cases cs with
  | nil => rfl
  | cons c r =>
    obtain ⟨-, -, -, heq⟩ | ⟨e, he, heq⟩ | ⟨⟨-, -, hc⟩, heq⟩ := escaped_cons true 0 c r
    · rw [heq]
      rfl
    · rw [heq]
      cases he <;> rfl
    · rw [heq]
      have hn : c ≠ '\n' := fun hc => h (hc ▸ List.mem_cons_self)
      have hr : c ≠ '\r' := by rintro rfl; revert hc; decide
      exact takeNewline_eq_none hn hr

theorem takeNewline_append (h : '\n' ∉ cs) (hplain : ∀ c ∈ cs, c = '\n' ∨ isText c = true) :
    takeNewline (cs ++ '\'' :: t) = none := by
  cases cs with
  | nil => rfl
  | cons c r =>
    have hn : c ≠ '\n' := fun hc => h (hc ▸ List.mem_cons_self)
    have hr : c ≠ '\r' := by
      rintro rfl
      exact absurd (hplain '\r' List.mem_cons_self) (by decide)
    exact takeNewline_eq_none hn hr

/-- Single quotes hold a string on one line, without control characters and without them. -/
theorem quoting_literal (h : quoting cs = .literal) :
    cs.any isControl = false ∧ '\n' ∉ cs ∧ '\'' ∉ cs := by
  grind [quoting]

/-- Three single quotes hold a string without control characters, and with at most two in a row. -/
theorem quoting_longLiteral (h : quoting cs = .longLiteral) :
    cs.any isControl = false ∧ longestRun '\'' cs 0 ≤ 2 := by
  grind [quoting]

theorem isText_of_no_controls (h : cs.any isControl = false) (hc : c ∈ cs) :
    c = '\n' ∨ isText c = true := by
  by_cases hn : c = '\n'
  · exact Or.inl hn
  · exact Or.inr (isText_of_not_control (Bool.eq_false_iff.mpr (List.any_eq_false.mp h c hc)) hn)

theorem takeString_basic (hrest : Ends rest) :
    takeString ('"' :: (escaped false 0 cs ++ '"' :: rest)) = some (String.ofList cs, rest) := by
  have hdouble := hrest.ne_cons (d := '"') (by decide)
  -- Where the string is empty its quotes stand side by side, and no third one follows.
  have hshort : ∀ r, escaped false 0 cs ++ '"' :: rest ≠ '"' :: '"' :: r := by
    cases cs with
    | nil => simp [escaped, hdouble]
    | cons c r =>
      obtain ⟨x, u, hx, hxq⟩ := escaped_head (c := c) false 0 (fun _ h => nomatch h) r
      simp [hx, hxq]
  rw [takeString, takeBasic_escaped]
  · rfl
  · exact hshort

theorem takeString_literal (h : quoting cs = .literal) :
    takeString ('\'' :: (cs ++ '\'' :: rest)) = some (String.ofList cs, rest) := by
  obtain ⟨hplain, hn, hq⟩ := quoting_literal h
  have hread : takeLiteral (cs ++ '\'' :: rest) = some (cs, rest) :=
    takeLiteral_append fun c hc =>
      ⟨(isText_of_no_controls hplain hc).resolve_left fun h => hn (h ▸ hc), fun h => hq (h ▸ hc)⟩
  have hshort : ∀ r, cs ++ '\'' :: rest ≠ '\'' :: '\'' :: r := by
    cases cs with
    | nil => cases h
    | cons c r =>
      have hc : c ≠ '\'' := fun hc => hq (hc ▸ List.mem_cons_self)
      simp [hc]
  rw [takeString, hread]
  · rfl
  · exact hshort

theorem takeString_longBasic (hrest : Ends rest) :
    takeString (long '"' cs (escaped true 0 cs) ++ rest) = some (String.ofList cs, rest) := by
  have htext : long '"' cs (escaped true 0 cs) ++ rest =
      '"' :: '"' :: '"' :: ((if cs.contains '\n' then ['\n'] else []) ++
        (escaped true 0 cs ++ '"' :: '"' :: '"' :: rest)) := by simp [long]
  rw [htext, takeString, dropNewline_lead takeNewline_escaped,
    takeLongBasic_escaped (hrest.ne_cons (by decide))]
  rfl

theorem takeString_longLiteral (h : quoting cs = .longLiteral) (hrest : Ends rest) :
    takeString (long '\'' cs cs ++ rest) = some (String.ofList cs, rest) := by
  obtain ⟨hcontrols, hrun⟩ := quoting_longLiteral h
  have hplain : ∀ c ∈ cs, c = '\n' ∨ isText c = true := fun c hc =>
    isText_of_no_controls hcontrols hc
  have htext : long '\'' cs cs ++ rest =
      '\'' :: '\'' :: '\'' :: ((if cs.contains '\n' then ['\n'] else []) ++
        (cs ++ '\'' :: '\'' :: '\'' :: rest)) := by simp [long]
  rw [htext, takeString, dropNewline_lead fun hn => takeNewline_append hn hplain,
    takeLongLiteral_append (hrest.ne_cons (by decide)) hplain hrun]
  rfl

/-- **A string is read back from the quotes that it was given.** -/
theorem takeString_quoted (cs : List Char) (hrest : Ends rest) :
    takeString (quoted cs ++ rest) = some (String.ofList cs, rest) := by
  unfold quoted
  cases hq : quoting cs with
  | basic => simpa using takeString_basic hrest
  | literal => simpa using takeString_literal hq
  | longBasic => exact takeString_longBasic hrest
  | longLiteral => exact takeString_longLiteral hq hrest

end Acceptance.Toml
