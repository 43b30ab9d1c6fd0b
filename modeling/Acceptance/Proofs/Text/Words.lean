import Acceptance.Text.Blank

/-!
# Pieces between blanks

The words of a text are the pieces that blanks keep apart in it.

* `Blanks`, `Solid`: blanks only; a piece of a text, without a blank in it.
* `Spaced`: pieces in order, with blanks between them, and perhaps before and behind them.

Results:
* `exists_spaced`: every text is spaced into pieces.
* `words_eq_iff`: the words of a text are the pieces that it is spaced into, and no others.
* `words_trim`: trimming a text leaves its words.
-/

namespace Acceptance.Text

variable {p s t : List Char} {ps : List (List Char)}

/-- Blanks only. -/
def Blanks (s : List Char) : Prop := ∀ c ∈ s, isBlank c = true

/-- Something, and no blank in it. -/
def Solid (p : List Char) : Prop := p ≠ [] ∧ ∀ c ∈ p, isBlank c = false

/-- A text holds pieces in order. Where a piece ends there is a blank, or the end of the text. -/
inductive Spaced : List (List Char) → List Char → Prop
  | blanks {s : List Char} (h : Blanks s) : Spaced [] s
  | piece {gap p s : List Char} {ps : List (List Char)} (hgap : Blanks gap) (hp : Solid p)
      (hs : ∀ c ∈ s.head?, isBlank c = true) (h : Spaced ps s) : Spaced (p :: ps) (gap ++ p ++ s)

/-! ## Words -/

theorem words_blank {c : Char} (hc : isBlank c = true) : words (c :: s) = words s := by
  simp [words, hc]

theorem words_blanks_append (h : Blanks t) (s : List Char) : words (t ++ s) = words s := by
  induction t with
  | nil => rfl
  | cons c t ih =>
    rw [List.cons_append, words_blank (h c List.mem_cons_self),
      ih fun d hd => h d (List.mem_cons_of_mem c hd)]

/-- A piece is a word where it ends. -/
theorem words_solid_append (hp : Solid p) (hs : ∀ c ∈ s.head?, isBlank c = true) :
    words (p ++ s) = p :: words s := by
  obtain ⟨hne, hsolid⟩ := hp
  induction p with
  | nil => exact absurd rfl hne
  | cons c p ih =>
    have hc : isBlank c = false := hsolid c List.mem_cons_self
    cases p with
    | nil =>
      cases s with
      | nil => simp [words, hc]
      | cons d s => simp [words, hc, hs d rfl]
    | cons d p =>
      have hd : isBlank d = false := hsolid d (List.mem_cons_of_mem c List.mem_cons_self)
      have ih := ih (List.cons_ne_nil d p) fun e he => hsolid e (List.mem_cons_of_mem c he)
      rw [List.cons_append] at ih
      rw [List.cons_append, List.cons_append, words]
      simp only [hc, hd, ih, Bool.false_eq_true, if_false]

theorem Spaced.words_eq (h : Spaced ps s) : words s = ps := by
  induction h with
  | blanks h => exact words_eq_nil_iff.mpr (List.all_eq_true.mpr h)
  | piece hgap hp hs _ ih =>
    rw [List.append_assoc, words_blanks_append hgap, words_solid_append hp hs, ih]

theorem Spaced.blank_cons {c : Char} (hc : isBlank c = true) (h : Spaced ps s) :
    Spaced ps (c :: s) := by
  cases h with
  | blanks h => exact .blanks (List.forall_mem_cons.mpr ⟨hc, h⟩)
  | piece hgap hp hs h => exact .piece (List.forall_mem_cons.mpr ⟨hc, hgap⟩) hp hs h

/-- A character before a piece that starts at once belongs to it. -/
theorem Spaced.solid_cons {c d : Char} (hc : isBlank c = false) (hd : isBlank d = false)
    (h : Spaced ps (d :: s)) : ∃ q qs, ps = q :: qs ∧ Spaced ((c :: q) :: qs) (c :: d :: s) := by
  generalize ht : d :: s = t at h
  cases h with
  | blanks h =>
    subst ht
    rw [h d List.mem_cons_self] at hd
    cases hd
  | @piece gap q s' qs hgap hp hs h =>
    refine ⟨q, qs, rfl, ?_⟩
    have hgap : gap = [] := by
      cases gap with
      | nil => rfl
      | cons e gap =>
        cases ht
        rw [hgap d List.mem_cons_self] at hd
        cases hd
    subst hgap
    have hsolid : Solid (c :: q) :=
      ⟨List.cons_ne_nil c q, List.forall_mem_cons.mpr ⟨hc, hp.2⟩⟩
    have hnone : Blanks [] := List.forall_mem_nil _
    exact .piece hnone hsolid hs h

theorem exists_spaced (s : List Char) : ∃ ps, Spaced ps s := by
  induction s with
  | nil => exact ⟨[], .blanks (List.forall_mem_nil _)⟩
  | cons c s ih =>
    obtain ⟨ps, h⟩ := ih
    by_cases hc : isBlank c = true
    · exact ⟨ps, h.blank_cons hc⟩
    rw [Bool.not_eq_true] at hc
    by_cases hs : ∀ d ∈ s.head?, isBlank d = true
    · have hone : Solid [c] := ⟨List.cons_ne_nil c [], List.forall_mem_singleton.mpr hc⟩
      exact ⟨[c] :: ps, .piece (List.forall_mem_nil _) hone hs h⟩
    · cases s with
      | nil => exact absurd (fun d hd => nomatch hd) hs
      | cons d s =>
        have hd : isBlank d = false := by simpa using hs
        obtain ⟨q, qs, -, h⟩ := h.solid_cons hc hd
        exact ⟨_, h⟩

/-- **The words of a text are the pieces that it is spaced into.** -/
theorem words_eq_iff : words s = ps ↔ Spaced ps s := by
  refine ⟨fun h => ?_, Spaced.words_eq⟩
  obtain ⟨qs, hqs⟩ := exists_spaced s
  rwa [← h, hqs.words_eq]

/-! ## Trimming -/

theorem Spaced.append_blanks (ht : Blanks t) (h : Spaced ps s) : Spaced ps (s ++ t) := by
  induction h with
  | blanks h => exact .blanks (List.forall_mem_append.mpr ⟨h, ht⟩)
  | @piece gap p s ps hgap hp hs _ ih =>
    rw [List.append_assoc]
    refine .piece hgap hp ?_ ih
    cases s with
    | nil => exact fun c hc => ht c (List.mem_of_head? hc)
    | cons d s => exact hs

theorem exists_trim (s : List Char) : ∃ a b, s = a ++ trim s ++ b ∧ Blanks a ∧ Blanks b := by
  have hblanks (l : List Char) : Blanks (l.takeWhile isBlank) := List.all_eq_true.mp List.all_takeWhile
  refine ⟨s.takeWhile isBlank, ((trimStart s).reverse.takeWhile isBlank).reverse, ?_, hblanks s, ?_⟩
  · rw [trim, trimEnd, List.append_assoc, ← List.reverse_append, List.takeWhile_append_dropWhile,
      List.reverse_reverse, trimStart, List.takeWhile_append_dropWhile]
  · exact fun c hc => hblanks _ c (List.mem_reverse.mp hc)

/-- Trimming a text leaves its words. -/
theorem words_trim (s : List Char) : words (trim s) = words s := by
  obtain ⟨a, b, hs, ha, hb⟩ := exists_trim s
  have h : Spaced (words (trim s)) (trim s ++ b) := (words_eq_iff.mp rfl).append_blanks hb
  conv => rhs; rw [hs, List.append_assoc, words_blanks_append ha, h.words_eq]

end Acceptance.Text
