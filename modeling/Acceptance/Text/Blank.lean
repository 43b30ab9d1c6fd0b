/-!
# Blank characters

White space, the trimming of it, and the pieces of a text between it.

* `isBlank`: the property `White_Space`.
* `trim`, `isBlankText`: a text without its leading and trailing blanks; a text of blanks only.
* `words`: the maximal pieces without a blank, in order.

Results:
* `trim_eq_nil_iff`: trimming leaves nothing exactly of a text of blanks.
* `trim_blanks_append`, `trim_append_blanks`, `trim_of_ends`: blanks at either end are trimmed, and
  nothing is without one there.
* `words_eq_nil_iff`: a text has no words exactly when it is blank.
-/

namespace Acceptance.Text

/-- The property `White_Space` of the Unicode Character Database. -/
def isBlank (c : Char) : Bool :=
  let n := c.toNat
  (0x9 ≤ n && n ≤ 0xd) || n == 0x20 || n == 0x85 || n == 0xa0 || n == 0x1680 ||
    (0x2000 ≤ n && n ≤ 0x200a) || n == 0x2028 || n == 0x2029 || n == 0x202f || n == 0x205f ||
    n == 0x3000

/-- The text without its leading blanks. -/
def trimStart (s : List Char) : List Char := s.dropWhile isBlank

/-- The text without its trailing blanks. -/
def trimEnd (s : List Char) : List Char := (s.reverse.dropWhile isBlank).reverse

/-- The text without its leading and trailing blanks. -/
def trim (s : List Char) : List Char := trimEnd (trimStart s)

/-- A text that holds blanks only; the empty text is one. -/
def isBlankText (s : List Char) : Bool := s.all isBlank

/-- The piece that a character other than a blank begins: it joins the first piece of what follows
when that one starts at once. -/
def words : List Char → List (List Char)
  | [] => []
  | c :: r =>
    if isBlank c then words r
    else match r with
      | [] => [[c]]
      | d :: _ =>
        if isBlank d then [c] :: words r
        else match words r with
          | [] => [[c]]
          | w :: ws => (c :: w) :: ws

theorem trimStart_eq_nil_iff {s : List Char} : trimStart s = [] ↔ isBlankText s = true := by
  induction s with
  | nil => simp [trimStart, isBlankText]
  | cons c r ih =>
    rw [trimStart, isBlankText] at ih ⊢
    rw [List.dropWhile_cons, List.all_cons]
    by_cases h : isBlank c = true
    · rw [if_pos h, h, Bool.true_and, ih]
    · simp [h]

theorem trimEnd_eq_nil_iff {s : List Char} : trimEnd s = [] ↔ isBlankText s = true := by
  have h := @trimStart_eq_nil_iff s.reverse
  rw [isBlankText, List.all_reverse] at h
  exact List.reverse_eq_nil_iff.trans h

theorem trim_eq_nil_iff {s : List Char} : trim s = [] ↔ isBlankText s = true := by
  constructor
  · intro h
    have h1 : isBlankText (trimStart s) = true := trimEnd_eq_nil_iff.1 h
    cases ht : trimStart s with
    | nil => exact trimStart_eq_nil_iff.1 ht
    | cons c r =>
      have hc : isBlank c = false := by
        have := List.head?_dropWhile_not isBlank s
        simp only [trimStart] at ht
        simpa [ht] using this
      simp [ht, isBlankText, hc] at h1
  · intro h
    simp [trim, trimStart_eq_nil_iff.2 h, trimEnd]

/-- A blank at the end is trimmed. -/
theorem trim_append_blank {c : Char} (s : List Char) (hc : isBlank c = true) :
    trim (s ++ [c]) = trim s := by
  have hstart : trimStart (s ++ [c]) =
      if (trimStart s).isEmpty then [] else trimStart s ++ [c] := by
    rw [trimStart, List.dropWhile_append, List.dropWhile_cons_of_pos hc, List.dropWhile_nil]
    rfl
  rw [trim, hstart]
  split
  · rename_i hempty
    rw [trim, List.isEmpty_iff.mp hempty]
  · rw [trimEnd, List.reverse_append, List.reverse_singleton, List.singleton_append,
      List.dropWhile_cons_of_pos hc]
    rfl

/-- Blanks at the start are trimmed. -/
theorem trim_blanks_append {w : List Char} (s : List Char) (hw : ∀ c ∈ w, isBlank c = true) :
    trim (w ++ s) = trim s := by
  rw [trim, trimStart, List.dropWhile_append_of_pos hw]
  rfl

/-- So are blanks at the end. -/
theorem trim_append_blanks {w : List Char} (s : List Char) (hw : ∀ c ∈ w, isBlank c = true) :
    trim (s ++ w) = trim s := by
  induction w generalizing s with
  | nil => rw [List.append_nil]
  | cons c w ih =>
    rw [List.append_cons, ih _ fun d hd => hw d (List.mem_cons_of_mem c hd),
      trim_append_blank s (hw c List.mem_cons_self)]

/-- A text that starts and ends with other characters stays as it is. -/
theorem trim_of_ends {c d : Char} (s : List Char) (hc : isBlank c = false)
    (hd : isBlank d = false) : trim (c :: (s ++ [d])) = c :: (s ++ [d]) := by
  have hstart : trimStart (c :: (s ++ [d])) = c :: (s ++ [d]) := by
    rw [trimStart, List.dropWhile_cons_of_neg (by simp [hc])]
  have hend : (c :: (s ++ [d])).reverse.dropWhile isBlank = (c :: (s ++ [d])).reverse := by
    rw [← List.cons_append, List.reverse_append, List.reverse_singleton, List.singleton_append,
      List.dropWhile_cons_of_neg (by simp [hd])]
  rw [trim, hstart, trimEnd, hend, List.reverse_reverse]

theorem words_eq_nil_iff {s : List Char} : words s = [] ↔ isBlankText s = true := by
  induction s with
  | nil => simp [words, isBlankText]
  | cons c r ih =>
    by_cases h : isBlank c = true
    · simpa [words, isBlankText, h] using ih
    · constructor
      · intro hw
        exfalso
        revert hw
        unfold words
        simp only [h]
        cases r with
        | nil => simp
        | cons d t =>
          by_cases hd : isBlank d = true
          · simp [hd]
          · cases hw : words (d :: t) <;> simp [hd]
      · intro hb
        simp [isBlankText, h] at hb

end Acceptance.Text
