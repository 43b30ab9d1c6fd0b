/-!
# Lines of a text

* `lines`: the pieces between line feeds. A carriage return directly before a line feed belongs to
  the line end; nothing follows a final line feed.
* `prepend`: a character before the first of some lines.

Results:
* `lines_eq_prepend`: a character that belongs to no line end.
* `lines_append_newline`: a text of one line and what follows it.
-/

namespace Acceptance.Text

/-- The lines of a text. A last line without a line feed counts, an empty one does not. -/
def lines : List Char → List (List Char)
  | [] => []
  | '\n' :: r => [] :: lines r
  | '\r' :: '\n' :: r => [] :: lines r
  | c :: r =>
    match lines r with
    | [] => [[c]]
    | l :: ls => (c :: l) :: ls

/-- Lines, each ended by a line feed. -/
def unlines : List (List Char) → List Char
  | [] => []
  | l :: ls => l ++ '\n' :: unlines ls

/-- A character before the first of some lines. -/
def prepend (c : Char) : List (List Char) → List (List Char)
  | [] => [[c]]
  | l :: ls => (c :: l) :: ls

/-- A character that belongs to no line end belongs to the first line. -/
theorem lines_eq_prepend {c : Char} {r : List Char} (hn : c ≠ '\n')
    (hr : c = '\r' → r.head? ≠ some '\n') : lines (c :: r) = prepend c (lines r) := by
  rw [lines.eq_def]
  split
  · simp_all
  · simp_all
  · simp_all
  · rename_i d t heq
    cases heq
    cases lines r <;> rfl

theorem lines_append_newline {l : List Char} (r : List Char) (hn : '\n' ∉ l) (hr : '\r' ∉ l) :
    lines (l ++ '\n' :: r) = l :: lines r := by
  induction l with
  | nil => simp [lines]
  | cons c t ih =>
    simp only [List.mem_cons, not_or] at hn hr
    rw [List.cons_append, lines_eq_prepend (fun h => hn.1 h.symm) (fun h => absurd h.symm hr.1),
      ih hn.2 hr.2]
    rfl

theorem lines_unlines {ls : List (List Char)} (h : ∀ l ∈ ls, '\n' ∉ l ∧ '\r' ∉ l) :
    lines (unlines ls) = ls := by
  induction ls with
  | nil => simp [unlines, lines]
  | cons l t ih =>
    have hl := h l (by simp)
    rw [unlines, lines_append_newline _ hl.1 hl.2, ih fun m hm => h m (by simp [hm])]

end Acceptance.Text
