import Acceptance.Text.Blank
import Acceptance.Text.Lines
import Acceptance.Text.Utf8

/-!
# Lines of decoded octets

Octets are decoded line by line: a line feed among them is always read as one, whatever comes before
it, and nothing else is.

* `Utf8.Wide`: the character under way will be none below `0x80`.

Results:
* `Utf8.newline_not_mem_decodeLossy`: no line feed is read where there is none.
* `lines_append`: the lines up to a line feed, and those behind it.
* `lines_newline`: the one line that a line feed ends.
-/

namespace Acceptance.Text

namespace Utf8

/-- The character under way will be none below `0x80`: its bits are enough for that, or will be. -/
def Wide (s : State) : Prop :=
  ∀ p ∈ s, 2 ≤ p.bits ∨ 2 ≤ p.owed ∧ (1 ≤ p.bits ∨ 0x82 ≤ p.low)

theorem wide_none : Wide none := by simp [Wide]

theorem wide_some {p : Pending} (h : 2 ≤ p.bits ∨ 2 ≤ p.owed ∧ (1 ≤ p.bits ∨ 0x82 ≤ p.low)) :
    Wide (some p) := by
  simpa [Wide] using h

theorem wide_start (b : Nat) : Wide (start b).2 := by
  unfold start
  repeat' split
  all_goals first
    | exact wide_none
    | (refine wide_some ?_; dsimp only; omega)

theorem wide_step {s : State} (hs : Wide s) (b : Nat) : Wide (step s b).2 := by
  cases s with
  | none => exact wide_start b
  | some p =>
    have hp := hs p rfl
    simp only [step]
    split
    · split
      · exact wide_none
      · -- The next octet is at least `low`, so the bits grow to at least two whatever they were.
        exact wide_some (Or.inl (by dsimp only; omega))
    · exact wide_start b

theorem ofNat_ne_newline {n : Nat} (h : n ≠ 10) : Char.ofNat n ≠ '\n' := by
  by_cases hv : n.isValidChar
  · rw [Char.ofNat, dif_pos hv]
    intro hc
    exact h (congrArg Char.toNat hc)
  · rw [Char.ofNat, dif_neg hv]
    decide

theorem newline_not_mem_start {b : Nat} (h : b ≠ 10) : '\n' ∉ (start b).1 := by
  have hr : '\n' ≠ replacement := by decide
  unfold start
  repeat' split
  all_goals simp [hr, (ofNat_ne_newline h).symm]

theorem newline_not_mem_step {s : State} (hs : Wide s) {b : Nat} (h : b ≠ 10) :
    '\n' ∉ (step s b).1 := by
  have hr : '\n' ≠ replacement := by decide
  cases s with
  | none => exact newline_not_mem_start h
  | some p =>
    have hp := hs p rfl
    simp only [step]
    split
    · split
      · have hn : p.bits * 64 + (b - 0x80) ≠ 10 := by omega
        simp [(ofNat_ne_newline hn).symm]
      · simp
    · simp [hr, newline_not_mem_start h]

theorem newline_not_mem_scan {s : State} (hs : Wide s) {bytes : List UInt8} (h : 0x0a ∉ bytes) :
    '\n' ∉ scan s bytes := by
  induction bytes generalizing s with
  | nil => cases s <;> simp [scan, replacement]
  | cons b r ih =>
    rw [List.mem_cons, not_or] at h
    have hb : b.toNat ≠ 10 := fun hb => h.1 (UInt8.toNat_inj.mp hb.symm)
    rw [scan_cons, List.mem_append, not_or]
    exact ⟨newline_not_mem_step hs hb, ih (wide_step hs _) h.2⟩

/-- **No line feed is read where there is none.** -/
theorem newline_not_mem_decodeLossy {bytes : List UInt8} (h : 0x0a ∉ bytes) :
    '\n' ∉ decodeLossy bytes :=
  newline_not_mem_scan wide_none h

/-- A line feed is read as one, whatever comes before it. -/
theorem decodeLossy_append_newline (xs ys : List UInt8) :
    decodeLossy (xs ++ 0x0a :: ys) = decodeLossy xs ++ '\n' :: decodeLossy ys :=
  decodeLossy_append_ascii xs 0x0a (by decide) ys

end Utf8

/-! ## Lines -/

theorem prepend_append {c : Char} {ls ms : List (List Char)} (h : ls ≠ []) :
    prepend c (ls ++ ms) = prepend c ls ++ ms := by
  cases ls with
  | nil => exact absurd rfl h
  | cons l ls => rfl

theorem lines_ne_nil {s : List Char} (h : s ≠ []) : lines s ≠ [] := by
  fun_cases lines s <;> simp_all

theorem lines_append_cons {c : Char} {s t : List Char} (hn : c ≠ '\n')
    (hr : c = '\r' → ∃ d r, s = d :: r ∧ d ≠ '\n')
    (ih : lines (s ++ '\n' :: t) = lines (s ++ ['\n']) ++ lines t) :
    lines (c :: s ++ '\n' :: t) = lines (c :: s ++ ['\n']) ++ lines t := by
  have hhead : ∀ u : List Char, c = '\r' → (s ++ u).head? ≠ some '\n' := by
    intro u hc
    obtain ⟨d, r, rfl, hd⟩ := hr hc
    simpa using hd
  rw [List.cons_append, List.cons_append, lines_eq_prepend hn (hhead _),
    lines_eq_prepend hn (hhead _), ih, prepend_append (lines_ne_nil (by simp))]

/-- **Lines up to a line feed and behind it** come from the text up to there and behind it. -/
theorem lines_append (s t : List Char) :
    lines (s ++ '\n' :: t) = lines (s ++ ['\n']) ++ lines t := by
  induction s with
  | nil => rfl
  | cons c s ih =>
    by_cases hn : c = '\n'
    · subst hn
      exact congrArg ([] :: ·) ih
    · by_cases hr : c = '\r'
      · -- A carriage return belongs to a line feed that follows at once.
        subst hr
        cases s with
        | nil => rfl
        | cons d r =>
          by_cases hd : d = '\n'
          · subst hd
            exact ih
          · exact lines_append_cons hn (fun _ => ⟨d, r, rfl, hd⟩) ih
      · exact lines_append_cons hn (fun h => absurd h hr) ih

/-- The one line that a line feed ends, without a carriage return before that. -/
theorem lines_newline {l : List Char} (h : '\n' ∉ l) :
    ∃ u, lines (l ++ ['\n']) = [u] ∧ (l = u ∨ l = u ++ ['\r']) := by
  induction l with
  | nil => exact ⟨[], rfl, Or.inl rfl⟩
  | cons c r ih =>
    rw [List.mem_cons, not_or] at h
    obtain ⟨u, hu, hru⟩ := ih h.2
    by_cases hend : c = '\r' ∧ r = []
    · obtain ⟨rfl, rfl⟩ := hend
      exact ⟨[], rfl, Or.inr rfl⟩
    · refine ⟨c :: u, ?_, hru.imp (congrArg (c :: ·)) (congrArg (c :: ·))⟩
      have hhead : c = '\r' → (r ++ ['\n']).head? ≠ some '\n' := by
        intro hc
        cases r with
        | nil => exact absurd ⟨hc, rfl⟩ hend
        | cons d t =>
          rintro ⟨⟩
          exact h.2 List.mem_cons_self
      rw [List.cons_append, lines_eq_prepend (fun hc => h.1 hc.symm) hhead, hu]
      rfl

end Acceptance.Text
