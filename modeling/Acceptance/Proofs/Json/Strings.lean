import Acceptance.Json.Outline
import Acceptance.Json.Printer

/-!
# Strings read back

A printed string is read back as the string it was.

* `piece`: what the reader meets where a character was printed.

Results:
* `takeString_escape`: a character is one piece of the string that it was printed in.
* `takeString_quoted`, `stringOf_pieces`: a string in quotes is read to its end, and back.
-/

namespace Acceptance.Json

/-- What the reader meets where a character was printed: most control characters are written by
their number. -/
def piece (c : Char) : Piece :=
  if c.toNat < 0x20 ∧ c ∉ ['\n', '\r', '\t', '\x08', '\x0c'] then .unit c.toNat else .char c

/-- The pieces of a printed string. -/
def pieces (s : String) : List Piece := s.toList.map piece

theorem hexQuad?_hexPair :
    ∀ n < 0x20, hexQuad? '0' '0' (Nat.digitChar (n / 16)) (Nat.digitChar (n % 16)) = some n := by
  decide

/-- **A character is one piece of the string that it was printed in.** -/
theorem takeString_escape (c : Char) (s : List Char) :
    takeString (escape c ++ s) = (piece c :: (takeString s).1, (takeString s).2) := by
  by_cases hnamed : c ∈ ['"', '\\', '\n', '\r', '\t', '\x08', '\x0c']
  · simp only [List.mem_cons, List.not_mem_nil, or_false] at hnamed
    rcases hnamed with rfl | rfl | rfl | rfl | rfl | rfl | rfl <;> rfl
  · simp only [List.mem_cons, List.not_mem_nil, or_false, not_or] at hnamed
    obtain ⟨hq, hb, hn, hr, ht, h8, hc⟩ := hnamed
    unfold escape
    simp only [if_neg hq, if_neg hb, if_neg hn, if_neg hr, if_neg ht, if_neg h8, if_neg hc]
    by_cases hlow : c.toNat < 0x20
    · have hpiece : piece c = .unit c.toNat := by simp [piece, hlow, hn, hr, ht, h8, hc]
      rw [if_pos hlow, hpiece]
      simp only [hexPair, List.cons_append, List.nil_append, takeString, hexQuad?_hexPair _ hlow]
    · have hpiece : piece c = .char c := by simp [piece, hlow]
      rw [if_neg hlow, hpiece]
      simp [takeString, hb, hlow]

/-- A string in quotes is read to its end. -/
theorem takeString_quoted (s : String) (rest : List Char) :
    takeString ((quoted s ++ rest).drop 1) = (pieces s, .ok rest) := by
  show takeString (s.toList.flatMap escape ++ ['"'] ++ rest) = (s.toList.map piece, .ok rest)
  rw [List.append_assoc]
  induction s.toList with
  | nil => rfl
  | cons c r ih =>
    rw [List.flatMap_cons, List.append_assoc, takeString_escape, ih]
    rfl

theorem joinPieces_map (cs : List Char) : joinPieces none (cs.map piece) = .ok cs := by
  induction cs with
  | nil => rfl
  | cons c r ih =>
    rw [List.map_cons]
    by_cases h : c.toNat < 0x20 ∧ c ∉ ['\n', '\r', '\t', '\x08', '\x0c']
    · have hl : isLow c.toNat = false := by
        simp only [isLow, Bool.and_eq_false_iff, decide_eq_false_iff_not]
        omega
      have hh : isHigh c.toNat = false := by
        simp only [isHigh, Bool.and_eq_false_iff, decide_eq_false_iff_not]
        omega
      rw [piece, if_pos h]
      unfold joinPieces
      simp only [hl, hh, ih, Char.ofNat_toNat, Bool.false_eq_true, if_false]
      rfl
    · rw [piece, if_neg h, joinPieces, ih]
      rfl

/-- **A printed string is read back.** -/
theorem stringOf_pieces (s : String) : stringOf (pieces s) none = .ok s := by
  unfold stringOf pieces
  rw [joinPieces_map]
  show Except.ok (String.ofList s.toList) = Except.ok s
  rw [String.ofList_toList]

end Acceptance.Json
