import Acceptance.Json.Reader
import Acceptance.Proofs.Json.Lexemes
import Acceptance.Text.Blank

/-!
# The texts of outlines

What can be passed over is spelled by a text of its own, which ends where the outline ends. What
stands behind that text, and blanks before it, make no difference to the outline.

* `Spelled`: a text is one of an outline, blanks inside it included.
* `Compound`: an outline is one of an array or an object.

Results:
* `spelled_of_outlineValue`: what is read and can be passed over is spelled by the text up to its
  end.
* `outlineValue_spelled`: what is spelled is read.
* `outline_trim`: an array or an object has the outline that it has without blanks around it,
  whichever characters count as blanks there.
-/

namespace Acceptance.Json

variable {s t p : List Char}

/-! ## Pieces of strings -/

/-- A character after a backslash is one piece of a string. -/
theorem takeString_unescape {c d : Char} (h : unescape? c = some d) (r : List Char) :
    takeString ('\\' :: c :: r) = (.char d :: (takeString r).1, (takeString r).2) := by
  have hu : c ≠ 'u' := by
    rintro rfl
    cases h
  simp [takeString, hu, h]

/-- A character that stands for itself is one piece of a string. -/
theorem takeString_plain {c : Char} (hquote : c ≠ '"') (hslash : c ≠ '\\') (h : ¬ c.toNat < 0x20)
    (r : List Char) : takeString (c :: r) = (.char c :: (takeString r).1, (takeString r).2) := by
  simp [takeString, hslash, h]

/-- A text of some pieces, up to the closing quote. -/
def StringText (ps : List Piece) (p : List Char) : Prop := ∀ t, takeString (p ++ t) = (ps, .ok t)

theorem stringText_of_takeString {ps : List Piece} (h : takeString s = (ps, .ok t)) :
    ∃ p, s = p ++ t ∧ StringText ps p := by
  fun_induction takeString s generalizing ps with
  | case2 r =>
    cases h
    exact ⟨['"'], rfl, fun u => rfl⟩
  | case3 a b c d r n hn ps' rest hr ih =>
    cases h
    obtain ⟨p, rfl, hp⟩ := ih hr
    refine ⟨'\\' :: 'u' :: a :: b :: c :: d :: p, rfl, fun u => ?_⟩
    simp only [List.cons_append, takeString, hn, hp u]
  | case6 c r _ _ d hd ps' rest hr ih =>
    cases h
    obtain ⟨p, rfl, hp⟩ := ih hr
    refine ⟨'\\' :: c :: p, rfl, fun u => ?_⟩
    rw [List.cons_append, List.cons_append, takeString_unescape hd, hp u]
  | case10 c r hquote _ _ hmore hlast hc ps' rest hr ih =>
    cases h
    have hslash : c ≠ '\\' := by
      intro hslash
      cases r with
      | nil => exact hlast hslash rfl
      | cons d r => exact hmore d r hslash rfl
    obtain ⟨p, rfl, hp⟩ := ih hr
    refine ⟨c :: p, rfl, fun u => ?_⟩
    rw [List.cons_append, takeString_plain hquote hslash hc, hp u]
  | _ => cases h

/-! ## Blanks -/

/-- A text of blanks. -/
def Blanks (w : List Char) : Prop := ∀ c ∈ w, isSpace c = true

theorem exists_blanks (s : List Char) : ∃ w, Blanks w ∧ s = w ++ skipSpace s :=
  ⟨s.takeWhile isSpace, fun _ hc => List.all_eq_true.mp List.all_takeWhile _ hc,
    List.takeWhile_append_dropWhile.symm⟩

theorem skipSpace_cons {c : Char} (h : isSpace c = false) : skipSpace (c :: s) = c :: s := by
  simp [skipSpace, h]

theorem skipSpace_blanks {w : List Char} (hw : Blanks w) (s : List Char) :
    skipSpace (w ++ s) = skipSpace s := List.dropWhile_append_of_pos hw

/-- A text before which there are blanks only. -/
theorem eq_blanks_append (h : skipSpace s = t) : ∃ w, Blanks w ∧ s = w ++ t := by
  obtain ⟨w, hw, hs⟩ := exists_blanks s
  exact ⟨w, hw, by rw [hs, h]⟩

/-- No number goes on with a blank. -/
theorem endsNumber_blanks {w : List Char} (hw : Blanks w) (ht : EndsNumber t) :
    EndsNumber (w ++ t) := by
  cases w with
  | nil => exact ht
  | cons c w =>
    have hc := hw c List.mem_cons_self
    simp only [isSpace, Bool.or_eq_true, beq_iff_eq] at hc
    rcases hc with ((rfl | rfl) | rfl) | rfl <;> exact endsNumber_cons (by decide) (by decide)

theorem skipSpace_blanks_cons {w : List Char} (hw : Blanks w) {c : Char} (hc : isSpace c = false)
    (s : List Char) : skipSpace (w ++ c :: s) = c :: s := by
  rw [skipSpace_blanks hw, skipSpace_cons hc]

/-! ## Texts -/

/-- A member of an object: its name, and a value of some kind. -/
def MemberText (name : Except Fault String) (IsValue : List Char → Prop) (p : List Char) : Prop :=
  ∃ ps k w v q, StringText ps k ∧ name = stringOf ps none ∧ Blanks w ∧ Blanks v ∧ IsValue q ∧
    p = '"' :: (k ++ (w ++ ':' :: (v ++ q)))

mutual

/-- A text that an outline is taken of, without blanks around it. -/
def Spelled : Outline → List Char → Prop
  | .null, p => p = ['n', 'u', 'l', 'l']
  | .bool true, p => p = ['t', 'r', 'u', 'e']
  | .bool false, p => p = ['f', 'a', 'l', 's', 'e']
  | .number n, p => ∃ l : Lexeme, l.Spells p ∧ n = l.number
  | .string s, p => ∃ ps q, StringText ps q ∧ s = stringOf ps none ∧ p = '"' :: q
  | .array items ending, p =>
    ending = none ∧ ∃ w q, Blanks w ∧ (items = [] ∧ q = [']'] ∨ SpelledItems items q) ∧
      p = '[' :: (w ++ q)
  | .object members ending, p =>
    ending = .closed ∧ ∃ w q, Blanks w ∧
      (members = [] ∧ q = [Char.ofNat 0x7d] ∨ SpelledMembers members q) ∧
      p = Char.ofNat 0x7b :: (w ++ q)
  | .broken _, _ => False

/-- A text of items of an array, of which there are some, up to the closing bracket. -/
def SpelledItems : List Outline → List Char → Prop
  | [], _ => False
  | [o], p => ∃ q w, Spelled o q ∧ Blanks w ∧ p = q ++ (w ++ [']'])
  | o :: x :: r, p => ∃ q w v t, Spelled o q ∧ Blanks w ∧ Blanks v ∧ SpelledItems (x :: r) t ∧
      p = q ++ (w ++ ',' :: (v ++ t))

/-- A text of members of an object, of which there are some, up to the closing brace. -/
def SpelledMembers : List (Except Fault String × Outline) → List Char → Prop
  | [], _ => False
  | [(k, o)], p => ∃ q w, MemberText k (Spelled o) q ∧ Blanks w ∧ p = q ++ (w ++ [Char.ofNat 0x7d])
  | (k, o) :: m :: r, p => ∃ q w v t, MemberText k (Spelled o) q ∧ Blanks w ∧ Blanks v ∧
      SpelledMembers (m :: r) t ∧ p = q ++ (w ++ ',' :: (v ++ t))

end

variable {fuel : Nat} {rest : List Char}

/-! ## What is read is spelled -/

/-- What a word stands for is taken only of the word. -/
theorem eq_append_of_takeWord {w : List Char} (h : takeWord w s = .ok t) : s = w ++ t := by
  induction w generalizing s with
  | nil =>
    cases h
    rfl
  | cons a w ih =>
    cases s with
    | nil => cases h
    | cons b s =>
      rw [takeWord] at h
      split at h
      · rename_i hab
        rw [ih h, hab]
        rfl
      · cases h

theorem spelled_of_wordOutline {w : List Char} {o x : Outline} {c : Char}
    (hx : Spelled x (c :: w)) (h : wordOutline w x s = (o, rest)) (hpass : pass o = .ok ()) :
    ∃ p, c :: s = p ++ rest ∧ Spelled o p := by
  unfold wordOutline at h
  split at h
  · rename_i r hr
    cases h
    exact ⟨c :: w, by rw [eq_append_of_takeWord hr]; rfl, hx⟩
  · cases h
    cases hpass

theorem passItems_cons {items : List Outline} {o : Outline}
    (h : passItems (o :: items) = .ok ()) : pass o = .ok () ∧ passItems items = .ok () := by
  rw [passItems] at h
  obtain ⟨_, ho, hr⟩ := bind_eq_ok_iff.mp h
  exact ⟨ho, hr⟩

theorem passMembers_cons {k : Except Fault String} {members : List (Except Fault String × Outline)}
    {o : Outline} (h : passMembers ((k, o) :: members) = .ok ()) :
    pass o = .ok () ∧ passMembers members = .ok () := by
  rw [passMembers] at h
  obtain ⟨_, ho, hr⟩ := bind_eq_ok_iff.mp h
  exact ⟨ho, hr⟩

theorem eq_none_of_endOfItems {ending : Option Fault} (h : endOfItems ending = .ok ()) :
    ending = none := by
  cases ending with
  | none => rfl
  | some f => cases h

theorem eq_closed_of_asMembers {ending : Ending} (h : ending.asMembers = .ok ()) :
    ending = .closed := by
  cases ending with
  | closed => rfl
  | broken f => cases h
  | nameless f => cases h

/-- What can be passed over of the items of an array starts with one that can, and ends or goes
on. -/
theorem outlineItems_inv {items : List Outline} {ending : Option Fault}
    (h : outlineItems (fuel + 1) s = (items, ending, rest)) (hpass : passItems items = .ok ())
    (hend : endOfItems ending = .ok ()) :
    ∃ o r, outlineValue fuel s = (o, r) ∧ pass o = .ok () ∧
      (skipSpace r = ']' :: rest ∧ items = [o] ∨
        ∃ t more, skipSpace r = ',' :: t ∧ outlineItems fuel (skipSpace t) = (more, ending, rest) ∧
          passItems more = .ok () ∧ items = o :: more) := by
  rw [outlineItems] at h
  split at h
  · cases h
    cases (passItems_cons hpass).1
  · rename_i o r _ ho
    split at h
    · rename_i t hr
      cases h
      exact ⟨o, r, ho, (passItems_cons hpass).1, Or.inl ⟨hr, rfl⟩⟩
    · rename_i t hr
      rcases hm : outlineItems fuel (skipSpace t) with ⟨more, ending', rest'⟩
      rw [hm] at h
      cases h
      obtain ⟨hpo, hpm⟩ := passItems_cons hpass
      exact ⟨o, r, ho, hpo, Or.inr ⟨t, more, hr, hm, hpm, rfl⟩⟩
    · cases h
      cases hend

/-- So it is with the members of an object. -/
theorem outlineMembers_inv {members : List (Except Fault String × Outline)} {ending : Ending}
    (h : outlineMembers (fuel + 1) s = (members, ending, rest))
    (hpass : passMembers members = .ok ()) (hend : ending.asMembers = .ok ()) :
    ∃ ps r t o u, takeString (s.drop 1) = (ps, .ok r) ∧ skipSpace r = ':' :: t ∧
      outlineValue fuel (skipSpace t) = (o, u) ∧ pass o = .ok () ∧
      (skipSpace u = Char.ofNat 0x7d :: rest ∧ members = [(stringOf ps none, o)] ∨
        ∃ v w more, skipSpace u = ',' :: v ∧ skipSpace v = '"' :: w ∧
          outlineMembers fuel ('"' :: w) = (more, ending, rest) ∧ passMembers more = .ok () ∧
          members = (stringOf ps none, o) :: more) := by
  rw [outlineMembers] at h
  split at h
  · cases h
    cases (passMembers_cons hpass).1
  rename_i ps r hs
  split at h
  · rename_i t hr
    split at h
    · cases h
      cases (passMembers_cons hpass).1
    rename_i o u _ ho
    simp only at h
    split at h
    · cases h
      cases hend
    rename_i d v hu
    split at h
    · rename_i hd
      cases h
      exact ⟨ps, r, t, o, u, hs, hr, ho, (passMembers_cons hpass).1, Or.inl ⟨hd ▸ hu, rfl⟩⟩
    split at h
    · rename_i hd
      split at h
      · rename_i w hw
        rcases hm : outlineMembers fuel ('"' :: w) with ⟨more, ending', rest'⟩
        rw [hm] at h
        cases h
        obtain ⟨hpo, hpm⟩ := passMembers_cons hpass
        exact ⟨ps, r, t, o, u, hs, hr, ho, hpo, Or.inr ⟨v, w, more, hd ▸ hu, hw, hm, hpm, rfl⟩⟩
      · cases h
        cases (passMembers_cons (passMembers_cons hpass).2).1
    · cases h
      cases hend
  · cases h
    cases (passMembers_cons hpass).1

/-- An array that can be passed over is empty, or its items can. -/
theorem outlineArray_inv {o : Outline} (h : outlineValue (fuel + 1) ('[' :: s) = (o, rest))
    (hpass : pass o = .ok ()) :
    skipSpace s = ']' :: rest ∧ o = .array [] none ∨
      ∃ items, outlineItems fuel (skipSpace s) = (items, none, rest) ∧
        passItems items = .ok () ∧ o = .array items none := by
  rw [outlineValue, if_neg (by decide), if_neg (by decide), if_neg (by decide),
    if_neg (by decide), if_pos rfl] at h
  split at h
  · rename_i t ht
    cases h
    exact Or.inl ⟨ht, rfl⟩
  · cases h
    cases hpass
  · rcases hm : outlineItems fuel (skipSpace s) with ⟨items, ending, t⟩
    rw [hm] at h
    cases h
    obtain ⟨_, hitems, hend⟩ := bind_eq_ok_iff.mp hpass
    obtain rfl := eq_none_of_endOfItems hend
    exact Or.inr ⟨items, rfl, hitems, rfl⟩

/-- So it is with an object and its members. -/
theorem outlineObject_inv {o : Outline}
    (h : outlineValue (fuel + 1) (Char.ofNat 0x7b :: s) = (o, rest)) (hpass : pass o = .ok ()) :
    skipSpace s = Char.ofNat 0x7d :: rest ∧ o = .object [] .closed ∨
      ∃ t members, skipSpace s = '"' :: t ∧
        outlineMembers fuel ('"' :: t) = (members, .closed, rest) ∧
        passMembers members = .ok () ∧ o = .object members .closed := by
  rw [outlineValue, if_neg (by decide), if_neg (by decide), if_neg (by decide),
    if_neg (by decide), if_neg (by decide), if_pos rfl] at h
  split at h
  · cases h
    cases hpass
  rename_i d t ht
  split at h
  · rename_i hd
    cases h
    exact Or.inl ⟨hd ▸ ht, rfl⟩
  split at h
  · rename_i hd
    subst hd
    rcases hm : outlineMembers fuel ('"' :: t) with ⟨members, ending, u⟩
    rw [hm] at h
    cases h
    obtain ⟨_, hmembers, hend⟩ := bind_eq_ok_iff.mp hpass
    obtain rfl := eq_closed_of_asMembers hend
    exact Or.inr ⟨t, members, ht, hm, hmembers, rfl⟩
  · cases h
    cases hpass

/-- What is neither an array nor an object is a word, a string or a number. -/
theorem spelled_of_scalar {c : Char} {o : Outline} (harray : c ≠ '[') (hobject : c ≠ Char.ofNat 0x7b)
    (h : outlineValue (fuel + 1) (c :: s) = (o, rest)) (hpass : pass o = .ok ()) :
    ∃ p, c :: s = p ++ rest ∧ Spelled o p := by
  rw [outlineValue, if_neg harray, if_neg hobject] at h
  split at h
  · rename_i hc
    subst hc
    exact spelled_of_wordOutline (x := .null) rfl h hpass
  split at h
  · rename_i hc
    subst hc
    exact spelled_of_wordOutline (x := .bool true) rfl h hpass
  split at h
  · rename_i hc
    subst hc
    exact spelled_of_wordOutline (x := .bool false) rfl h hpass
  split at h
  · rename_i hc
    subst hc
    split at h
    · rename_i ps t hs
      cases h
      obtain ⟨q, rfl, hq⟩ := stringText_of_takeString hs
      exact ⟨'"' :: q, rfl, ps, q, hq, rfl, rfl⟩
    · split at h <;> (cases h; cases hpass)
  split at h
  · split at h
    · rename_i l t hl
      cases h
      obtain ⟨p, hp, hspells⟩ := spells_of_takeNumber hl
      exact ⟨p, hp, l, hspells, rfl⟩
    · cases h
      cases hpass
  · cases h
    cases hpass

mutual

/-- **What can be passed over is spelled** by the text up to where it ends. -/
theorem spelled_of_outlineValue : (fuel : Nat) → {s : List Char} → {o : Outline} →
    {rest : List Char} → outlineValue fuel s = (o, rest) → pass o = .ok () →
      ∃ p, s = p ++ rest ∧ Spelled o p
  | 0, s, o, rest, h, hpass => by
    cases h
    cases hpass
  | fuel + 1, [], o, rest, h, hpass => by
    cases h
    cases hpass
  | fuel + 1, c :: s, o, rest, h, hpass => by
    by_cases harray : c = '['
    · subst harray
      rcases outlineArray_inv h hpass with ⟨hs, rfl⟩ | ⟨items, hm, hitems, rfl⟩
      · obtain ⟨w, hw, rfl⟩ := eq_blanks_append hs
        exact ⟨'[' :: (w ++ [']']), by simp, rfl, w, [']'], hw, Or.inl ⟨rfl, rfl⟩, rfl⟩
      · obtain ⟨q, hq, hspelled⟩ := spelledItems_of_outlineItems fuel hm hitems rfl
        obtain ⟨w, hw, rfl⟩ := eq_blanks_append hq
        exact ⟨'[' :: (w ++ q), by simp, rfl, w, q, hw, Or.inr hspelled, rfl⟩
    by_cases hobject : c = Char.ofNat 0x7b
    · subst hobject
      rcases outlineObject_inv h hpass with ⟨hs, rfl⟩ | ⟨t, members, hs, hm, hmembers, rfl⟩
      · obtain ⟨w, hw, rfl⟩ := eq_blanks_append hs
        exact ⟨_ :: (w ++ [Char.ofNat 0x7d]), by simp, rfl, w, _, hw, Or.inl ⟨rfl, rfl⟩, rfl⟩
      · obtain ⟨q, hq, hspelled⟩ := spelledMembers_of_outlineMembers fuel hm hmembers rfl
        obtain ⟨w, hw, rfl⟩ := eq_blanks_append (hs.trans hq)
        exact ⟨_ :: (w ++ q), by simp, rfl, w, q, hw, Or.inr hspelled, rfl⟩
    exact spelled_of_scalar harray hobject h hpass

theorem spelledItems_of_outlineItems : (fuel : Nat) → {s : List Char} → {items : List Outline} →
    {ending : Option Fault} → {rest : List Char} → outlineItems fuel s = (items, ending, rest) →
      passItems items = .ok () → endOfItems ending = .ok () →
      ∃ p, s = p ++ rest ∧ SpelledItems items p
  | 0, s, items, ending, rest, h, hpass, hend => by
    cases h
    cases hend
  | fuel + 1, s, items, ending, rest, h, hpass, hend => by
    obtain ⟨o, r, ho, hpo, hr⟩ := outlineItems_inv h hpass hend
    obtain ⟨q, rfl, hq⟩ := spelled_of_outlineValue fuel ho hpo
    rcases hr with ⟨hr, rfl⟩ | ⟨t, more, hr, hm, hpm, rfl⟩
    · obtain ⟨w, hw, rfl⟩ := eq_blanks_append hr
      exact ⟨q ++ (w ++ [']']), by simp, q, w, hq, hw, rfl⟩
    · obtain ⟨w, hw, rfl⟩ := eq_blanks_append hr
      obtain ⟨p, hp, hmore⟩ := spelledItems_of_outlineItems fuel hm hpm hend
      obtain ⟨v, hv, rfl⟩ := eq_blanks_append hp
      cases more with
      | nil => exact hmore.elim
      | cons x items =>
        exact ⟨q ++ (w ++ ',' :: (v ++ p)), by simp, q, w, v, p, hq, hw, hv, hmore, rfl⟩

theorem spelledMembers_of_outlineMembers : (fuel : Nat) → {s : List Char} →
    {members : List (Except Fault String × Outline)} → {ending : Ending} → {rest : List Char} →
      outlineMembers fuel ('"' :: s) = (members, ending, rest) →
      passMembers members = .ok () → ending.asMembers = .ok () →
      ∃ p, '"' :: s = p ++ rest ∧ SpelledMembers members p
  | 0, s, members, ending, rest, h, hpass, hend => by
    cases h
    cases hend
  | fuel + 1, s, members, ending, rest, h, hpass, hend => by
    obtain ⟨ps, r, t, o, u, hs, hr, ho, hpo, hu⟩ := outlineMembers_inv h hpass hend
    obtain ⟨k, hk, hps⟩ := stringText_of_takeString hs
    obtain ⟨w, hw, rfl⟩ := eq_blanks_append hr
    obtain ⟨q, hq, hvalue⟩ := spelled_of_outlineValue fuel ho hpo
    obtain ⟨v, hv, rfl⟩ := eq_blanks_append hq
    have hmember : MemberText (stringOf ps none) (Spelled o) ('"' :: (k ++ (w ++ ':' :: (v ++ q)))) :=
      ⟨ps, k, w, v, q, hps, rfl, hw, hv, hvalue, rfl⟩
    obtain rfl : s = k ++ (w ++ ':' :: (v ++ (q ++ u))) := hk
    rcases hu with ⟨hu, rfl⟩ | ⟨z, y, more, hu, hz, hm, hpm, rfl⟩
    · obtain ⟨x, hx, rfl⟩ := eq_blanks_append hu
      exact ⟨'"' :: (k ++ (w ++ ':' :: (v ++ q))) ++ (x ++ [Char.ofNat 0x7d]), by simp,
        _, x, hmember, hx, rfl⟩
    · obtain ⟨x, hx, rfl⟩ := eq_blanks_append hu
      obtain ⟨p, hp, hmore⟩ := spelledMembers_of_outlineMembers fuel hm hpm hend
      obtain ⟨a, ha, rfl⟩ := eq_blanks_append (hz.trans hp)
      cases more with
      | nil => exact hmore.elim
      | cons m members =>
        exact ⟨'"' :: (k ++ (w ++ ':' :: (v ++ q))) ++ (x ++ ',' :: (a ++ p)), by simp,
          _, x, a, p, hmember, hx, ha, hmore, rfl⟩

end

/-! ## What is spelled is read -/

/-- A number starts with neither a blank nor the end of an array. -/
theorem number_head {c : Char} (h : c = '-' ∨ (digit? c).isSome = true) :
    isSpace c = false ∧ c ≠ ']' := by
  refine ⟨?_, by rintro rfl; exact absurd h (by decide)⟩
  cases hs : isSpace c with
  | false => rfl
  | true =>
    simp only [isSpace, Bool.or_eq_true, beq_iff_eq] at hs
    rcases hs with ((rfl | rfl) | rfl) | rfl <;> exact absurd h (by decide)

theorem Spelled.ne_broken {o : Outline} (h : Spelled o p) (b : Break) : o ≠ .broken b := by
  rintro rfl
  exact h

/-- What is spelled starts with neither a blank nor the end of an array. -/
theorem Spelled.head : {o : Outline} → Spelled o p →
    ∃ c r, p = c :: r ∧ isSpace c = false ∧ c ≠ ']'
  | .null, h => ⟨'n', _, h, by decide, by decide⟩
  | .bool true, h => ⟨'t', _, h, by decide, by decide⟩
  | .bool false, h => ⟨'f', _, h, by decide, by decide⟩
  | .number n, h => by
    obtain ⟨l, hl, -⟩ := h
    have hl := takeNumber_of_spells hl endsNumber_nil
    rw [List.append_nil] at hl
    obtain ⟨c, r, hc, hd⟩ := takeNumber_head hl
    exact ⟨c, r, hc, number_head hd⟩
  | .string s, h => by
    obtain ⟨-, q, -, -, rfl⟩ := h
    exact ⟨'"', q, rfl, by decide, by decide⟩
  | .array items ending, h => by
    obtain ⟨-, w, q, -, -, rfl⟩ := h
    exact ⟨'[', w ++ q, rfl, by decide, by decide⟩
  | .object members ending, h => by
    obtain ⟨-, w, q, -, -, rfl⟩ := h
    exact ⟨_, w ++ q, rfl, by decide, by decide⟩

/-- So there are no blanks before it, whatever follows it. -/
theorem Spelled.skipSpace {o : Outline} (h : Spelled o p) (rest : List Char) :
    skipSpace (p ++ rest) = p ++ rest := by
  obtain ⟨c, r, rfl, hc, -⟩ := h.head
  exact skipSpace_cons hc

theorem Spelled.exists_fuel {o : Outline} (h : Spelled o p) (hf : 2 * p.length ≤ fuel) :
    ∃ n, fuel = n + 1 := by
  obtain ⟨c, r, rfl, -⟩ := h.head
  rw [List.length_cons] at hf
  exact Nat.exists_eq_add_one.mpr (by omega)

theorem SpelledItems.head : {items : List Outline} → SpelledItems items p →
    ∃ c r, p = c :: r ∧ isSpace c = false ∧ c ≠ ']'
  | [o], h => by
    obtain ⟨q, w, hq, -, rfl⟩ := h
    obtain ⟨c, r, rfl, hc⟩ := hq.head
    exact ⟨c, _, rfl, hc⟩
  | o :: x :: items, h => by
    obtain ⟨q, w, v, t, hq, -, -, -, rfl⟩ := h
    obtain ⟨c, r, rfl, hc⟩ := hq.head
    exact ⟨c, _, rfl, hc⟩

theorem SpelledMembers.head : {members : List (Except Fault String × Outline)} →
    SpelledMembers members p → ∃ r, p = '"' :: r
  | [(k, o)], h => by
    obtain ⟨-, w, ⟨ps, k, u, v, q, -, -, -, -, -, rfl⟩, -, rfl⟩ := h
    exact ⟨_, rfl⟩
  | (k, o) :: m :: members, h => by
    obtain ⟨-, w, v, t, ⟨ps, k, u, v, q, -, -, -, -, -, rfl⟩, -, -, -, rfl⟩ := h
    exact ⟨_, rfl⟩

theorem outlineValue_number {s : List Char} {l : Lexeme} (h : takeNumber s = .ok (l, rest)) :
    outlineValue (fuel + 1) s = (.number l.number, rest) := by
  obtain ⟨c, r, rfl, hd⟩ := takeNumber_head h
  have hne : ∀ d, ¬ (d = '-' ∨ (digit? d).isSome = true) → c ≠ d := by
    rintro d hnd rfl
    exact hnd hd
  rw [outlineValue, if_neg (hne 'n' (by decide)), if_neg (hne 't' (by decide)),
    if_neg (hne 'f' (by decide)), if_neg (hne '"' (by decide)), if_neg (hne '[' (by decide)),
    if_neg (hne _ (by decide)), if_pos hd, h]

/-- An array without items. -/
theorem outlineValue_array_nil (h : skipSpace s = ']' :: rest) :
    outlineValue (fuel + 1) ('[' :: s) = (.array [] none, rest) := by
  rw [outlineValue, if_neg (by decide), if_neg (by decide), if_neg (by decide),
    if_neg (by decide), if_pos rfl, h]
  rfl

/-- An object without members. -/
theorem outlineValue_object_nil (h : skipSpace s = Char.ofNat 0x7d :: rest) :
    outlineValue (fuel + 1) (Char.ofNat 0x7b :: s) = (.object [] .closed, rest) := by
  rw [outlineValue, if_neg (by decide), if_neg (by decide), if_neg (by decide),
    if_neg (by decide), if_neg (by decide), if_pos rfl, h]
  rfl

/-- An array that is not empty is read item by item. -/
theorem outlineValue_array {s r : List Char} {items : List Outline} {ending : Option Fault}
    {c : Char} (hs : skipSpace s = c :: r) (hne : c ≠ ']')
    (h : outlineItems fuel (c :: r) = (items, ending, rest)) :
    outlineValue (fuel + 1) ('[' :: s) = (.array items ending, rest) := by
  rw [outlineValue, if_neg (by decide), if_neg (by decide), if_neg (by decide),
    if_neg (by decide), if_pos rfl, hs]
  split
  · rename_i u hu
    exact absurd (List.cons.inj hu).1 hne
  · rename_i hu
    cases hu
  · rw [h]

/-- The last item of an array is read to the bracket. -/
theorem outlineItems_last {s r : List Char} {o : Outline} (ho : ∀ b, o ≠ .broken b)
    (h : outlineValue fuel s = (o, r)) (hr : skipSpace r = ']' :: rest) :
    outlineItems (fuel + 1) s = ([o], none, rest) := by
  rw [outlineItems, h]
  split
  · rename_i b _ hb
    exact absurd (Prod.mk.inj hb).1 (ho b)
  · rename_i o' r' hr'
    cases hr'
    rw [hr]
    rfl

/-- An item before others is read to the comma. -/
theorem outlineItems_cons {s r t : List Char} {o : Outline} {items : List Outline}
    {ending : Option Fault} (ho : ∀ b, o ≠ .broken b) (h : outlineValue fuel s = (o, r))
    (hr : skipSpace r = ',' :: t) (ht : outlineItems fuel (skipSpace t) = (items, ending, rest)) :
    outlineItems (fuel + 1) s = (o :: items, ending, rest) := by
  rw [outlineItems, h]
  split
  · rename_i b _ hb
    exact absurd (Prod.mk.inj hb).1 (ho b)
  · rename_i o' r' hr'
    cases hr'
    rw [hr]
    simp only [ht]

/-- The last member of an object is read to the brace. -/
theorem outlineMembers_last {s r t u : List Char} {ps : List Piece} {o : Outline}
    (hs : takeString (s.drop 1) = (ps, .ok r)) (hr : skipSpace r = ':' :: t)
    (ho : ∀ b, o ≠ .broken b) (ht : outlineValue fuel (skipSpace t) = (o, u))
    (hu : skipSpace u = Char.ofNat 0x7d :: rest) :
    outlineMembers (fuel + 1) s = ([(stringOf ps none, o)], .closed, rest) := by
  rw [outlineMembers, hs]
  simp only [hr, ht, hu, if_true]

/-- A member before others is read to the comma. -/
theorem outlineMembers_cons {s r t u v w : List Char} {ps : List Piece} {o : Outline}
    {members : List (Except Fault String × Outline)} {ending : Ending}
    (hs : takeString (s.drop 1) = (ps, .ok r)) (hr : skipSpace r = ':' :: t)
    (ho : ∀ b, o ≠ .broken b) (ht : outlineValue fuel (skipSpace t) = (o, u))
    (hu : skipSpace u = ',' :: v) (hv : skipSpace v = '"' :: w)
    (h : outlineMembers fuel ('"' :: w) = (members, ending, rest)) :
    outlineMembers (fuel + 1) s = ((stringOf ps none, o) :: members, ending, rest) := by
  rw [outlineMembers, hs]
  simp only [hr, ht, hu]
  rw [if_neg (by decide), if_true, hv]
  simp only [h]

/-- An object that is not empty is read member by member. -/
theorem outlineValue_object {s r : List Char} {members : List (Except Fault String × Outline)}
    {ending : Ending} (hs : skipSpace s = '"' :: r)
    (h : outlineMembers fuel ('"' :: r) = (members, ending, rest)) :
    outlineValue (fuel + 1) (Char.ofNat 0x7b :: s) = (.object members ending, rest) := by
  rw [outlineValue, if_neg (by decide), if_neg (by decide), if_neg (by decide),
    if_neg (by decide), if_neg (by decide), if_pos rfl, hs]
  simp only
  rw [if_neg (by decide), if_true]
  simp only [h]

mutual

/-- **What is spelled is read**, whatever follows it. -/
theorem outlineValue_spelled {fuel : Nat} {p rest : List Char} (hr : EndsNumber rest) :
    (o : Outline) → Spelled o p → 2 * p.length ≤ fuel → outlineValue fuel (p ++ rest) = (o, rest)
  | .null, h, hf => by
    obtain ⟨fuel, rfl⟩ := h.exists_fuel hf
    obtain rfl : p = ['n', 'u', 'l', 'l'] := h
    rfl
  | .bool true, h, hf => by
    obtain ⟨fuel, rfl⟩ := h.exists_fuel hf
    obtain rfl : p = ['t', 'r', 'u', 'e'] := h
    rfl
  | .bool false, h, hf => by
    obtain ⟨fuel, rfl⟩ := h.exists_fuel hf
    obtain rfl : p = ['f', 'a', 'l', 's', 'e'] := h
    rfl
  | .number n, h, hf => by
    obtain ⟨fuel, rfl⟩ := h.exists_fuel hf
    obtain ⟨l, hl, rfl⟩ := h
    exact outlineValue_number (takeNumber_of_spells hl hr)
  | .string s, h, hf => by
    obtain ⟨fuel, rfl⟩ := h.exists_fuel hf
    obtain ⟨ps, q, hq, rfl, rfl⟩ := h
    rw [List.cons_append, outlineValue, if_neg (by decide), if_neg (by decide),
      if_neg (by decide), if_pos rfl, hq rest]
  | .array items ending, h, hf => by
    obtain ⟨fuel, rfl⟩ := h.exists_fuel hf
    obtain ⟨rfl, w, q, hw, ⟨rfl, rfl⟩ | hq, rfl⟩ := h
    · rw [List.cons_append, List.append_assoc]
      exact outlineValue_array_nil (skipSpace_blanks_cons hw (by decide) _)
    · simp only [List.length_append, List.length_cons] at hf
      have hm := outlineItems_spelled rest items hq (by omega : _ ≤ fuel)
      obtain ⟨c, r, rfl, hc, hne⟩ := hq.head
      rw [List.cons_append, List.append_assoc]
      exact outlineValue_array (skipSpace_blanks_cons hw hc _) hne hm
  | .object members ending, h, hf => by
    obtain ⟨fuel, rfl⟩ := h.exists_fuel hf
    obtain ⟨rfl, w, q, hw, ⟨rfl, rfl⟩ | hq, rfl⟩ := h
    · rw [List.cons_append, List.append_assoc]
      exact outlineValue_object_nil (skipSpace_blanks_cons hw (by decide) _)
    · simp only [List.length_append, List.length_cons] at hf
      have hm := outlineMembers_spelled rest members hq (by omega : _ ≤ fuel)
      obtain ⟨r, rfl⟩ := hq.head
      rw [List.cons_append, List.append_assoc]
      exact outlineValue_object (skipSpace_blanks_cons hw (by decide) _) hm

/-- The items of an array are read to the bracket. -/
theorem outlineItems_spelled {fuel : Nat} {p : List Char} (rest : List Char) :
    (items : List Outline) → SpelledItems items p → 2 * p.length + 1 ≤ fuel →
      outlineItems fuel (p ++ rest) = (items, none, rest)
  | [o], h, hf => by
    obtain ⟨q, w, hq, hw, rfl⟩ := h
    obtain ⟨fuel, rfl⟩ := Nat.exists_eq_add_one.mpr (by omega : 0 < fuel)
    simp only [List.length_append, List.length_cons] at hf
    have hends : EndsNumber (w ++ ']' :: rest) :=
      endsNumber_blanks hw (endsNumber_closing _ _ (by simp))
    have ho := outlineValue_spelled hends o hq (by omega : _ ≤ fuel)
    have hs : q ++ (w ++ [']']) ++ rest = q ++ (w ++ ']' :: rest) := by simp
    rw [hs]
    exact outlineItems_last hq.ne_broken ho (skipSpace_blanks_cons hw (by decide) _)
  | o :: x :: items, h, hf => by
    obtain ⟨q, w, v, t, hq, hw, hv, ht, rfl⟩ := h
    obtain ⟨fuel, rfl⟩ := Nat.exists_eq_add_one.mpr (by omega : 0 < fuel)
    simp only [List.length_append, List.length_cons] at hf
    have hends : EndsNumber (w ++ ',' :: (v ++ (t ++ rest))) :=
      endsNumber_blanks hw (endsNumber_closing _ _ (by simp))
    have ho := outlineValue_spelled hends o hq (by omega : _ ≤ fuel)
    have hm := outlineItems_spelled rest (x :: items) ht (by omega : _ ≤ fuel)
    have hs : q ++ (w ++ ',' :: (v ++ t)) ++ rest = q ++ (w ++ ',' :: (v ++ (t ++ rest))) := by simp
    obtain ⟨c, r, rfl, hc, -⟩ := ht.head
    rw [hs]
    refine outlineItems_cons hq.ne_broken ho (skipSpace_blanks_cons hw (by decide) _) ?_
    rw [List.cons_append, skipSpace_blanks_cons hv hc]
    exact hm

/-- The members of an object are read to the brace. -/
theorem outlineMembers_spelled {fuel : Nat} {p : List Char} (rest : List Char) :
    (members : List (Except Fault String × Outline)) → SpelledMembers members p →
      2 * p.length + 1 ≤ fuel → outlineMembers fuel (p ++ rest) = (members, .closed, rest)
  | [(k, o)], h, hf => by
    obtain ⟨_, x, ⟨ps, t, w, v, q, hps, rfl, hw, hv, hq, rfl⟩, hx, rfl⟩ := h
    obtain ⟨fuel, rfl⟩ := Nat.exists_eq_add_one.mpr (by omega : 0 < fuel)
    simp only [List.length_append, List.length_cons] at hf
    have hends : EndsNumber (x ++ Char.ofNat 0x7d :: rest) :=
      endsNumber_blanks hx (endsNumber_closing _ _ (by simp))
    have ho := outlineValue_spelled hends o hq (by omega : _ ≤ fuel)
    have hs : '"' :: (t ++ (w ++ ':' :: (v ++ q))) ++ (x ++ [Char.ofNat 0x7d]) ++ rest =
        '"' :: (t ++ (w ++ ':' :: (v ++ (q ++ (x ++ Char.ofNat 0x7d :: rest))))) := by simp
    rw [← hq.skipSpace, ← skipSpace_blanks hv] at ho
    rw [hs]
    exact outlineMembers_last (hps _) (skipSpace_blanks_cons hw (by decide) _) hq.ne_broken ho
      (skipSpace_blanks_cons hx (by decide) _)
  | (k, o) :: m :: members, h, hf => by
    obtain ⟨_, x, a, p, ⟨ps, t, w, v, q, hps, rfl, hw, hv, hq, rfl⟩, hx, ha, hp, rfl⟩ := h
    obtain ⟨fuel, rfl⟩ := Nat.exists_eq_add_one.mpr (by omega : 0 < fuel)
    simp only [List.length_append, List.length_cons] at hf
    have hm := outlineMembers_spelled rest (m :: members) hp (by omega : _ ≤ fuel)
    obtain ⟨r, rfl⟩ := hp.head
    have hends : EndsNumber (x ++ ',' :: (a ++ '"' :: r ++ rest)) :=
      endsNumber_blanks hx (endsNumber_closing _ _ (by simp))
    have ho := outlineValue_spelled hends o hq (by omega : _ ≤ fuel)
    have hs : '"' :: (t ++ (w ++ ':' :: (v ++ q))) ++ (x ++ ',' :: (a ++ '"' :: r)) ++ rest =
        '"' :: (t ++ (w ++ ':' :: (v ++ (q ++ (x ++ ',' :: (a ++ '"' :: r ++ rest)))))) := by simp
    rw [← hq.skipSpace, ← skipSpace_blanks hv] at ho
    rw [hs]
    refine outlineMembers_cons (hps _) (skipSpace_blanks_cons hw (by decide) _) hq.ne_broken ho
      (skipSpace_blanks_cons hx (by decide) _) ?_ hm
    rw [List.append_assoc, List.cons_append, skipSpace_blanks_cons ha (by decide)]
    rfl

end

/-- **The outline of a text is the one that it spells.** -/
theorem outline_spelled {o : Outline} (h : Spelled o p) : outline p = (o, false) := by
  have hread := outlineValue_spelled endsNumber_nil o h (Nat.le_add_right (2 * p.length) 2)
  have hskip := h.skipSpace []
  rw [List.append_nil] at hread hskip
  rw [outline, hskip, hread]
  rfl

/-! ## Blanks around a text -/

/-- The outline of an array or an object. -/
def Compound : Outline → Prop
  | .array _ _ | .object _ _ => True
  | _ => False

/-- The last item of an array is followed by the bracket. -/
theorem SpelledItems.last : {items : List Outline} → {p : List Char} → SpelledItems items p →
    ∃ q, p = q ++ [']']
  | [o], _, h => by
    obtain ⟨q, w, -, -, rfl⟩ := h
    exact ⟨q ++ w, by simp⟩
  | o :: x :: items, _, h => by
    obtain ⟨q, w, v, t, -, -, -, ht, rfl⟩ := h
    obtain ⟨r, rfl⟩ := ht.last
    exact ⟨q ++ (w ++ ',' :: (v ++ r)), by simp⟩

/-- The last member of an object is followed by the brace. -/
theorem SpelledMembers.last : {members : List (Except Fault String × Outline)} → {p : List Char} →
    SpelledMembers members p → ∃ q, p = q ++ [Char.ofNat 0x7d]
  | [(k, o)], _, h => by
    obtain ⟨q, w, -, -, rfl⟩ := h
    exact ⟨q ++ w, by simp⟩
  | (k, o) :: m :: members, _, h => by
    obtain ⟨q, w, v, t, -, -, -, ht, rfl⟩ := h
    obtain ⟨r, rfl⟩ := ht.last
    exact ⟨q ++ (w ++ ',' :: (v ++ r)), by simp⟩

/-- The text of an array or an object starts and ends with its brackets. -/
theorem Spelled.trim {o : Outline} (h : Spelled o p) (ho : Compound o) : Text.trim p = p := by
  cases o with
  | array items ending =>
    obtain ⟨-, w, q, -, hq, rfl⟩ := h
    have hlast : ∃ r, q = r ++ [']'] := by
      rcases hq with ⟨-, rfl⟩ | hq
      · exact ⟨[], rfl⟩
      · exact hq.last
    obtain ⟨r, rfl⟩ := hlast
    rw [← List.append_assoc]
    exact Text.trim_of_ends _ (by decide) (by decide)
  | object members ending =>
    obtain ⟨-, w, q, -, hq, rfl⟩ := h
    have hlast : ∃ r, q = r ++ [Char.ofNat 0x7d] := by
      rcases hq with ⟨-, rfl⟩ | hq
      · exact ⟨[], rfl⟩
      · exact hq.last
    obtain ⟨r, rfl⟩ := hlast
    rw [← List.append_assoc]
    exact Text.trim_of_ends _ (by decide) (by decide)
  | _ => exact ho.elim

theorem Blanks.isBlank {w : List Char} (hw : Blanks w) : ∀ c ∈ w, Text.isBlank c = true := by
  intro c hc
  have hs := hw c hc
  simp only [isSpace, Bool.or_eq_true, beq_iff_eq] at hs
  rcases hs with ((rfl | rfl) | rfl) | rfl <;> decide

/-- **An array or an object has the outline that it has without blanks around it.** -/
theorem outline_trim {o : Outline} (h : outline s = (o, false)) (hpass : pass o = .ok ())
    (ho : Compound o) : outline (Text.trim s) = (o, false) := by
  rcases hv : outlineValue (2 * s.length + 2) (skipSpace s) with ⟨o', rest⟩
  rw [outline, hv] at h
  obtain ⟨rfl, hmore⟩ := Prod.mk.inj h
  have hrest : skipSpace rest = [] := by simpa using hmore
  obtain ⟨p, hp, hspelled⟩ := spelled_of_outlineValue _ hv hpass
  obtain ⟨w, hw, rfl⟩ := eq_blanks_append hp
  obtain ⟨v, hblanks, rfl⟩ := eq_blanks_append hrest
  have htrim : Text.trim (w ++ (p ++ (v ++ []))) = p := by
    rw [List.append_nil, Text.trim_blanks_append _ hw.isBlank,
      Text.trim_append_blanks _ hblanks.isBlank, hspelled.trim ho]
  rw [htrim, outline_spelled hspelled]

end Acceptance.Json
