import Acceptance.Proofs.Json.Decimals
import Acceptance.Proofs.Json.Strings

/-!
# Different values have different texts

Printing loses nothing: neither the way a string is escaped, nor where the parts of a value end, nor
whether a number is an integer. It does not matter for this whether a reader would get every number
back.

* `Start`, `start`, `startOf`: what the first character of a text tells of its value.

Results:
* `number_text_append_inj`, `quoted_append_inj`: a number and a string end where they end.
* `text_append_inj`: so does every value, whatever follows it.
* `text_inj`, `render_inj`: values with one text are one value.
-/

namespace Acceptance.Json

variable {r s : List Char}

/-! ## Numbers and strings -/

/-- A number ends where the characters of numbers end. -/
theorem takeWhile_number (n : Number) (hr : EndsNumber r) :
    (n.text ++ r).takeWhile Acceptance.Number.isNumberChar = n.text := by
  have hn : Acceptance.Number.IsNumberText n.text := by
    cases n with
    | int i => exact Acceptance.Number.isNumberText_intText _
    | float x => exact Acceptance.Number.Binary64.isNumberText_text _ _
  rw [List.takeWhile_append_of_pos hn]
  cases r with
  | nil => rw [List.takeWhile_nil, List.append_nil]
  | cons c r =>
    rw [List.takeWhile_cons_of_neg (by rw [(hr c rfl).1]; decide), List.append_nil]

theorem number_text_append_inj {m n : Number} (hr : EndsNumber r) (hs : EndsNumber s)
    (h : m.text ++ r = n.text ++ s) : m = n ∧ r = s := by
  have htext : m.text = n.text := by rw [← takeWhile_number m hr, h, takeWhile_number n hs]
  rw [htext] at h
  exact ⟨Number.text_inj htext, List.append_cancel_left h⟩

theorem quoted_append_inj {a b : String} (h : quoted a ++ r = quoted b ++ s) : a = b ∧ r = s := by
  have htake := (takeString_quoted a r).symm.trans (h ▸ takeString_quoted b s)
  obtain ⟨hpieces, hrest⟩ := Prod.mk.inj htake
  have hstring := (stringOf_pieces a).symm.trans (hpieces ▸ stringOf_pieces b)
  exact ⟨Except.ok.inj hstring, Except.ok.inj hrest⟩

/-! ## The first character -/

/-- What the first character of a text tells of its value. -/
inductive Start where
  | null
  | bool (b : Bool)
  | number
  | string
  | array
  | object
deriving DecidableEq

/-- What is told of a value. -/
def start : Json → Start
  | .null => .null
  | .bool b => .bool b
  | .num _ => .number
  | .str _ => .string
  | .arr _ => .array
  | .obj _ => .object

/-- What a character tells. -/
def startOf (c : Char) : Start :=
  if c = 'n' then .null
  else if c = 't' then .bool true
  else if c = 'f' then .bool false
  else if c = '"' then .string
  else if c = '[' then .array
  else if c = Char.ofNat 0x7b then .object
  else .number

theorem number_text_head (n : Number) :
    ∃ c t, n.text = c :: t ∧ (c = '-' ∨ (digit? c).isSome = true) := by
  have hread : ∃ l, takeNumber n.text = .ok (l, []) := by
    cases n with
    | int i => exact ⟨_, takeNumber_intText i.val⟩
    | float x =>
      obtain ⟨l, hl, -⟩ := exists_spells_text floatLayout x
      have hl := takeNumber_of_spells hl endsNumber_nil
      rw [List.append_nil] at hl
      exact ⟨l, hl⟩
  obtain ⟨l, hl⟩ := hread
  exact takeNumber_head hl

/-- The first character of a text tells what it does, and it is not the end of an array. -/
theorem text_start (v : Json) : ∃ c t, v.text = c :: t ∧ startOf c = v.start ∧ c ≠ ']' := by
  cases v with
  | null => exact ⟨'n', _, rfl, rfl, by decide⟩
  | bool b =>
    cases b with
    | true => exact ⟨'t', _, rfl, rfl, by decide⟩
    | false => exact ⟨'f', _, rfl, rfl, by decide⟩
  | num n =>
    obtain ⟨c, t, hc, hstart⟩ := number_text_head n
    have hne : ∀ d, ¬ (d = '-' ∨ (digit? d).isSome = true) → c ≠ d := by
      rintro d hnd rfl
      exact hnd hstart
    refine ⟨c, t, hc, ?_, hne ']' (by decide)⟩
    rw [startOf, if_neg (hne 'n' (by decide)), if_neg (hne 't' (by decide)),
      if_neg (hne 'f' (by decide)), if_neg (hne '"' (by decide)), if_neg (hne '[' (by decide)),
      if_neg (hne _ (by decide))]
    rfl
  | str s => exact ⟨'"', _, rfl, rfl, by decide⟩
  | arr xs => exact ⟨'[', _, rfl, rfl, by decide⟩
  | obj ms => exact ⟨_, _, rfl, rfl, by decide⟩

/-- Texts with one beginning are of values with one start. -/
theorem start_eq {v w : Json} (h : v.text ++ r = w.text ++ s) : v.start = w.start := by
  obtain ⟨c, t, hv, hc, -⟩ := text_start v
  obtain ⟨d, u, hw, hd, -⟩ := text_start w
  rw [hv, hw, List.cons_append, List.cons_append] at h
  rw [← hc, ← hd, (List.cons.inj h).1]

/-! ## Values -/

/-- The text behind an item of an array: that of the items that follow it. -/
def itemsBehind : List Json → List Char
  | [] => []
  | x :: xs => ',' :: textItems (x :: xs)

/-- The text behind a member of an object: that of the members that follow it. -/
def membersBehind : List (String × Json) → List Char
  | [] => []
  | m :: ms => ',' :: textMembers (m :: ms)

theorem textItems_cons (x : Json) (xs : List Json) :
    textItems (x :: xs) = x.text ++ itemsBehind xs := by
  cases xs with
  | nil => rw [textItems, itemsBehind, List.append_nil]
  | cons y xs => rw [textItems, itemsBehind]

theorem textMembers_cons (k : String) (x : Json) (ms : List (String × Json)) :
    textMembers ((k, x) :: ms) = quoted k ++ ':' :: (x.text ++ membersBehind ms) := by
  cases ms with
  | nil => rw [textMembers, membersBehind, List.append_nil]
  | cons m ms => rw [textMembers, membersBehind]

theorem endsNumber_itemsBehind (xs : List Json) (r : List Char) :
    EndsNumber (itemsBehind xs ++ ']' :: r) := by
  cases xs with
  | nil => exact endsNumber_closing _ _ (by simp)
  | cons x xs => exact endsNumber_closing _ _ (by simp)

theorem endsNumber_membersBehind (ms : List (String × Json)) (r : List Char) :
    EndsNumber (membersBehind ms ++ Char.ofNat 0x7d :: r) := by
  cases ms with
  | nil => exact endsNumber_closing _ _ (by simp)
  | cons m ms => exact endsNumber_closing _ _ (by simp)

/-- There are no items where the bracket stands. -/
theorem textItems_ne_bracket (x : Json) (xs : List Json) :
    textItems (x :: xs) ++ ']' :: r ≠ ']' :: s := by
  obtain ⟨c, t, hc, -, hne⟩ := text_start x
  rw [textItems_cons, hc]
  exact fun h => hne (List.cons.inj h).1

theorem textMembers_head (m : String × Json) (r : List (String × Json)) :
    ∃ s, textMembers (m :: r) = '"' :: s := by
  obtain ⟨k, x⟩ := m
  cases r with
  | nil => exact ⟨_, rfl⟩
  | cons m r => exact ⟨_, rfl⟩

/-- There are no members where the brace stands. -/
theorem textMembers_ne_brace (m : String × Json) (ms : List (String × Json)) :
    textMembers (m :: ms) ++ Char.ofNat 0x7d :: r ≠ Char.ofNat 0x7d :: s := by
  obtain ⟨t, ht⟩ := textMembers_head m ms
  rw [ht]
  exact fun h => absurd (List.cons.inj h).1 (by decide)

/-- Items that are printed alike are so behind a comma. -/
theorem itemsBehind_eq {xs ys : List Json}
    (h : textItems xs ++ ']' :: r = textItems ys ++ ']' :: s) :
    itemsBehind xs ++ ']' :: r = itemsBehind ys ++ ']' :: s := by
  cases xs with
  | nil =>
    cases ys with
    | nil => exact h
    | cons y ys => exact absurd h.symm (textItems_ne_bracket y ys)
  | cons x xs =>
    cases ys with
    | nil => exact absurd h (textItems_ne_bracket x xs)
    | cons y ys => exact congrArg (',' :: ·) h

/-- So are members. -/
theorem membersBehind_eq {ms ns : List (String × Json)}
    (h : textMembers ms ++ Char.ofNat 0x7d :: r = textMembers ns ++ Char.ofNat 0x7d :: s) :
    membersBehind ms ++ Char.ofNat 0x7d :: r = membersBehind ns ++ Char.ofNat 0x7d :: s := by
  cases ms with
  | nil =>
    cases ns with
    | nil => exact h
    | cons n ns => exact absurd h.symm (textMembers_ne_brace n ns)
  | cons m ms =>
    cases ns with
    | nil => exact absurd h (textMembers_ne_brace m ms)
    | cons n ns => exact congrArg (',' :: ·) h

mutual

/-- **A text is of one value only**, whatever follows it. -/
theorem text_append_inj {r s : List Char} (hr : EndsNumber r) (hs : EndsNumber s) :
    (v w : Json) → v.text ++ r = w.text ++ s → v = w ∧ r = s
  | .null, w, h => by
    have hstart := start_eq h
    cases w with
    | null => exact ⟨rfl, List.append_cancel_left h⟩
    | _ => cases hstart
  | .bool b, w, h => by
    have hstart := start_eq h
    cases w with
    | bool c =>
      cases hstart
      exact ⟨rfl, List.append_cancel_left h⟩
    | _ => cases hstart
  | .num m, w, h => by
    have hstart := start_eq h
    cases w with
    | num n =>
      obtain ⟨rfl, hrest⟩ := number_text_append_inj hr hs h
      exact ⟨rfl, hrest⟩
    | _ => cases hstart
  | .str a, w, h => by
    have hstart := start_eq h
    cases w with
    | str b =>
      obtain ⟨rfl, hrest⟩ := quoted_append_inj h
      exact ⟨rfl, hrest⟩
    | _ => cases hstart
  | .arr xs, w, h => by
    have hstart := start_eq h
    cases w with
    | arr ys =>
      simp only [text, List.cons_append, List.append_assoc, List.cons.injEq, true_and] at h
      obtain ⟨rfl, hrest⟩ := itemsBehind_append_inj xs ys (itemsBehind_eq h)
      exact ⟨rfl, hrest⟩
    | _ => cases hstart
  | .obj ms, w, h => by
    have hstart := start_eq h
    cases w with
    | obj ns =>
      simp only [text, List.cons_append, List.append_assoc, List.cons.injEq, true_and] at h
      obtain ⟨rfl, hrest⟩ := membersBehind_append_inj ms ns (membersBehind_eq h)
      exact ⟨rfl, hrest⟩
    | _ => cases hstart

theorem itemsBehind_append_inj {r s : List Char} : (xs ys : List Json) →
    itemsBehind xs ++ ']' :: r = itemsBehind ys ++ ']' :: s → xs = ys ∧ r = s
  | [], [], h => ⟨rfl, (List.cons.inj h).2⟩
  | [], y :: ys, h => absurd (List.cons.inj h).1 (by decide)
  | x :: xs, [], h => absurd (List.cons.inj h).1 (by decide)
  | x :: xs, y :: ys, h => by
    have h := (List.cons.inj h).2
    rw [textItems_cons, textItems_cons, List.append_eq, List.append_eq, List.append_assoc,
      List.append_assoc] at h
    obtain ⟨rfl, hbehind⟩ := text_append_inj (endsNumber_itemsBehind xs r)
      (endsNumber_itemsBehind ys s) x y h
    obtain ⟨rfl, hrest⟩ := itemsBehind_append_inj xs ys hbehind
    exact ⟨rfl, hrest⟩

theorem membersBehind_append_inj {r s : List Char} : (ms ns : List (String × Json)) →
    membersBehind ms ++ Char.ofNat 0x7d :: r = membersBehind ns ++ Char.ofNat 0x7d :: s →
      ms = ns ∧ r = s
  | [], [], h => ⟨rfl, (List.cons.inj h).2⟩
  | [], n :: ns, h => absurd (List.cons.inj h).1 (by decide)
  | m :: ms, [], h => absurd (List.cons.inj h).1 (by decide)
  | (k, x) :: ms, (l, y) :: ns, h => by
    have h := (List.cons.inj h).2
    rw [textMembers_cons, textMembers_cons, List.append_eq, List.append_eq, List.append_assoc,
      List.append_assoc] at h
    obtain ⟨rfl, hvalue⟩ := quoted_append_inj h
    have hvalue := (List.cons.inj hvalue).2
    rw [List.append_eq, List.append_eq, List.append_assoc, List.append_assoc] at hvalue
    obtain ⟨rfl, hbehind⟩ := text_append_inj (endsNumber_membersBehind ms r)
      (endsNumber_membersBehind ns s) x y hvalue
    obtain ⟨rfl, hrest⟩ := membersBehind_append_inj ms ns hbehind
    exact ⟨rfl, hrest⟩

end

/-- **Values with one text are one value.** -/
theorem text_inj {v w : Json} (h : v.text = w.text) : v = w := by
  have happend : v.text ++ [] = w.text ++ [] := by rw [h]
  exact (text_append_inj endsNumber_nil endsNumber_nil v w happend).1

theorem render_inj {v w : Json} (h : v.render = w.render) : v = w :=
  text_inj (String.ofList_injective h)

end Acceptance.Json
