import Acceptance.Json.Value
import Acceptance.Number.Shortest

/-!
# Printing JSON

The compact text of a value: no blanks, members in the order in which they stand.

* `escape`: a character inside a string. The quote, the backslash and the characters below U+0020
  are escaped, the named ones by a letter; everything else stands for itself.
* `floatLayout`: binary values are positional from `0.00001` up to `10^16`, else with an exponent.
* `text`: the text of a value.

Results:
* `plain_escape`: no control character occurs inside a string.
* `plain_text`: none occurs in a printed value, so that it is one line.
-/

namespace Acceptance.Json

/-- Binary values have a point alone while their first digit stands between `10^-5` and `10^15`. -/
def floatLayout : Number.Layout := ⟨-5, 15⟩

/-- Two lower-case hexadecimal digits. -/
def hexPair (n : Nat) : List Char := [Nat.digitChar (n / 16), Nat.digitChar (n % 16)]

/-- A character inside a string. -/
def escape (c : Char) : List Char :=
  if c = '"' then ['\\', '"']
  else if c = '\\' then ['\\', '\\']
  else if c = '\n' then ['\\', 'n']
  else if c = '\r' then ['\\', 'r']
  else if c = '\t' then ['\\', 't']
  else if c = '\x08' then ['\\', 'b']
  else if c = '\x0c' then ['\\', 'f']
  else if c.toNat < 0x20 then '\\' :: 'u' :: '0' :: '0' :: hexPair c.toNat
  else [c]

/-- A string in quotes. -/
def quoted (s : String) : List Char := '"' :: (s.toList.flatMap escape ++ ['"'])

/-- A number. -/
def Number.text : Number → List Char
  | .int i => Acceptance.Number.intText i.val
  | .float x => x.text floatLayout

mutual

/-- The text of a value. -/
def text : Json → List Char
  | null => ['n', 'u', 'l', 'l']
  | bool true => ['t', 'r', 'u', 'e']
  | bool false => ['f', 'a', 'l', 's', 'e']
  | num n => n.text
  | str s => quoted s
  | arr xs => '[' :: (textItems xs ++ [']'])
  | obj ms => Char.ofNat 0x7b :: (textMembers ms ++ [Char.ofNat 0x7d])

/-- The items of an array, with commas between them. -/
def textItems : List Json → List Char
  | [] => []
  | [x] => text x
  | x :: y :: r => text x ++ ',' :: textItems (y :: r)

/-- The members of an object, with commas between them. -/
def textMembers : List (String × Json) → List Char
  | [] => []
  | [(k, x)] => quoted k ++ ':' :: text x
  | (k, x) :: m :: r => quoted k ++ ':' :: (text x ++ ',' :: textMembers (m :: r))

end

/-- The text of a value as a string. -/
def render (v : Json) : String := String.ofList v.text

/-! ## Control characters -/

/-- A text without control characters, and so without line ends. -/
def Plain (s : List Char) : Prop := ∀ c ∈ s, 0x20 ≤ c.toNat

@[simp] theorem plain_nil : Plain [] := fun _ h => absurd h List.not_mem_nil

@[simp] theorem plain_cons {c : Char} {s : List Char} :
    Plain (c :: s) ↔ 0x20 ≤ c.toNat ∧ Plain s := List.forall_mem_cons

@[simp] theorem plain_append {s t : List Char} : Plain (s ++ t) ↔ Plain s ∧ Plain t :=
  List.forall_mem_append

theorem Plain.not_mem {s : List Char} {c : Char} (h : Plain s) (hc : c.toNat < 0x20) : c ∉ s :=
  fun hm => absurd (h c hm) (Nat.not_le.mpr hc)

theorem le_digitChar : ∀ n < 16, 0x20 ≤ (Nat.digitChar n).toNat := by decide

theorem plain_escape (c : Char) : Plain (escape c) := by
  unfold escape
  repeat' split
  all_goals try simp
  · next h =>
    have h1 := le_digitChar (c.toNat / 16) (by omega)
    have h2 := le_digitChar (c.toNat % 16) (by omega)
    simp [hexPair, h1, h2]
  · next h => exact Nat.not_lt.mp h

theorem plain_quoted (s : String) : Plain (quoted s) := by
  have h : Plain (s.toList.flatMap escape) := by
    intro d hd
    obtain ⟨c, -, hc⟩ := List.mem_flatMap.mp hd
    exact plain_escape c d hc
  simp [quoted, h]

theorem plain_of_isNumberText {s : List Char} (h : Acceptance.Number.IsNumberText s) : Plain s := by
  intro c hc
  have hn := h c hc
  rw [Acceptance.Number.isNumberChar, Bool.or_eq_true, List.contains_iff_mem] at hn
  rcases hn with hd | hm
  · have h48 : 48 ≤ c.toNat := by
      simp only [Char.isDigit, Bool.and_eq_true, decide_eq_true_eq] at hd
      exact hd.1
    omega
  · have hmarks : ∀ d ∈ ['.', '-', '+', 'e'], 0x20 ≤ d.toNat := by simp
    exact hmarks c hm

theorem Number.plain_text (n : Number) : Plain n.text := by
  cases n with
  | int i => exact plain_of_isNumberText (Acceptance.Number.isNumberText_intText _)
  | float x => exact plain_of_isNumberText (Acceptance.Number.Binary64.isNumberText_text _ _)

mutual

theorem plain_text : (v : Json) → Plain v.text
  | null => by simp [text]
  | bool true => by simp [text]
  | bool false => by simp [text]
  | num n => Number.plain_text n
  | str s => plain_quoted s
  | arr xs => by
    have h := plain_textItems xs
    simp [text, h]
  | obj ms => by
    have h := plain_textMembers ms
    simp [text, h]

theorem plain_textItems : (xs : List Json) → Plain (textItems xs)
  | [] => by simp [textItems]
  | [x] => by
    have h := plain_text x
    simp [textItems, h]
  | x :: y :: r => by
    have h := plain_text x
    have hr := plain_textItems (y :: r)
    simp [textItems, h, hr]

theorem plain_textMembers : (ms : List (String × Json)) → Plain (textMembers ms)
  | [] => by simp [textMembers]
  | [(k, x)] => by
    have hk := plain_quoted k
    have h := plain_text x
    simp [textMembers, hk, h]
  | (k, x) :: m :: r => by
    have hk := plain_quoted k
    have h := plain_text x
    have hr := plain_textMembers (m :: r)
    simp [textMembers, hk, h, hr]

end

end Acceptance.Json
