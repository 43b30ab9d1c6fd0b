import Acceptance.Text.CaseTable

/-!
# Lower case

The full lower-case mapping of a text.

* `lowerCase`: character by character, with two exceptions. U+0130 becomes `i` and a combining dot,
  and a capital sigma at the end of a word becomes its final form.
-/

namespace Acceptance.Text

/-- Whether the first character that is not case-ignorable is a letter with case. -/
def casedAhead (s : List Char) : Bool :=
  match s.dropWhile isCaseIgnorable with
  | [] => false
  | c :: _ => isCased c

/-- The lower-case form of one character between the characters `before` it (nearest first) and
those `after` it. -/
def lowerAt (before : List Char) (c : Char) (after : List Char) : List Char :=
  if c == '\u03a3' then
    if casedAhead before && !casedAhead after then ['\u03c2'] else ['\u03c3']
  else if c == '\u0130' then ['i', '\u0307']
  else [lowerChar c]

/-- The lower-case form of a text that follows the characters `before`, nearest first. -/
def lowerAfter (before : List Char) : List Char → List Char
  | [] => []
  | c :: r => lowerAt before c r ++ lowerAfter (c :: before) r

/-- The lower-case form of a text. -/
def lowerCase (s : String) : String := String.ofList (lowerAfter [] s.toList)

end Acceptance.Text
