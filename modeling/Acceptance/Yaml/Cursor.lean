/-!
# Places in a YAML text

* `Cursor`: what is left of a text, and the line and column it starts at.
* `isBlank`, `isBreak`: the blanks and the line ends of YAML.
* `Gap`: the blanks and line ends between two words of a scalar, and the text they fold to.
* `allowed`: the characters a YAML text may hold at all.
-/

namespace Acceptance.Yaml

/-- What is left of a text. `index` counts characters; line and column start at zero. -/
structure Cursor where
  rest : List Char
  index : Nat
  line : Nat
  column : Nat
deriving Repr

/-- The characters a YAML text may hold: no control characters but tab and the line ends. -/
def allowed (c : Char) : Bool :=
  let n := c.toNat
  n == 0x9 || n == 0xa || n == 0xd || (0x20 ≤ n && n ≤ 0x7e) || n == 0x85 ||
    (0xa0 ≤ n && n ≤ 0xd7ff) || (0xe000 ≤ n && n ≤ 0xfffd) || 0x10000 ≤ n

/-- A space or a tab. -/
def isBlank (c : Char) : Bool := c == ' ' || c == '\t'

/-- A line end. -/
def isBreak (c : Char) : Bool :=
  c == '\n' || c == '\r' || c == '\u0085' || c == '\u2028' || c == '\u2029'

/-- A letter of a name: an ASCII letter or digit, an underscore or a hyphen. -/
def isNameChar (c : Char) : Bool := c.isAlphanum || c == '_' || c == '-'

/-- Whether a text is at its end or at a line end. -/
def atLineEnd : List Char → Bool
  | [] => true
  | c :: _ => isBreak c

/-- Whether a text is at its end, at a blank or at a line end. -/
def atGap : List Char → Bool
  | [] => true
  | c :: _ => isBlank c || isBreak c

/-- Whether a text starts with three of a character and then a gap: the marks between documents. -/
def atMark (c : Char) : List Char → Bool
  | a :: b :: d :: r => a == c && b == c && d == c && atGap r
  | _ => false

namespace Cursor

/-- The start of a text. -/
def start (s : List Char) : Cursor := ⟨s, 0, 0, 0⟩

/-- Moves over one character of a line. -/
def skip (s : Cursor) : Cursor :=
  { s with rest := s.rest.drop 1, index := s.index + 1, column := s.column + 1 }

/-- Moves over some characters of a line. -/
def skipMany : Nat → Cursor → Cursor
  | 0, s => s
  | n + 1, s => skipMany n s.skip

/-- Moves over a line end; a carriage return and a line feed are one. -/
def skipBreak (s : Cursor) : Cursor :=
  match s.rest with
  | '\r' :: '\n' :: r => ⟨r, s.index + 2, s.line + 1, 0⟩
  | c :: r => if isBreak c then ⟨r, s.index + 1, s.line + 1, 0⟩ else s
  | [] => s

/-- The character that the line end here counts as, if one is here. -/
def breakHere (s : Cursor) : List Char :=
  match s.rest with
  | c :: _ => if c == '\u2028' || c == '\u2029' then [c] else if isBreak c then ['\n'] else []
  | [] => []

/-- Whether the cursor stands before a mark between documents. -/
def atDocumentMark (s : Cursor) : Bool :=
  s.column == 0 && (atMark '-' s.rest || atMark '.' s.rest)

/-- The characters of a line that satisfy a test, and the cursor behind them. -/
def takeWhile (p : Char → Bool) (s : Cursor) : List Char × Cursor :=
  let cs := s.rest.takeWhile p
  (cs, { s with
    rest := s.rest.drop cs.length, index := s.index + cs.length, column := s.column + cs.length })

/-- Moves over the blanks of a line. -/
def skipBlanks (s : Cursor) : Cursor := (s.takeWhile isBlank).2

/-- Moves over what is left of the line when that is blanks and a comment, and over its end. -/
def finishLine? (s : Cursor) : Option Cursor :=
  let s := s.skipBlanks
  let s := match s.rest with
    | '#' :: _ => (s.takeWhile fun c => !isBreak c).2
    | _ => s
  if atLineEnd s.rest then some s.skipBreak else none

end Cursor

/-- What stands between two words of a scalar. While no line has ended it is `spaces`; after that it
is the first line end and the further ones. -/
structure Gap where
  spaces : List Char
  broken : Bool
  first : List Char
  more : List Char

/-- Nothing between two words. -/
def Gap.empty : Gap := ⟨[], false, [], []⟩

/-- The text a gap folds to: a single line end is a space, further ones stay. -/
def Gap.text (g : Gap) : List Char :=
  if g.broken then
    if g.first = ['\n'] then (if g.more.isEmpty then [' '] else g.more)
    else g.first ++ g.more
  else g.spaces

/-- Reads a gap on. `indent` is the column that a plain scalar has to keep to: no tab stands before
it. -/
def takeGap (indent : Nat) : Nat → Cursor → Gap → Option (Gap × Cursor)
  | 0, s, g => some (g, s)
  | fuel + 1, s, g =>
    match s.rest with
    | [] => some (g, s)
    | c :: _ =>
      if isBlank c then
        if g.broken && s.column < indent && c == '\t' then none
        else if g.broken then takeGap indent fuel s.skip g
        else takeGap indent fuel s.skip { g with spaces := g.spaces ++ [c] }
      else if isBreak c then
        if g.broken then takeGap indent fuel s.skipBreak { g with more := g.more ++ s.breakHere }
        else takeGap indent fuel s.skipBreak ⟨[], true, s.breakHere, []⟩
      else some (g, s)

end Acceptance.Yaml
