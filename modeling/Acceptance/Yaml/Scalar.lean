import Acceptance.Yaml.Cursor

/-!
# Scalars of a YAML text

The five ways of writing a scalar: plain, in single quotes, in double quotes, as a literal block and
as a folded block. Each reader starts at the first character of a scalar and gives its text and the
cursor behind it, or nothing where the scalar is malformed.

* `takePlain`: also tells whether a line ended behind the last word.
* `takeQuoted`, `takeBlock`.
-/

namespace Acceptance.Yaml

/-- How a scalar is written, as far as it matters to its meaning. -/
inductive Style where
  | plain
  | literal
  | other
deriving DecidableEq, Repr

/-! ## Plain scalars -/

/-- The characters that end a plain scalar inside brackets. -/
def isFlowMark (c : Char) : Bool := c == ',' || c == '[' || c == ']' || c == '\x7b' || c == '\x7d'

/-- The characters of a plain scalar up to a gap or an indicator. -/
def takePlainWord (inFlow : Bool) : List Char → Option (List Char)
  | [] => some []
  | c :: r =>
    if isBlank c || isBreak c then some []
    else if inFlow && c == ':' &&
        (match r with | d :: _ => isFlowMark d || d == '?' | [] => false) then
      none
    else if (c == ':' && atGap r) || (inFlow && isFlowMark c) then some []
    else return c :: (← takePlainWord inFlow r)

/-- Reads a plain scalar on from a word. -/
def takePlainFrom (inFlow : Bool) (indent : Nat) :
    Nat → Cursor → Gap → List Char → Option (List Char × Bool × Cursor)
  | 0, _, _, _ => none
  | fuel + 1, s, gap, text => do
    let stop := s.atDocumentMark || s.rest.head? == some '#'
    if stop then some (text, gap.broken, s)
    else
      let word ← takePlainWord inFlow s.rest
      let (text, gap) := if word.isEmpty then (text, gap) else (text ++ gap.text ++ word, Gap.empty)
      let s := s.skipMany word.length
      match s.rest with
      | [] => some (text, gap.broken, s)
      | c :: _ =>
        if isBlank c || isBreak c then
          let (gap, s) ← takeGap indent (s.rest.length + 1) s gap
          if !inFlow && s.column < indent then some (text, gap.broken, s)
          else takePlainFrom inFlow indent fuel s gap text
        else some (text, gap.broken, s)

/-- A plain scalar that keeps to the column `indent`: its text, whether a line ended behind it, and
the cursor. -/
def takePlain (inFlow : Bool) (indent : Nat) (s : Cursor) : Option (List Char × Bool × Cursor) :=
  takePlainFrom inFlow indent (s.rest.length + 1) s Gap.empty []

/-! ## Quoted scalars -/

/-- The character that a letter after a backslash stands for. -/
def unescape? (c : Char) : Option Char :=
  match c with
  | '0' => some '\x00'
  | 'a' => some '\x07'
  | 'b' => some '\x08'
  | 't' | '\t' => some '\t'
  | 'n' => some '\n'
  | 'v' => some '\x0b'
  | 'f' => some '\x0c'
  | 'r' => some '\r'
  | 'e' => some '\x1b'
  | ' ' | '"' | '/' | '\\' => some c
  | 'N' => some '\u0085'
  | '_' => some '\u00a0'
  | 'L' => some '\u2028'
  | 'P' => some '\u2029'
  | _ => none

/-- The number of hexadecimal digits that follow a letter after a backslash. -/
def escapeDigits? (c : Char) : Option Nat :=
  match c with
  | 'x' => some 2
  | 'u' => some 4
  | 'U' => some 8
  | _ => none

/-- The value of a hexadecimal digit. -/
def hexDigit? (c : Char) : Option Nat :=
  if '0' ≤ c ∧ c ≤ '9' then some (c.toNat - '0'.toNat)
  else if 'a' ≤ c ∧ c ≤ 'f' then some (c.toNat - 'a'.toNat + 10)
  else if 'A' ≤ c ∧ c ≤ 'F' then some (c.toNat - 'A'.toNat + 10)
  else none

/-- The value of some hexadecimal digits. -/
def hexValue? (cs : List Char) : Option Nat :=
  cs.foldlM (fun n c => (hexDigit? c).map (n * 16 + ·)) 0

/-- The character of a code point. -/
def charOf? (n : Nat) : Option Char :=
  if n < 0xd800 ∨ (0xdfff < n ∧ n < 0x110000) then some (Char.ofNat n) else none

/-- The characters inside quotes up to a gap or the closing quote; the flag tells whether an escaped
line end broke the line. -/
def takeQuotedWord (double : Bool) : Nat → Cursor → Option (List Char × Bool × Cursor)
  | 0, _ => none
  | fuel + 1, s =>
    match s.rest with
    | [] => some ([], false, s)
    | c :: r =>
      if isBlank c || isBreak c then some ([], false, s)
      else if !double && c == '\'' then
        match r with
        | '\'' :: _ => do
          let (cs, broken, s) ← takeQuotedWord double fuel (s.skipMany 2)
          some ('\'' :: cs, broken, s)
        | _ => some ([], false, s)
      else if double && c == '"' then some ([], false, s)
      else if double && c == '\\' then
        match r with
        | [] => none
        | e :: digits =>
          if isBreak e then some ([], true, s.skip.skipBreak)
          else
            match unescape? e with
            | some d => do
              let (cs, broken, s) ← takeQuotedWord double fuel (s.skipMany 2)
              some (d :: cs, broken, s)
            | none => do
              let n ← escapeDigits? e
              if digits.length < n then none
              else
                let d ← charOf? (← hexValue? (digits.take n))
                let (cs, broken, s) ← takeQuotedWord double fuel (s.skipMany (2 + n))
                some (d :: cs, broken, s)
      else do
        let (cs, broken, s) ← takeQuotedWord double fuel s.skip
        some (c :: cs, broken, s)

/-- Reads a quoted scalar on from a word up to the closing quote. -/
def takeQuotedFrom (double : Bool) : Nat → Cursor → List Char → Option (List Char × Cursor)
  | 0, _, _ => none
  | fuel + 1, s, text => do
    if s.atDocumentMark || s.rest.isEmpty then none
    else
      let (word, broken, s) ← takeQuotedWord double (s.rest.length + 1) s
      let text := text ++ word
      if s.rest.head? == some (if double then '"' else '\'') then some (text, s.skip)
      else
        let (gap, s) ← takeGap 0 (s.rest.length + 1) s { Gap.empty with broken }
        takeQuotedFrom double fuel s (text ++ gap.text)

/-- A scalar in quotes, from its opening quote on. -/
def takeQuoted (double : Bool) (s : Cursor) : Option (List Char × Cursor) :=
  takeQuotedFrom double (s.rest.length + 1) s.skip []

/-! ## Block scalars -/

/-- What is done with the line ends at the end of a block. -/
inductive Chomping where
  | strip
  | clip
  | keep
deriving DecidableEq

/-- The head of a block scalar: how its end is chomped, and its indentation, if given. -/
def takeBlockHead (s : Cursor) : Option (Chomping × Nat × Cursor) :=
  let sign (c : Char) : Option Chomping :=
    if c == '+' then some .keep else if c == '-' then some .strip else none
  let digit (c : Char) : Option Nat :=
    if '0' ≤ c ∧ c ≤ '9' then some (c.toNat - '0'.toNat) else none
  match s.rest with
  | [] => some (.clip, 0, s)
  | c :: r =>
    match sign c with
    | some k =>
      match r.head? >>= digit with
      | some 0 => none
      | some n => some (k, n, s.skipMany 2)
      | none => some (k, 0, s.skip)
    | none =>
      match digit c with
      | some 0 => none
      | some n =>
        match r.head? >>= sign with
        | some k => some (k, n, s.skipMany 2)
        | none => some (.clip, n, s.skip)
      | none => some (.clip, 0, s)

/-- Reads the empty lines before a line of a block: the line ends, the greatest column met, and the
cursor. `indent` is zero while the indentation is still to be found. -/
def takeEmptyLines (indent : Nat) :
    Nat → Cursor → Nat → List Char → Option (List Char × Nat × Cursor)
  | 0, _, _, _ => none
  | fuel + 1, s, widest, breaks =>
    match s.rest with
    | [] => some (breaks, max widest s.column, s)
    | c :: _ =>
      let inside := indent == 0 || s.column < indent
      if inside && c == ' ' then takeEmptyLines indent fuel s.skip widest breaks
      else if inside && c == '\t' then none
      else if isBreak c then
        takeEmptyLines indent fuel s.skipBreak (max widest s.column) (breaks ++ s.breakHere)
      else some (breaks, max widest s.column, s)

/-- The empty lines before a line, and the indentation, found from them if it was not given. -/
def takeIndentation (parent : Int) (indent : Nat) (s : Cursor) :
    Option (List Char × Nat × Cursor) := do
  let (breaks, widest, s) ← takeEmptyLines indent (s.rest.length + 2) s 0 []
  let found := max (max widest (parent + 1).toNat) 1
  some (breaks, if indent == 0 then found else indent, s)

/-- The text of the lines of a block up to the end of its last line, the line end there, and the
empty lines behind it. -/
def takeBlockLines (literal : Bool) (parent : Int) (indent : Nat) :
    Nat → Cursor → (text leading trailing : List Char) → (wasBlank : Bool) →
      Option (List Char × List Char × List Char × Cursor)
  | 0, _, _, _, _, _ => none
  | fuel + 1, s, text, leading, trailing, wasBlank => do
    match s.rest with
    | [] => some (text, leading, trailing, s)
    | c :: _ =>
      if s.column ≠ indent then some (text, leading, trailing, s)
      else
        let blank := isBlank c
        let joint :=
          if !literal && leading = ['\n'] && !wasBlank && !blank then
            if trailing.isEmpty then [' '] else []
          else leading
        let (line, s) := s.takeWhile fun c => !isBreak c
        let leading := s.breakHere
        let s := s.skipBreak
        let (breaks, _, s) ← takeIndentation parent indent s
        takeBlockLines literal parent indent fuel s (text ++ joint ++ trailing ++ line) leading
          breaks blank

/-- A block scalar inside a block at column `parent`, from its indicator on. -/
def takeBlock (literal : Bool) (parent : Int) (s : Cursor) : Option (List Char × Cursor) := do
  let (chomping, increment, s) ← takeBlockHead s.skip
  let s ← s.finishLine?
  let given :=
    if increment == 0 then 0 else if 0 ≤ parent then parent.toNat + increment else increment
  let (breaks, indent, s) ← takeIndentation parent given s
  let (text, leading, trailing, s) ←
    takeBlockLines literal parent indent (s.rest.length + 1) s [] [] breaks false
  match chomping with
  | .strip => some (text, s)
  | .clip => some (text ++ leading, s)
  | .keep => some (text ++ leading ++ trailing, s)

end Acceptance.Yaml
