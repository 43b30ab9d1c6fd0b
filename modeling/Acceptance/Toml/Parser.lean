import Acceptance.Number.Binary64
import Acceptance.Toml.Value

/-!
# TOML texts

Each `take…` reads one construct at the head of a text and gives the text behind it.

* `takeString`, `takeNumber`, `takeMoment`: the scalars.
* `takeKey`: names joined by points.
* `takeValue`: values, with arrays and inline tables up to `maxDepth` inside one another.
* `parse`: the table of a whole text.
-/

namespace Acceptance.Toml

/-- Arrays and inline tables inside one another, and names of one key, stay below this number. -/
def maxDepth : Nat := 80

/-! ## Blanks and comments -/

/-- A space or a tab. -/
def isBlank (c : Char) : Bool := c == ' ' || c == '\t'

/-- The text without its leading blanks. -/
def skipBlanks (s : List Char) : List Char := s.dropWhile isBlank

/-- The characters of comments and of strings on one line: no control characters but the tab. -/
def isText (c : Char) : Bool := c == '\t' || (' ' ≤ c && c != '\x7f')

/-- The text behind a line end. -/
def takeNewline : List Char → Option (List Char)
  | '\n' :: r => some r
  | '\r' :: '\n' :: r => some r
  | _ => none

/-- The text behind what may follow the parts of a line: blanks, a comment, and the end of the line
or of the text. -/
def finishLine (s : List Char) : Option (List Char) :=
  let s := match skipBlanks s with
    | '#' :: r => r.dropWhile isText
    | s => s
  if s.isEmpty then some [] else takeNewline s

/-- The text behind blanks, line ends and comments; a comment has to end with its line. -/
def skipLines : Nat → List Char → Option (List Char)
  | 0, s => some s
  | fuel + 1, s =>
    match skipBlanks s with
    | '#' :: r => do skipLines fuel (← takeNewline (r.dropWhile isText))
    | s =>
      match takeNewline s with
      | some r => skipLines fuel r
      | none => some s

/-! ## Strings -/

/-- The value of a hexadecimal digit. -/
def hexDigit? (c : Char) : Option Nat :=
  if '0' ≤ c ∧ c ≤ '9' then some (c.toNat - '0'.toNat)
  else if 'a' ≤ c ∧ c ≤ 'f' then some (c.toNat - 'a'.toNat + 10)
  else if 'A' ≤ c ∧ c ≤ 'F' then some (c.toNat - 'A'.toNat + 10)
  else none

/-- The character whose code point is written by hexadecimal digits. -/
def charOfHex? (ds : List Char) : Option Char := do
  let n ← ds.foldlM (fun n c => (hexDigit? c).map (n * 16 + ·)) 0
  if n < 0xd800 ∨ (0xdfff < n ∧ n < 0x110000) then some (Char.ofNat n) else none

/-- The character that a letter after a backslash stands for. -/
def unescape? (c : Char) : Option Char :=
  match c with
  | 'b' => some '\x08'
  | 't' => some '\t'
  | 'n' => some '\n'
  | 'f' => some '\x0c'
  | 'r' => some '\r'
  | '"' | '\\' => some c
  | _ => none

/-- A string in double quotes, behind its first quote. -/
def takeBasic : List Char → Option (List Char × List Char)
  | [] => none
  | '"' :: r => some ([], r)
  | '\\' :: 'u' :: a :: b :: c :: d :: r => do
    let x ← charOfHex? [a, b, c, d]
    let (cs, r) ← takeBasic r
    some (x :: cs, r)
  | '\\' :: 'U' :: a :: b :: c :: d :: e :: f :: g :: h :: r => do
    let x ← charOfHex? [a, b, c, d, e, f, g, h]
    let (cs, r) ← takeBasic r
    some (x :: cs, r)
  | '\\' :: c :: r => do
    let x ← unescape? c
    let (cs, r) ← takeBasic r
    some (x :: cs, r)
  | c :: r =>
    if isText c && c != '\\' then do
      let (cs, r) ← takeBasic r
      some (c :: cs, r)
    else none

/-- Where the reader of a long string stands: in its text, behind a backslash that ends its line, or
in the blanks and line ends after that. -/
inductive Place where
  | text
  | lineEnd
  | skipping

/-- A string in three double quotes, behind them. Up to two quotes may stand before the last three. -/
def takeLongBasic : Place → List Char → Option (List Char × List Char)
  | .lineEnd, c :: r =>
    if isBlank c then takeLongBasic .lineEnd r
    else if c == '\n' then takeLongBasic .skipping r
    else
      match c, r with
      | '\r', '\n' :: r => takeLongBasic .skipping r
      | _, _ => none
  | _, [] => none
  | .skipping, ' ' :: r => takeLongBasic .skipping r
  | .skipping, '\t' :: r => takeLongBasic .skipping r
  | .skipping, '\n' :: r => takeLongBasic .skipping r
  | .skipping, '\r' :: '\n' :: r => takeLongBasic .skipping r
  | _, '"' :: '"' :: '"' :: '"' :: '"' :: r => some (['"', '"'], r)
  | _, '"' :: '"' :: '"' :: '"' :: r => some (['"'], r)
  | _, '"' :: '"' :: '"' :: r => some ([], r)
  | _, '\r' :: '\n' :: r => do
    let (cs, r) ← takeLongBasic .text r
    some ('\n' :: cs, r)
  | _, '\\' :: 'u' :: a :: b :: c :: d :: r => do
    let x ← charOfHex? [a, b, c, d]
    let (cs, r) ← takeLongBasic .text r
    some (x :: cs, r)
  | _, '\\' :: 'U' :: a :: b :: c :: d :: e :: f :: g :: h :: r => do
    let x ← charOfHex? [a, b, c, d, e, f, g, h]
    let (cs, r) ← takeLongBasic .text r
    some (x :: cs, r)
  | _, '\\' :: c :: r =>
    match unescape? c with
    | some x => do
      let (cs, r) ← takeLongBasic .text r
      some (x :: cs, r)
    | none => if isBlank c || c == '\n' || c == '\r' then takeLongBasic .lineEnd (c :: r) else none
  | _, c :: r =>
    if c == '\n' || (isText c && c != '\\') then do
      let (cs, r) ← takeLongBasic .text r
      some (c :: cs, r)
    else none
termination_by _ s => s.length

/-- A string in single quotes, behind the first. -/
def takeLiteral : List Char → Option (List Char × List Char)
  | [] => none
  | '\'' :: r => some ([], r)
  | c :: r =>
    if isText c then do
      let (cs, r) ← takeLiteral r
      some (c :: cs, r)
    else none

/-- A string in three single quotes, behind them. -/
def takeLongLiteral : List Char → Option (List Char × List Char)
  | [] => none
  | '\'' :: '\'' :: '\'' :: '\'' :: '\'' :: r => some (['\'', '\''], r)
  | '\'' :: '\'' :: '\'' :: '\'' :: r => some (['\''], r)
  | '\'' :: '\'' :: '\'' :: r => some ([], r)
  | '\r' :: '\n' :: r => do
    let (cs, r) ← takeLongLiteral r
    some ('\n' :: cs, r)
  | c :: r =>
    if c == '\n' || isText c then do
      let (cs, r) ← takeLongLiteral r
      some (c :: cs, r)
    else none

/-- The text behind a line end, or the text itself. -/
def dropNewline (s : List Char) : List Char := (takeNewline s).getD s

/-- A string of any of the four kinds. -/
def takeString (s : List Char) : Option (String × List Char) := do
  let (cs, r) ←
    match s with
    | '"' :: '"' :: '"' :: r => takeLongBasic .text (dropNewline r)
    | '"' :: r => takeBasic r
    | '\'' :: '\'' :: '\'' :: r => takeLongLiteral (dropNewline r)
    | '\'' :: r => takeLiteral r
    | _ => none
  some (String.ofList cs, r)

/-! ## Numbers -/

/-- Digits of a radix, with single underscores between them; a digit comes first. -/
def takeDigits (radix : Nat) : List Char → Option (List Nat × List Char)
  | [] => none
  | c :: r => do
    let d ← hexDigit? c
    if radix ≤ d then none
    else
      match r with
      | [] => some ([d], [])
      | '_' :: r' => do
        let (ds, r) ← takeDigits radix r'
        some (d :: ds, r)
      | e :: r' =>
        match hexDigit? e with
        | some n =>
          if n < radix then do
            let (ds, r) ← takeDigits radix (e :: r')
            some (d :: ds, r)
          else some ([d], e :: r')
        | none => some ([d], e :: r')

/-- The number of some digits. -/
def digitsValue (radix : Nat) (ds : List Nat) : Nat := ds.foldl (fun n d => n * radix + d) 0

/-- The sign before a number. -/
def takeSign : List Char → Bool × List Char
  | '-' :: r => (true, r)
  | '+' :: r => (false, r)
  | r => (false, r)

/-- The digits of a decimal whole number: a zero stands alone. -/
def takeWhole : List Char → Option (List Nat × List Char)
  | '0' :: r => some ([0], r)
  | s => takeDigits 10 s

/-- An integer of the signed 64-bit range, below `2^63` in size or its negative. -/
def word? (i : Int) : Option Value :=
  if -9223372036854775808 ≤ i ∧ i < 9223372036854775808 then some (.integer i) else none

/-- The exponent of a float, if one stands here. -/
def takeExponent : List Char → Option (Option Int × List Char)
  | c :: r =>
    if c == 'e' || c == 'E' then do
      let (below, r) := takeSign r
      let (ds, r) ← takeDigits 10 r
      let n : Int := digitsValue 10 ds
      some (some (if below then -n else n), r)
    else some (none, c :: r)
  | [] => some (none, [])

/-- The fraction of a float, if one stands here. -/
def takeFraction : List Char → Option (Option (List Nat) × List Char)
  | '.' :: r => do
    let (ds, r) ← takeDigits 10 r
    some (some ds, r)
  | r => some (none, r)

/-- Whether a decimal `digits · 10^e` lies beyond the binary values of 64 bits. -/
def tooLarge (digits : List Nat) (e : Int) : Bool :=
  let n := digitsValue 10 digits
  if n == 0 then false
  else
    let lead : Int := (Nat.toDigits 10 n).length + e
    if 400 < lead then true
    else if lead < 0 then false
    else (Number.Binary64.ofRatio false (n * Number.tenTo e.toNat) (Number.tenTo (-e).toNat)).isNone

/-- The characters that `r` leaves of `s`. -/
def written (s r : List Char) : List Char := s.take (s.length - r.length)

/-- A number: a float with a fraction, an exponent or a name, or an integer. -/
def takeNumber (s : List Char) : Option (Value × List Char) :=
  let (negative, body) := takeSign s
  match body with
  | 'i' :: 'n' :: 'f' :: r => some (.float (written s r), r)
  | 'n' :: 'a' :: 'n' :: r => some (.float (written s r), r)
  | _ =>
    match s with
    | '0' :: 'x' :: r => do
      let (ds, r) ← takeDigits 16 r
      some (← word? (digitsValue 16 ds), r)
    | '0' :: 'o' :: r => do
      let (ds, r) ← takeDigits 8 r
      some (← word? (digitsValue 8 ds), r)
    | '0' :: 'b' :: r => do
      let (ds, r) ← takeDigits 2 r
      some (← word? (digitsValue 2 ds), r)
    | _ => do
      let (whole, r) ← takeWhole body
      let (fraction, r) ← takeFraction r
      let (exponent, r) ← takeExponent r
      if fraction.isNone && exponent.isNone then
        let n : Int := digitsValue 10 whole
        some (← word? (if negative then -n else n), r)
      else
        let ds := fraction.getD []
        if !negative && tooLarge (whole ++ ds) (exponent.getD 0 - ds.length) then none
        else some (.float (written s r), r)

/-! ## Moments -/

/-- A number of exactly `n` decimal digits. -/
def takeFixed (n : Nat) (s : List Char) : Option (Nat × List Char) :=
  let ds := s.take n
  if ds.length == n && ds.all Char.isDigit then
    some (ds.foldl (fun m c => m * 10 + (c.toNat - '0'.toNat)) 0, s.drop n)
  else none

/-- The days of a month. -/
def daysIn (year month : Nat) : Nat :=
  if month == 2 then
    if year % 4 == 0 && (year % 100 != 0 || year % 400 == 0) then 29 else 28
  else if [4, 6, 9, 11].contains month then 30
  else 31

/-- A number of two digits between two bounds. -/
def takePair (low high : Nat) (s : List Char) : Option (Nat × List Char) := do
  let (n, r) ← takeFixed 2 s
  if low ≤ n && n ≤ high then some (n, r) else none

/-- A character that has to stand here. -/
def takeChar (c : Char) : List Char → Option (List Char)
  | d :: r => if c == d then some r else none
  | [] => none

/-- The text behind a day. -/
def takeDay (s : List Char) : Option (List Char) := do
  let (year, r) ← takeFixed 4 s
  let (month, r) ← takePair 1 12 (← takeChar '-' r)
  let (_, r) ← takePair 1 (daysIn year month) (← takeChar '-' r)
  some r

/-- The text behind a time of day. -/
def takeTime (s : List Char) : Option (List Char) := do
  let (_, r) ← takePair 0 23 s
  let (_, r) ← takePair 0 59 (← takeChar ':' r)
  let (_, r) ← takePair 0 60 (← takeChar ':' r)
  match r with
  | '.' :: c :: r => if c.isDigit then some (r.dropWhile Char.isDigit) else none
  | ['.'] => none
  | r => some r

/-- The text behind the offset of a time, if one stands here. -/
def takeOffset (s : List Char) : Option (List Char) :=
  match s with
  | 'Z' :: r | 'z' :: r => some r
  | '+' :: r | '-' :: r => do
    let (_, r) ← takePair 0 23 r
    let (_, r) ← takePair 0 59 (← takeChar ':' r)
    some r
  | r => some r

/-- Whether a day or a time stands here: four digits and a hyphen, or two and a colon. -/
def startsMoment (s : List Char) : Bool :=
  (((takeFixed 4 s).bind fun p => takeChar '-' p.2).isSome) ||
    (((takeFixed 2 s).bind fun p => takeChar ':' p.2).isSome)

/-- A day, a time, or both with or without an offset. -/
def takeMoment (s : List Char) : Option (Value × List Char) := do
  let r ←
    if ((takeFixed 4 s).bind fun p => takeChar '-' p.2).isSome then do
      let r ← takeDay s
      match r with
      | c :: t =>
        if c == 'T' || c == 't' || (c == ' ' && startsMoment t) then takeOffset (← takeTime t)
        else some r
      | [] => some []
    else takeTime s
  some (.moment (written s r), r)

/-! ## Keys and values -/

/-- The characters of a name without quotes. -/
def isNameChar (c : Char) : Bool := c.isAlphanum || c == '-' || c == '_'

/-- One name. -/
def takeName (s : List Char) : Option (String × List Char) :=
  match s with
  | '"' :: r => do let (cs, r) ← takeBasic r; some (String.ofList cs, r)
  | '\'' :: r => do let (cs, r) ← takeLiteral r; some (String.ofList cs, r)
  | _ =>
    let name := s.takeWhile isNameChar
    if name.isEmpty then none else some (String.ofList name, s.drop name.length)

/-- Names joined by points, with blanks around each. -/
def takeNames : Nat → List Char → Option (List String × List Char)
  | 0, _ => none
  | fuel + 1, s => do
    let (name, r) ← takeName (skipBlanks s)
    match skipBlanks r with
    | '.' :: r => do
      let (names, r) ← takeNames fuel r
      some (name :: names, r)
    | r => some ([name], r)

/-- A key. -/
def takeKey (s : List Char) : Option (List String × List Char) := do
  let (names, r) ← takeNames (s.length + 1) s
  if names.length < maxDepth then some (names, r) else none

mutual

/-- A value; `room` more arrays and inline tables may be entered. -/
def takeValue : Nat → Nat → List Char → Option (Value × List Char)
  | 0, _, _ => none
  | _ + 1, _, [] => none
  | fuel + 1, room, c :: r =>
    if c == '"' || c == '\'' then do
      let (s, r) ← takeString (c :: r)
      some (.string s, r)
    else if c == '[' then
      match room with
      | 0 => none
      | room + 1 => do
        let (xs, r) ← takeItems fuel room r
        some (.array xs, r)
    else if c == '\x7b' then
      match room with
      | 0 => none
      | room + 1 => do
        let r := skipBlanks r
        let (es, r) ←
          match r with
          | '\x7d' :: r => some ([], r)
          | _ => takeEntries fuel room [] r
        some (.table (entriesValue es), r)
    else if c == 't' then
      match r with
      | 'r' :: 'u' :: 'e' :: r => some (.bool true, r)
      | _ => none
    else if c == 'f' then
      match r with
      | 'a' :: 'l' :: 's' :: 'e' :: r => some (.bool false, r)
      | _ => none
    else if startsMoment (c :: r) then takeMoment (c :: r)
    else takeNumber (c :: r)

/-- The items of an array up to its bracket. -/
def takeItems : Nat → Nat → List Char → Option (List Value × List Char)
  | 0, _, _ => none
  | fuel + 1, room, s => do
    let s ← skipLines (s.length + 1) s
    match s with
    | ']' :: r => some ([], r)
    | s =>
      let (x, r) ← takeValue fuel room s
      let r ← skipLines (r.length + 1) r
      match r with
      | ',' :: r => do
        let (xs, r) ← takeItems fuel room r
        some (x :: xs, r)
      | ']' :: r => some ([x], r)
      | _ => none

/-- The entries of an inline table up to its brace. -/
def takeEntries : Nat → Nat → Entries → List Char → Option (Entries × List Char)
  | 0, _, _, _ => none
  | fuel + 1, room, es, s => do
    let (names, r) ← takeKey s
    match r with
    | '=' :: r => do
      let (v, r) ← takeValue fuel room (skipBlanks r)
      let es ← es.insert names v .written
      match skipBlanks r with
      | ',' :: r => takeEntries fuel room es r
      | '\x7d' :: r => some (es, r)
      | _ => none
    | _ => none

end

/-! ## Documents -/

/-- A key line. -/
def takeEntry (s : List Char) : Option ((List String × Value) × List Char) := do
  let (names, r) ← takeKey s
  match r with
  | '=' :: r => do
    let r := skipBlanks r
    let (v, r) ← takeValue (2 * r.length + 2) (maxDepth - 1) r
    some ((names, v), r)
  | _ => none

/-- The header of a table or of a row. -/
def takeHeader (s : List Char) : Option ((Bool × List String) × List Char) :=
  match s with
  | '[' :: '[' :: r => do
    let (names, r) ← takeKey r
    match r with
    | ']' :: ']' :: r => some ((true, names), r)
    | _ => none
  | '[' :: r => do
    let (names, r) ← takeKey r
    match r with
    | ']' :: r => some ((false, names), r)
    | _ => none
  | _ => none

/-- Reads line by line. -/
def takeLines : Nat → Draft → List Char → Option Draft
  | 0, _, _ => none
  | fuel + 1, d, s =>
    match skipBlanks s with
    | [] => some d
    | '#' :: r => do takeLines fuel d (← finishLine ('#' :: r))
    | '[' :: r => do
      let ((isRow, names), r) ← takeHeader ('[' :: r)
      let r ← finishLine r
      takeLines fuel (← d.header isRow names) r
    | c :: r =>
      match takeNewline (c :: r) with
      | some r => takeLines fuel d r
      | none => do
        let ((names, v), r) ← takeEntry (c :: r)
        let r ← finishLine r
        takeLines fuel (← d.insert names v) r

/-- The table of a text; a byte order mark at its start does not count. -/
def parse (text : String) : Option Value := do
  let s := match text.toList with
    | '\ufeff' :: r => r
    | s => s
  (← takeLines (s.length + 1) Draft.empty s).toValue

end Acceptance.Toml
