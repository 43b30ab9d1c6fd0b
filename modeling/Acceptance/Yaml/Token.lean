import Acceptance.Yaml.Scalar

/-!
# Tokens of a YAML text

The marks, names and scalars of a text in their order. Indentation shows as tokens of its own: the
start of a block and its end. A key that is not marked is found only at the colon behind it, so the
place where one may have started is remembered until then.

* `Token`: the tokens. The text itself starts and ends without one.
* `Lexer`: the cursor, the open blocks and brackets, and the tokens so far.
* `tokens?`: the tokens of a text.
-/

namespace Acceptance.Yaml

/-- The tokens of a text. -/
inductive Token where
  | versionDirective (major minor : Nat)
  | tagDirective (handle stem : List Char)
  | documentStart
  | documentEnd
  | blockSequenceStart
  | blockMappingStart
  | blockEnd
  | flowSequenceStart
  | flowSequenceEnd
  | flowMappingStart
  | flowMappingEnd
  | blockEntry
  | flowEntry
  | key
  | value
  | alias (name : List Char)
  | anchor (name : List Char)
  | tag (handle suffix : List Char)
  | scalar (style : Style) (text : List Char)
deriving DecidableEq, Repr

/-- A place where an unmarked key may have started: before the token `number`. A key that starts a
line of a block mapping is required to be one. -/
structure Candidate where
  required : Bool
  number : Nat
  index : Nat
  line : Nat
  column : Nat
deriving Repr

/-- The state of reading: `indent` is the column of the innermost block, -1 outside all blocks;
`candidates` holds one place for every open bracket and one for what is outside them, innermost
first. -/
structure Lexer where
  cursor : Cursor
  indent : Int
  outer : List Int
  keyAllowed : Bool
  candidates : List (Option Candidate)
  tokens : Array Token

namespace Lexer

/-- The state at the start of a text. -/
def start (s : List Char) : Lexer := ⟨Cursor.start s, -1, [], true, [none], #[]⟩

/-- Whether the cursor stands inside brackets. -/
def inFlow (l : Lexer) : Bool := 1 < l.candidates.length

/-- One more token. -/
def pushToken (t : Token) (l : Lexer) : Lexer := { l with tokens := l.tokens.push t }

/-- A token before the token `number`. -/
def insertToken (number : Nat) (t : Token) (l : Lexer) : Lexer :=
  { l with tokens := l.tokens.extract 0 number ++ #[t] ++ l.tokens.extract number l.tokens.size }

/-- Moves the cursor. -/
def moved (f : Cursor → Cursor) (l : Lexer) : Lexer := { l with cursor := f l.cursor }

/-- Moves over one character. -/
def skip (l : Lexer) : Lexer := l.moved Cursor.skip

/-! ## Places of unmarked keys -/

/-- Gives up the places that are on an earlier line or too far back. -/
def dropStale (l : Lexer) : Option Lexer := do
  let candidates ← l.candidates.mapM fun k =>
    match k with
    | none => some none
    | some k =>
      if k.line < l.cursor.line || k.index + 1024 < l.cursor.index then
        if k.required then none else some none
      else some (some k)
  some { l with candidates }

/-- Gives up the innermost place. -/
def dropCandidate (l : Lexer) : Option Lexer :=
  match l.candidates with
  | some k :: r => if k.required then none else some { l with candidates := none :: r }
  | _ => some l

/-- Remembers that an unmarked key may start here. -/
def saveCandidate (l : Lexer) : Option Lexer :=
  if l.keyAllowed then do
    let l ← l.dropCandidate
    let k : Candidate := ⟨!l.inFlow && l.indent == (l.cursor.column : Int), l.tokens.size,
      l.cursor.index, l.cursor.line, l.cursor.column⟩
    some { l with candidates := some k :: l.candidates.drop 1 }
  else some l

/-! ## Blocks -/

/-- Opens a block at a column, before the token `number`, if it lies further in. -/
def openBlock (column number : Nat) (t : Token) (l : Lexer) : Lexer :=
  if !l.inFlow && l.indent < (column : Int) then
    { l with indent := column, outer := l.indent :: l.outer }.insertToken number t
  else l

/-- Closes the blocks that lie further in than a column. -/
def closeBlocks (column : Int) (l : Lexer) : Lexer :=
  if l.inFlow then l
  else
    let rec go (indent : Int) : List Int → Array Token → Int × List Int × Array Token
      | [], ts => (indent, [], ts)
      | o :: r, ts => if column < indent then go o r (ts.push .blockEnd) else (indent, o :: r, ts)
    let (indent, outer, tokens) := go l.indent l.outer l.tokens
    { l with indent, outer, tokens }

/-! ## Directives, names and tags -/

/-- The value of a decimal number of at most nine digits. -/
def number? (cs : List Char) : Option Nat :=
  if cs.isEmpty || 9 < cs.length then none
  else some (cs.foldl (fun n c => n * 10 + (c.toNat - '0'.toNat)) 0)

/-- A version: two numbers and a point. -/
def takeVersion (s : Cursor) : Option (Token × Cursor) := do
  let (major, s) := s.skipBlanks.takeWhile Char.isDigit
  let major ← number? major
  if s.rest.head? == some '.' then
    let (minor, s) := s.skip.takeWhile Char.isDigit
    some (.versionDirective major (← number? minor), s)
  else none

/-- The handle of a tag: an exclamation mark, or a name between two. -/
def takeHandle (directive : Bool) (s : Cursor) : Option (List Char × Cursor) :=
  if s.rest.head? == some '!' then
    let (name, s) := s.skip.takeWhile isNameChar
    if s.rest.head? == some '!' then some ('!' :: (name ++ ['!']), s.skip)
    else if directive && !name.isEmpty then none
    else some ('!' :: name, s)
  else none

/-- The characters that stand in a tag as they are; `wide` admits the marks of brackets too. -/
def isTagChar (wide : Bool) (c : Char) : Bool :=
  isNameChar c ||
    [';', '/', '?', ':', '@', '&', '=', '+', '$', '.', '!', '~', '*', '\'', '(', ')'].contains c
    || (wide && [',', '[', ']'].contains c)

/-- An octet written with a percent sign. -/
def percentOctet? : List Char → Option (Nat × List Char)
  | '%' :: a :: b :: r => do some ((← hexDigit? a) * 16 + (← hexDigit? b), r)
  | _ => none

/-- The further octets of a character. -/
def percentMore : Nat → Nat → List Char → Option (Nat × List Char)
  | 0, n, s => some (n, s)
  | k + 1, n, s => do
    let (b, r) ← percentOctet? s
    if b / 64 == 2 then percentMore k (n * 64 + b % 64) r else none

/-- A character written by its octets. -/
def percentChar? (s : List Char) : Option (Char × List Char) := do
  let (b, r) ← percentOctet? s
  let (n, r) ←
    if b < 0x80 then some (b, r)
    else if b / 32 == 6 then percentMore 1 (b % 32) r
    else if b / 16 == 14 then percentMore 2 (b % 16) r
    else if b / 8 == 30 then percentMore 3 (b % 8) r
    else none
  some (Char.ofNat n, r)

/-- The characters of a tag. -/
def takeTagChars (wide : Bool) : Nat → Cursor → Option (List Char × Cursor)
  | 0, s => some ([], s)
  | fuel + 1, s =>
    match s.rest with
    | [] => some ([], s)
    | c :: _ =>
      if c == '%' then do
        let (d, r) ← percentChar? s.rest
        let (cs, s) ← takeTagChars wide fuel (s.skipMany (s.rest.length - r.length))
        some (d :: cs, s)
      else if isTagChar wide c then do
        let (cs, s) ← takeTagChars wide fuel s.skip
        some (c :: cs, s)
      else some ([], s)

/-- The part of a tag behind its handle; `head` is what of it was read already, if anything. -/
def takeTagRest (wide : Bool) (head : List Char) (s : Cursor) : Option (List Char × Cursor) := do
  let (cs, t) ← takeTagChars wide (s.rest.length + 1) s
  if head.isEmpty && cs.isEmpty then none else some (head.drop 1 ++ cs, t)

/-- A handle and what it stands for. -/
def takeTagMeaning (s : Cursor) : Option (Token × Cursor) := do
  let (handle, s) ← takeHandle true s.skipBlanks
  match s.rest with
  | [] => none
  | c :: _ =>
    if isBlank c then
      let (meaning, s) ← takeTagRest true [] s.skipBlanks
      if atGap s.rest then some (.tagDirective handle meaning, s) else none
    else none

/-- A directive, from its percent sign to the end of its line. -/
def takeDirective (s : Cursor) : Option (Token × Cursor) := do
  let (name, s) := s.skip.takeWhile isNameChar
  if name.isEmpty || !atGap s.rest then none
  else
    let (t, s) ←
      if name == ['Y', 'A', 'M', 'L'] then takeVersion s
      else if name == ['T', 'A', 'G'] then takeTagMeaning s
      else none
    some (t, ← s.finishLine?)

/-- The name of an anchor or an alias, from the sign before it. -/
def takeName (s : Cursor) : Option (List Char × Cursor) :=
  let (name, s) := s.skip.takeWhile isNameChar
  let ended := atGap s.rest || match s.rest with
    | c :: _ => ['?', ':', ',', ']', '\x7d', '%', '@', '`'].contains c
    | [] => true
  if name.isEmpty || !ended then none else some (name, s)

/-- A tag: in full between angle brackets, or a handle and the rest. -/
def takeTag (inFlow : Bool) (s : Cursor) : Option (Token × Cursor) := do
  let (t, s) : Token × Cursor ←
    match s.rest with
    | _ :: '<' :: _ => do
      let (cs, s) ← takeTagRest true [] (s.skipMany 2)
      if s.rest.head? == some '>' then some (Token.tag [] cs, s.skip) else none
    | _ => do
      let (handle, s) ← takeHandle false s
      if 1 < handle.length && handle.getLast? == some '!' then
        let (cs, s) ← takeTagRest false [] s
        some (Token.tag handle cs, s)
      else
        let (cs, s) ← takeTagRest false handle s
        some (if cs.isEmpty then Token.tag [] ['!'] else Token.tag ['!'] cs, s)
  if atGap s.rest || (inFlow && s.rest.head? == some ',') then some (t, s) else none

/-! ## Steps -/

/-- Moves over blanks, comments and line ends to the next token. Outside brackets a line end lets an
unmarked key start, and a tab is a blank only where none can. -/
def toToken : Nat → Lexer → Lexer
  | 0, l => l
  | fuel + 1, l =>
    let byteOrderMark := l.cursor.index == 0 && l.cursor.rest.head? == some '\ufeff'
    let l := if byteOrderMark then l.skip else l
    let tab := l.inFlow || !l.keyAllowed
    let l := l.moved fun s => (s.takeWhile fun c => c == ' ' || (tab && c == '\t')).2
    let l := match l.cursor.rest with
      | '#' :: _ => l.moved fun s => (s.takeWhile fun c => !isBreak c).2
      | _ => l
    match l.cursor.rest with
    | c :: _ =>
      if isBreak c then
        let l := l.moved Cursor.skipBreak
        toToken fuel (if l.inFlow then l else { l with keyAllowed := true })
      else l
    | [] => l

/-- The end of all blocks, where no unmarked key may be under way. -/
def endBlocks (l : Lexer) : Option Lexer := do
  let l ← (l.closeBlocks (-1)).dropCandidate
  some { l with keyAllowed := false }

/-- A token of `n` characters at which a key under way ends. -/
def mark (n : Nat) (t : Token) (keyAllowed : Bool) (l : Lexer) : Option Lexer := do
  let l ← l.dropCandidate
  some (({ l with keyAllowed }.moved (Cursor.skipMany n)).pushToken t)

/-- A token that may start an unmarked key, and behind which none starts. -/
def content (take : Cursor → Option (Token × Cursor)) (l : Lexer) : Option Lexer := do
  let l ← l.saveCandidate
  let (t, cursor) ← take l.cursor
  some ({ l with cursor, keyAllowed := false }.pushToken t)

/-- An opening bracket. -/
def openBracket (t : Token) (l : Lexer) : Option Lexer := do
  let l ← l.saveCandidate
  some ({ l with candidates := none :: l.candidates, keyAllowed := true }.skip.pushToken t)

/-- A closing bracket. -/
def closeBracket (t : Token) (l : Lexer) : Option Lexer := do
  let l ← l.dropCandidate
  let candidates := if l.inFlow then l.candidates.drop 1 else l.candidates
  some ({ l with candidates, keyAllowed := false }.skip.pushToken t)

/-- The dash of an entry or the question mark of a key; outside brackets it may open a block. -/
def blockMark (opening t : Token) (keyAllowed : Bool) (l : Lexer) : Option Lexer :=
  if l.inFlow then l.mark 1 t keyAllowed
  else if l.keyAllowed then
    (l.openBlock l.cursor.column l.tokens.size opening).mark 1 t keyAllowed
  else none

/-- A colon: a key before it gets its token now. -/
def colon (l : Lexer) : Option Lexer :=
  match l.candidates with
  | some k :: r =>
    let l := { l with candidates := none :: r, keyAllowed := false }.insertToken k.number .key
    some ((l.openBlock k.column k.number .blockMappingStart).skip.pushToken .value)
  | _ =>
    if l.inFlow then some ({ l with keyAllowed := false }.skip.pushToken .value)
    else if l.keyAllowed then
      some ((l.openBlock l.cursor.column l.tokens.size .blockMappingStart).skip.pushToken .value)
    else none

/-- A plain scalar. -/
def plain (l : Lexer) : Option Lexer := do
  let l ← l.saveCandidate
  let (text, broken, cursor) ← takePlain l.inFlow (l.indent + 1).toNat l.cursor
  some ({ l with cursor, keyAllowed := broken }.pushToken (.scalar .plain text))

/-- A block scalar. -/
def block (literal : Bool) (l : Lexer) : Option Lexer := do
  let l ← l.dropCandidate
  let (text, cursor) ← takeBlock literal l.indent l.cursor
  some ({ l with cursor, keyAllowed := true }.pushToken
    (.scalar (if literal then .literal else .other) text))

/-- Whether a plain scalar starts here. -/
def startsPlain (inFlow : Bool) (c : Char) (r : List Char) : Bool :=
  let indicators := ['-', '?', ':', ',', '[', ']', '\x7b', '\x7d', '#', '&', '*', '!', '|', '>',
    '\'', '"', '%', '@', '`']
  !(isBlank c || isBreak c || indicators.contains c)
    || (c == '-' && !(match r with | d :: _ => isBlank d | [] => false))
    || (!inFlow && (c == '?' || c == ':') && !atGap r)

/-- Reads the token here. -/
def step (c : Char) (r : List Char) (l : Lexer) : Option Lexer :=
  let atStart := l.cursor.column == 0
  if atStart && c == '%' then do
    let l ← l.endBlocks
    let (t, cursor) ← takeDirective l.cursor
    some ({ l with cursor }.pushToken t)
  else if atStart && atMark '-' l.cursor.rest then do
    (← l.endBlocks).mark 3 .documentStart false
  else if atStart && atMark '.' l.cursor.rest then do
    (← l.endBlocks).mark 3 .documentEnd false
  else if c == '[' then l.openBracket .flowSequenceStart
  else if c == '\x7b' then l.openBracket .flowMappingStart
  else if c == ']' then l.closeBracket .flowSequenceEnd
  else if c == '\x7d' then l.closeBracket .flowMappingEnd
  else if c == ',' then l.mark 1 .flowEntry true
  else if c == '-' && atGap r then l.blockMark .blockSequenceStart .blockEntry true
  else if c == '?' && (l.inFlow || atGap r) then l.blockMark .blockMappingStart .key (!l.inFlow)
  else if c == ':' && (l.inFlow || atGap r) then l.colon
  else if c == '*' then l.content fun s => do let (n, s) ← takeName s; some (.alias n, s)
  else if c == '&' then l.content fun s => do let (n, s) ← takeName s; some (.anchor n, s)
  else if c == '!' then l.content (takeTag l.inFlow)
  else if c == '|' && !l.inFlow then l.block true
  else if c == '>' && !l.inFlow then l.block false
  else if c == '\'' then l.content fun s => do
    let (text, s) ← takeQuoted false s; some (.scalar .other text, s)
  else if c == '"' then l.content fun s => do
    let (text, s) ← takeQuoted true s; some (.scalar .other text, s)
  else if startsPlain l.inFlow c r then l.plain
  else none

/-- Reads tokens to the end of the text. -/
def run : Nat → Lexer → Option (Array Token)
  | 0, _ => none
  | fuel + 1, l => do
    let l ← (toToken (l.cursor.rest.length + 1) l).dropStale
    match l.cursor.rest with
    | [] =>
      let l ← (l.closeBlocks (-1)).dropCandidate
      some l.tokens
    | c :: r => run fuel (← (l.closeBlocks l.cursor.column).step c r)

end Lexer

/-- The tokens of a text; a byte order mark at its start does not count. -/
def tokens? (s : List Char) : Option (List Token) :=
  let s := match s with
    | '\ufeff' :: r => r
    | s => s
  if s.all allowed then (Lexer.run (s.length + 1) (Lexer.start s)).map Array.toList else none

end Acceptance.Yaml
