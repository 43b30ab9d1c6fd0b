import Acceptance.Number.Shortest
import Acceptance.Json.Value
import Acceptance.Text.Utf8

/-!
# The outline of a JSON text

What stands in a text, before anybody asks for values of a certain kind. A text can fail to be JSON
at any point; the outline keeps everything before that point, so that a reader meets the parts of a
text, and its faults, in the order in which they stand.

A reader either takes a part in or passes over it. Passing over is less strict: it looks neither at
the size of a number nor at the surrogates of a string. A reader of names wants a string. So a part
holds what each of them meets.

* `Fault`: the three classes of failure.
* `Lexeme`: the pieces of a number; `Lexeme.number`: the number they stand for.
* `Outline`, `outline`: the outline of a text and the function that takes it.
-/

namespace Acceptance.Json

/-- Why a text is not what a reader asks for: it ends too early, it is malformed, or it is well
formed but of the wrong kind. -/
inductive Fault where
  | incomplete
  | malformed
  | unsuitable
deriving DecidableEq, Repr

/-- A fault as met by a reader that takes the part in, by one that passes over it, and by one that
wants a name there and looks no further than the first character. -/
structure Break where
  taken : Fault
  passed : Fault
  named : Fault
deriving DecidableEq, Repr

/-- A fault that all readers meet. -/
def Break.all (f : Fault) : Break := ⟨f, f, f⟩

/-! ## Numbers -/

/-- The pieces of a number: the sign, the digits before and after the point, and the exponent. -/
structure Lexeme where
  negative : Bool
  whole : List Nat
  fraction : Option (List Nat)
  exponent : Option (Bool × List Nat)
deriving DecidableEq, Repr

/-- Digits taken into a significand while it stays below `2^64`: the significand, and how many digits
are left. -/
def accumulate (significand : Nat) : List Nat → Nat × Nat
  | [] => (significand, 0)
  | d :: r =>
    if significand * 10 + d < 18446744073709551616 then accumulate (significand * 10 + d) r
    else (significand, r.length + 1)

/-- The number that decimal digits stand for. -/
def digitsValue (ds : List Nat) : Nat := ds.foldl (fun n d => n * 10 + d) 0

/-- A value times a power of ten, taken in steps of at most `10^308`. -/
def scaleDown : Nat → Number.Binary64 → Int → Option Number.Binary64
  | 0, _, _ => some (Number.Binary64.zero false)
  | fuel + 1, x, e =>
    if e.natAbs ≤ 308 then do
      let p ← Number.Binary64.ofNat (Number.tenTo e.natAbs)
      if 0 ≤ e then x.mul p else x.div p
    else if x.isZero then some x
    else if 0 ≤ e then none
    else do
      let p ← Number.Binary64.ofNat (Number.tenTo 308)
      let y ← x.div p
      scaleDown fuel y (e + 308)

/-- The binary value of a significand times a power of ten, if it is not too large. -/
def fromParts (negative : Bool) (significand : Nat) (e : Int) : Option Number.Binary64 := do
  let x ← Number.Binary64.ofNat significand
  let y ← scaleDown 4 x e
  pure (if negative then y.neg else y)

/-- The binary value of a significand times a power of ten, with the sign of a lexeme. -/
def Lexeme.float (l : Lexeme) (significand : Nat) (e : Int) : Except Fault Number :=
  (fromParts l.negative significand e).elim (.error .malformed) fun x => .ok (.float x)

/-- The significand of a lexeme, and the power of ten it is counted in without the exponent. -/
def Lexeme.significand (l : Lexeme) : Nat × Int :=
  let (whole, dropped) := accumulate 0 l.whole
  match l.fraction with
  | none => (whole, dropped)
  | some ds =>
    let (s, left) := accumulate whole ds
    (s, (dropped : Int) - (ds.length - left : Nat))

/-- The number of a lexeme that is a sign and a whole number. -/
def Lexeme.integer (l : Lexeme) (whole : Nat) : Except Fault Number :=
  if l.negative = true ∧ (whole = 0 ∨ 9223372036854775808 < whole) then l.float whole 0
  else
    match Integer.ofInt? (if l.negative then -(whole : Int) else whole) with
    | some i => .ok (.int i)
    | none => l.float whole 0

/-- The number of a lexeme. Whole numbers of the 64-bit ranges are integers; minus zero, a point, an
exponent or a larger size make a binary value. -/
def Lexeme.number (l : Lexeme) : Except Fault Number :=
  let (significand, scale) := l.significand
  match l.exponent with
  | some (below, ds) =>
    let e := digitsValue ds
    if e < 2147483648 then l.float significand (if below then scale - e else scale + e)
    else if significand ≠ 0 ∧ below = false then .error .malformed
    else .ok (.float (Number.Binary64.zero l.negative))
  | none =>
    if l.fraction.isSome ∨ scale ≠ 0 then l.float significand scale
    else l.integer significand

/-- The value of a decimal digit. -/
def digit? (c : Char) : Option Nat :=
  if '0' ≤ c ∧ c ≤ '9' then some (c.toNat - '0'.toNat) else none

/-- The leading digits of a text, and the rest. -/
def takeDigits : List Char → List Nat × List Char
  | [] => ([], [])
  | c :: r =>
    match digit? c with
    | some d => let (ds, rest) := takeDigits r; (d :: ds, rest)
    | none => ([], c :: r)

/-- A fault where a digit is missing: at the end of the text a reader that takes the number in finds
it incomplete. -/
def missingDigit : List Char → Break
  | [] => ⟨.incomplete, .malformed, .malformed⟩
  | _ :: _ => .all .malformed

/-- Whether a minus stands at the head of a text, and the text behind it. -/
def takeMinus : List Char → Bool × List Char
  | '-' :: r => (true, r)
  | r => (false, r)

/-- The sign of an exponent, if one stands there: whether it is a minus, and the text behind it. -/
def takeSign : List Char → Bool × List Char
  | '+' :: r => (false, r)
  | r => takeMinus r

/-- The exponent of a number, if one stands there. -/
def takeExponent : List Char → Except Break (Option (Bool × List Nat) × List Char)
  | c :: r =>
    if c = 'e' ∨ c = 'E' then
      match takeDigits (takeSign r).2 with
      | ([], rest) => .error (missingDigit rest)
      | (ds, rest) => .ok (some ((takeSign r).1, ds), rest)
    else .ok (none, c :: r)
  | [] => .ok (none, [])

/-- The fraction of a number, if one stands there. -/
def takeFraction : List Char → Except Break (Option (List Nat) × List Char)
  | '.' :: r =>
    match takeDigits r with
    | ([], rest) => .error (missingDigit rest)
    | (ds, rest) => .ok (some ds, rest)
  | r => .ok (none, r)

/-- The digits before the point: a leading zero stands alone. -/
def takeWhole (s : List Char) : Except Break (List Nat × List Char) :=
  match takeDigits s with
  | ([], rest) => .error (missingDigit rest)
  | (0 :: _ :: _, _) => .error (.all .malformed)
  | (ds, rest) => .ok (ds, rest)

/-- The number at the head of a text. -/
def takeNumber (s : List Char) : Except Break (Lexeme × List Char) := do
  let (negative, r) := takeMinus s
  let (whole, r) ← takeWhole r
  let (fraction, r) ← takeFraction r
  let (exponent, r) ← takeExponent r
  pure (⟨negative, whole, fraction, exponent⟩, r)

/-! ## Strings -/

/-- A piece of a string: a character, or a code unit written by its number. -/
inductive Piece where
  | char (c : Char)
  | unit (n : Nat)
deriving DecidableEq, Repr

/-- The value of a hexadecimal digit. -/
def hexDigit? (c : Char) : Option Nat :=
  if '0' ≤ c ∧ c ≤ '9' then some (c.toNat - '0'.toNat)
  else if 'a' ≤ c ∧ c ≤ 'f' then some (c.toNat - 'a'.toNat + 10)
  else if 'A' ≤ c ∧ c ≤ 'F' then some (c.toNat - 'A'.toNat + 10)
  else none

/-- Four hexadecimal digits. -/
def hexQuad? (a b c d : Char) : Option Nat := do
  let a ← hexDigit? a
  let b ← hexDigit? b
  let c ← hexDigit? c
  let d ← hexDigit? d
  pure (((a * 16 + b) * 16 + c) * 16 + d)

/-- The character that a letter after a backslash stands for. -/
def unescape? (c : Char) : Option Char :=
  if c = '"' ∨ c = '\\' ∨ c = '/' then some c
  else if c = 'b' then some '\x08'
  else if c = 'f' then some '\x0c'
  else if c = 'n' then some '\n'
  else if c = 'r' then some '\r'
  else if c = 't' then some '\t'
  else none

/-- The pieces of a string up to its closing quote, and the text behind that, or the fault that cuts
the string short. -/
def takeString : List Char → List Piece × Except Fault (List Char)
  | [] => ([], .error .incomplete)
  | '"' :: r => ([], .ok r)
  | '\\' :: 'u' :: a :: b :: c :: d :: r =>
    match hexQuad? a b c d with
    | some n => let (ps, rest) := takeString r; (.unit n :: ps, rest)
    | none => ([], .error .malformed)
  | '\\' :: 'u' :: r => ([], .error (if Text.Utf8.octetCount r < 4 then .incomplete else .malformed))
  | '\\' :: c :: r =>
    match unescape? c with
    | some d => let (ps, rest) := takeString r; (.char d :: ps, rest)
    | none => ([], .error .malformed)
  | ['\\'] => ([], .error .incomplete)
  | c :: r =>
    if c.toNat < 0x20 then ([], .error .malformed)
    else let (ps, rest) := takeString r; (.char c :: ps, rest)

/-- The first code unit of a pair. -/
def isHigh (n : Nat) : Bool := 0xd800 ≤ n && n ≤ 0xdbff

/-- The second code unit of a pair. -/
def isLow (n : Nat) : Bool := 0xdc00 ≤ n && n ≤ 0xdfff

/-- The characters of some pieces, the pairs of code units joined. `cut` is the fault that follows
the pieces, if one does; a unit without its partner is a fault of its own. -/
def joinPieces (cut : Option Fault) : List Piece → Except Fault (List Char)
  | [] => match cut with
    | some f => .error f
    | none => .ok []
  | .char c :: r => return c :: (← joinPieces cut r)
  | .unit n :: r =>
    if isLow n then .error .malformed
    else if isHigh n then
      match r with
      | .unit m :: r =>
        if isLow m then
          return Char.ofNat (0x10000 + (n - 0xd800) * 0x400 + (m - 0xdc00)) :: (← joinPieces cut r)
        else .error .malformed
      | .char _ :: _ => .error .malformed
      | [] => .error (cut.getD .malformed)
    else return Char.ofNat n :: (← joinPieces cut r)

/-- What a reader makes of the pieces of a string. -/
def stringOf (ps : List Piece) (cut : Option Fault) : Except Fault String :=
  (joinPieces cut ps).map String.ofList

/-! ## Outlines -/

/-- How the members of an object end: with the brace, with a fault, or where a name should stand
first and something else does. For that a reader of names reports the fault given. -/
inductive Ending where
  | closed
  | broken (f : Fault)
  | nameless (f : Fault)
deriving DecidableEq, Repr

/-- What stands in a text. After a comma, a fault is an item or a member of its own. -/
inductive Outline where
  | null
  | bool (b : Bool)
  | number (n : Except Fault Number)
  | string (s : Except Fault String)
  | array (items : List Outline) (ending : Option Fault)
  | object (members : List (Except Fault String × Outline)) (ending : Ending)
  | broken (b : Break)

/-- The blanks of JSON. -/
def isSpace (c : Char) : Bool := c == ' ' || c == '\n' || c == '\t' || c == '\r'

/-- The text without its leading blanks. -/
def skipSpace (s : List Char) : List Char := s.dropWhile isSpace

/-- The text behind a word, if it stands at the head. -/
def takeWord (w : List Char) (s : List Char) : Except Fault (List Char) :=
  match w, s with
  | [], s => .ok s
  | _ :: _, [] => .error .incomplete
  | a :: w, b :: s => if a = b then takeWord w s else .error .malformed

/-- The fault of a text where something else has to stand. -/
def faultAt : List Char → Fault
  | [] => .incomplete
  | _ :: _ => .malformed

/-- A word and the outline it stands for; behind a fault nothing is read. -/
def wordOutline (w : List Char) (o : Outline) (s : List Char) : Outline × List Char :=
  match takeWord w s with
  | .ok r => (o, r)
  | .error f => (.broken ⟨f, f, .malformed⟩, [])

/-- The fault that a reader of strings reports of a value of another kind. -/
def otherThanString (s : List Char) : Fault :=
  match s with
  | [] => .incomplete
  | c :: r =>
    let word (w : List Char) : Fault :=
      match takeWord w r with
      | .ok _ => .unsuitable
      | .error f => f
    if c = 'n' then word ['u', 'l', 'l']
    else if c = 't' then word ['r', 'u', 'e']
    else if c = 'f' then word ['a', 'l', 's', 'e']
    else if c = '[' ∨ c = Char.ofNat 0x7b then .unsuitable
    else if c = '-' ∨ (digit? c).isSome then
      match takeNumber (c :: r) with
      | .ok (l, _) => match l.number with
        | .ok _ => .unsuitable
        | .error f => f
      | .error b => b.taken
    else .malformed

mutual

/-- The outline at the head of a text without leading blanks, and the text behind it. -/
def outlineValue : Nat → List Char → Outline × List Char
  | 0, _ => (.broken (.all .incomplete), [])
  | _ + 1, [] => (.broken (.all .incomplete), [])
  | fuel + 1, c :: r =>
    if c = 'n' then wordOutline ['u', 'l', 'l'] .null r
    else if c = 't' then wordOutline ['r', 'u', 'e'] (.bool true) r
    else if c = 'f' then wordOutline ['a', 'l', 's', 'e'] (.bool false) r
    else if c = '"' then
      match takeString r with
      | (ps, .ok rest) => (.string (stringOf ps none), rest)
      | (ps, .error f) =>
        match stringOf ps (some f) with
        | .ok _ => (.broken (.all f), [])
        | .error g => (.broken ⟨g, f, g⟩, [])
    else if c = '[' then
      match skipSpace r with
      | ']' :: rest => (.array [] none, rest)
      | [] => (.array [] (some .incomplete), [])
      | r =>
        let (items, ending, rest) := outlineItems fuel r
        (.array items ending, rest)
    else if c = Char.ofNat 0x7b then
      match skipSpace r with
      | [] => (.object [] (.broken .incomplete), [])
      | d :: rest =>
        if d = Char.ofNat 0x7d then (.object [] .closed, rest)
        else if d = '"' then
          let (members, ending, rest) := outlineMembers fuel (d :: rest)
          (.object members ending, rest)
        else (.object [] (.nameless (otherThanString (d :: rest))), [])
    else if c = '-' ∨ (digit? c).isSome then
      match takeNumber (c :: r) with
      | .ok (l, rest) => (.number l.number, rest)
      | .error b => (.broken b, [])
    else (.broken (.all .malformed), [])

/-- The items of an array from one of them on. -/
def outlineItems : Nat → List Char → List Outline × Option Fault × List Char
  | 0, _ => ([], some .incomplete, [])
  | fuel + 1, s =>
    match outlineValue fuel s with
    | (.broken b, _) => ([.broken b], none, [])
    | (o, r) =>
      match skipSpace r with
      | ']' :: rest => ([o], none, rest)
      | ',' :: rest =>
        let (items, ending, rest) := outlineItems fuel (skipSpace rest)
        (o :: items, ending, rest)
      | r => ([o], some (faultAt r), [])

/-- The members of an object from one of them on, which starts with a quote. -/
def outlineMembers : Nat → List Char → List (Except Fault String × Outline) × Ending × List Char
  | 0, _ => ([], .broken .incomplete, [])
  | fuel + 1, s =>
    match takeString (s.drop 1) with
    | (ps, .error f) => ([(stringOf ps (some f), .broken (.all f))], .closed, [])
    | (ps, .ok r) =>
      match skipSpace r with
      | ':' :: r =>
        match outlineValue fuel (skipSpace r) with
        | (.broken b, _) => ([(stringOf ps none, .broken b)], .closed, [])
        | (o, r) =>
          let m := (stringOf ps none, o)
          match skipSpace r with
          | [] => ([m], .broken .incomplete, [])
          | d :: rest =>
            if d = Char.ofNat 0x7d then ([m], .closed, rest)
            else if d = ',' then
              match skipSpace rest with
              | '"' :: rest =>
                let (members, ending, rest) := outlineMembers fuel ('"' :: rest)
                (m :: members, ending, rest)
              | r => ([m, (.error (faultAt r), .broken (.all (faultAt r)))], .closed, [])
            else ([m], .broken .malformed, [])
      | r => ([(stringOf ps none, .broken (.all (faultAt r)))], .closed, [])

end

/-- The outline of a text, and whether anything but blanks follows it. -/
def outline (s : List Char) : Outline × Bool :=
  let (o, rest) := outlineValue (2 * s.length + 2) (skipSpace s)
  (o, !(skipSpace rest).isEmpty)

end Acceptance.Json
