import Acceptance.Number.Shortest
import Acceptance.Toml.Value

/-!
# Printing TOML documents

* `Quoting`, `quoting`: the four ways of quoting a string, and the choice among them.
* `escaped`: what stands between double quotes.
* `print`: a table of sections, each with its header, its keys on lines of their own, and an empty
  line behind it. Arrays of two or more items take a line for each.
-/

namespace Acceptance.Toml

/-- How a string is written: between which quotes, one or three of them. Only between double quotes
are there escapes. -/
inductive Quoting where
  | basic
  | literal
  | longBasic
  | longLiteral
deriving DecidableEq, Repr

/-- A control character other than tab and line feed: it cannot be written without an escape. -/
def isControl (c : Char) : Bool := (c < ' ' && c != '\t' && c != '\n') || c == '\x7f'

/-- The length of the longest run of a character, the first one already `n` long. -/
def longestRun (c : Char) : List Char → Nat → Nat
  | [], _ => 0
  | d :: r, n => if d == c then max (n + 1) (longestRun c r (n + 1)) else longestRun c r 0

/-- The quotes of a string: the plainest in which it needs no escapes but for tabs. Where none will
do, it goes between double quotes, three of them if it has several lines. -/
def quoting (cs : List Char) : Quoting :=
  let plain := !cs.any isControl
  let lines := cs.contains '\n'
  let backslash := cs.contains '\\'
  if plain && !backslash && !lines && !cs.contains '"' then .basic
  else if plain && !lines && !cs.contains '\'' then .literal
  else if plain && !backslash && longestRun '"' cs 0 ≤ 2 then .longBasic
  else if plain && longestRun '\'' cs 0 ≤ 2 then .longLiteral
  else if lines then .longBasic
  else .basic

/-- Four upper-case hexadecimal digits. -/
def hexQuad (n : Nat) : List Char :=
  let ds := (Nat.toDigits 16 n).map Char.toUpper
  List.replicate (4 - ds.length) '0' ++ ds

/-- The escape of a character that always has one between double quotes. -/
def escape? (c : Char) : Option (List Char) :=
  if c == '\x08' then some ['\\', 'b']
  else if c == '\t' then some ['\\', 't']
  else if c == '\x0c' then some ['\\', 'f']
  else if c == '\r' then some ['\\', 'r']
  else if c == '\\' then some ['\\', '\\']
  else if isControl c then some ('\\' :: 'u' :: hexQuad c.toNat)
  else none

/-- The characters of a string with their escapes. Between one quote each, line ends and quotes are
escaped; between three, only a quote that follows two others. `run` counts those before. -/
def escaped (isLong : Bool) : Nat → List Char → List Char
  | _, [] => []
  | run, c :: r =>
    if c == '"' then
      if run < (if isLong then 2 else 0) then '"' :: escaped isLong (run + 1) r
      else '\\' :: '"' :: escaped isLong 0 r
    else if c == '\n' && !isLong then '\\' :: 'n' :: escaped isLong 0 r
    else
      match escape? c with
      | some e => e ++ escaped isLong 0 r
      | none => c :: escaped isLong 0 r

/-- A string between three quotes; a line end comes first if the string has one. -/
def long (quote : Char) (cs body : List Char) : List Char :=
  let quotes := [quote, quote, quote]
  quotes ++ (if cs.contains '\n' then ['\n'] else []) ++ body ++ quotes

/-- A string. -/
def quoted (cs : List Char) : List Char :=
  match quoting cs with
  | .basic => '"' :: (escaped false 0 cs ++ ['"'])
  | .literal => '\'' :: (cs ++ ['\''])
  | .longBasic => long '"' cs (escaped true 0 cs)
  | .longLiteral => long '\'' cs cs

mutual

/-- A value on one line. -/
def inline : Value → List Char
  | .string s => quoted s.toList
  | .integer i => Number.intText i
  | .float digits => digits
  | .bool b => if b then ['t', 'r', 'u', 'e'] else ['f', 'a', 'l', 's', 'e']
  | .moment digits => digits
  | .array xs => '[' :: (List.intercalate [',', ' '] (inlineItems xs) ++ [']'])
  | .table es =>
    match inlineEntries es with
    | [] => ['\x7b', '\x7d']
    | parts => '\x7b' :: ' ' :: (List.intercalate [',', ' '] parts ++ [' ', '\x7d'])

/-- The items of an array, each on one line. -/
def inlineItems : List Value → List (List Char)
  | [] => []
  | x :: r => inline x :: inlineItems r

/-- The entries of a table, each on one line. -/
def inlineEntries : List (String × Value) → List (List Char)
  | [] => []
  | (k, x) :: r => (k.toList ++ [' ', '=', ' '] ++ inline x) :: inlineEntries r

end

/-- A value of a key: an array of two or more items takes a line for each. -/
def printValue : Value → List Char
  | .array (x :: y :: r) =>
    '[' :: '\n' ::
      ((x :: y :: r).flatMap fun v => [' ', ' ', ' ', ' '] ++ inline v ++ [',', '\n']) ++ [']']
  | v => inline v

/-- The lines of the keys of a table. -/
def printEntries (es : List (String × Value)) : List Char :=
  es.flatMap fun e => e.1.toList ++ [' ', '=', ' '] ++ printValue e.2 ++ ['\n']

/-- A section: its header and its keys. -/
def printSection (name : String) (es : List (String × Value)) : List Char :=
  '[' :: (name.toList ++ [']', '\n'] ++ printEntries es)

/-- A document of sections, with an empty line between two. -/
def print : List (String × List (String × Value)) → List Char
  | [] => []
  | [(name, es)] => printSection name es
  | (name, es) :: r => printSection name es ++ '\n' :: print r

end Acceptance.Toml
