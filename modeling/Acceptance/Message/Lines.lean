import Acceptance.Host.Machine
import Acceptance.Message.Codec
import Acceptance.Text.Blank
import Acceptance.Text.Lines

/-!
# Messages, a line each (specification, section 4.3)

* `ofOutput`: the messages in the output of a destination. What is no message is passed over.
* `ofFixture`: the messages of a file that holds nothing else but blank lines.
* `write`: messages as lines.
-/

namespace Acceptance.Message

/-- The message of a line of output, blanks around it aside. -/
def ofOutputLine (line : List Char) : Option Message :=
  let s := Text.trim line
  if s.isEmpty then none else (ofLine s).toOption

/-- The messages in the output of a destination (section 4.3). -/
def ofOutput (output : List Char) : List Message := (Text.lines output).filterMap ofOutputLine

/-- The messages of lines, the first of which has the number `n`. -/
def ofNumberedLines (path : String) : Nat → List (List Char) → Except Error (List Message)
  | _, [] => .ok []
  | n, l :: r =>
    if Text.isBlankText l then ofNumberedLines path (n + 1) r
    else
      match ofLine l with
      | .error f => .error (.config (.badMessage path n f))
      | .ok m => do
        let ms ← ofNumberedLines path (n + 1) r
        .ok (m :: ms)

/-- The messages of a text, in which every line is a message or blank. -/
def ofFixture (path : String) (text : List Char) : Except Error (List Message) :=
  ofNumberedLines path 1 (Text.lines text)

/-- The messages of a file. -/
def ofFile (path : String) (m : Host.Machine) : Except Error (List Message) := do
  let text ← m.readText path
  ofFixture path text.toList

/-- Messages as lines. -/
def write (ms : List Message) : List Char := Text.unlines (ms.map line)

end Acceptance.Message
