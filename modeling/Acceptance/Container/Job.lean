import Acceptance.Catalog
import Acceptance.Container.Invocation
import Acceptance.Message.Lines
import Acceptance.Text.Utf8

/-!
# Jobs (specification, section 4.4)

A command of a destination is a job: its documents are put into a temporary directory, the container
runtime is called, and the directory goes away again.

* `Ending`, `Runtime`: how a call of the container runtime may end, and the runtime, whatever it is;
  `Runtime.absent`: none.
* `Request`: a command with its documents and its input.
* `Output`: what the destination had to say.
* `tail`: the last lines of a text.
* `perform`: does a job.
-/

namespace Acceptance.Container

open Host (Machine)

/-- How a call ends: it does not start, it takes too long, its output is lost, or it comes to its
end with some output, and with an exit code unless a signal ended it. -/
inductive Ending where
  | notStarted (cause : IoCause)
  | overdue
  | lost (cause : IoCause)
  | finished (output errors : List UInt8) (code : Option Int)

/-- A container runtime with a state of its own. Containers may change the machine. -/
structure Runtime (ρ : Type) where
  call : Invocation → Machine × ρ → Ending × Machine × ρ

/-- The runtime of a machine that has none. -/
def Runtime.absent : Runtime Unit where
  call _ s := (.notStarted (.number Host.Errno.absent), s)

/-- A command with what it is given. -/
structure Request where
  command : Command
  config : Option Json
  catalog : Option Catalog
  input : Option (List Char)

/-- What a destination had to say. -/
structure Output where
  messages : List Message
  code : Option Int
  tail : String
deriving Repr

/-- The number of lines that are kept of what goes wrong. -/
def tailLines : Nat := 20

/-- The last lines of a text. -/
def tail (s : List Char) : String :=
  let ls := Text.lines s
  String.ofList (List.intercalate ['\n'] (ls.drop (ls.length - tailLines)))

/-- The output of a call, or what went wrong with it. -/
def outputOf (binary image : String) (limit : Nat) (c : Command) : Ending → Except Error Output
  | .notStarted cause => .error (.launch (.notStarted binary cause))
  | .overdue => .error (.launch (.overdue image c.name limit))
  | .lost cause => .error (.io cause)
  | .finished output errors code =>
    .ok ⟨Message.ofOutput (Text.Utf8.decodeLossy output), code,
      tail (Text.Utf8.decodeLossy errors)⟩

/-- The start of the names of the directories of jobs. -/
def jobStem : String := "dat-job-"

/-- Puts a document into the directory of a job. -/
def putDocument (job file : String) : Option Json → Act Machine Unit
  | some v => Machine.writeFile (Path.join job file) (Text.Utf8.encode v.render)
  | none => pure ()

/-- Puts the documents of a request into the directory of a job. -/
def putDocuments (job : String) (r : Request) : Act Machine Unit := do
  putDocument job configFile r.config
  putDocument job catalogFile (r.catalog.map Catalog.toJson)

variable {ρ : Type}

/-- The call for a request whose documents lie in the directory of a job. -/
def invocation (image : String) (s : Config.Container) (job localRoot : String) (r : Request) :
    Invocation :=
  ⟨s.binary, arguments image s job localRoot r.command, r.input, s.timeout⟩

/-- Does what a request asks for in the directory of a job. -/
def performIn (runtime : Runtime ρ) (image : String) (s : Config.Container)
    (job localRoot : String) (r : Request) : Act (Machine × ρ) Output := do
  (putDocuments job r).onFirst
  let ending ← Act.step (runtime.call (invocation image s job localRoot r))
  Act.give (outputOf s.binary image s.timeout r.command ending)

/-- Does a job. Its directory goes away however it ends. -/
def perform (runtime : Runtime ρ) (image : String) (s : Config.Container) (localRoot : String)
    (r : Request) : Act (Machine × ρ) Output := do
  let job ← (Machine.makeTemporary jobStem).onFirst
  let result ← (performIn runtime image s job localRoot r).result
  Act.step fun (m, w) => ((), m.discard job, w)
  Act.give result

end Acceptance.Container
