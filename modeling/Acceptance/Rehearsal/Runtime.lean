import Acceptance.Container.Job
import Acceptance.Rehearsal.Script

/-!
# A container runtime that plays turns

* `Turn`: what a call does.
* `Sighting`: what a call was given.
* `Stage`: how many calls there were, and what they were given.
* `whyNotStarted`: why a program does not start.
* `runtime`: a program on the machine that plays the turns of a script.
-/

namespace Acceptance.Rehearsal

open Host (Machine)
open Container (Invocation Ending Runtime)

/-- What a call does: it reads its input or leaves it, prints, and ends, or never does. -/
structure Turn where
  output : List UInt8
  errors : List UInt8
  code : Option Int
  hangs : Bool
  drains : Bool

/-- The turn where none is scripted. -/
def Turn.silent : Turn := ⟨[], [], some 0, false, true⟩

/-- What a call was given: its arguments, the directories of the job and the case, the documents of
the job, the input that was read, and what lay in the directory of the case. -/
structure Sighting where
  arguments : List String
  job : Option String
  localRoot : Option String
  config : Option String
  catalog : Option String
  input : Option String
  present : List String

/-- How many calls there were, and what they were given. -/
structure Stage where
  calls : Nat
  seen : List Sighting

/-- No calls yet. -/
def Stage.start : Stage := ⟨0, []⟩

/-- What stands before the end of a text. -/
def without? (ending s : String) : Option String :=
  if ending.toList.reverse.isPrefixOf s.toList.reverse then
    some (String.ofList (s.toList.take (s.length - ending.length)))
  else none

/-- The directory that the arguments make known to the container as `inside`. -/
def mounted? (inside : String) : List String → Option String
  | flag :: value :: r =>
    if flag = "-v" then (without? (":" ++ inside) value).or (mounted? inside r)
    else mounted? inside (value :: r)
  | _ => none

/-- The text of a file in a directory. -/
def textIn? (m : Machine) (file : String) (directory : Option String) : Option String :=
  directory.bind fun d => (m.files.readText m.directory (Path.join d file)).toOption

/-- The names in a directory, in ascending order. -/
def namesIn (m : Machine) (directory : String) : List String :=
  match m.files.locate m.directory directory with
  | .ok (.taken k .directory) =>
    let names := (m.files.below k).filterMap fun x => match x.1 with
      | [name] => some name
      | _ => none
    names.mergeSort fun a b => decide (a ≤ b)
  | _ => []

/-- What a call is given. -/
def sightingOf (t : Turn) (i : Invocation) (m : Machine) : Sighting :=
  let job := mounted? Container.dataDirectory i.arguments
  let localRoot := mounted? Container.localDirectory i.arguments
  { arguments := i.arguments
    job
    localRoot
    config := textIn? m Container.configFile job
    catalog := textIn? m Container.catalogFile job
    input := if t.drains then some (String.ofList (i.input.getD [])) else none
    present := (localRoot.map (namesIn m)).getD [] }

/-- Why a program does not start, if it does not. The only program there is has the key `program`,
and names without a slash lead nowhere. -/
def whyNotStarted (program : Host.Key) (i : Invocation) (m : Machine) : Option IoCause :=
  if (i.binary :: i.arguments).any fun a => a.toList.contains '\x00' then
    some (.stated "nul byte found in provided data")
  else if !i.binary.toList.contains '/' then some (.number Host.Errno.absent)
  else match m.files.locate m.directory i.binary with
    | .error c => some c
    | .ok (.free _) => some (.number Host.Errno.absent)
    | .ok (.taken k (.file _)) => if k = program then none else some (.number 13)
    | .ok _ => some (.number 13)

/-- A program on the machine that plays the turns of a script; the last turn repeats. -/
def runtime (program : Host.Key) (turns : List Turn) : Runtime Stage where
  call i := fun (m, s) =>
    match whyNotStarted program i m with
    | some c => (.notStarted c, m, s)
    | none =>
      let t := (answerAt s.calls turns).getD .silent
      let ending := if t.hangs || i.limit == 0 then .overdue else .finished t.output t.errors t.code
      (ending, m, ⟨s.calls + 1, s.seen ++ [sightingOf t i m]⟩)

end Acceptance.Rehearsal
