import Acceptance.Config.Basic

/-!
# Commands of a destination in a container (specification, section 4.4)

A destination knows three commands. Its container gets two directories of the machine: that of the
job, which holds the documents of the command, and that of the case.

* `Command`: the commands, and which documents they take.
* `arguments`: what the container runtime is called with.
* `Invocation`: a call of the container runtime.
-/

namespace Acceptance.Container

/-- The commands of a destination. -/
inductive Command where
  | spec
  | check
  | write
deriving DecidableEq, Repr

namespace Command

/-- The word for a command. -/
def name : Command → String
  | spec => "spec"
  | check => "check"
  | write => "write"

/-- Whether a command takes a configuration. -/
def takesConfig : Command → Bool
  | spec => false
  | check | write => true

/-- Whether a command takes a catalog. -/
def takesCatalog : Command → Bool
  | write => true
  | spec | check => false

end Command

/-- Where the container finds the directory of the job. -/
def dataDirectory : String := "/data"

/-- Where the container finds the directory of the case. -/
def localDirectory : String := "/local"

/-- The file of the configuration in the directory of the job. -/
def configFile : String := "config.json"

/-- The file of the catalog in the directory of the job. -/
def catalogFile : String := "catalog.json"

/-- The arguments that make a directory of the machine known to the container. -/
def mount (outside inside : String) : List String := ["-v", outside ++ ":" ++ inside]

/-- The arguments for the network of the container. -/
def networkArguments : Option String → List String
  | some n => ["--network", n]
  | none => []

/-- The arguments that name the documents of a command. -/
def documentArguments (c : Command) : List String :=
  (if c.takesConfig then ["--config", dataDirectory ++ "/" ++ configFile] else []) ++
    (if c.takesCatalog then ["--catalog", dataDirectory ++ "/" ++ catalogFile] else [])

/-- What the container runtime is called with, in the order of section 4.4. -/
def arguments (image : String) (s : Config.Container) (job localRoot : String) (c : Command) :
    List String :=
  ["run", "--rm", "-i", "--init"] ++ mount job dataDirectory ++ mount localRoot localDirectory ++
    ["-w", dataDirectory] ++ networkArguments s.network ++ s.extraArguments ++ [image, c.name] ++
    documentArguments c

/-- A call of the container runtime: with its arguments, perhaps with an input, and with the time it
may take in milliseconds. -/
structure Invocation where
  binary : String
  arguments : List String
  input : Option (List Char)
  limit : Nat
deriving DecidableEq, Repr

end Acceptance.Container
