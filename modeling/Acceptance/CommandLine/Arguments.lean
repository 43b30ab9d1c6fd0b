import Acceptance.Case

/-!
# Arguments (specification, section 4.7)

The program knows two commands: `run` and `show-config`. Options follow the command. The value of an
option stands behind an equals sign or in the next argument.

* `Options`, `CommandLine`: what arguments ask for.
* `Complaint`: why they ask for nothing, or for help.
* `Word`: what an argument looks like.
* `readOptions`: the options behind a command.
* `CommandLine.read`: what arguments ask for.
-/

namespace Acceptance

/-- What the options set. -/
structure CommandLine.Options where
  file : Option String
  image : Option String
  configPath : Option String
  failConfigPath : Option String
  database : Option String
  cases : List Case
  failFast : Bool
deriving DecidableEq, Repr

/-- What the program is asked for. -/
inductive CommandLine where
  | run (options : CommandLine.Options)
  | showConfig (options : CommandLine.Options)
deriving DecidableEq, Repr

namespace CommandLine

/-- Nothing is set. -/
def Options.empty : Options := ⟨none, none, none, none, none, [], false⟩

/-- Why arguments ask for nothing that could be done, or for help. -/
inductive Complaint where
  | nothingAsked
  | help
  | version
  | unknownCommand
  | unknownArgument
  | missingValue
  | badValue
  | givenTwice
  | unwantedValue
deriving DecidableEq, Repr

/-- The exit code for a complaint. Who asks for help makes no mistake. -/
def Complaint.exitCode : Complaint → Nat
  | help | version => 0
  | _ => 2

/-! ## Words -/

/-- What an argument looks like: two hyphens, the name of an option with a value or without one,
letters of options, or anything else. -/
inductive Word where
  | rest
  | option (name : String) (value : Option String)
  | letters (first : Char)
  | plain (text : String)
deriving DecidableEq, Repr

/-- The name of an option, and what stands behind the first equals sign. -/
def splitValue (s : List Char) : String × Option String :=
  let name := s.takeWhile (· != '=')
  (String.ofList name,
    match s.drop name.length with
    | [] => none
    | _ :: v => some (String.ofList v))

/-- What an argument looks like. A single hyphen is a plain word. -/
def Word.of (argument : String) : Word :=
  match argument.toList with
  | ['-', '-'] => .rest
  | '-' :: '-' :: s => let (name, value) := splitValue s; .option name value
  | '-' :: c :: _ => .letters c
  | _ => .plain argument

/-! ## Options -/

/-- The options that take a value. -/
inductive Setting where
  | file
  | image
  | configPath
  | failConfigPath
  | database
  | case
deriving DecidableEq, Repr

/-- The name of an option. -/
def Setting.name : Setting → String
  | file => "config"
  | image => "image"
  | configPath => "config-path"
  | failConfigPath => "fail-config-path"
  | database => "duckdb"
  | case => "case"

/-- The options of a command; only a run takes cases. -/
def Setting.known (running : Bool) : List Setting :=
  [file, image, configPath, failConfigPath, database] ++ if running then [case] else []

/-- A setting that is given once. -/
def once (old : Option String) (set : String → Options) (value : String) :
    Except Complaint Options :=
  if old.isSome then .error .givenTwice else .ok (set value)

/-- A path that is given once. It must not be empty. -/
def oncePath (old : Option String) (set : String → Options) (value : String) :
    Except Complaint Options :=
  if old.isSome then .error .givenTwice
  else if value.isEmpty then .error .missingValue
  else .ok (set value)

/-- The options with a value assigned. -/
def Options.assign (s : Setting) (value : String) (o : Options) : Except Complaint Options :=
  match s with
  | .file => oncePath o.file (fun v => { o with file := some v }) value
  | .image => once o.image (fun v => { o with image := some v }) value
  | .configPath => oncePath o.configPath (fun v => { o with configPath := some v }) value
  | .failConfigPath =>
    oncePath o.failConfigPath (fun v => { o with failConfigPath := some v }) value
  | .database => oncePath o.database (fun v => { o with database := some v }) value
  | .case => match Case.named value with
    | .ok c => .ok { o with cases := o.cases ++ [c] }
    | .error _ => .error .badValue

/-- An option whose value stands in an argument of its own, or is still to come. -/
abbrev Pending := Option (Setting × Option String)

/-- The options with what is pending assigned. -/
def Options.settle (p : Pending) (o : Options) : Except Complaint Options :=
  match p with
  | none => .ok o
  | some (_, none) => .error .missingValue
  | some (s, some v) => o.assign s v

/-- The name of the option that ends a run with the first failure. -/
def failFastName : String := "fail-fast"

/-- Reads the options behind a command. A value is assigned when its option is over, so that an
unknown option is complained about first. -/
def readOptions (running : Bool) : Options → Pending → List String → Except Complaint Options
  | o, p, [] => o.settle p
  | o, p, a :: r =>
    match Word.of a with
    | .rest => if r.isEmpty then o.settle p else .error .unknownArgument
    | .letters c => if c = 'h' then do let _ ← o.settle p; .error .help else .error .unknownArgument
    | .plain text =>
      match p with
      | some (s, none) => readOptions running o (some (s, some text)) r
      | _ => .error .unknownArgument
    | .option name value =>
      if name = "help" then
        match value with
        | some _ => .error .unwantedValue
        | none => do let _ ← o.settle p; .error .help
      else if running && name = failFastName then
        match value with
        | some _ => .error .unwantedValue
        | none => do
          let o ← o.settle p
          if o.failFast then .error .givenTwice
          else readOptions running { o with failFast := true } none r
      else
        match (Setting.known running).find? fun s => s.name = name with
        | none => .error .unknownArgument
        | some s =>
          match value with
          | some v => do readOptions running (← (← o.settle p).assign s v) none r
          | none => do readOptions running (← o.settle p) (some (s, none)) r

/-! ## Commands -/

/-- The word for a run. -/
def runWord : String := "run"

/-- The word for printing the configuration. -/
def showWord : String := "show-config"

/-- The word for help. -/
def helpWord : String := "help"

/-- The words for commands. -/
def commandWords : List String := [runWord, showWord, helpWord]

/-- Help about the commands, or about the one named. -/
def helpOn : List String → Complaint
  | [] => .help
  | [w] => if commandWords.contains w then .help else .unknownCommand
  | _ => .unknownCommand

/-- What arguments ask for. -/
def read : List String → Except Complaint CommandLine
  | [] => .error .nothingAsked
  | a :: r =>
    if a = runWord then (readOptions true .empty none r).map .run
    else if a = showWord then (readOptions false .empty none r).map .showConfig
    else if a = helpWord then .error (helpOn r)
    else match Word.of a with
      | .rest => .error <| match r with
        | [] => .nothingAsked
        | b :: _ => if commandWords.contains b then .unknownArgument else .unknownCommand
      | .letters c => .error <|
        if c = 'h' then .help else if c = 'V' then .version else .unknownArgument
      | .plain _ => .error .unknownCommand
      | .option name value => .error <|
        if name = "help" ∨ name = "version" then
          if value.isSome then .unwantedValue else if name = "help" then .help else .version
        else .unknownArgument

end CommandLine
end Acceptance
