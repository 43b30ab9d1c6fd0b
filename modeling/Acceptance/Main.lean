import Acceptance.CommandLine.Program

/-!
# The executable

Reads the arguments, looks up what the configuration names, and leaves the rest to the library. A
container runtime and database systems are given to the library from outside; the executable by
itself has none.
-/

namespace Acceptance

open Host (Machine)

/-- The variables that count. -/
def knownVariables : List String := [
  Config.fileVariable, Config.Target.imageVariable, Config.Target.configVariable,
  Config.Target.failConfigVariable]

/-- The machine with what lies at a path, if a file lies there. -/
def lookAt (m : Machine) (path : String) : IO Machine := do
  try
    let octets ← IO.FS.readBinFile path
    return m.withFile path octets.data.toList
  catch _ => return m

/-- The directory of the user's settings, as the environment has it. The accounts of the system are
not asked for a home, so without one in the environment there is no such directory. -/
def userDirectory : IO (Option String) := do
  if let some d ← IO.getEnv "XDG_CONFIG_HOME" then
    if Path.isAbsolute d then return some d
  if let some d ← IO.getEnv "HOME" then
    if !d.isEmpty then return some (Path.join d ".config")
  return none

/-- The machine before anything was looked at. -/
def bareMachine : IO Machine := do
  let mut environment := []
  for name in knownVariables do
    if let some value ← IO.getEnv name then
      environment := (name, Text.Utf8.encode value) :: environment
  let here := (Path.parts (← IO.currentDir).toString).2
  let files := ((⟨[]⟩ : Host.FileTree).plant here .directory).plant ["tmp"] .directory
  let userDirectory ← userDirectory
  return { Machine.fresh files with directory := here, environment, userDirectory }

/-- The options of a command line. -/
def CommandLine.options : CommandLine → CommandLine.Options
  | .run o | .showConfig o => o

/-- The files that a configuration may come from. -/
def configurationFiles (o : CommandLine.Options) (m : Machine) : List String :=
  o.file.toList ++ (m.valueOf Config.fileVariable).toList ++ [Config.localFile] ++
    (Config.userFile? m).toList

/-- The files that a configuration names. -/
def namedFiles (c : Config) : List String :=
  [c.test.configPath, c.test.failConfigPath, c.test.catalogPath, c.test.messagesPath,
    c.records.path].filterMap id

/-- The machine with the files that a command line leads to. -/
def machineFor (l : CommandLine) : IO Machine := do
  let bare ← bareMachine
  let m ← (configurationFiles l.options bare).foldlM lookAt bare
  match l.options.resolve (fun name => m.valueOf name) m with
  | .error _ => return m
  | .ok c => (namedFiles c).foldlM lookAt m

/-- What is said about arguments that ask for nothing that could be done. -/
def usage : String :=
  "usage: run [options] [--case CASE]... [--fail-fast] | show-config [options]\n" ++
    "options: --config FILE --image IMAGE --config-path FILE --fail-config-path FILE --duckdb PATH\n"

end Acceptance

open Acceptance in
/-- Does what the arguments ask for. -/
def main (args : List String) : IO UInt32 := do
  match CommandLine.read args with
  | .error c =>
    if c.exitCode = 0 then IO.print usage else IO.eprint usage
    return c.exitCode.toUInt32
  | .ok l =>
    let m ← machineFor l
    match (CommandLine.perform Store.Systems.absent Container.Runtime.absent l (.start m ())).1 with
    | .exited code output errors =>
      IO.print output
      IO.eprint errors
      return code.toUInt32
    | .crashed => return 101
