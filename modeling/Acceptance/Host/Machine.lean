import Acceptance.Act
import Acceptance.Host.FileTree

/-!
# The machine that the suite runs on

* `Machine`: its files, the directory the suite runs in, the environment variables, the directory of
  the user's settings, the place for temporary directories, and the clock.
* `fresh`: a machine of which only the files are given.
* `makeTemporary`: a new temporary directory.
* `valueOf`, `readText`, `writeFile`, `makeDirectories`, `removeIfPresent`: the rest of what the
  suite asks of it.
* `withFile`: what is known of a file beforehand.

Results:
* `valueOf_eq_some_iff`, `valueOf_eq_none_iff`: which variables have a text for a value.
-/

namespace Acceptance

namespace Host

/-- The machine. -/
structure Machine where
  files : FileTree
  directory : Key
  /-- A value is a sequence of octets, and need not be a text. -/
  environment : List (String × List UInt8)
  /-- What the system gives as the directory of the user's settings, if it gives one. -/
  userDirectory : Option String
  temporary : String
  serial : Nat
  clock : Nat
deriving DecidableEq

namespace Machine

/-- A machine with some files, on which nothing else is set and nothing has happened yet. -/
def fresh (files : FileTree) : Machine where
  files := files
  directory := []
  environment := []
  userDirectory := none
  temporary := "/tmp"
  serial := 0
  clock := 0

/-- The value of an environment variable, if it is a text. -/
def valueOf (name : String) (m : Machine) : Option String :=
  (m.environment.lookup name).bind Text.Utf8.decode?

theorem valueOf_eq_some_iff {name v : String} {m : Machine} :
    m.valueOf name = some v ↔ m.environment.lookup name = some (Text.Utf8.encode v) := by
  simp only [valueOf, Option.bind_eq_some_iff, Text.Utf8.decode?_eq_some_iff, exists_eq_right]

theorem valueOf_eq_none_iff {name : String} {m : Machine} :
    m.valueOf name = none ↔ ∀ v, m.environment.lookup name ≠ some (Text.Utf8.encode v) := by
  rw [Option.eq_none_iff_forall_ne_some]
  exact forall_congr' fun v => not_congr valueOf_eq_some_iff

/-- The text of a file; a file that cannot be read is a resource that is not available. -/
def readText (path : String) (m : Machine) : Except Error String :=
  (m.files.readText m.directory path).mapError (.resourceUnavailable path)

/-- The first number from `n` on that makes a free name. -/
def freeFrom (stem : String) (m : Machine) : Nat → Nat → Nat
  | 0, n => n
  | fuel + 1, n =>
    if m.files.exists m.directory (Path.join m.temporary (stem ++ toString n)) then
      freeFrom stem m fuel (n + 1)
    else n

/-- Makes a temporary directory whose name starts with a stem, and gives its path. -/
def makeTemporary (stem : String) : Act Machine String :=
  .of fun m =>
    let n := m.freeFrom stem (m.files.entries.length + 1) m.serial
    let path := Path.join m.temporary (stem ++ toString n)
    match m.files.makeDirectory m.directory path with
    | .error c => (.error (.io c), m)
    | .ok files => (.ok path, { m with files, serial := n + 1 })

/-- Removes a directory with what lies below it, as far as that can be done. -/
def discard (path : String) (m : Machine) : Machine :=
  match m.files.removeAll m.directory path with
  | .ok files => { m with files }
  | .error _ => m

/-- Writes a file. -/
def writeFile (path : String) (octets : List UInt8) : Act Machine Unit :=
  .of fun m => match m.files.write m.directory path octets with
    | .ok files => (.ok (), { m with files })
    | .error c => (.error (.io c), m)

/-- Makes a directory and those missing above it. -/
def makeDirectories (path : String) : Act Machine Unit :=
  .of fun m => match m.files.makeDirectories m.directory path with
    | (r, files) => (r.mapError .io, { m with files })

/-- Removes a directory with what lies below it. It is no failure when nothing is there. -/
def removeIfPresent (path : String) : Act Machine Unit :=
  .of fun m => match m.files.removeAll m.directory path with
    | .ok files => (.ok (), { m with files })
    | .error (.number n) => (if n = Errno.absent then .ok () else .error (.io (.number n)), m)
    | .error c => (.error (.io c), m)

/-- The keys that are passed on the way along some names. -/
def passed (here : Key) : List String → List Key
  | [] => []
  | p :: ps =>
    let k := if p = ".." then here.dropLast else if p = "." then here else here ++ [p]
    k :: passed k ps

/-- The machine with a file at a path, and with the directories on the way to it. -/
def withFile (path : String) (octets : List UInt8) (m : Machine) : Machine :=
  let (absolute, names) := Path.parts path
  let keys := passed (if absolute then [] else m.directory) names
  let files := keys.dropLast.foldl (fun t k => t.plant k .directory) m.files
  match keys.getLast? with
  | some k => { m with files := files.plant k (.file octets) }
  | none => m

end Machine
end Host
end Acceptance
