import Acceptance.Case
import Acceptance.Path
import Acceptance.Text.Blank

/-!
# Configurations (specification, section 3)

What the suite is told from outside: the destination under test, how its containers run, where the
records are read back from, and which cases run.

* `Target`, `Container`, `Records`, `Selection`: the four sections.
* `Config`: all of them. Every section and every setting has a default.
* `Target.fixturePaths`: the paths of a fixture, which come together or not at all.
* `Target.override`, `Target.resolve`: the settings replaced from outside, and the relative paths
  seen from a directory.
-/

namespace Acceptance

/-- The destination under test: its image, the documents that a check is tried with, and the files of
a fixture. -/
structure Config.Target where
  imageName : Option String
  configPath : Option String
  failConfigPath : Option String
  catalogPath : Option String
  messagesPath : Option String
deriving DecidableEq, Repr

/-- How containers are run. -/
structure Config.Container where
  binary : String
  network : Option String
  timeout : Nat
  extraArguments : List String
deriving DecidableEq, Repr

/-- The kinds of stores that records are read back from. -/
inductive Config.StoreKind where
  | none
  | duckdb
  | postgres
deriving DecidableEq, Repr

/-- Where records are read back from. -/
structure Config.Records where
  kind : StoreKind
  path : Option String
  connection : Option String
  defaultSchema : Option String
  maxConcurrency : Nat
deriving DecidableEq, Repr

/-- Which cases run, and whether the first failure ends the run. -/
structure Config.Selection where
  cases : List Case
  failFast : Bool
deriving DecidableEq, Repr

/-- A configuration. -/
structure Config where
  test : Config.Target
  docker : Config.Container
  records : Config.Records
  runner : Config.Selection
deriving DecidableEq, Repr

namespace Config

/-- Nothing is set. -/
def Target.empty : Target := ⟨none, none, none, none, none⟩

/-- Containers run by `docker`, for at most five minutes each. -/
def Container.standard : Container := ⟨"docker", none, 300000, []⟩

/-- No store. -/
def Records.standard : Records := ⟨.none, none, none, none, 16⟩

/-- All cases, to the end. -/
def Selection.standard : Selection := ⟨Case.all, false⟩

/-- The configuration in which nothing is set. -/
def standard : Config := ⟨.empty, .standard, .standard, .standard⟩

/-- The name of a kind of store. -/
def StoreKind.name : StoreKind → String
  | none => "none"
  | duckdb => "duckdb"
  | postgres => "postgres"

namespace Target

/-- The paths of the catalog and the messages of a fixture, if one is named. -/
def fixturePaths (t : Target) : Except Error (Option (String × String)) :=
  match t.catalogPath, t.messagesPath with
  | some c, some m => .ok (some (c, m))
  | none, none => .ok none
  | some _, none => .error (.config .catalogAlone)
  | none, some _ => .error (.config .messagesAlone)

/-- A value from outside, unless it is blank. -/
def given (lookup : String → Option String) (name : String) : Option String :=
  (lookup name).filter fun v => !Text.isBlankText v.toList

/-- The variable that replaces the image. -/
def imageVariable : String := "DAT_IMAGE_NAME"

/-- The variable that replaces the document a check succeeds with. -/
def configVariable : String := "DAT_CONFIG_PATH"

/-- The variable that replaces the document a check fails with. -/
def failConfigVariable : String := "DAT_FAIL_CONFIG_PATH"

/-- The settings with those replaced that `lookup` gives a value for. -/
def override (lookup : String → Option String) (t : Target) : Target :=
  { t with
    imageName := (given lookup imageVariable).or t.imageName
    configPath := (given lookup configVariable).or t.configPath
    failConfigPath := (given lookup failConfigVariable).or t.failConfigPath }

/-- The settings with the relative paths among them seen from a directory. -/
def resolve (base : String) (t : Target) : Target :=
  { t with
    configPath := t.configPath.map (Path.join base)
    failConfigPath := t.failConfigPath.map (Path.join base)
    catalogPath := t.catalogPath.map (Path.join base)
    messagesPath := t.messagesPath.map (Path.join base) }

end Target
end Config
end Acceptance
