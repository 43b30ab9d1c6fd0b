import Acceptance.CommandLine.Arguments
import Acceptance.Config.Layers

/-!
# The configuration that options ask for (specification, section 4.7)

Settings come from a configuration file, then from the environment, then from the options; each of
them goes before those named earlier.

* `Options.amend`: a configuration with what the options set.
* `Options.resolve`: the configuration that options ask for.
-/

namespace Acceptance.CommandLine

/-- A configuration with what the options set. Naming a database file makes it the store. -/
def Options.amend (o : Options) (c : Config) : Config where
  test :=
    { c.test with
      imageName := o.image.or c.test.imageName
      configPath := o.configPath.or c.test.configPath
      failConfigPath := o.failConfigPath.or c.test.failConfigPath }
  docker := c.docker
  records := match o.database with
    | some path => { c.records with kind := .duckdb, path := some path }
    | none => c.records
  runner :=
    { cases := if o.cases.isEmpty then c.runner.cases else o.cases
      failFast := c.runner.failFast || o.failFast }

/-- The configuration that options ask for; `lookup` stands for the environment. -/
def Options.resolve (lookup : String → Option String) (o : Options) (m : Host.Machine) :
    Except Error Config :=
  match Config.load o.file m with
  | .error e => .error e
  | .ok c => .ok (o.amend { c with test := c.test.override lookup })

end Acceptance.CommandLine
