import Acceptance.Config.Basic
import Acceptance.Toml.Printer

/-!
# Printing configurations (specification, section 4.7)

* `toSections`: a configuration as the sections of a TOML document, without what is absent.
* `render`: the text of it. Numbers of `2^63` and more have no place in the format.
-/

namespace Acceptance.Config

open Toml (Value)

/-- A setting, unless it is absent. -/
def entry? (key : String) : Option String → List (String × Value)
  | none => []
  | some s => [(key, .string s)]

/-- The sections of the document that says what a configuration says. -/
def toSections (c : Config) : List (String × List (String × Value)) := [
  ("test",
    entry? "image_name" c.test.imageName ++ entry? "config_path" c.test.configPath ++
      entry? "fail_config_path" c.test.failConfigPath ++
      entry? "catalog_path" c.test.catalogPath ++ entry? "messages_path" c.test.messagesPath),
  ("docker",
    ("binary", .string c.docker.binary) :: entry? "network" c.docker.network ++
      [("timeout_ms", .integer c.docker.timeout),
        ("extra_args", .array (c.docker.extraArguments.map .string))]),
  ("records",
    ("kind", .string c.records.kind.name) :: entry? "path" c.records.path ++
      entry? "connection_string" c.records.connection ++
      entry? "default_schema" c.records.defaultSchema ++
      [("max_concurrency", .integer c.records.maxConcurrency)]),
  ("runner",
    [("cases", .array (c.runner.cases.map fun k => .string k.name)),
      ("fail_fast", .bool c.runner.failFast)])]

/-- The document that says what a configuration says. -/
def toToml (c : Config) : Value := .table (c.toSections.map fun s => (s.1, .table s.2))

/-- The end of the numbers that the format holds: `2^63`. -/
def numberEnd : Nat := 9223372036854775808

/-- Whether the numbers of a configuration have a place in the format. -/
def printable (c : Config) : Bool :=
  c.docker.timeout < numberEnd && c.records.maxConcurrency < numberEnd

/-- The text of a configuration. -/
def render (c : Config) : Except Error String :=
  if c.printable then .ok (String.ofList (Toml.print c.toSections))
  else .error (.config .unprintable)

theorem printable_iff {c : Config} :
    c.printable = true ↔ c.docker.timeout < numberEnd ∧ c.records.maxConcurrency < numberEnd := by
  rw [printable, Bool.and_eq_true, decide_eq_true_eq, decide_eq_true_eq]

end Acceptance.Config
