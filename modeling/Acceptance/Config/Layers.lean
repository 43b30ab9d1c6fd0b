import Acceptance.Config.Reader
import Acceptance.Host.Machine

/-!
# Where configurations come from (specification, section 3)

* `ofText`: the configuration in the text of a file, in the format that the file is named for.
* `ofFile`: the configuration of a file. The paths of its target are seen from the file's directory.
* `layer`: the file that a configuration comes from: one that is named, else the first of the usual
  places, else none.
* `load`: the configuration of that file, or the standard one.
-/

namespace Acceptance.Config

open Host (Machine)

/-- Whether a file is YAML by its name; all others are TOML. -/
def isYaml (path : String) : Bool :=
  match Path.extension? path with
  | some e => e == "yml" || e == "yaml"
  | none => false

/-- The configuration in the text of a file. -/
def ofText (path text : String) : Except Error Config :=
  if isYaml path then ofYaml text else ofToml text

/-- The configuration of a file. -/
def ofFile (path : String) (m : Machine) : Except Error Config := do
  let text ← m.readText path
  let c ← ofText path text
  match Path.parent? path with
  | some base => .ok { c with test := c.test.resolve base }
  | none => .ok c

/-- The variable that names a configuration file. -/
def fileVariable : String := "DAT_HARNESS_CONFIG"

/-- The configuration file in the present directory. -/
def localFile : String := "dat-harness.toml"

/-- The user's configuration file. -/
def userFile? (m : Machine) : Option String :=
  m.userDirectory.map fun d => Path.join (Path.join d "dat-harness") "config.toml"

/-- The file that a configuration comes from. A file that is named counts even if it is not there. -/
def layer (named : Option String) (m : Machine) : Option String :=
  match named.or (m.valueOf fileVariable) with
  | some path => some path
  | none =>
    if m.files.exists m.directory localFile then some localFile
    else (userFile? m).filter fun path => m.files.exists m.directory path

/-- The configuration from the file layer, in the order of section 3. -/
def load (named : Option String) (m : Machine) : Except Error Config :=
  match layer named m with
  | some path => ofFile path m
  | none => .ok standard

end Acceptance.Config
