import Acceptance.Config.Basic
import Acceptance.Json.Reader
import Acceptance.Toml.Reader
import Acceptance.Yaml.Reader

/-!
# Reading configurations (specification, section 3)

The fields of the four sections, for every format that records are read from. Sections and settings
that are missing keep their defaults, and names that are not known are passed over.

* `Target.read`, `Container.read`, `Records.read`, `Selection.read`, `Config.read`.
* `ofToml`, `ofYaml`: the configuration of a text.
* `Target.ofJson`, `Container.ofJson`, `Records.ofJson`: single sections.
-/

namespace Acceptance.Config

open Schema (Format Field)

variable {ν ε : Type}

/-- A setting that may be absent, under its name and another one. -/
def optionalText (F : Format ν ε) {σ : Type} (names : List String) (put : Option String → σ → σ) :
    Field ν ε σ :=
  .of names false (F.maybe F.text) put

/-- The settings of the target. -/
def Target.fields (F : Format ν ε) : List (Field ν ε Target) := [
  optionalText F ["image_name", "imageName"] fun v t => { t with imageName := v },
  optionalText F ["config_path", "configPath"] fun v t => { t with configPath := v },
  optionalText F ["fail_config_path", "failConfigPath"] fun v t => { t with failConfigPath := v },
  optionalText F ["catalog_path", "catalogPath"] fun v t => { t with catalogPath := v },
  optionalText F ["messages_path", "messagesPath"] fun v t => { t with messagesPath := v }]

/-- Reads the section of the target. -/
def Target.read (F : Format ν ε) : ν → Except ε Target := F.record (Target.fields F) .empty

/-- The settings of containers. -/
def Container.fields (F : Format ν ε) : List (Field ν ε Container) := [
  .of ["binary"] false F.text fun v c => { c with binary := v },
  optionalText F ["network"] fun v c => { c with network := v },
  .of ["timeout_ms"] false F.natural fun v c => { c with timeout := v },
  .of ["extra_args"] false (F.list F.text) fun v c => { c with extraArguments := v }]

/-- Reads the section of containers. -/
def Container.read (F : Format ν ε) : ν → Except ε Container :=
  F.record (Container.fields F) .standard

/-- The names of the kinds of stores. -/
def StoreKind.table : List (String × StoreKind) :=
  [("none", .none), ("duckdb", .duckdb), ("duck_db", .duckdb), ("postgres", .postgres)]

/-- The settings of the store. -/
def Records.fields (F : Format ν ε) : List (Field ν ε Records) := [
  .of ["kind"] false (F.choice StoreKind.table) fun v r => { r with kind := v },
  optionalText F ["path"] fun v r => { r with path := v },
  optionalText F ["connection_string"] fun v r => { r with connection := v },
  optionalText F ["default_schema"] fun v r => { r with defaultSchema := v },
  .of ["max_concurrency"] false F.natural fun v r => { r with maxConcurrency := v }]

/-- Reads the section of the store. -/
def Records.read (F : Format ν ε) : ν → Except ε Records := F.record (Records.fields F) .standard

/-- The settings of the cases. -/
def Selection.fields (F : Format ν ε) : List (Field ν ε Selection) := [
  .of ["cases"] false (F.list (F.choice Case.table)) fun v s => { s with cases := v },
  .of ["fail_fast"] false F.flag fun v s => { s with failFast := v }]

/-- Reads the section of the cases. -/
def Selection.read (F : Format ν ε) : ν → Except ε Selection :=
  F.record (Selection.fields F) .standard

/-- The sections. -/
def fields (F : Format ν ε) : List (Field ν ε Config) := [
  .of ["test"] false (Target.read F) fun v c => { c with test := v },
  .of ["docker"] false (Container.read F) fun v c => { c with docker := v },
  .of ["records"] false (Records.read F) fun v c => { c with records := v },
  .of ["runner"] false (Selection.read F) fun v c => { c with runner := v }]

/-- Reads a configuration. -/
def read (F : Format ν ε) : ν → Except ε Config := F.record (fields F) standard

/-- The configuration of a TOML text. -/
def ofToml (text : String) : Except Error Config :=
  (Toml.read (read Toml.format) text).mapError fun _ => .config .unreadable

/-- The configuration of a YAML text. -/
def ofYaml (text : String) : Except Error Config :=
  (Yaml.read (read Yaml.format) text).mapError fun _ => .yaml

/-- A target as a JSON text. -/
def Target.ofJson (text : String) : Except Error Target :=
  (Json.readText (Target.read Json.format) text.toList).mapError .json

/-- Settings of containers as a JSON text. -/
def Container.ofJson (text : String) : Except Error Container :=
  (Json.readText (Container.read Json.format) text.toList).mapError .json

/-- Settings of a store as a JSON text. -/
def Records.ofJson (text : String) : Except Error Records :=
  (Json.readText (Records.read Json.format) text.toList).mapError .json

end Acceptance.Config
