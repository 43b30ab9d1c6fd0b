import Acceptance.Config.Reader
import Acceptance.Proofs.Yaml.Trees

/-!
# Configurations in two formats

A configuration is read from TOML and from YAML in the same way, with one exception: where a text is
asked for, a number or a truth value without quotes is refused in TOML, and in YAML it is the text
that it is spelled with.

* `Target.Quoted`, `Container.Quoted`, `Records.Quoted`, `Quoted`: no text is given as a number or a
  truth value.
* `Sectioned`: sections are tables, and what is told by name is told by a string.
* `nightly`: a tree in both formats.

Results:
* `Target.fields_agree`, `Container.fields_agree`, `Records.fields_agree`, `Selection.fields_agree`,
  `fields_agree`: the settings of each section and the sections, setting by setting.
* `read_agree`, `formats_agree`: when a tree gives the same configuration in both formats.
* `not_formats_alike`: it does not always.
-/

namespace Acceptance.Config

open List (Forall₂)
open Schema (Accord Field FieldsAgree agrees_of commutes_of)
open Toml (Value)
open Yaml (Place Stands choice_agree flag_agree list_agree maybeText_agree natural_agree table_agree
  text_agree)

/-! ## What is asked of a tree -/

/-- Settings of the target that are texts are given as such. -/
def Target.Quoted (name : String) (v : Value) : Prop :=
  name ∈ ["image_name", "imageName", "config_path", "configPath", "fail_config_path",
    "failConfigPath", "catalog_path", "catalogPath", "messages_path", "messagesPath"] → ¬ v.IsBare

/-- Settings of containers that are texts, or lists of them, are given as such. -/
def Container.Quoted (name : String) (v : Value) : Prop :=
  (name ∈ ["binary", "network"] → ¬ v.IsBare) ∧
    (name = "extra_args" → v.Every fun w => ¬ w.IsBare)

/-- Settings of the store that are texts are given as such. -/
def Records.Quoted (name : String) (v : Value) : Prop :=
  name ∈ ["path", "connection_string", "default_schema"] → ¬ v.IsBare

/-- No setting that is a text is given as a number or a truth value. -/
def Quoted (tree : Value) : Prop :=
  tree.Each fun name v => (name = "test" → v.Each Target.Quoted) ∧
    (name = "docker" → v.Each Container.Quoted) ∧ (name = "records" → v.Each Records.Quoted)

/-- The kind of the store is given as a string. -/
def Records.Named (name : String) (v : Value) : Prop := name = "kind" → v.IsString

/-- Cases are given as strings. -/
def Selection.Named (name : String) (v : Value) : Prop := name = "cases" → v.Every Value.IsString

/-- A section is a table, with strings for what is told by name. -/
def Sectioned (name : String) (v : Value) : Prop :=
  (name ∈ ["test", "docker", "records", "runner"] → v.IsTable) ∧
    (name = "records" → v.Each Records.Named) ∧ (name = "runner" → v.Each Selection.Named)

/-! ## Settings -/

variable {σ : Type} {forms asks : String → Value → Prop} {p : Place} {v : Value}

/-- A text that may be absent. -/
theorem optionalText_agrees {names : List String} (put : Option String → σ → σ)
    (h : ∀ name ∈ names, ∀ v, asks name v ↔ ¬ v.IsBare) :
    Field.Agrees (Stands forms) asks (optionalText Toml.format names put)
      (optionalText Yaml.format names put) :=
  agrees_of fun name hname v _ hv => (maybeText_agree hv.2).of_iff (h name hname v).symm

/-- A setting of one name. -/
theorem setting_agrees {α : Type} {name : String} {read : Value → Except Toml.Fault α}
    {read' : Place → Except Yaml.Fault α} (put : α → σ → σ)
    (h : ∀ v p, forms name v → Place.Holds p v → Accord (asks name v) (read v) (read' p)) :
    Field.Agrees (Stands forms) asks (.of [name] false read put) (.of [name] false read' put) := by
  refine agrees_of fun _ hname v p hv => ?_
  rw [List.mem_singleton.mp hname] at hv ⊢
  exact h v p hv.1 hv.2

/-! ## Sections -/

theorem Target.fields_agree : FieldsAgree (Stands forms) Target.Quoted (Target.fields Toml.format)
    (Target.fields Yaml.format) where
  each := by
    refine .cons (optionalText_agrees _ ?_) (.cons (optionalText_agrees _ ?_)
      (.cons (optionalText_agrees _ ?_) (.cons (optionalText_agrees _ ?_)
      (.cons (optionalText_agrees _ ?_) .nil))))
    all_goals simp [Target.Quoted]
  commute := by simp [Target.fields, optionalText, commutes_of]
  other name v h hname := absurd hname h

theorem Container.fields_agree : FieldsAgree (Stands forms) Container.Quoted
    (Container.fields Toml.format) (Container.fields Yaml.format) where
  each := by
    refine .cons (setting_agrees _ fun v p _ hv => ?_) (.cons (optionalText_agrees _ ?_)
      (.cons (setting_agrees _ fun v p _ hv => ?_) (.cons (setting_agrees _ fun v p _ hv => ?_)
        .nil)))
    · exact (text_agree hv).of_iff (by simp [Container.Quoted])
    · simp [Container.Quoted]
    · exact (natural_agree hv).of_iff (by simp [Container.Quoted])
    · exact (list_agree (fun hw _ => text_agree hw) hv v.every_true).of_iff
        (by simp [Container.Quoted])
  commute := by simp [Container.fields, optionalText, commutes_of]
  other name v h := by
    have hname : name ∉ ["binary", "network", "timeout_ms", "extra_args"] := h
    simp only [List.mem_cons, List.not_mem_nil, or_false, not_or] at hname
    simp [Container.Quoted, hname]

theorem Records.fields_agree : FieldsAgree (Stands Records.Named) Records.Quoted
    (Records.fields Toml.format) (Records.fields Yaml.format) where
  each := by
    refine .cons (setting_agrees _ fun v p hform hv => ?_) (.cons (optionalText_agrees _ ?_)
      (.cons (optionalText_agrees _ ?_) (.cons (optionalText_agrees _ ?_)
      (.cons (setting_agrees _ fun v p _ hv => ?_) .nil))))
    · exact (choice_agree StoreKind.table hv (hform rfl)).of_iff (by simp [Records.Quoted])
    · simp [Records.Quoted]
    · simp [Records.Quoted]
    · simp [Records.Quoted]
    · exact (natural_agree hv).of_iff (by simp [Records.Quoted])
  commute := by simp [Records.fields, optionalText, commutes_of]
  other name v h := by
    have hname : name ∉ ["kind", "path", "connection_string", "default_schema",
      "max_concurrency"] := h
    simp only [List.mem_cons, List.not_mem_nil, or_false, not_or] at hname
    simp [Records.Quoted, hname]

theorem Selection.fields_agree : FieldsAgree (Stands Selection.Named) (fun _ _ => True)
    (Selection.fields Toml.format) (Selection.fields Yaml.format) where
  each := by
    refine .cons (setting_agrees _ fun v p hform hv => ?_)
      (.cons (setting_agrees _ fun v p _ hv => ?_) .nil)
    · exact (list_agree (fun hw hs => choice_agree Case.table hw hs) hv (hform rfl)).of_iff
        (iff_of_true v.every_true trivial)
    · exact flag_agree hv
  commute := by simp [Selection.fields, commutes_of]
  other _ _ _ := trivial

theorem fields_agree : FieldsAgree (Stands Sectioned)
    (fun name v => (name = "test" → v.Each Target.Quoted) ∧
      (name = "docker" → v.Each Container.Quoted) ∧ (name = "records" → v.Each Records.Quoted))
    (fields Toml.format) (fields Yaml.format) where
  each := by
    refine .cons (setting_agrees _ fun v p hform hv => ?_)
      (.cons (setting_agrees _ fun v p hform hv => ?_)
      (.cons (setting_agrees _ fun v p hform hv => ?_)
      (.cons (setting_agrees _ fun v p hform hv => ?_) .nil)))
    · exact (table_agree Target.fields_agree hv (hform.1 (by simp)) v.each_true .empty).of_iff
        (by simp)
    · exact (table_agree Container.fields_agree hv (hform.1 (by simp)) v.each_true
        .standard).of_iff (by simp)
    · exact (table_agree Records.fields_agree hv (hform.1 (by simp)) (hform.2.1 rfl)
        .standard).of_iff (by simp)
    · exact (table_agree Selection.fields_agree hv (hform.1 (by simp)) (hform.2.2 rfl)
        .standard).of_iff (by simp [v.each_true])
  commute := by simp [fields, commutes_of]
  other name v h := by
    have hname : name ∉ ["test", "docker", "records", "runner"] := h
    simp only [List.mem_cons, List.not_mem_nil, or_false, not_or] at hname
    simp [hname]

/-- **A tree is read alike** in both formats, but for texts that are given as something else. -/
theorem read_agree (h : p.Holds v) (hv : v.IsTable) (hsections : v.Each Sectioned) :
    Accord (Quoted v) (read Toml.format v) (read Yaml.format p) :=
  table_agree fields_agree h hv hsections standard

/-- **TOML and YAML texts of one tree give the same configuration**, or none does, unless a text is
given as a number or a truth value, which TOML refuses. -/
theorem formats_agree {toml yaml : String} {tree : Value} {d : Yaml.Document}
    (htoml : Toml.parse toml = some tree) (hyaml : Yaml.document? yaml = some d)
    (hholds : Place.Holds ⟨d.anchored, d.root⟩ tree) (hsections : tree.Each Sectioned) (c : Config) :
    ofToml toml = .ok c ↔ Quoted tree ∧ ofYaml yaml = .ok c := by
  have htoml' : Toml.read (read Toml.format) toml = read Toml.format tree := by
    rw [Toml.read, htoml]
  have hyaml' : Yaml.read (read Yaml.format) yaml = read Yaml.format ⟨d.anchored, d.root⟩ := by
    rw [Yaml.read, hyaml]
    rfl
  have hread := read_agree hholds (Toml.isTable_of_parse htoml) hsections
  rw [ofToml, ofYaml, htoml', hyaml']
  exact hread.mapError _ _ c

/-- A tree with a name of either kind, a text of digits and a setting that is not known. -/
def nightly : Value := .table [
  ("title", .string "nightly"),
  ("test", .table [("imageName", .string "dest:1"), ("config_path", .string "5")]),
  ("records", .table [("kind", .string "duck_db"), ("max_concurrency", .integer 4)])]

/-- The tree as TOML. -/
def nightlyToml : String :=
  "title = 'nightly'\n[test]\nimageName = \"dest:1\"\nconfig_path = \"5\"\n" ++
    "[records]\nkind = \"duck_db\"\nmax_concurrency = 4\n"

/-- The tree as YAML, from the last entry to the first. -/
def nightlyYaml : String :=
  "records:\n  max_concurrency: 0x4\n  kind: duck_db\n" ++
    "test:\n  config_path: '5'\n  imageName: dest:1\ntitle: nightly\n"

/-- A plain scalar without a tag. -/
def plain (s : String) : Yaml.Node := .scalar none .plain s

/-- The document of the YAML text. -/
def nightlyDocument : Yaml.Document where
  root := some <| .mapping [
    (plain "records",
      .mapping [(plain "max_concurrency", plain "0x4"), (plain "kind", plain "duck_db")]),
    (plain "test",
      .mapping [(plain "config_path", .scalar none .other "5"), (plain "imageName", plain "dest:1")]),
    (plain "title", plain "nightly")]
  anchored := []

theorem parse_nightly : Toml.parse nightlyToml = some nightly := by decide +kernel

theorem document?_nightly : Yaml.document? nightlyYaml = some nightlyDocument := by decide +kernel

/-- A mapping holds a table of which it has the entries in reverse. -/
theorem holds_reverse {ps : List (Yaml.Node × Yaml.Node)} {es : List (String × Value)}
    (h : p.resolved = some (.mapping ps))
    (hkeys : Forall₂ (fun m e => (p.child m.1).text = .ok e.1) ps es.reverse)
    (hvalues : Forall₂ Place.Holds (ps.map fun m => p.child m.2) (es.reverse.map (·.2))) :
    p.Holds (.table es) :=
  .table h hkeys hvalues (List.reverse_perm es)

theorem holds_nightly : Place.Holds ⟨[], nightlyDocument.root⟩ nightly := by
  have htexts : ∀ s ∈ ["nightly", "dest:1", "duck_db"], s ≠ "" ∧ Yaml.isNull s = false ∧
      Yaml.flag? s = none ∧ Yaml.integer? s.toList = none := by decide +kernel
  have htext (s : String) (h : s ∈ ["nightly", "dest:1", "duck_db"]) : Yaml.IsText s := by
    obtain ⟨hwritten, hsomething, hflag, hinteger⟩ := htexts s h
    exact ⟨hwritten, hsomething, hflag, hinteger⟩
  refine holds_reverse rfl (.cons rfl (.cons rfl (.cons rfl .nil)))
    (.cons ?_ (.cons ?_ (.cons ?_ .nil)))
  · refine holds_reverse rfl (.cons rfl (.cons rfl .nil)) (.cons ?_ (.cons ?_ .nil))
    · exact .integer rfl rfl (by simp)
    · exact .string rfl fun _ => htext _ (by simp)
  · refine holds_reverse rfl (.cons rfl (.cons rfl .nil)) (.cons ?_ (.cons ?_ .nil))
    · exact .string rfl nofun
    · exact .string rfl fun _ => htext _ (by simp)
  · exact .string rfl fun _ => htext _ (by simp)

/-- The tree gives the same configuration in both formats. -/
theorem formats_agree_nightly : ∃ c, ofYaml nightlyYaml = .ok c ∧ ofToml nightlyToml = .ok c := by
  have hsections : nightly.Each Sectioned := by
    simp only [nightly, Value.Each, List.forall_mem_cons]
    simp [Sectioned, Value.Each, Records.Named, Value.IsTable, Value.IsString]
  have hquoted : Quoted nightly := by
    simp only [nightly, Quoted, Value.Each, List.forall_mem_cons]
    simp [Target.Quoted, Records.Quoted, Value.IsBare]
  have hyaml : ofYaml nightlyYaml = .ok { standard with
      test := { Target.empty with imageName := some "dest:1", configPath := some "5" }
      records := { Records.standard with kind := .duckdb, maxConcurrency := 4 } } := by
    rw [ofYaml, Yaml.read, document?_nightly]
    rfl
  exact ⟨_, hyaml,
    (formats_agree parse_nightly document?_nightly holds_nightly hsections _).mpr ⟨hquoted, hyaml⟩⟩

/-- **A number where a text is asked for** is refused in TOML only: texts of one tree need not give
the same configuration. -/
theorem not_formats_alike : ¬ ∀ (toml yaml : String) (tree : Value) (d : Yaml.Document),
    Toml.parse toml = some tree → Yaml.document? yaml = some d →
      Place.Holds ⟨d.anchored, d.root⟩ tree → tree.Each Sectioned →
        ∀ c, ofToml toml = .ok c ↔ ofYaml yaml = .ok c := by
  intro h
  have htoml : Toml.parse "[test]\nimage_name = 5\n" =
      some (.table [("test", .table [("image_name", .integer 5)])]) := by
    decide +kernel
  have hyaml : Yaml.document? "test:\n  image_name: 5\n" =
      some ⟨some <| .mapping [(plain "test", .mapping [(plain "image_name", plain "5")])], []⟩ := by
    decide +kernel
  have hholds : Place.Holds
      ⟨[], some <| .mapping [(plain "test", .mapping [(plain "image_name", plain "5")])]⟩
      (.table [("test", .table [("image_name", .integer 5)])]) := by
    refine .table rfl (.cons rfl .nil) (.cons ?_ .nil) (List.Perm.refl _)
    refine .table rfl (.cons rfl .nil) (.cons ?_ .nil) (List.Perm.refl _)
    exact .integer rfl rfl (by simp)
  have hsections : (Value.table [("test", .table [("image_name", .integer 5)])]).Each Sectioned := by
    simp [Value.Each, Sectioned, Value.IsTable]
  have hread : ofYaml "test:\n  image_name: 5\n" =
      .ok { standard with test := { Target.empty with imageName := some "5" } } := by
    rw [ofYaml, Yaml.read, hyaml]
    rfl
  have hrefused : ofToml "[test]\nimage_name = 5\n" = .error (.config .unreadable) := by
    rw [ofToml, Toml.read, htoml]
    rfl
  have hsame := (h _ _ _ _ htoml hyaml hholds hsections _).mpr hread
  rw [hrefused] at hsame
  cases hsame

end Acceptance.Config
