import Acceptance.Config.Printer
import Acceptance.Config.Reader
import Acceptance.Proofs.Schema
import Acceptance.Proofs.Toml.Documents

/-!
# Configurations read back

The text of a configuration is read back as that configuration. A setting that is absent is left out,
and all those that may be absent are so by default.

Results:
* `Target.read_table`, `Container.read_table`, `Records.read_table`, `Selection.read_table`: each
  section is read from its table.
* `read_toToml`: a configuration is read from its document.
* `printable_toSections`: the sections of a configuration can be printed.
* `render_reloads`: which configurations have a text, and that it is read back.
-/

namespace Acceptance.Config

open Schema (Distinct Field Supplied)
open Toml (Fault Value format)

/-! ## Settings -/

variable {σ α : Type} {name : String} {v : Value} {draft final : σ}
  {fields : List (Field Value Fault σ)} {es : List (String × Value)}

/-- The entries of a table, as members of a record. -/
def members (es : List (String × Value)) : List (Except Fault String × Value) :=
  es.map fun e => (.ok e.1, e.2)

theorem record_table (hd : Distinct fields) (h : Supplied fields (members es) draft final) :
    format.record fields draft (.table es) = .ok final :=
  Schema.record_supplied rfl hd h

/-- A setting is read from its value. -/
theorem supplied_value {read : Value → Except Fault α} {put : α → σ → σ} {a : α}
    (hread : read v = .ok a) (h : Supplied fields (members es) (put a draft) final) :
    Supplied (.of [name] false read put :: fields) (members ((name, v) :: es)) draft final :=
  .given List.mem_cons_self (bind_eq_ok_iff.mpr ⟨a, hread, rfl⟩) h

/-- A setting that may be absent is read from its value, or left out. -/
theorem supplied_optional {names : List String} {put : Option String → σ → σ} (value : Option String)
    (hname : name ∈ names) (hput : put none draft = draft)
    (h : Supplied fields (members es) (put value draft) final) :
    Supplied (optionalText format names put :: fields) (members <| entry? name value ++ es) draft
      final := by
  cases value with
  | none => exact .left rfl (hput ▸ h)
  | some s => exact .given hname rfl h

/-! ## Sections -/

/-- The target is read from its section. -/
theorem Target.read_table (t : Target) :
    Target.read format (.table <| entry? "image_name" t.imageName ++
      entry? "config_path" t.configPath ++ entry? "fail_config_path" t.failConfigPath ++
      entry? "catalog_path" t.catalogPath ++ entry? "messages_path" t.messagesPath) = .ok t := by
  refine record_table (by simp [Distinct, Target.fields, optionalText, Field.of]) ?_
  simp only [List.append_assoc]
  refine supplied_optional t.imageName (by simp) rfl ?_
  refine supplied_optional t.configPath (by simp) rfl ?_
  refine supplied_optional t.failConfigPath (by simp) rfl ?_
  refine supplied_optional t.catalogPath (by simp) rfl ?_
  rw [← List.append_nil <| entry? "messages_path" t.messagesPath]
  exact supplied_optional t.messagesPath (by simp) rfl .done

theorem natural_ofNat (n : Nat) : format.natural (.integer n) = .ok n := by
  simp [format, Value.natural]

theorem list_array {read : Value → Except Fault α} {node : α → Value} {xs : List α}
    (h : ∀ x ∈ xs, read (node x) = .ok x) : format.list read (.array (xs.map node)) = .ok xs :=
  bind_eq_ok_iff.mpr ⟨_, rfl, bind_eq_ok_iff.mpr ⟨xs, Schema.mapM_eq_ok h, rfl⟩⟩

theorem choice_string {table : List (String × α)} {a : α} (h : table.lookup name = some a) :
    format.choice table (.string name) = .ok a := by
  refine bind_eq_ok_iff.mpr ⟨(name, .ok ()), rfl, ?_⟩
  simp only [h]
  rfl

/-- The settings of containers are read from their section. -/
theorem Container.read_table (d : Container) :
    Container.read format (.table (("binary", .string d.binary) :: entry? "network" d.network ++
      [("timeout_ms", .integer d.timeout),
        ("extra_args", .array (d.extraArguments.map .string))])) = .ok d := by
  refine record_table (by simp [Distinct, Container.fields, optionalText, Field.of]) ?_
  refine supplied_value (a := d.binary) rfl ?_
  refine supplied_optional d.network (by simp) rfl ?_
  refine supplied_value (natural_ofNat d.timeout) ?_
  exact supplied_value (list_array fun s _ => rfl) .done

theorem lookup_kindName (k : StoreKind) : StoreKind.table.lookup k.name = some k := by
  cases k <;> rfl

/-- The settings of the store are read from their section. -/
theorem Records.read_table (r : Records) :
    Records.read format (.table (("kind", .string r.kind.name) :: entry? "path" r.path ++
      entry? "connection_string" r.connection ++ entry? "default_schema" r.defaultSchema ++
      [("max_concurrency", .integer r.maxConcurrency)])) = .ok r := by
  refine record_table (by simp [Distinct, Records.fields, optionalText, Field.of]) ?_
  simp only [List.cons_append, List.append_assoc]
  refine supplied_value (choice_string (lookup_kindName r.kind)) ?_
  refine supplied_optional r.path (by simp) rfl ?_
  refine supplied_optional r.connection (by simp) rfl ?_
  refine supplied_optional r.defaultSchema (by simp) rfl ?_
  exact supplied_value (natural_ofNat r.maxConcurrency) .done

theorem lookup_caseName (k : Case) : Case.table.lookup k.name = some k := by
  cases k <;> rfl

/-- The settings of the cases are read from their section. -/
theorem Selection.read_table (s : Selection) :
    Selection.read format (.table [("cases", .array (s.cases.map fun k => .string k.name)),
      ("fail_fast", .bool s.failFast)]) = .ok s := by
  refine record_table (by simp [Distinct, Selection.fields, Field.of]) ?_
  refine supplied_value (list_array fun k _ => choice_string (lookup_caseName k)) ?_
  exact supplied_value (a := s.failFast) rfl .done

/-- **A configuration is read from its document.** -/
theorem read_toToml (c : Config) : read format c.toToml = .ok c := by
  refine record_table (by simp [Distinct, fields, Field.of]) ?_
  refine supplied_value (Target.read_table c.test) ?_
  refine supplied_value (Container.read_table c.docker) ?_
  refine supplied_value (Records.read_table c.records) ?_
  exact supplied_value (Selection.read_table c.runner) .done

/-! ## The text -/

/-- Entries of some keys, of which none comes twice and each can be left out, with values that are
read back from a text. -/
structure Fits (keys : List String) (es : List (String × Value)) : Prop where
  keys : (es.map (·.1)).Sublist keys
  values : ∀ e ∈ es, Toml.Ready (Toml.maxDepth - 1) e.2

theorem fits_optional (key : String) (value : Option String) : Fits [key] <| entry? key value := by
  cases value with
  | none => exact ⟨List.nil_sublist _, nofun⟩
  | some s => exact ⟨List.Sublist.refl _, List.forall_mem_singleton.mpr (.string _ s)⟩

theorem fits_one (key : String) (hv : Toml.Ready (Toml.maxDepth - 1) v) : Fits [key] [(key, v)] :=
  ⟨List.Sublist.refl _, List.forall_mem_singleton.mpr hv⟩

theorem Fits.append {keys keys' : List String} {es es' : List (String × Value)} (h : Fits keys es)
    (h' : Fits keys' es') : Fits (keys ++ keys') (es ++ es') where
  keys := by
    rw [List.map_append]
    exact h.keys.append h'.keys
  values := List.forall_mem_append.mpr ⟨h.values, h'.values⟩

theorem ready_strings {α : Type} (name : α → String) (xs : List α) :
    Toml.Ready (Toml.maxDepth - 1) (.array (xs.map fun x => .string (name x))) := by
  refine .array fun x hx => ?_
  obtain ⟨a, -, rfl⟩ := List.mem_map.mp hx
  exact .string _ _

theorem ready_natural {n : Nat} (h : n < numberEnd) :
    Toml.Ready (Toml.maxDepth - 1) (.integer n) := by
  unfold numberEnd at h
  exact .integer _ (by omega) (by omega)

/-- The names of the sections and their keys. -/
def names : List String := ["test", "image_name", "config_path", "fail_config_path", "catalog_path",
  "messages_path", "docker", "binary", "network", "timeout_ms", "extra_args", "records", "kind",
  "path", "connection_string", "default_schema", "max_concurrency", "runner", "cases", "fail_fast"]

theorem bare_names {k : String} (h : k ∈ names) : Toml.Bare k := by
  have hall : ∀ k ∈ names, k.toList ≠ [] ∧ k.toList.all Toml.isNameChar = true := by decide
  exact ⟨(hall k h).1, List.all_eq_true.mp (hall k h).2⟩

/-- A section whose name and keys need no quotes. -/
def Sound (s : String × List (String × Value)) : Prop :=
  s.1 ∈ names ∧ ∃ keys, keys.Nodup ∧ keys ⊆ names ∧ Fits keys s.2

theorem sound_sections {c : Config} (h : c.printable = true) : ∀ s ∈ c.toSections, Sound s := by
  obtain ⟨htimeout, hconcurrency⟩ := printable_iff.mp h
  have htest := ((((fits_optional "image_name" c.test.imageName).append
    (fits_optional "config_path" c.test.configPath)).append
    (fits_optional "fail_config_path" c.test.failConfigPath)).append
    (fits_optional "catalog_path" c.test.catalogPath)).append
    (fits_optional "messages_path" c.test.messagesPath)
  have hdocker := ((fits_one "binary" (.string _ c.docker.binary)).append
    (fits_optional "network" c.docker.network)).append
    ((fits_one "timeout_ms" (ready_natural htimeout)).append
      (fits_one "extra_args" (ready_strings id c.docker.extraArguments)))
  have hrecords := ((((fits_one "kind" (.string _ c.records.kind.name)).append
    (fits_optional "path" c.records.path)).append
    (fits_optional "connection_string" c.records.connection)).append
    (fits_optional "default_schema" c.records.defaultSchema)).append
    (fits_one "max_concurrency" (ready_natural hconcurrency))
  have hrunner := (fits_one "cases" (ready_strings Case.name c.runner.cases)).append
    (fits_one "fail_fast" (.bool _ c.runner.failFast))
  unfold toSections
  simp only [List.forall_mem_cons, List.not_mem_nil, false_imp_iff, implies_true, and_true]
  refine ⟨⟨?_, _, ?_, ?_, htest⟩, ⟨?_, _, ?_, ?_, hdocker⟩, ⟨?_, _, ?_, ?_, hrecords⟩,
    ⟨?_, _, ?_, ?_, hrunner⟩⟩
  all_goals simp [names]

theorem printable_toSections {c : Config} (h : c.printable = true) :
    Toml.Printable c.toSections := by
  have hsound := sound_sections h
  refine ⟨?_, fun s hs => bare_names (hsound s hs).1, fun s hs => ?_, fun s hs e he => ?_, fun s hs => ?_⟩
  · show ["test", "docker", "records", "runner"].Nodup
    decide
  · obtain ⟨-, keys, hdistinct, -, hfits⟩ := hsound s hs
    exact hfits.keys.nodup hdistinct
  · obtain ⟨-, keys, -, hsub, hfits⟩ := hsound s hs
    exact bare_names (hsub (hfits.keys.subset (List.mem_map_of_mem he)))
  · obtain ⟨-, keys, -, -, hfits⟩ := hsound s hs
    exact hfits.values

/-- What is read from the text of a printable configuration, with empty lines behind it. -/
theorem ofToml_print {c : Config} (h : c.printable = true) (n : Nat) :
    ofToml (String.ofList (Toml.print c.toSections ++ List.replicate n '\n')) = .ok c := by
  have hparse := Toml.parse_print (printable_toSections h) n
  have hread : read format (.table (c.toSections.map fun s => (s.1, .table s.2))) = .ok c :=
    read_toToml c
  rw [ofToml, Toml.read, hparse]
  simp only [hread]
  rfl

/-- **The text of a configuration is read back.** Every configuration whose numbers have a place in
the format has a text, and reading the text, or the line that shows it, gives the configuration; any
other has none. -/
theorem render_reloads (c : Config) :
    (c.docker.timeout ≤ 9223372036854775807 ∧ c.records.maxConcurrency ≤ 9223372036854775807 →
      ∃ text, c.render = .ok text ∧ ofToml text = .ok c ∧ ofToml (text ++ "\n") = .ok c) ∧
    (¬ (c.docker.timeout ≤ 9223372036854775807 ∧ c.records.maxConcurrency ≤ 9223372036854775807) →
      ∃ cause, c.render = .error (.config cause)) := by
  have hrange : c.printable = true ↔
      c.docker.timeout ≤ 9223372036854775807 ∧ c.records.maxConcurrency ≤ 9223372036854775807 := by
    rw [printable_iff, numberEnd]
    omega
  rw [← hrange]
  refine ⟨fun h => ⟨String.ofList (Toml.print c.toSections), if_pos h, ?_, ?_⟩, fun h => ?_⟩
  · simpa using ofToml_print h 0
  · have hline := ofToml_print h 1
    rwa [String.ofList_append] at hline
  · exact ⟨_, if_neg h⟩

end Acceptance.Config
