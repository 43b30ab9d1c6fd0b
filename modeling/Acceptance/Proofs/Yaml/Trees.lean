import Acceptance.Proofs.Schema.Agreement
import Acceptance.Toml.Reader
import Acceptance.Yaml.Reader

/-!
# One tree in two formats

A tree of tables, arrays, strings, whole numbers and truth values can be written as a TOML value and
as a node of a YAML document. Whether a reader finds the same in both depends on what it asks for: a
reader of texts refuses a number in TOML and takes the spelling of one in YAML.

* `Value.IsBare`: a number or a truth value.
* `Value.Each`, `Value.Every`: what is asked of the entries of a table and the items of an array.
* `integer?`: the whole number that a plain scalar stands for.
* `IsText`: a plain scalar that stands for nothing but its text.
* `Place.Holds`: what is at a place of a document holds a value. The entries of a table may stand in
  any order, and anything may stand behind aliases.

Results:
* `natural?_of_integer?`: which whole numbers are read as unsigned ones.
* `text_agree`, `maybeText_agree`, `flag_agree`, `natural_agree`, `choice_agree`, `list_agree`,
  `table_agree`: for each kind of reader, when it finds the same in both formats.
-/

namespace Acceptance

/-! ## What is asked of values -/

namespace Toml.Value

/-- A number or a truth value, which TOML writes without quotes. -/
def IsBare : Value → Prop
  | integer _ => True
  | bool _ => True
  | _ => False

def IsString (v : Value) : Prop := ∃ s, v = string s

def IsTable (v : Value) : Prop := ∃ es, v = table es

/-- Each entry of a table is what is asked for under its name. -/
def Each (asks : String → Value → Prop) : Value → Prop
  | table es => ∀ e ∈ es, asks e.1 e.2
  | _ => True

/-- Every item of an array is what is asked for. -/
def Every (asks : Value → Prop) : Value → Prop
  | array vs => ∀ v ∈ vs, asks v
  | _ => True

theorem each_true (v : Value) : v.Each fun _ _ => True := by
  cases v <;> simp [Each]

theorem every_true (v : Value) : v.Every fun _ => True := by
  cases v <;> simp [Every]

end Toml.Value

/-- A document is a table. -/
theorem Toml.isTable_of_parse {text : String} {v : Value} (h : parse text = some v) : v.IsTable := by
  simp only [parse, Draft.toValue, Option.bind_eq_bind, Option.bind_eq_some_iff,
    Option.some.injEq] at h
  obtain ⟨_, -, es, -, rfl⟩ := h
  exact ⟨_, rfl⟩

namespace Yaml

open List (Forall₂)
open Schema (Accord Field FieldsAgree Related accord_error accord_mapM accord_ok accord_refused named
  record_agree)
open Toml (Value)

/-! ## Scalars -/

/-- The whole number that a plain scalar stands for. One below zero has a minus sign before its
digits. -/
def integer? : List Char → Option Int
  | '-' :: r => if r.head? = some '+' then none else (natural? r).map fun n : Nat => -(n : Int)
  | s => (natural? s).map fun n : Nat => (n : Int)

/-- A plain scalar that stands for nothing but its text. Fractions are not told apart: no reader asks
for one, and a reader of texts takes any scalar. -/
structure IsText (s : String) : Prop where
  written : s ≠ ""
  something : isNull s = false
  notFlag : flag? s = none
  notInteger : integer? s.toList = none

/-- What is at a place holds a value. Scalars bear no tags, strings are quoted or stand for nothing
else, and zero has no sign: `-0` is no unsigned number in YAML. The entries of a table may stand in
another order. -/
inductive Place.Holds : Place → Value → Prop
  | string {p : Place} {style : Style} {s : String} (h : p.resolved = some (.scalar none style s))
      (hs : style = .plain → IsText s) : p.Holds (.string s)
  | bool {p : Place} {s : String} {b : Bool} (h : p.resolved = some (.scalar none .plain s))
      (hs : flag? s = some b) : p.Holds (.bool b)
  | integer {p : Place} {s : String} {i : Int} (h : p.resolved = some (.scalar none .plain s))
      (hs : integer? s.toList = some i) (hzero : i = 0 → s.toList.head? ≠ some '-') :
      p.Holds (.integer i)
  | array {p : Place} {ns : List Node} {vs : List Value} (h : p.resolved = some (.sequence ns))
      (hvs : Forall₂ Place.Holds (ns.map p.child) vs) : p.Holds (.array vs)
  | table {p : Place} {ps : List (Node × Node)} {es es' : List (String × Value)}
      (h : p.resolved = some (.mapping ps))
      (hkeys : Forall₂ (fun m e => (p.child m.1).text = .ok e.1) ps es)
      (hvalues : Forall₂ Place.Holds (ps.map fun m => p.child m.2) (es.map (·.2)))
      (hperm : es.Perm es') : p.Holds (.table es')

/-- What starts with a minus sign is no unsigned number. -/
theorem natural?_minus (s : List Char) : natural? ('-' :: s) = none := by
  simp [natural?, dropSign]

/-- Which whole numbers are read as unsigned ones. -/
theorem natural?_of_integer? {s : List Char} {i : Int} (h : integer? s = some i)
    (hzero : i = 0 → s.head? ≠ some '-') : natural? s = if 0 ≤ i then some i.toNat else none := by
  unfold integer? at h
  split at h
  · split at h
    · cases h
    · obtain ⟨n, -, rfl⟩ := Option.map_eq_some_iff.mp h
      have hne : -(n : Int) ≠ 0 := fun h0 => hzero h0 rfl
      rw [natural?_minus, if_neg (by omega)]
  · obtain ⟨n, hn, rfl⟩ := Option.map_eq_some_iff.mp h
    rw [hn, if_pos (Int.natCast_nonneg n), Int.toNat_natCast]

theorem natural?_of_integer?_none {s : List Char} (h : integer? s = none) : natural? s = none := by
  unfold integer? at h
  split at h
  · exact natural?_minus _
  · exact Option.map_eq_none_iff.mp h

/-- The words for truth values are no numbers. -/
theorem integer?_of_flag? {s : String} {b : Bool} (h : flag? s = some b) :
    integer? s.toList = none := by
  have hwords : s ∈ ["true", "True", "TRUE"] ∨ s ∈ ["false", "False", "FALSE"] := by
    unfold flag? at h
    split at h
    · simp_all [or_assoc]
    · split at h
      · simp_all [or_assoc]
      · cases h
  have hall : ∀ w ∈ ["true", "True", "TRUE"] ++ ["false", "False", "FALSE"],
      integer? w.toList = none := by decide +kernel
  exact hall s (List.mem_append.mpr hwords)

/-! ## Readers -/

variable {α : Type} {p : Place} {v : Value}

/-- Texts are the same, but for numbers and truth values, which are texts in YAML only. -/
theorem text_agree (h : p.Holds v) : Accord (¬ v.IsBare) (Toml.format.text v) (format.text p) := by
  cases h with
  | @string _ _ s h _ =>
    have htext : format.text p = .ok s := by simp [format, Place.text, h]
    rw [htext]
    exact (accord_ok s).of_iff (by simp [Value.IsBare])
  | bool h _ => exact accord_refused (by simp [Value.IsBare]) _ _
  | integer h _ _ => exact accord_refused (by simp [Value.IsBare]) _ _
  | array h _ => simp [format, Toml.format, Value.text, Place.text, h, accord_error]
  | table h _ _ _ => simp [format, Toml.format, Value.text, Place.text, h, accord_error]

/-- What is no number and no truth value is something. -/
theorem optional_eq (h : p.Holds v) (hv : ¬ v.IsBare) : p.optional = .ok (some p) := by
  cases h with
  | @string _ style s h hs =>
    cases style with
    | plain =>
      obtain ⟨hwritten, hsomething, -, -⟩ := hs rfl
      simp [Place.optional, h, hwritten, hsomething]
    | _ => simp [Place.optional, h]
  | bool h _ => exact absurd trivial hv
  | integer h _ _ => exact absurd trivial hv
  | array h _ => simp [Place.optional, h]
  | table h _ _ _ => simp [Place.optional, h]

/-- So are texts that may be absent. -/
theorem maybeText_agree (h : p.Holds v) :
    Accord (¬ v.IsBare) (Toml.format.maybe Toml.format.text v) (format.maybe format.text p) := by
  have hagree : Accord (¬ v.IsBare) (Toml.format.maybe Toml.format.text v)
      (format.text p >>= fun s => .ok (some s)) :=
    (text_agree h).map some
  by_cases hv : v.IsBare
  · exact hagree.of_not (not_not_intro hv) _
  · have hplace : format.maybe format.text p = format.text p >>= fun s => .ok (some s) := by
      simp only [Schema.Format.maybe, format, optional_eq h hv]
      rfl
    rwa [hplace]

/-- A string is no value of a core type. -/
theorem valueText_string {style : Style} {s : String} {read : String → Option α} (type : String)
    (h : p.resolved = some (.scalar none style s)) (hs : style = .plain → read s = none) :
    (p.valueText type >>= read) = none := by
  cases style with
  | plain => simp [Place.valueText, h, hs]
  | _ => simp [Place.valueText, h]

/-- A plain scalar is a value of any core type that its text is read as. -/
theorem valueText_plain {s : String} {read : String → Option α} (type : String)
    (h : p.resolved = some (.scalar none .plain s)) : (p.valueText type >>= read) = read s := by
  simp [Place.valueText, h]

/-- Truth values are the same. -/
theorem flag_agree (h : p.Holds v) : Accord True (Toml.format.flag v) (format.flag p) := by
  show Accord True v.flag (orUnsuitable (p.valueText "bool" >>= flag?))
  cases h with
  | string h hs =>
    rw [valueText_string "bool" h fun hp => (hs hp).notFlag]
    exact accord_error _ _ _
  | @bool _ _ b h hs =>
    rw [valueText_plain "bool" h, hs]
    exact accord_ok b
  | @integer _ s _ h hs _ =>
    have hflag : flag? s = none := by
      rw [Option.eq_none_iff_forall_ne_some]
      intro b hb
      rw [integer?_of_flag? hb] at hs
      cases hs
    rw [valueText_plain "bool" h, hflag]
    exact accord_error _ _ _
  | array h _ => simp [Place.valueText, h, orUnsuitable, Value.flag, accord_error]
  | table h _ _ _ => simp [Place.valueText, h, orUnsuitable, Value.flag, accord_error]

/-- Unsigned numbers are the same. -/
theorem natural_agree (h : p.Holds v) : Accord True (Toml.format.natural v) (format.natural p) := by
  show Accord True v.natural
    (orUnsuitable (p.valueText "int" >>= fun s => natural? s.toList))
  cases h with
  | string h hs =>
    rw [valueText_string "int" h fun hp => natural?_of_integer?_none (hs hp).notInteger]
    exact accord_error _ _ _
  | bool h hs =>
    rw [valueText_plain "int" h, natural?_of_integer?_none (integer?_of_flag? hs)]
    exact accord_error _ _ _
  | @integer _ _ i h hs hzero =>
    rw [valueText_plain "int" h, natural?_of_integer? hs hzero, Value.natural]
    by_cases hi : 0 ≤ i
    · rw [if_pos hi, if_pos hi]
      exact accord_ok i.toNat
    · rw [if_neg hi, if_neg hi]
      exact accord_error _ _ _
  | array h _ => simp [Place.valueText, h, orUnsuitable, Value.natural, accord_error]
  | table h _ _ _ => simp [Place.valueText, h, orUnsuitable, Value.natural, accord_error]

/-- Strings are the same names. -/
theorem choice_agree (table : List (String × α)) (h : p.Holds v) (hv : v.IsString) :
    Accord True (Toml.format.choice table v) (format.choice table p) := by
  obtain ⟨s, rfl⟩ := hv
  cases h with
  | string h _ =>
    have hname : p.name = .ok (s, .ok ()) := by simp [Place.name, h]
    simp only [Schema.Format.choice, format, Toml.format, Value.name, hname, bind, Except.bind]
    cases hs : table.lookup s with
    | none => exact accord_error _ _ _
    | some a => exact accord_ok a

/-! ## Lists and tables -/

/-- Only an array is a list. -/
theorem items_eq_error (h : p.Holds v) (hv : ∀ vs, v ≠ .array vs) :
    v.items = .error .unsuitable ∧ p.items = .error .unsuitable := by
  -- A plain scalar without characters would be an empty list, but it holds no value.
  cases h with
  | @string _ style s h hs =>
    cases style with
    | plain => simp [Value.items, Place.items, h, (hs rfl).written]
    | _ => simp [Value.items, Place.items, h]
  | @bool _ s _ h hs =>
    have hwritten : s ≠ "" := by
      rintro rfl
      cases hs
    simp [Value.items, Place.items, h, hwritten]
  | @integer _ s _ h hs _ =>
    have hwritten : s ≠ "" := by
      rintro rfl
      cases hs
    simp [Value.items, Place.items, h, hwritten]
  | @array _ _ vs _ _ => exact absurd rfl (hv vs)
  | table h _ _ _ => simp [Value.items, Place.items, h]

/-- **Lists are the same** if their items are. -/
theorem list_agree {read : Value → Except Toml.Fault α} {read' : Place → Except Fault α}
    {forms asks : Value → Prop}
    (hread : ∀ {p v}, Place.Holds p v → forms v → Accord (asks v) (read v) (read' p))
    (h : p.Holds v) (hforms : v.Every forms) :
    Accord (v.Every asks) (Toml.format.list read v) (format.list read' p) := by
  by_cases hv : ∃ vs, v = .array vs
  · obtain ⟨vs, rfl⟩ := hv
    cases h with
    | @array _ ns _ h hvs =>
      have hitems : Toml.format.items (.array vs) = .ok (vs, .ok ()) := rfl
      have hitems' : format.items p = .ok (ns.map p.child, .ok ()) := by
        simp [format, Place.items, h]
      have hagree : Forall₂ (fun v p => Accord (asks v) (read v) (read' p)) vs (ns.map p.child) :=
        ((List.forall₂_and_left _ _).mpr ⟨hforms, hvs.flip⟩).imp fun v p hv => hread hv.2 hv.1
      simp only [Schema.Format.list, hitems, hitems', bind, Except.bind]
      exact (accord_mapM hagree).map id
  · obtain ⟨hitems, hitems'⟩ := items_eq_error h fun vs hvs => hv ⟨vs, hvs⟩
    simp only [Schema.Format.list, Toml.format, format, hitems, hitems', bind, Except.bind]
    exact accord_error _ _ _

/-- The entries of a table and the members of the mapping that holds it. -/
theorem exists_members {p : Place} {ps : List (Node × Node)} {es : List (String × Value)}
    (hkeys : Forall₂ (fun m e => (p.child m.1).text = .ok e.1) ps es)
    (hvalues : Forall₂ Place.Holds (ps.map fun m => p.child m.2) (es.map (·.2))) :
    ∃ ms : List (String × Place),
      (ps.map fun m => ((p.child m.1).text, p.child m.2)) = named ms ∧
        Forall₂ (Related fun _ v q => Place.Holds q v) es ms := by
  induction hkeys with
  | nil => exact ⟨[], rfl, .nil⟩
  | @cons m e ps es hkey _ ih =>
    obtain ⟨hvalue, hvalues⟩ := List.forall₂_cons.mp hvalues
    obtain ⟨ms, hms, hrelated⟩ := ih hvalues
    refine ⟨(e.1, p.child m.2) :: ms, ?_, .cons ⟨rfl, hvalue⟩ hrelated⟩
    rw [List.map_cons, hms, hkey]
    rfl

/-- A value stands under a name in both formats, and in some form. -/
def Stands (forms : String → Value → Prop) (name : String) (v : Value) (p : Place) : Prop :=
  forms name v ∧ p.Holds v

/-- **Tables are the same** if their entries are. -/
theorem table_agree {σ : Type} {fields : List (Field Value Toml.Fault σ)}
    {fields' : List (Field Place Fault σ)} {forms asks : String → Value → Prop}
    (hfields : FieldsAgree (Stands forms) asks fields fields') (h : p.Holds v) (hv : v.IsTable)
    (hforms : v.Each forms) (draft : σ) :
    Accord (v.Each asks) (Toml.format.record fields draft v) (format.record fields' draft p) := by
  obtain ⟨es', rfl⟩ := hv
  cases h with
  | @table _ ps es _ h hkeys hvalues hperm =>
    obtain ⟨ms, hms, hrelated⟩ := exists_members hkeys hvalues
    have hshape : format.shape p = .members (named ms) (.ok ()) := by
      simp [format, Place.shape, h, hms]
    have hforms' : ∀ e ∈ es, forms e.1 e.2 := fun e he => hforms e (hperm.mem_iff.mp he)
    have hboth := (List.forall₂_and_left _ _).mpr ⟨hforms', hrelated⟩
    exact record_agree (fun _ => rfl) (fun _ => rfl) hfields rfl hshape hperm
      (hboth.imp fun e m hem => ⟨hem.2.1, hem.1, hem.2.2⟩) draft

end Yaml

end Acceptance
