import Acceptance.Destination.Subject
import Acceptance.Store.Source
import Mathlib.Data.List.Forall2

/-!
# What stores give

A store gives the record of every cell, or fails. Where the same cells answer the queries of a
database file and of a server, their stores come to the same.

* `Decodes`, `Offends`: the value that a cell holds, and what is wrong with one that holds none.
* `Reading`: what cells come to: all of their values, or what is wrong with the first that holds none.
* `Source.Leases`: the connection that a call gets.
* `Source.Answered`: the rows that the query of a source is answered with.
* `Source.Faultless`: a source gives all records or fails.

Results:
* `reading_records`: the records of cells are what the cells come to.
* `Source.fetched_leased`, `Source.fetched_unconnected`: what a call does with a connection, and without.
* `Source.faultless`: every source gives all records or fails.
* `stores_agree`: a database file and a server give the same.
-/

namespace Acceptance

namespace Store

/-! ## Cells -/

/-- The value whose text a cell holds. -/
def Decodes (cell : Cell) (v : Json) : Prop := ∃ text, cell = some text ∧ Json.parse text = .ok v

/-- What is wrong with a cell: it is null, or its text is none of a value. -/
inductive Offends : Cell → RetrievalProblem → Prop
  | null : Offends none .nullCell
  | malformed {text : String} {fault : Json.Fault} (h : Json.parse text = .error fault) :
      Offends (some text) (.malformedCell fault)

/-- What cells come to: the values of all of them, or what is wrong with the first that has none. -/
structure Reading (cells : List Cell) (r : Except Error (List Json)) : Prop where
  records (vs : List Json) : r = .ok vs ↔ List.Forall₂ Decodes cells vs
  error (e : Error) : r = .error e ↔ ∃ front cell behind problem, cells = front ++ cell :: behind ∧
    (∀ c ∈ front, ∃ v, Decodes c v) ∧ Offends cell problem ∧ e = .retrieval problem

theorem record_eq_ok_iff {cell : Cell} {v : Json} : record cell = .ok v ↔ Decodes cell v := by
  cases cell with
  | none => simp [record, Decodes]
  | some text =>
    simp only [record, mapError_eq_ok_iff, Decodes, Option.some.injEq, exists_eq_left']

theorem record_eq_error_iff {cell : Cell} {problem : RetrievalProblem} :
    record cell = .error problem ↔ Offends cell problem := by
  constructor
  · intro h
    cases cell with
    | none =>
      cases h
      exact .null
    | some text =>
      obtain ⟨fault, hp, rfl⟩ := mapError_eq_error_iff.mp h
      exact .malformed hp
  · rintro (_ | hp)
    · rfl
    · rw [record, hp]
      rfl

/-- The rows whose cells can be read. -/
def rowsOf (cells : List Cell) : List Row := cells.map .ok

variable {unread : String → RetrievalProblem}

theorem records_rows_eq_ok_iff {cells : List Cell} {vs : List Json} :
    records unread (rowsOf cells) = .ok vs ↔ List.Forall₂ Decodes cells vs := by
  rw [records_eq_ok_iff, rowsOf, List.map_map]
  show cells.map record = vs.map .ok ↔ _
  rw [← List.forall₂_eq_eq_eq, List.forall₂_map_left_iff, List.forall₂_map_right_iff]
  simp only [record_eq_ok_iff]

/-- Rows give no records exactly if one of them gives none; what is wrong with the first such row is
what is wrong. -/
theorem records_eq_error_iff {rows : List Row} {problem : RetrievalProblem} :
    records unread rows = .error problem ↔ ∃ front row behind, rows = front ++ row :: behind ∧
      (∀ r ∈ front, ∃ v, rowRecord unread r = .ok v) ∧ rowRecord unread row = .error problem := by
  induction rows with
  | nil => simp [records]
  | cons r rs ih =>
    simp only [List.cons_eq_append_iff]
    cases hr : rowRecord unread r with
    | error p =>
      simp only [records, hr, Except.error.injEq]
      constructor
      · rintro rfl
        exact ⟨[], r, rs, Or.inl ⟨rfl, rfl⟩, List.forall_mem_nil _, hr⟩
      · rintro ⟨front, row, behind, ⟨rfl, h⟩ | ⟨rest, rfl, -⟩, hfront, hrow⟩
        · obtain ⟨rfl, -⟩ := List.cons.inj h
          exact Except.error.inj (hr.symm.trans hrow)
        · obtain ⟨v, hv⟩ := hfront r List.mem_cons_self
          cases hr.symm.trans hv
    | ok v =>
      have hcons : records unread (r :: rs) = .error problem ↔ records unread rs = .error problem := by
        simp only [records, hr]
        cases records unread rs <;> simp
      rw [hcons, ih]
      constructor
      · rintro ⟨front, row, behind, rfl, hfront, hrow⟩
        exact ⟨r :: front, row, behind, Or.inr ⟨front, rfl, rfl⟩,
          List.forall_mem_cons.mpr ⟨⟨v, hr⟩, hfront⟩, hrow⟩
      · rintro ⟨front, row, behind, ⟨rfl, h⟩ | ⟨rest, rfl, h⟩, hfront, hrow⟩
        · obtain ⟨rfl, -⟩ := List.cons.inj h
          cases hr.symm.trans hrow
        · exact ⟨rest, row, behind, h, (List.forall_mem_cons.mp hfront).2, hrow⟩

theorem records_rows_eq_error_iff {cells : List Cell} {problem : RetrievalProblem} :
    records unread (rowsOf cells) = .error problem ↔
      ∃ front cell behind, cells = front ++ cell :: behind ∧ (∀ c ∈ front, ∃ v, Decodes c v) ∧
        Offends cell problem := by
  simp only [records_eq_error_iff, rowsOf, List.map_eq_append_iff, List.map_eq_cons_iff]
  constructor
  · rintro ⟨_, _, _, ⟨front, _, rfl, rfl, cell, behind, rfl, rfl, rfl⟩, hfront, hcell⟩
    refine ⟨front, cell, behind, rfl, fun c hc => ?_, record_eq_error_iff.mp hcell⟩
    obtain ⟨v, hv⟩ := hfront (.ok c) (List.mem_map_of_mem hc)
    exact ⟨v, record_eq_ok_iff.mp hv⟩
  · rintro ⟨front, cell, behind, rfl, hfront, hcell⟩
    refine ⟨_, _, _, ⟨front, _, rfl, rfl, cell, behind, rfl, rfl, rfl⟩, fun r hr => ?_,
      record_eq_error_iff.mpr hcell⟩
    obtain ⟨c, hc, rfl⟩ := List.mem_map.mp hr
    obtain ⟨v, hv⟩ := hfront c hc
    exact ⟨v, record_eq_ok_iff.mpr hv⟩

/-- **The records of cells** are what the cells come to, whatever it would mean that a row cannot be
read. -/
theorem reading_records (unread : String → RetrievalProblem) (cells : List Cell) :
    Reading cells ((records unread (rowsOf cells)).mapError .retrieval) where
  records vs := mapError_eq_ok_iff.trans records_rows_eq_ok_iff
  error e := by
    rw [mapError_eq_error_iff]
    simp only [records_rows_eq_error_iff]
    constructor
    · rintro ⟨problem, ⟨front, cell, behind, hcells, hfront, hcell⟩, rfl⟩
      exact ⟨front, cell, behind, problem, hcells, hfront, hcell, rfl⟩
    · rintro ⟨front, cell, behind, problem, hcells, hfront, hcell, rfl⟩
      exact ⟨problem, ⟨front, cell, behind, hcells, hfront, hcell⟩, rfl⟩

theorem Reading.eq {cells : List Cell} {r r' : Except Error (List Json)} (h : Reading cells r)
    (h' : Reading cells r') : r = r' := by
  cases r with
  | ok vs => exact ((h'.records vs).mpr ((h.records vs).mp rfl)).symm
  | error e => exact ((h'.error e).mpr ((h.error e).mp rfl)).symm

/-! ## Calls -/

namespace Source

variable {κ : Type} (sys : Systems κ) (source : Source) (p : Pool κ) (m : Host.Machine)
  (stream : String) (space : Option String)

/-- The connection that a call gets: the idle one that was put back last, or a new one where none is
idle. -/
def Leases (c : κ) : Prop :=
  p.idle.head? = some c ∨ p.idle = [] ∧ source.connect sys m = .ok c

/-- The query of a source for a stream is answered with rows. -/
def Answered (rows : List Row) : Prop :=
  ∃ c, source.Leases sys p m c ∧
    sys.query c (Sql.rawRecords source.dialect source.schema stream space) = .ok rows

/-- What a call comes to. -/
def fetched : Except Error (List Json) := ((source.fetch sys stream space).run (p, m)).1

variable {sys source p m stream space}

theorem fetched_leased {c : κ} (h : source.Leases sys p m c) :
    source.fetched sys p m stream space = (source.ask sys stream space c).mapError .retrieval := by
  obtain ⟨cs⟩ := p
  cases cs with
  | cons d ds =>
    rcases h with h | ⟨h, -⟩
    · cases h
      rfl
    · cases h
  | nil =>
    rcases h with h | ⟨-, h⟩
    · cases h
    · exact congrArg Prod.fst (run_fetch_opened stream space h)

theorem fetched_unconnected (hidle : p.idle = []) {problem : RetrievalProblem}
    (h : source.connect sys m = .error problem) :
    source.fetched sys p m stream space = .error (.retrieval problem) := by
  obtain ⟨cs⟩ := p
  obtain rfl : cs = [] := hidle
  exact congrArg Prod.fst (run_fetch_refused stream space h)

/-- A call gets a connection, or none comes about. -/
theorem leases_or_unconnected (sys : Systems κ) (source : Source) (p : Pool κ) (m : Host.Machine) :
    (∃ c, source.Leases sys p m c) ∨
      p.idle = [] ∧ ∃ problem, source.connect sys m = .error problem := by
  obtain ⟨cs⟩ := p
  cases cs with
  | cons c cs => exact Or.inl ⟨c, Or.inl rfl⟩
  | nil =>
    cases hc : source.connect sys m with
    | ok c => exact Or.inl ⟨c, Or.inr ⟨rfl, hc⟩⟩
    | error problem => exact Or.inr ⟨rfl, problem, rfl⟩

theorem fetched_refused {c : κ} (h : source.Leases sys p m c) {reason : String}
    (hq : sys.query c (Sql.rawRecords source.dialect source.schema stream space) = .error reason) :
    source.fetched sys p m stream space = .error (.retrieval (source.failed stream reason)) := by
  rw [fetched_leased h, ask, hq]
  rfl

theorem fetched_answered {rows : List Row} (h : source.Answered sys p m stream space rows) :
    source.fetched sys p m stream space =
      (records (source.unread stream) rows).mapError .retrieval := by
  obtain ⟨c, hc, hq⟩ := h
  rw [fetched_leased hc, ask, hq]

/-- Rows that give records all have cells that can be read. -/
theorem exists_cells {unread : String → RetrievalProblem} {rows : List Row} {vs : List Json}
    (h : records unread rows = .ok vs) : ∃ cells, rows = rowsOf cells := by
  rw [records_eq_ok_iff] at h
  induction rows generalizing vs with
  | nil => exact ⟨[], rfl⟩
  | cons row rows ih =>
    cases vs with
    | nil => cases h
    | cons v vs =>
      obtain ⟨hrow, hrest⟩ := List.cons.inj h
      obtain ⟨cells, rfl⟩ := ih hrest
      cases row with
      | error reason => cases hrow
      | ok cell => exact ⟨cell :: cells, rfl⟩

variable (sys source p m stream space)

/-- A call gives the value of every cell that answers its query, or fails with an error of retrieval:
it fails where no connection comes about, as with a database file that is not there, and where the
query is refused, as for a table that is not there. The destination whose records these are passes on
what the call comes to. -/
structure Faultless : Prop where
  whole : (∃ cells vs, source.Answered sys p m stream space (rowsOf cells) ∧
      List.Forall₂ Decodes cells vs ∧ source.fetched sys p m stream space = .ok vs) ∨
    ∃ problem, source.fetched sys p m stream space = .error (.retrieval problem)
  missing {path : String} {slots : Nat} (horigin : source.origin = .file path slots)
    (hidle : p.idle = []) (hfile : m.files.isFile m.directory path = false) :
    source.fetched sys p m stream space = .error (.retrieval (.noDatabase path))
  unconnected (hidle : p.idle = []) {problem : RetrievalProblem}
    (h : source.connect sys m = .error problem) :
    source.fetched sys p m stream space = .error (.retrieval problem)
  refused {c : κ} (h : source.Leases sys p m c) {reason : String}
    (hq : sys.query c (Sql.rawRecords source.dialect source.schema stream space) = .error reason) :
    ∃ problem, source.fetched sys p m stream space = .error (.retrieval problem)
  passed {σ : Type} (t : Config.Target) (get : σ → Pool κ × Host.Machine)
    (set : Pool κ × Host.Machine → σ → σ) (get' : σ → Destination.Ledger × Host.Machine)
    (set' : Destination.Ledger × Host.Machine → σ → σ) (place : Suite.Place) (schema : Json) {s : σ}
    (h : get s = (p, m)) :
    (((Destination.subject t (some (source.store sys get set)) get' set').retrieve place stream space
      schema).run s).1 = source.fetched sys p m stream space

/-- **Every source gives all records or fails.** -/
theorem faultless : source.Faultless sys p m stream space where
  whole := by
    rcases leases_or_unconnected sys source p m with ⟨c, hc⟩ | ⟨hidle, problem, h⟩
    · cases hq : sys.query c (Sql.rawRecords source.dialect source.schema stream space) with
      | error reason => exact Or.inr ⟨_, fetched_refused hc hq⟩
      | ok rows =>
        have hrows : source.Answered sys p m stream space rows := ⟨c, hc, hq⟩
        rw [fetched_answered hrows]
        cases hr : records (source.unread stream) rows with
        | error problem => exact Or.inr ⟨problem, rfl⟩
        | ok vs =>
          obtain ⟨cells, rfl⟩ := exists_cells hr
          exact Or.inl ⟨cells, vs, hrows, records_rows_eq_ok_iff.mp hr, rfl⟩
    · exact Or.inr ⟨problem, fetched_unconnected hidle h⟩
  missing := by
    intro path slots horigin hidle hfile
    refine fetched_unconnected hidle ?_
    simp only [connect, horigin, hfile, Bool.false_eq_true, if_false]
  unconnected hidle _ h := fetched_unconnected hidle h
  refused h _ hq := ⟨_, fetched_refused h hq⟩
  passed t get set get' set' place schema s h := by
    show ((((source.fetch sys stream space).run (get s)).1).mapError Destination.retrieval) = _
    rw [h]
    show (source.fetched sys p m stream space).mapError _ = _
    cases hr : source.fetched sys p m stream space with
    | ok vs => rfl
    | error e =>
      obtain ⟨problem, rfl⟩ := fetch_error hr
      rfl

end Source

/-- **The stores of a database file and of a server agree.** Where the same cells answer their queries
for a stream, in the same order, both come to the same: to the values of all cells, or to what is wrong
with the first cell that holds none. Both give all records or fail with an error of retrieval, and the
destination passes that on. -/
theorem stores_agree {κ κ' : Type} (sys : Systems κ) (sys' : Systems κ') (path : String)
    (slots : Nat) (access : Access) (schema schema' : String) (p : Pool κ) (p' : Pool κ')
    (m m' : Host.Machine) (stream : String) (space : Option String) :
    (∀ cells, Source.Answered sys ⟨.file path slots, schema⟩ p m stream space (rowsOf cells) →
      Source.Answered sys' ⟨.server access, schema'⟩ p' m' stream space (rowsOf cells) →
      ∃ r, Reading cells r ∧
        Source.fetched sys ⟨.file path slots, schema⟩ p m stream space = r ∧
        Source.fetched sys' ⟨.server access, schema'⟩ p' m' stream space = r) ∧
    Source.Faultless sys ⟨.file path slots, schema⟩ p m stream space ∧
    Source.Faultless sys' ⟨.server access, schema'⟩ p' m' stream space := by
  refine ⟨fun cells hfile hserver => ?_, Source.faultless .., Source.faultless ..⟩
  have hread := reading_records (Source.unread ⟨.file path slots, schema⟩ stream) cells
  have hread' := reading_records (Source.unread ⟨.server access, schema'⟩ stream) cells
  refine ⟨_, hread, Source.fetched_answered hfile, ?_⟩
  rw [hread.eq hread']
  exact Source.fetched_answered hserver

/-! ## Two stores -/

/-- Systems with one table, of which a cell holds no value. -/
def spoiled : Systems Unit where
  openFile _ := .ok ()
  connect _ _ := .ok ()
  query _ q :=
    if q = Sql.rawRecords .duckdb "main" "rates" none ∨ q = Sql.rawRecords .postgres "eu" "rates" none
    then .ok (rowsOf [some "1", some "oops", none])
    else .error "no such table"

theorem spoiled_query {d : Sql.Dialect} {schema : String}
    (h : (d, schema) = (.duckdb, "main") ∨ (d, schema) = (.postgres, "eu")) :
    spoiled.query () (Sql.rawRecords d schema "rates" none) =
      .ok (rowsOf [some "1", some "oops", none]) := by
  refine if_pos ?_
  rcases h with h | h <;> cases h
  · exact Or.inl rfl
  · exact Or.inr rfl

theorem stores_agree_spoiled :
    ∃ fault,
      Source.fetched spoiled ⟨.file "rates.db" 1, "main"⟩ ⟨[]⟩
        (.fresh ⟨[(["rates.db"], .file [])]⟩) "rates" none =
        .error (.retrieval (.malformedCell fault)) ∧
      Source.fetched spoiled ⟨.server .empty, "eu"⟩ ⟨[()]⟩ (.fresh ⟨[]⟩) "rates" none =
        .error (.retrieval (.malformedCell fault)) := by
  obtain ⟨h, -, -⟩ := stores_agree spoiled spoiled "rates.db" 1 .empty "main" "eu" ⟨[]⟩ ⟨[()]⟩
    (.fresh ⟨[(["rates.db"], .file [])]⟩) (.fresh ⟨[]⟩) "rates" none
  obtain ⟨r, hread, hfile, hserver⟩ := h [some "1", some "oops", none]
    ⟨(), Or.inr ⟨rfl, rfl⟩, spoiled_query (Or.inl rfl)⟩ ⟨(), Or.inl rfl, spoiled_query (Or.inr rfl)⟩
  have hgood : ∃ v, Json.parse "1" = .ok v := ⟨_, by rfl⟩
  have hbad : ∃ fault, Json.parse "oops" = .error fault := ⟨_, by rfl⟩
  obtain ⟨v, hv⟩ := hgood
  obtain ⟨fault, hfault⟩ := hbad
  have hr : r = .error (.retrieval (.malformedCell fault)) :=
    (hread.error _).mpr ⟨[some "1"], some "oops", [none], _, rfl, fun c hc =>
      List.mem_singleton.mp hc ▸ ⟨v, "1", rfl, hv⟩, .malformed hfault, rfl⟩
  exact ⟨fault, by rw [hfile, hr], by rw [hserver, hr]⟩

end Store
end Acceptance
