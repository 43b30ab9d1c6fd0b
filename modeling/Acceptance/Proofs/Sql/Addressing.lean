import Acceptance.Sql.Token

/-!
# What a query reads

However a stream, its namespace or the standard schema are called, the query for the records of the
stream is read as the same marks, and the names between them are the two columns, the schema and the
table. Nothing that stands in a name gets out of it.

* `Token.text`: what a token is written as.
* `legible`: marks are no quotes, and no two names stand side by side.
* `Token.face`, `Token.name?`: a token without its name, and its name.
* `skeleton`: the query of a system with a quote for each name.

Results:
* `tokensFrom_text`: tokens that are legible are read as they were written.
* `toList_rawRecords`: the query is the text of such tokens.
* `rawRecords_reading`: what the query is read as, and when two queries are the same.
-/

namespace Acceptance.Sql

/-! ## Writing tokens -/

/-- What a token is written as. -/
def Token.text : Token → List Char
  | mark c => [c]
  | name s => (quote s).toList

/-- The marks of a text. -/
def marks (s : String) : List Token := s.toList.map .mark

/-- Whether tokens can be told apart where they are written one after another. -/
def legible : List Token → Bool
  | [] => true
  | .mark c :: ts => c != '"' && legible ts
  | .name _ :: ts => (ts.head?.all fun t => t matches .mark _) && legible ts

theorem text_marks (s : String) : (marks s).flatMap Token.text = s.toList := by
  rw [marks, List.flatMap_map]
  exact List.flatMap_singleton' s.toList

/-- Where no name follows, no quote follows. -/
theorem head?_text {ts : List Token} (h : legible ts = true)
    (hmark : (ts.head?.all fun t => t matches .mark _) = true) :
    (ts.flatMap Token.text).head? ≠ some '"' := by
  cases ts with
  | nil => simp
  | cons t ts =>
    cases t with
    | name s => simp at hmark
    | mark c =>
      simp only [legible, Bool.and_eq_true, bne_iff_ne] at h
      simpa [Token.text] using h.1

/-- **Tokens are read as they were written.** -/
theorem tokensFrom_text {ts : List Token} (h : legible ts = true) :
    tokensFrom none (ts.flatMap Token.text) = some ts := by
  induction ts with
  | nil => rfl
  | cons t ts ih =>
    cases t with
    | mark c =>
      simp only [legible, Bool.and_eq_true, bne_iff_ne] at h
      rw [List.flatMap_cons, Token.text, List.singleton_append, tokensFrom_mark h.1, ih h.2]
      rfl
    | name s =>
      simp only [legible, Bool.and_eq_true] at h
      rw [List.flatMap_cons, Token.text, tokensFrom_quote (head?_text h.2 h.1), ih h.2]
      rfl

/-! ## The query -/

/-- The expression that reads the data column as text. -/
def selection : Dialect → List Token
  | .duckdb => marks "CAST(" ++ [.name dataColumn] ++ marks " AS VARCHAR)"
  | .postgres => [.name dataColumn] ++ marks "::text"

/-- The query for the records in a table. -/
def query (d : Dialect) (schema table : String) : List Token :=
  marks "SELECT " ++ selection d ++ marks " AS " ++ [.name dataColumn] ++ marks " FROM " ++
    [.name schema] ++ marks "." ++ [.name table] ++ marks " ORDER BY " ++ [.name timeColumn] ++
    marks " ASC"

theorem legible_query (d : Dialect) (schema table : String) :
    legible (query d schema table) = true := by
  cases d <;> rfl

theorem text_selection (d : Dialect) :
    (selection d).flatMap Token.text = (d.selectText dataColumn).toList := by
  cases d <;> simp [selection, Dialect.selectText, text_marks, Token.text]

theorem toList_rawRecords (d : Dialect) (standard stream : String) (space : Option String) :
    (rawRecords d standard stream space).toList =
      (query d (schemaOf d standard space) (tableOf d stream)).flatMap Token.text := by
  simp [rawRecords, query, qualify, text_marks, text_selection, Token.text]

theorem tokens_rawRecords (d : Dialect) (standard stream : String) (space : Option String) :
    tokens (rawRecords d standard stream space) =
      some (query d (schemaOf d standard space) (tableOf d stream)) := by
  rw [tokens, toList_rawRecords, tokensFrom_text (legible_query d _ _)]

/-! ## Reading the query -/

/-- A token without its name. -/
def Token.face : Token → Char
  | mark c => c
  | name _ => '"'

/-- The name that a token stands for. -/
def Token.name? : Token → Option String
  | mark _ => none
  | name s => some s

/-- The query of a system with a quote for each name. -/
def skeleton : Dialect → String
  | .duckdb => "SELECT CAST(\" AS VARCHAR) AS \" FROM \".\" ORDER BY \" ASC"
  | .postgres => "SELECT \"::text AS \" FROM \".\" ORDER BY \" ASC"

theorem faces_query (d : Dialect) (schema table : String) :
    (query d schema table).map Token.face = (skeleton d).toList := by
  cases d <;> rfl

theorem names_query (d : Dialect) (schema table : String) :
    (query d schema table).filterMap Token.name? =
      [dataColumn, dataColumn, schema, table, timeColumn] := by
  cases d <;> rfl

theorem query_inj {d : Dialect} {schema table schema' table' : String}
    (h : query d schema table = query d schema' table') : schema = schema' ∧ table = table' := by
  have hnames := congrArg (List.filterMap Token.name?) h
  rw [names_query, names_query] at hnames
  simp only [List.cons.injEq, true_and, and_true] at hnames
  exact hnames

theorem schemaOf_eq (d : Dialect) (standard : String) (space : Option String) :
    schemaOf d standard space =
      if space.getD "" = "" then standard else d.foldCase (normalize (space.getD "")) := by
  cases space with
  | none => rfl
  | some n => simp [schemaOf]

/-- **A query reads exactly the table of its stream.** Whatever the names are, it is read as the marks
of its system with five names: the data column twice, the schema, the table, and the column of the
times. A stream without a namespace, or with an empty one, lies in the standard schema, which is taken
as it stands. Two queries of a system are the same exactly if they read the same table of the same
schema. -/
theorem rawRecords_reading (d : Dialect) (standard stream : String) (space : Option String) :
    (∃ ts, tokens (rawRecords d standard stream space) = some ts ∧
      ts.map Token.face = (skeleton d).toList ∧
      ts.filterMap Token.name? = ["_airbyte_data", "_airbyte_data",
        if space.getD "" = "" then standard else d.foldCase (normalize (space.getD "")),
        d.foldCase ("_airbyte_raw_" ++ normalize stream), "_airbyte_emitted_at"]) ∧
    ∀ standard' stream' space',
      rawRecords d standard stream space = rawRecords d standard' stream' space' ↔
        schemaOf d standard space = schemaOf d standard' space' ∧
          tableOf d stream = tableOf d stream' := by
  refine ⟨⟨_, tokens_rawRecords d standard stream space, faces_query d _ _, ?_⟩, ?_⟩
  · rw [names_query, schemaOf_eq]
    rfl
  · intro standard' stream' space'
    constructor
    · intro h
      have htokens := congrArg tokens h
      rw [tokens_rawRecords, tokens_rawRecords, Option.some.injEq] at htokens
      exact query_inj htokens
    · rintro ⟨hschema, htable⟩
      rw [rawRecords, rawRecords, hschema, htable]

/-- A schema whose name would end the query and start another one stays a name. -/
example :
    (tokens (rawRecords .duckdb "x\"; DROP TABLE \"y" "a b" none)).map (·.filterMap Token.name?) =
      some ["_airbyte_data", "_airbyte_data", "x\"; DROP TABLE \"y", "_airbyte_raw_a_b",
        "_airbyte_emitted_at"] := by
  decide +kernel

end Acceptance.Sql
