import Acceptance.Error
import Acceptance.Text.LowerCase

/-!
# The query for the records of a stream (specification, section 4.5)

A destination stores each stream in a raw table of its own. The two database systems differ in the
case of names that were created without quotes, and in how a JSON column is read as text.

* `Dialect`: the two systems; `foldCase`, `selectText`.
* `quote`, `qualify`: quoted names.
* `normalize`, `rawTable`: the name of the table of a stream.
* `rawRecords`: the query.
-/

namespace Acceptance.Sql

/-- The database systems. -/
inductive Dialect where
  | duckdb
  | postgres
deriving DecidableEq, Repr

/-- A character of a quoted name; a quote is doubled. -/
def quoteChar (c : Char) : List Char := if c = '"' then ['"', '"'] else [c]

/-- A name in quotes. -/
def quote (name : String) : String :=
  String.ofList ('"' :: (name.toList.flatMap quoteChar ++ ['"']))

/-- A table name in a schema, both quoted. -/
def qualify (schema table : String) : String := quote schema ++ "." ++ quote table

namespace Dialect

/-- The case that a system gives to names created without quotes. -/
def foldCase : Dialect → String → String
  | duckdb, name => name
  | postgres, name => Text.lowerCase name

/-- The expression that reads a JSON column as text. -/
def selectText : Dialect → String → String
  | duckdb, column => "CAST(" ++ quote column ++ " AS VARCHAR)"
  | postgres, column => quote column ++ "::text"

end Dialect

/-- An ASCII letter, a digit or an underscore. -/
def isIdentifierChar (c : Char) : Bool := c.isAlphanum || c == '_'

/-- A name with an underscore for every other character. -/
def normalize (name : String) : String :=
  String.ofList (name.toList.map fun c => if isIdentifierChar c then c else '_')

/-- The raw table of a stream, by the convention of section 4.5. -/
def rawTable (stream : String) : String := "_airbyte_raw_" ++ normalize stream

/-- The column that orders the records by their time. -/
def timeColumn : String := "_airbyte_emitted_at"

/-- The schema that a stream lies in: that of its namespace, if it has one that is not empty. -/
def schemaOf (d : Dialect) (standard : String) : Option String → String
  | some space => if space.isEmpty then standard else d.foldCase (normalize space)
  | none => standard

/-- The table that a stream lies in. -/
def tableOf (d : Dialect) (stream : String) : String := d.foldCase (rawTable stream)

/-- The query for the records of a stream in the order of their times. -/
def rawRecords (d : Dialect) (standard stream : String) (space : Option String) : String :=
  "SELECT " ++ d.selectText dataColumn ++ " AS " ++ quote dataColumn ++ " FROM " ++
    qualify (schemaOf d standard space) (tableOf d stream) ++
    " ORDER BY " ++ quote timeColumn ++ " ASC"

end Acceptance.Sql
