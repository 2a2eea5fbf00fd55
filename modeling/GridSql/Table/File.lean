import GridSql.Json.Parser
import GridSql.Json.Record
import GridSql.Table.Basic

/-!
# Data files

The JSON form of a table: its name, its columns with their types, and its rows.
-/

namespace GridSql

structure DataFile where
  table : String
  columns : List Column
  rows : List (List (String × Json))

namespace DataFile

/-- A column; without a type it is one of any kind. -/
def column? (j : Json) : Option Column := do
  let r ← Json.Record.read? ["name", "type"] j
  let name ← r.required "name" Json.asString?
  let type ← r.withDefault "type" .other fun j => j.word?.bind ScalarType.ofName?
  return ⟨name, type⟩

/-- The contents of a data file, its rows in normal form. -/
def ofJson? (j : Json) : Option DataFile := do
  let r ← Json.Record.read? ["table", "columns", "rows"] j
  let table ← r.required "table" Json.asString?
  let columns ← r.required "columns" (Json.list? column?)
  let rows ← r.withDefault "rows" [] (Json.list? fun row => row.normalize.asObject?)
  return { table, columns, rows }

end DataFile

namespace Table

def ofFile (f : DataFile) : Except SourceError Table := do
  let rows ← readRows f.columns 0 f.rows
  .ok { name := f.table, columns := f.columns, rows }

def ofText (s : String) : Except SourceError Table :=
  match (Json.parseFast? s).bind DataFile.ofJson? with
  | some f => ofFile f
  | none => .error .malformed

end Table

end GridSql
