import FindSelect.Statement.Basic
import FindSelect.Error

/-!
# Schemas

A schema lists tables with their columns, in order. Names may repeat; the first table of a name is
the one that counts.

* `Schema`, with `TableDef` and `ColumnDef`;
* `Schema.columns`: the columns of a table.
-/

namespace FindSelect

/-- A column of a table. Its type is for the reader only. -/
structure ColumnDef where
  name : String
  type : Option String := none
  nullable : Bool := false
  deriving DecidableEq, Repr

/-- A table with its columns, in order. -/
structure TableDef where
  name : String
  columns : List ColumnDef
  deriving DecidableEq, Repr

/-- The tables of a schema, in order. -/
structure Schema where
  tables : List TableDef
  deriving DecidableEq, Repr

/-- The columns of a table, by name. -/
def TableDef.columnNames (t : TableDef) : List Column := t.columns.map fun c => ⟨c.name⟩

namespace Schema

/-- The first table of a name. -/
def table? (s : Schema) (name : String) : Option TableDef := s.tables.find? (·.name == name)

/-- The columns of the first table of a name. -/
def columns (s : Schema) (name : String) : Except CallError (List Column) :=
  match s.table? name with
  | some t => .ok t.columnNames
  | none => .error (.unknownTable name)

end Schema

end FindSelect
