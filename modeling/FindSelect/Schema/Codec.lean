import FindSelect.Schema.Basic
import FindSelect.Json.Record

/-!
# Schemas as documents

The written form of a schema, and its reading. The type of a column may stand under `type` or `typ`
and be null or missing; whether it may be null may be missing.

* `Schema.toJson`, `Schema.reader`, `Schema.parse`.
-/

namespace FindSelect

/-! ## Writing -/

/-- A column is written as a record of its three parts. -/
def ColumnDef.toJson (c : ColumnDef) : Json :=
  .document
    [("name", .string c.name), ("type", .ofOption Json.string c.type),
      ("nullable", .boolean c.nullable)]

/-- A table is written as a record of its name and columns. -/
def TableDef.toJson (t : TableDef) : Json :=
  .document [("name", .string t.name), ("columns", .list (t.columns.map ColumnDef.toJson))]

/-- A schema is written as a record of its tables. -/
def Schema.toJson (s : Schema) : Json :=
  .document [("tables", .list (s.tables.map TableDef.toJson))]

/-- The compact text of a schema. -/
def Schema.compact (s : Schema) : String := s.toJson.compact

/-! ## Reading -/

open Reader

/-- The fields of a column that have been read. -/
structure ColumnDef.Draft where
  name : Option String := none
  type : Option (Option String) := none
  nullable : Option Bool := none

/-- The shape of a column. -/
def ColumnDef.shape : RecordShape ColumnDef.Draft ColumnDef where
  name := "ColumnDef"
  ofList _ := do
    let name ← requiredItem "ColumnDef" 3 0 string
    let type ← optionalItem 1 none (optional string)
    let nullable ← optionalItem 2 false boolean
    return ⟨name, type, nullable⟩
  empty := {}
  field _ key draft :=
    match key with
    | "name" => do return { draft with name := ← fieldValue "name" draft.name string }
    | "type" => do return { draft with type := ← fieldValue "type" draft.type (optional string) }
    | "typ" => do return { draft with type := ← fieldValue "type" draft.type (optional string) }
    | "nullable" => do
      return { draft with nullable := ← fieldValue "nullable" draft.nullable boolean }
    | _ => skipField draft
  finish draft := do
    let name ← required "name" draft.name
    return ⟨name, draft.type.join, draft.nullable.getD false⟩

/-- Reads a column. -/
def ColumnDef.reader (levels : Nat) : Reader ColumnDef := record ColumnDef.shape levels

/-- The fields of a table that have been read. -/
structure TableDef.Draft where
  name : Option String := none
  columns : Option (List ColumnDef) := none

/-- The shape of a table. -/
def TableDef.shape : RecordShape TableDef.Draft TableDef where
  name := "TableDef"
  ofList levels := do
    let name ← requiredItem "TableDef" 2 0 string
    let columns ← requiredItem "TableDef" 2 1 (listOf levels ColumnDef.reader)
    return ⟨name, columns⟩
  empty := {}
  field levels key draft :=
    match key with
    | "name" => do return { draft with name := ← fieldValue "name" draft.name string }
    | "columns" => do
      return { draft with
        columns := ← fieldValue "columns" draft.columns (listOf levels ColumnDef.reader) }
    | _ => skipField draft
  finish draft := do
    let name ← required "name" draft.name
    let columns ← required "columns" draft.columns
    return ⟨name, columns⟩

/-- Reads a table. -/
def TableDef.reader (levels : Nat) : Reader TableDef := record TableDef.shape levels

/-- The shape of a schema. -/
def Schema.shape : RecordShape (Option (List TableDef)) Schema where
  name := "SchemaFile"
  ofList levels := return ⟨← requiredItem "SchemaFile" 1 0 (listOf levels TableDef.reader)⟩
  empty := none
  field levels key draft :=
    match key with
    | "tables" => fieldValue "tables" draft (listOf levels TableDef.reader)
    | _ => skipField draft
  finish draft := return ⟨← required "tables" draft⟩

/-- Reads a schema. -/
def Schema.reader (levels : Nat) : Reader Schema := record Schema.shape levels

/-- The schema that a text is. -/
def Schema.parse (text : String) : Except Fault Schema := (Schema.reader maxNesting).run text

end FindSelect
