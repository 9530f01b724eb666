import FindSelect.Schema.Basic
import FindSelect.Toml.Document
import FindSelect.Toml.Access

/-!
# Schemas as settings

The reading of a schema that is written as settings. A table or a column may be a table of settings,
in which other keys do not count, or an array of its parts in order, in which further items do not
count.

* `Schema.ofToml`.
-/

namespace FindSelect

/-- The column that a value describes. Its type stands under one of two keys, not under both. -/
def ColumnDef.ofNode (n : Toml.Node) : Option ColumnDef :=
  match n.entries?, n.items? with
  | some t, _ => do
    let name ← t.required "name" Toml.Node.string?
    let type ← t.optional "type" Toml.Node.string?
    let other ← t.optional "typ" Toml.Node.string?
    let nullable ← t.optional "nullable" Toml.Node.boolean?
    if type.isSome ∧ other.isSome then none
    else return ⟨name, type.or other, nullable.getD false⟩
  | none, some [name] => return ⟨← name.string?, none, false⟩
  | none, some [name, type] => return ⟨← name.string?, some (← type.string?), false⟩
  | none, some (name :: type :: nullable :: _) =>
    return ⟨← name.string?, some (← type.string?), ← nullable.boolean?⟩
  | _, _ => none

/-- The columns that a value describes. -/
def ColumnDef.listOfNode (n : Toml.Node) : Option (List ColumnDef) := do
  (← n.items?).mapM ColumnDef.ofNode

/-- The table that a value describes. -/
def TableDef.ofNode (n : Toml.Node) : Option TableDef :=
  match n.entries?, n.items? with
  | some t, _ => do
    let name ← t.required "name" Toml.Node.string?
    let columns ← t.required "columns" ColumnDef.listOfNode
    return ⟨name, columns⟩
  | none, some (name :: columns :: _) => return ⟨← name.string?, ← ColumnDef.listOfNode columns⟩
  | _, _ => none

/-- The tables that a value describes. -/
def TableDef.listOfNode (n : Toml.Node) : Option (List TableDef) := do
  (← n.items?).mapM TableDef.ofNode

/-- The schema that a text of settings describes. -/
def Schema.ofToml (text : String) : Option Schema := do
  let t ← Toml.parse text
  return ⟨← t.required "tables" TableDef.listOfNode⟩

end FindSelect
