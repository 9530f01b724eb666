import FindSelect.Statement.Basic
import FindSelect.Json.Record

/-!
# Statements as documents

The written form of a statement and of its parts, and the readers that take it back.

* `Statement.toJson`, `Statement.reader`, `Statement.parse`;
* the same for `Column`, `Operator`, `Predicate`, `FieldList` and `SortKey`.
-/

namespace FindSelect

/-! ## Writing -/

/-- A column is written as a record of its name. -/
def Column.toJson (c : Column) : Json := .document [("name", .string c.name)]

/-- An operator is written as its name. -/
def Operator.toJson (op : Operator) : Json := .string op.name

/-- A predicate is written as a record of its three parts. -/
def Predicate.toJson (p : Predicate) : Json :=
  .document [("column", p.column.toJson), ("op", p.op.toJson), ("value", p.value)]

/-- All columns are written as a name alone, listed ones as the list under a name. -/
def FieldList.toJson : FieldList → Json
  | .wildcard => .string "Wildcard"
  | .only columns => .document [("Fields", .list (columns.map Column.toJson))]

/-- A sort key is written as a record of its two parts. -/
def SortKey.toJson (s : SortKey) : Json :=
  .document [("key", .string s.key), ("direction", .ofInt64 s.direction)]

/-- A statement is written as a record of all its parts. -/
def Statement.toJson (s : Statement) : Json :=
  .document
    [("table", .string s.table),
      ("fields", s.fields.toJson),
      ("where", .list (s.predicates.map Predicate.toJson)),
      ("limit", .ofOption Json.ofUInt64 s.limit),
      ("offset", .ofOption Json.ofUInt64 s.offset),
      ("sorts", .list (s.sorts.map SortKey.toJson))]

/-! ## Columns -/

open Reader

/-- The shape of a column. -/
def Column.shape : RecordShape (Option String) Column where
  name := "Column"
  ofList _ := return ⟨← requiredItem "Column" 1 0 string⟩
  empty := none
  field _ key draft :=
    match key with
    | "name" => fieldValue "name" draft string
    | _ => skipField draft
  finish draft := return ⟨← required "name" draft⟩

/-- Reads a column. -/
def Column.reader (levels : Nat) : Reader Column := record Column.shape levels

/-! ## Operators and lists of columns -/

/-- Reads an operator by its name. -/
def Operator.reader (levels : Nat) : Reader Operator :=
  choice
    (fun name =>
      match Operator.ofName? name with
      | some op => .ok op
      | none => .error (.unknownVariant name (Operator.all.map Operator.name)))
    (fun op => return op)
    (fun _ op => do Reader.null; return op)
    levels

/-- The two forms of a list of columns. -/
inductive FieldList.Form
  | wildcard
  | only
  deriving DecidableEq, Repr

/-- Reads a list of columns. -/
def FieldList.reader (levels : Nat) : Reader FieldList :=
  choice
    (fun name =>
      match name with
      | "Wildcard" => .ok Form.wildcard
      | "Fields" => .ok Form.only
      | _ => .error (.unknownVariant name ["Wildcard", "Fields"]))
    (fun form =>
      match form with
      | .wildcard => return .wildcard
      | .only => mismatch (.wrongKind .bareVariant .variantWithPayload))
    (fun levels form =>
      match form with
      | .wildcard => do Reader.null; return .wildcard
      | .only => return .only (← listOf levels Column.reader))
    levels

/-! ## Predicates and sort keys -/

/-- The fields of a predicate that have been read. -/
structure Predicate.Draft where
  column : Option Column := none
  op : Option Operator := none
  value : Option Json := none

/-- The shape of a predicate. -/
def Predicate.shape : RecordShape Predicate.Draft Predicate where
  name := "Predicate"
  ofList levels := do
    let column ← requiredItem "Predicate" 3 0 (Column.reader levels)
    let op ← requiredItem "Predicate" 3 1 (Operator.reader levels)
    let value ← requiredItem "Predicate" 3 2 (Reader.value levels)
    return ⟨column, op, value⟩
  empty := {}
  field levels key draft :=
    match key with
    | "column" => do
      return { draft with column := ← fieldValue "column" draft.column (Column.reader levels) }
    | "op" => do return { draft with op := ← fieldValue "op" draft.op (Operator.reader levels) }
    | "value" => do
      return { draft with value := ← fieldValue "value" draft.value (Reader.value levels) }
    | _ => skipField draft
  finish draft := do
    let column ← required "column" draft.column
    let op ← required "op" draft.op
    let value ← required "value" draft.value
    return ⟨column, op, value⟩

/-- Reads a predicate. -/
def Predicate.reader (levels : Nat) : Reader Predicate := record Predicate.shape levels

/-- The fields of a sort key that have been read. -/
structure SortKey.Draft where
  key : Option String := none
  direction : Option Int64 := none

/-- The shape of a sort key. -/
def SortKey.shape : RecordShape SortKey.Draft SortKey where
  name := "Sort"
  ofList _ := do
    let key ← requiredItem "Sort" 2 0 string
    let direction ← requiredItem "Sort" 2 1 signed
    return ⟨key, direction⟩
  empty := {}
  field _ key draft :=
    match key with
    | "key" => do return { draft with key := ← fieldValue "key" draft.key string }
    | "direction" => do
      return { draft with direction := ← fieldValue "direction" draft.direction signed }
    | _ => skipField draft
  finish draft := do
    let key ← required "key" draft.key
    let direction ← required "direction" draft.direction
    return ⟨key, direction⟩

/-- Reads a sort key. -/
def SortKey.reader (levels : Nat) : Reader SortKey := record SortKey.shape levels

/-! ## Statements -/

/-- The fields of a statement that have been read. -/
structure Statement.Draft where
  table : Option String := none
  fields : Option FieldList := none
  predicates : Option (List Predicate) := none
  limit : Option (Option UInt64) := none
  offset : Option (Option UInt64) := none
  sorts : Option (List SortKey) := none

/-- The shape of a statement: limit, offset and sort keys may be missing. -/
def Statement.shape : RecordShape Statement.Draft Statement where
  name := "SelectStatement"
  ofList levels := do
    let table ← requiredItem "SelectStatement" 6 0 string
    let fields ← requiredItem "SelectStatement" 6 1 (FieldList.reader levels)
    let predicates ← requiredItem "SelectStatement" 6 2 (listOf levels Predicate.reader)
    let limit ← optionalItem 3 none (optional unsigned)
    let offset ← optionalItem 4 none (optional unsigned)
    let sorts ← optionalItem 5 [] (listOf levels SortKey.reader)
    return ⟨table, fields, predicates, limit, offset, sorts⟩
  empty := {}
  field levels key draft :=
    match key with
    | "table" => do return { draft with table := ← fieldValue "table" draft.table string }
    | "fields" => do
      return { draft with fields := ← fieldValue "fields" draft.fields (FieldList.reader levels) }
    | "where" => do
      return { draft with
        predicates := ← fieldValue "where" draft.predicates (listOf levels Predicate.reader) }
    | "limit" => do
      return { draft with limit := ← fieldValue "limit" draft.limit (optional unsigned) }
    | "offset" => do
      return { draft with offset := ← fieldValue "offset" draft.offset (optional unsigned) }
    | "sorts" => do
      return { draft with
        sorts := ← fieldValue "sorts" draft.sorts (listOf levels SortKey.reader) }
    | _ => skipField draft
  finish draft := do
    let table ← required "table" draft.table
    let fields ← required "fields" draft.fields
    let predicates ← required "where" draft.predicates
    return ⟨table, fields, predicates, draft.limit.join, draft.offset.join, draft.sorts.getD []⟩

/-- Reads a statement. -/
def Statement.reader (levels : Nat) : Reader Statement := record Statement.shape levels

/-- The statement that a text is. -/
def Statement.parse (text : String) : Except Fault Statement :=
  (Statement.reader maxNesting).run text

/-- The compact text of a statement. -/
def Statement.compact (s : Statement) : String := s.toJson.compact

end FindSelect
