import FindSelect.Statement.Basic
import FindSelect.Json.Printer

/-!
# The text of a statement

How a statement and its parts are shown as SQL.

* `Json.sql`: a value as a literal;
* `Statement.sql`: the whole statement, each clause only if it has something to say.
-/

namespace FindSelect

/-- A value as a literal: null in capitals, a string between single quotes just as it is, and every
other value in its compact text. -/
def Json.sql : Json → String
  | .null => "NULL"
  | .string s => "'" ++ s ++ "'"
  | v => v.compact

/-- A whole number in decimal. -/
def naturalText (n : UInt64) : String := String.ofList (Nat.toDigits 10 n.toNat)

/-- A comparison. -/
def Predicate.sql (p : Predicate) : String :=
  p.column.name ++ " " ++ p.op.symbol ++ " " ++ p.value.sql

/-- The list of columns, or a star for all of them. -/
def FieldList.sql : FieldList → String
  | .wildcard => "*"
  | .only columns => ", ".intercalate (columns.map Column.name)

/-- A key to order by. -/
def SortKey.sql (s : SortKey) : String := s.key ++ (if s.isAscending then " ASC" else " DESC")

namespace Statement

/-- The clause of the predicates, if there are any. -/
def whereClause (ps : List Predicate) : String :=
  if ps.isEmpty then "" else " WHERE " ++ " AND ".intercalate (ps.map Predicate.sql)

/-- The clause of the order, if there is one. -/
def orderClause (keys : List SortKey) : String :=
  if keys.isEmpty then "" else " ORDER BY " ++ ", ".intercalate (keys.map SortKey.sql)

/-- The clause of the limit, if there is one. -/
def limitClause : Option UInt64 → String
  | none => ""
  | some n => " LIMIT " ++ naturalText n

/-- The clause of the offset, if there is one. -/
def offsetClause : Option UInt64 → String
  | none => ""
  | some n => " OFFSET " ++ naturalText n

/-- The text of a statement. -/
def sql (s : Statement) : String :=
  "SELECT " ++ s.fields.sql ++ " FROM " ++ s.table ++ whereClause s.predicates ++
    orderClause s.sorts ++ limitClause s.limit ++ offsetClause s.offset

end Statement

end FindSelect
