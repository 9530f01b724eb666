import FindSelect.Json.Basic
import FindSelect.Operator

/-!
# SELECT statements

A statement names a table, the columns to give, the predicates that must all hold, and how the rows
are ordered, limited and offset.

* `Statement`, with `Column`, `Predicate`, `FieldList` and `SortKey`;
* `Statement.tokens`: the predicates as one flat row of columns, operators and values;
* `Statement.alike`: equality up to the order of the entries of documents.
-/

namespace FindSelect

/-- A named column of a table. -/
structure Column where
  name : String
  deriving DecidableEq, Repr

/-- A comparison that a row must satisfy. -/
structure Predicate where
  column : Column
  op : Operator
  value : Json
  deriving Repr

/-- The columns that a statement gives: all of them, or exactly those listed, in order. -/
inductive FieldList
  | wildcard
  | only (columns : List Column)
  deriving DecidableEq, Repr

/-- Whether every column is given. -/
def FieldList.isWildcard : FieldList → Bool
  | .wildcard => true
  | .only _ => false

/-- The listed columns, if there is a list. -/
def FieldList.columns? : FieldList → Option (List Column)
  | .wildcard => none
  | .only columns => some columns

/-- A key to order rows by. A positive direction ascends and every other one descends. -/
structure SortKey where
  key : String
  direction : Int64
  deriving DecidableEq, Repr

/-- Whether rows ascend by this key. -/
def SortKey.isAscending (s : SortKey) : Bool := 0 < s.direction

/-- A SELECT statement. The empty statement has an empty table name. -/
structure Statement where
  table : String := ""
  fields : FieldList := .wildcard
  predicates : List Predicate := []
  limit : Option UInt64 := none
  offset : Option UInt64 := none
  sorts : List SortKey := []
  deriving Repr

namespace Statement

/-- The empty statement. -/
def empty : Statement := {}

/-- The statement with a limit, in place of any other. -/
def withLimit (s : Statement) (n : UInt64) : Statement := { s with limit := some n }

/-- The statement with an offset, in place of any other. -/
def withOffset (s : Statement) (n : UInt64) : Statement := { s with offset := some n }

/-- The statement ordered by the given keys, in place of any others. -/
def withSorts (s : Statement) (keys : List SortKey) : Statement := { s with sorts := keys }

/-- The statement with the given predicates, in place of any others. -/
def withPredicates (s : Statement) (ps : List Predicate) : Statement := { s with predicates := ps }

end Statement

/-! ## The flat row of predicates -/

/-- A part of a predicate. -/
inductive PredicateToken
  | column (c : Column)
  | operator (op : Operator)
  | value (v : Json)
  deriving Repr

/-- The three parts of a predicate. -/
def Predicate.tokens (p : Predicate) : List PredicateToken :=
  [.column p.column, .operator p.op, .value p.value]

/-- The parts of all predicates, in order. -/
def Statement.tokens (s : Statement) : List PredicateToken := s.predicates.flatMap Predicate.tokens

/-! ## Equality up to the order of entries -/

/-- Predicates are alike when they differ only in the order of the entries of documents. -/
def Predicate.alike (p q : Predicate) : Bool :=
  p.column == q.column && p.op == q.op && p.value.alike q.value

/-- Lists of predicates are alike when they are so one by one. -/
def Predicate.alikeAll : List Predicate → List Predicate → Bool
  | [], [] => true
  | p :: ps, q :: qs => p.alike q && alikeAll ps qs
  | _, _ => false

/-- Statements are alike when they differ only in the order of the entries of documents. -/
def Statement.alike (s t : Statement) : Bool :=
  s.table == t.table && s.fields == t.fields && Predicate.alikeAll s.predicates t.predicates &&
    s.limit == t.limit && s.offset == t.offset && s.sorts == t.sorts

end FindSelect
