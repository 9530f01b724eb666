import FindSelect.FindCall
import FindSelect.Filter
import FindSelect.Projection

/-!
# Statements of calls

* `decodeQuery`: the statement of a collection, a filter and a projection;
* `FindCall.toStatement`: the statement of a whole call.
-/

namespace FindSelect

/-- The filter that an optional filter stands for: an absent one and null ask for nothing. -/
def effectiveFilter : Option Json → Json
  | none => .document []
  | some .null => .document []
  | some v => v

/-- The statement of a collection, a filter and a projection. The projection is looked at first. -/
def decodeQuery (collection : String) (filter projection : Option Json) (columns : List Column) :
    Except CallError Statement := do
  let s ← decodeProjection .empty projection columns
  let ps ← decodeWhere columns (effectiveFilter filter)
  return { s with table := collection, predicates := ps }

/-- The statement of a call. -/
def FindCall.toStatement (call : FindCall) (columns : List Column) :
    Except CallError Statement := do
  let s ← decodeQuery call.collection call.filter call.projection columns
  let s := match call.limit with
    | some n => s.withLimit n
    | none => s
  let s := match call.skip with
    | some n => s.withOffset n
    | none => s
  let s := match call.sort with
    | some spec => s.withSorts spec.sorts
    | none => s
  return s

end FindSelect
