import FindSelect.Statement.Basic
import FindSelect.Error

/-!
# Sort arguments

A sort argument is one pair of a key and a direction, a list of such pairs, or a document of keys
with their directions.

* `SortSpec`: one pair or a list of pairs;
* `SortSpec.ofJson`: the reading of the three forms;
* `SortSpec.sorts`: the sort keys, in order;
* `SortSpec.toJson`: the written form.
-/

namespace FindSelect

/-- A sort argument. -/
inductive SortSpec
  | single (key : String) (direction : Int64)
  | list (pairs : List (String × Int64))
  deriving DecidableEq, Repr

namespace SortSpec

/-- A direction is an integer of a signed word. -/
def direction (v : Json) : Except CallError Int64 :=
  match v.toInt64? with
  | some d => .ok d
  | none => .error (.invalidSort (.notDirection v))

/-- A pair is a list of a string and a direction. -/
def pair : Json → Except CallError (String × Int64)
  | .list [.string key, d] => do return (key, ← direction d)
  | v => .error (.invalidSort (.notPair v))

/-- The pairs of a list, in order. -/
def pairs : List Json → Except CallError (List (String × Int64))
  | [] => .ok []
  | v :: items => do
    let p ← pair v
    return p :: (← pairs items)

/-- The pairs of a document, in order. -/
def directions : Entries → Except CallError (List (String × Int64))
  | [] => .ok []
  | (key, v) :: entries => do
    let d ← direction v
    return (key, d) :: (← directions entries)

/-- The argument that a value is. A list of two items of which the first is a string is one pair,
never a list of pairs. -/
def ofJson : Json → Except CallError SortSpec
  | .document entries => .list <$> directions entries
  | .list [.string key, d] => do return .single key (← direction d)
  | .list items => .list <$> pairs items
  | v => .error (.invalidSort (.noForm v))

/-- The sort keys of an argument, in order. -/
def sorts : SortSpec → List SortKey
  | .single key d => [⟨key, d⟩]
  | .list pairs => pairs.map fun p => ⟨p.1, p.2⟩

/-- The written form of a pair. -/
def pairJson (key : String) (d : Int64) : Json := .list [.string key, .ofInt64 d]

/-- The written form of an argument: a pair, or the list of its pairs. -/
def toJson : SortSpec → Json
  | .single key d => pairJson key d
  | .list pairs => .list (pairs.map fun p => pairJson p.1 p.2)

end SortSpec

end FindSelect
