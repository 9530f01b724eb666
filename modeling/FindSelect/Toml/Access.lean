import FindSelect.Toml.Table

/-!
# Taking settings out of a table

* `Node.string?`, `Node.boolean?`, `Node.items?`, `Node.entries?`: the value of each kind;
* `Node.isHollow`: a table or an array that holds nothing;
* `Table.required`, `Table.optional`: the setting under a key.
-/

namespace FindSelect.Toml

namespace Node

/-- The string that a value is. -/
def string? : Node → Option String
  | .string s => some s
  | _ => none

/-- The boolean that a value is. -/
def boolean? : Node → Option Bool
  | .boolean b => some b
  | _ => none

/-- The items of an array or of a list of tables. -/
def items? : Node → Option (List Node)
  | .array items => some items
  | .tables elements => some (elements.map (Node.table .header))
  | _ => none

/-- The settings of a table. -/
def entries? : Node → Option Table
  | .table _ entries => some entries
  | _ => none

/-- Whether a value is a table or an array that holds nothing. -/
def isHollow : Node → Bool
  | .array items => items.isEmpty
  | .tables elements => elements.isEmpty
  | .table _ entries => entries.isEmpty
  | _ => false

end Node

namespace Table

variable {α : Type}

/-- A setting that must be there. -/
def required (t : Table) (key : String) (read : Node → Option α) : Option α :=
  (t.lookup key).bind read

/-- A setting that may be missing. -/
def optional (t : Table) (key : String) (read : Node → Option α) : Option (Option α) :=
  match t.lookup key with
  | none => some none
  | some n => some <$> read n

end Table

end FindSelect.Toml
