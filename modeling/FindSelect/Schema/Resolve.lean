import FindSelect.Statement.Basic
import FindSelect.Error
import FindSelect.Text.EditDistance

/-!
# Finding a column by name

* `resolveColumn`: the first column of a name, or an error that suggests a similar name;
* `suggestion`: the first of the nearest names, if one is near enough.
-/

namespace FindSelect

/-- The greatest distance at which a name is suggested. -/
def suggestionReach : Nat := 3

/-- The better of a suggestion so far and the next column: it takes a smaller distance to win. -/
def betterSuggestion (name : String) (best : Option (String × Nat)) (c : Column) :
    Option (String × Nat) :=
  let d := Text.editDistance name c.name
  let limit := match best with
    | some (_, least) => least
    | none => suggestionReach + 1
  if d < limit then some (c.name, d) else best

/-- The name that is nearest to one that is not there: of equally near names the first, and none
beyond the reach. -/
def suggestion (name : String) (columns : List Column) : Option String :=
  (columns.foldl (betterSuggestion name) none).map Prod.fst

/-- The first column of a name. -/
def resolveColumn (columns : List Column) (name : String) : Except CallError Column :=
  match columns.find? (·.name == name) with
  | some c => .ok c
  | none => .error (.unknownColumn name (suggestion name columns))

theorem resolveColumn_of_mem {columns : List Column} {c : Column} (h : c ∈ columns) :
    resolveColumn columns c.name = .ok c := by
  cases hf : columns.find? (·.name == c.name) with
  | some d =>
    have hd : d.name = c.name := by simpa using List.find?_some hf
    rw [resolveColumn, hf]
    cases c; cases d; cases hd; rfl
  | none => exact absurd (List.find?_eq_none.1 hf c h) (by simp)

theorem resolveColumn_of_not_mem {columns : List Column} {name : String}
    (h : ⟨name⟩ ∉ columns) :
    resolveColumn columns name = .error (.unknownColumn name (suggestion name columns)) := by
  cases hf : columns.find? (·.name == name) with
  | some d =>
    have hd : d.name = name := by simpa using List.find?_some hf
    exact absurd (List.mem_of_find?_eq_some hf) (by cases d; cases hd; exact h)
  | none => rw [resolveColumn, hf]

/-- The place of the first column of a name. -/
def columnIndex? (columns : List Column) (name : String) : Option Nat :=
  columns.findIdx? (·.name == name)

end FindSelect
