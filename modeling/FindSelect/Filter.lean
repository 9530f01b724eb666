import FindSelect.Schema.Resolve

/-!
# Filters

A filter is a document, or a list of documents that must all hold. It is flattened into one row of
predicates, in the order of its entries:

* an entry under a comparison token compares the column of its context with its value, whatever the
  value is;
* an entry with a document descends into it, with the key as the new context;
* every other entry asks for the column of its key to equal its value.

The flattening may break off at an error, so its result is an `Emission`: the predicates met before
the end, and the error that ended it early, if any.

* `flatten`: the emission of a filter;
* `decodeWhere`: its predicates, if it did not break off.
-/

namespace FindSelect

/-- What a comparison token refers to. -/
inductive Context
  /-- The top level, where there is no column yet. -/
  | conjunction
  /-- Inside the document of a key. -/
  | column (name : String)
  deriving DecidableEq, Repr

/-- The column of a context. The top level has none, and reports its own name as unknown. -/
def Context.resolve (columns : List Column) : Context → Except CallError Column
  | .column name => resolveColumn columns name
  | .conjunction => .error (.unknownColumn "and" none)

/-! ## The shape of a filter -/

/-- The three shapes of a filter. -/
inductive FilterShape
  | mapping (entries : Entries)
  | sequence (items : List Json)
  | scalar (v : Json)
  deriving Repr

/-- The shape of a value as a filter. -/
def FilterShape.of : Json → FilterShape
  | .document entries => .mapping entries
  | .list items => .sequence items
  | v => .scalar v

/-! ## Emissions -/

/-- Predicates in the order in which they are met, and the error that broke off, if any. -/
structure Emission where
  predicates : List Predicate
  stop : Option CallError
  deriving Repr

namespace Emission

/-- Nothing, and no error. -/
def nothing : Emission := ⟨[], none⟩

/-- An error at once. -/
def broken (e : CallError) : Emission := ⟨[], some e⟩

/-- One predicate, whose column may turn out not to be there. -/
def ofColumn (column : Except CallError Column) (op : Operator) (v : Json) : Emission :=
  match column with
  | .ok c => ⟨[⟨c, op, v⟩], none⟩
  | .error e => broken e

/-- One emission after another, unless the first broke off. -/
def append (a b : Emission) : Emission :=
  match a.stop with
  | none => ⟨a.predicates ++ b.predicates, b.stop⟩
  | some _ => a

instance : Append Emission := ⟨append⟩

/-- All the predicates, or the error that broke off. -/
def result (e : Emission) : Except CallError (List Predicate) :=
  match e.stop with
  | none => .ok e.predicates
  | some error => .error error

/-! ## Joining emissions -/

@[simp] theorem nothing_append (a : Emission) : nothing ++ a = a := rfl

@[simp] theorem append_nothing (a : Emission) : a ++ nothing = a := by
  rcases a with ⟨ps, _ | e⟩
  · change (⟨ps ++ [], none⟩ : Emission) = _
    rw [List.append_nil]
  · rfl

/-- An emission that broke off goes on no further. -/
@[simp] theorem broken_append (e : CallError) (a : Emission) : broken e ++ a = broken e := rfl

theorem append_assoc (a b c : Emission) : a ++ b ++ c = a ++ (b ++ c) := by
  rcases a with ⟨ps, _ | e⟩
  · rcases b with ⟨qs, _ | e⟩
    · change (⟨ps ++ qs ++ c.predicates, c.stop⟩ : Emission) = ⟨ps ++ (qs ++ c.predicates), c.stop⟩
      rw [List.append_assoc]
    · rfl
  · rfl

/-- Joined emissions give the predicates of both, or the first error. -/
theorem result_append (a b : Emission) :
    (a ++ b).result = do return (← a.result) ++ (← b.result) := by
  rcases a with ⟨ps, _ | e⟩
  · rcases b with ⟨qs, _ | e⟩ <;> rfl
  · rfl

end Emission

/-! ## Flattening -/

mutual

/-- The emission of the value of a key that is no comparison token. -/
def flattenValue (columns : List Column) (key : String) : Json → Emission
  | .document entries => flattenEntries columns (.column key) entries
  | v => .ofColumn (resolveColumn columns key) .eq v

/-- The emission of the entries of a document in a context. -/
def flattenEntries (columns : List Column) (context : Context) : List (String × Json) → Emission
  | [] => .nothing
  | (key, v) :: entries =>
    (match Operator.lookup? key with
      | some op => .ofColumn (context.resolve columns) op v
      | none => flattenValue columns key v) ++
      flattenEntries columns context entries

end

/-- The emission of the documents of a list in a context. -/
def flattenItems (columns : List Column) (context : Context) : List Json → Emission
  | [] => .nothing
  | .document entries :: items =>
    flattenEntries columns context entries ++ flattenItems columns context items
  | v :: _ => .broken (.invalidFilter (.itemNotDocument v))

/-- The emission of a filter in a context. -/
def flatten (columns : List Column) (context : Context) (filter : Json) : Emission :=
  match FilterShape.of filter with
  | .mapping entries => flattenEntries columns context entries
  | .sequence items => flattenItems columns context items
  | .scalar v => .broken (.invalidFilter (.notDocument v))

/-- The predicates of a filter at the top level. -/
def decodeWhere (columns : List Column) (filter : Json) :
    Except CallError (List Predicate) :=
  (flatten columns .conjunction filter).result

end FindSelect
