import FindSelect.Proofs.Agreement
import FindSelect.Query

/-!
# The statement of a call, part by part

A call that succeeds has the statement of its own collection, limit, offset and sort keys, of the
columns that its projection gives and of the predicates that its filter gives. So two calls that
differ in the projection, the filter or the columns only are compared by these two parts.

* `decodeQuery_eq`, `toStatement_eq`: the statement from its parts;
* `decodeQuery_eq_ok_iff`, `toStatement_eq_ok_iff`: the calls that have a statement;
* `Statement.Corresponds`: statements that differ in their columns and predicates only;
* **`agree_toStatement`**: calls whose parts agree agree themselves.
-/

namespace FindSelect

/-- The columns that a statement gives, from those that a projection gives: all when there are
none. -/
def FieldList.ofColumns? : Option (List Column) → FieldList
  | none => .wildcard
  | some columns => .only columns

/-- The sort keys of an optional sort argument. -/
def sortKeys : Option SortSpec → List SortKey
  | none => []
  | some spec => spec.sorts

/-- The statement of a call that gives these columns and asks for these predicates. -/
def FindCall.assemble (call : FindCall) (fields : FieldList) (ps : List Predicate) : Statement :=
  ⟨call.collection, fields, ps, call.limit, call.skip, sortKeys call.sort⟩

theorem decodeProjection_empty (projection : Option Json) (columns : List Column) :
    decodeProjection .empty projection columns =
      (fun fields => { Statement.empty with fields := FieldList.ofColumns? fields }) <$>
        projectedColumns projection columns := by
  unfold decodeProjection
  cases projectedColumns projection columns with
  | error e => rfl
  | ok fields => cases fields <;> rfl

/-- The statement of a query from its parts. The projection is looked at before the filter. -/
theorem decodeQuery_eq (collection : String) (filter projection : Option Json)
    (columns : List Column) :
    decodeQuery collection filter projection columns = do
      let fields ← projectedColumns projection columns
      let ps ← decodeWhere columns (effectiveFilter filter)
      return ⟨collection, .ofColumns? fields, ps, none, none, []⟩ := by
  unfold decodeQuery
  rw [decodeProjection_empty]
  cases projectedColumns projection columns with
  | error e => rfl
  | ok fields => rfl

theorem toStatement_eq (call : FindCall) (columns : List Column) :
    call.toStatement columns = do
      let fields ← projectedColumns call.projection columns
      let ps ← decodeWhere columns (effectiveFilter call.filter)
      return call.assemble (FieldList.ofColumns? fields) ps := by
  unfold FindCall.toStatement
  rw [decodeQuery_eq]
  cases projectedColumns call.projection columns with
  | error e => rfl
  | ok fields =>
    cases decodeWhere columns (effectiveFilter call.filter) with
    | error e => rfl
    | ok ps =>
      obtain ⟨collection, filter, projection, limit, skip, sort⟩ := call
      cases limit <;> cases skip <;> cases sort <;> rfl

theorem decodeQuery_eq_ok_iff {collection : String} {filter projection : Option Json}
    {columns : List Column} {s : Statement} :
    decodeQuery collection filter projection columns = .ok s ↔
      ∃ fields ps, projectedColumns projection columns = .ok fields ∧
        decodeWhere columns (effectiveFilter filter) = .ok ps ∧
        ⟨collection, .ofColumns? fields, ps, none, none, []⟩ = s := by
  rw [decodeQuery_eq]
  exact bind_pair_eq_ok_iff

theorem toStatement_eq_ok_iff {call : FindCall} {columns : List Column} {s : Statement} :
    call.toStatement columns = .ok s ↔
      ∃ fields ps, projectedColumns call.projection columns = .ok fields ∧
        decodeWhere columns (effectiveFilter call.filter) = .ok ps ∧
        call.assemble (.ofColumns? fields) ps = s := by
  rw [toStatement_eq]
  exact bind_pair_eq_ok_iff

/-- Statements that may differ in the columns they give and in their predicates only, each in the
given way. -/
structure Statement.Corresponds (F : FieldList → FieldList → Prop)
    (P : List Predicate → List Predicate → Prop) (s t : Statement) : Prop where
  table : s.table = t.table
  fields : F s.fields t.fields
  predicates : P s.predicates t.predicates
  limit : s.limit = t.limit
  offset : s.offset = t.offset
  sorts : s.sorts = t.sorts

/-- **Calls whose parts agree agree themselves.** -/
theorem agree_toStatement {F : FieldList → FieldList → Prop}
    {P : List Predicate → List Predicate → Prop} {E : CallError → CallError → Prop}
    {c d : FindCall} {columns columns' : List Column} (hcollection : c.collection = d.collection)
    (hlimit : c.limit = d.limit) (hskip : c.skip = d.skip) (hsort : c.sort = d.sort)
    (hfields : Agree (fun a b => F (.ofColumns? a) (.ofColumns? b)) E
      (projectedColumns c.projection columns) (projectedColumns d.projection columns'))
    (hpredicates : Agree P E (decodeWhere columns (effectiveFilter c.filter))
      (decodeWhere columns' (effectiveFilter d.filter))) :
    Agree (Statement.Corresponds F P) E (c.toStatement columns) (d.toStatement columns') := by
  rw [toStatement_eq, toStatement_eq]
  refine hfields.bind fun a b hab => hpredicates.bind fun ps qs hpq => .ok ?_
  exact ⟨hcollection, hab, hpq, hlimit, hskip, congrArg sortKeys hsort⟩

end FindSelect
