import FindSelect.Proofs.Call.Parts
import FindSelect.Proofs.Filter.Leaves
import FindSelect.Proofs.Projection.Resolution

/-!
# The order of the columns of a table

The columns of a table come in an order, and names may repeat. The order decides in which order a
statement lists the columns it gives, and which name is suggested for one that is not there. It
decides nothing else: neither whether a call has a statement, nor any other part of it.

* `agree_decodeWhere_of_perm`: the predicates of a filter;
* `agree_projectedColumns_of_perm`: the columns of a projection;
* **`toStatement_of_perm`**: the statements of a call under two orders of the columns.
-/

namespace FindSelect

/-- Both give all columns, or both list the same columns, each in the order of its own table. -/
inductive FieldList.Reordered (columns columns' : List Column) : FieldList → FieldList → Prop
  | wildcard : Reordered columns columns' .wildcard .wildcard
  | only {cs cs' : List Column} : cs.Perm cs' → cs.Sublist columns → cs'.Sublist columns' →
      Reordered columns columns' (.only cs) (.only cs')

variable {columns columns' : List Column}

/-! ## Filters -/

theorem agree_decodeWhere_of_perm (h : columns.Perm columns') (filter : Json) :
    Agree Eq (fun _ _ => True) (decodeWhere columns filter) (decodeWhere columns' filter) :=
  agree_of_ok_iff (fun ps hps => ⟨ps, decodeWhere_eq_ok_of_subset h.subset hps, rfl⟩)
    fun ps hps => ⟨ps, decodeWhere_eq_ok_of_subset h.symm.subset hps⟩

/-! ## Projections -/

theorem select_sublist (projection : Entries) (mode : ProjectionMode) (columns : List Column) :
    (mode.select projection columns).Sublist columns := by
  cases mode with
  | inclusion => exact List.filter_sublist
  | exclusion => exact List.filter_sublist

theorem select_perm (h : columns.Perm columns') (projection : Entries) (mode : ProjectionMode) :
    (mode.select projection columns).Perm (mode.select projection columns') := by
  cases mode with
  | inclusion => exact h.filter _
  | exclusion => exact h.filter _

/-- Whether a projection is resolved depends on the columns that it names, not on their order: all
of them must have one mode. -/
theorem resolveProjection_eq_ok_of_perm (h : columns.Perm columns') {projection : Entries}
    {fields : Option (List Column)} (hfields : resolveProjection projection columns = .ok fields) :
    ∃ fields', resolveProjection projection columns' = .ok fields' ∧
      FieldList.Reordered columns columns' (.ofColumns? fields) (.ofColumns? fields') := by
  have hnamed := h.filter projection.names
  rcases resolveProjection_eq_ok_iff.1 hfields with ⟨hnil, rfl⟩ | ⟨mode, hne, hmode, rfl⟩
  · rw [hnil] at hnamed
    exact ⟨none, resolveProjection_eq_ok_iff.2 (.inl ⟨hnamed.symm.eq_nil, rfl⟩), .wildcard⟩
  · refine ⟨some (mode.select projection columns'), resolveProjection_eq_ok_iff.2 (.inr ?_), ?_⟩
    · refine ⟨mode, ?_, fun c hc => hmode c (hnamed.mem_iff.2 hc), rfl⟩
      intro hnil
      rw [hnil] at hnamed
      exact hne hnamed.eq_nil
    · exact .only (select_perm h projection mode) (select_sublist projection mode columns)
        (select_sublist projection mode columns')

theorem agree_projectedColumns_of_perm (h : columns.Perm columns') (projection : Option Json) :
    Agree (fun a b => FieldList.Reordered columns columns' (.ofColumns? a) (.ofColumns? b))
      (fun _ _ => True) (projectedColumns projection columns)
      (projectedColumns projection columns') := by
  cases projection with
  | none => exact .ok .wildcard
  | some v =>
    cases v with
    | null => exact .ok .wildcard
    | document entries =>
      refine agree_of_ok_iff (fun fields hfields => resolveProjection_eq_ok_of_perm h hfields) ?_
      intro fields hfields
      obtain ⟨fields', hfields', -⟩ := resolveProjection_eq_ok_of_perm h.symm hfields
      exact ⟨fields', hfields'⟩
    | _ => exact .error trivial

/-! ## Calls -/

/-- **The order of the columns decides the order of fields and suggestions only.** Under two orders
of the columns a call has a statement or it has none. The two statements are the same but for the
columns that they list, which are the same in two orders, each that of its table. -/
theorem toStatement_of_perm (call : FindCall) (h : columns.Perm columns') :
    Agree (Statement.Corresponds (FieldList.Reordered columns columns') Eq) (fun _ _ => True)
      (call.toStatement columns) (call.toStatement columns') :=
  agree_toStatement rfl rfl rfl rfl (agree_projectedColumns_of_perm h call.projection)
    (agree_decodeWhere_of_perm h (effectiveFilter call.filter))

/-- A name that is there twice, and a projection that leaves one column out. -/
theorem toStatement_of_perm_repeated :
    let call : FindCall :=
      { collection := "users"
        filter := some (.document [("age", .document [("$gte", .boolean true)])])
        projection := some (.document [("name", .boolean false), ("other", .null)])
        sort := some (.single "age" 1) }
    let columns : List Column := [⟨"age"⟩, ⟨"name"⟩, ⟨"id"⟩, ⟨"age"⟩]
    let columns' : List Column := [⟨"id"⟩, ⟨"age"⟩, ⟨"age"⟩, ⟨"name"⟩]
    columns.Perm columns' ∧
      Agree (Statement.Corresponds (FieldList.Reordered columns columns') Eq) (fun _ _ => True)
        (call.toStatement columns) (call.toStatement columns') := by
  intro call columns columns'
  have h : columns.Perm columns' := by decide
  exact ⟨h, toStatement_of_perm call h⟩

end FindSelect
