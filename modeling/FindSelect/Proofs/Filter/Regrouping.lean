import FindSelect.Filter

/-!
# Regrouping a filter

A filter is flattened entry by entry, in order. It does not matter how the entries are grouped into
the documents of a list, and a key that stands over each document of a list may as well be the
context of the whole list. This holds of the errors too, and of the predicates that are met before
an error.

* `flatten_list_append`: a list may be cut in two;
* `flatten_document_eq_singletons`: a document may be cut into its entries;
* `flatten_list_of_keyed`: a key over all documents of a list is their context;
* **`flatten_regrouped`**: the same for the outcomes of the filters.
-/

namespace FindSelect

variable {columns : List Column} {context : Context}

/-! ## Lists -/

theorem flattenItems_append (xs ys : List Json) :
    flattenItems columns context (xs ++ ys) =
      flattenItems columns context xs ++ flattenItems columns context ys := by
  induction xs with
  | nil => rfl
  | cons v xs ih =>
    cases v with
    | document entries =>
      simp only [List.cons_append, flattenItems]
      rw [ih, Emission.append_assoc]
    | _ =>
      -- an item that is no document breaks off both sides
      simp only [List.cons_append, flattenItems, Emission.broken_append]

theorem flatten_list_append (xs ys : List Json) :
    flatten columns context (.list (xs ++ ys)) =
      flatten columns context (.list xs) ++ flatten columns context (.list ys) :=
  flattenItems_append xs ys

/-! ## Documents -/

theorem flattenEntries_cons (e : String × Json) (entries : Entries) :
    flattenEntries columns context (e :: entries) =
      flattenEntries columns context [e] ++ flattenEntries columns context entries := by
  rw [flattenEntries, flattenEntries, flattenEntries, Emission.append_nothing]

theorem flattenItems_singletons (entries : Entries) :
    flattenItems columns context (entries.map fun e => .document [e]) =
      flattenEntries columns context entries := by
  induction entries with
  | nil => rfl
  | cons e entries ih => rw [List.map_cons, flattenItems, ih, ← flattenEntries_cons]

theorem flatten_document_eq_singletons (entries : Entries) :
    flatten columns context (.document entries) =
      flatten columns context (.list (entries.map fun e => .document [e])) :=
  (flattenItems_singletons entries).symm

/-! ## Keys -/

theorem flattenEntries_keyed {key : String} (hkey : Operator.ofToken? key = none)
    (entries : Entries) :
    flattenEntries columns context [(key, .document entries)] =
      flattenEntries columns (.column key) entries := by
  have hlookup : Operator.lookup? key = none := by rw [Operator.lookup?_eq_ofToken?, hkey]
  rw [flattenEntries, hlookup, flattenEntries, Emission.append_nothing]
  rfl

theorem flatten_list_of_keyed {key : String} (hkey : Operator.ofToken? key = none)
    (documents : List Entries) :
    flatten columns context
        (.list (documents.map fun entries => .document [(key, .document entries)])) =
      flatten columns (.column key) (.list (documents.map .document)) := by
  have hitems : flattenItems columns context
        (documents.map fun entries => .document [(key, .document entries)]) =
      flattenItems columns (.column key) (documents.map .document) := by
    induction documents with
    | nil => rfl
    | cons entries documents ih =>
      simp only [List.map_cons, flattenItems]
      rw [flattenEntries_keyed hkey, ih]
  exact hitems

/-! ## Outcomes -/

/-- **Regrouping a filter.** A list gives the predicates of its first part and then those of the
rest, or the error of the first part, or else that of the rest. A document gives what the list of
its entries gives, each in a document of its own. A list of documents that stand under one key each
gives what the list of the inner documents gives in the context of that key, unless the key is a
comparison token. -/
theorem flatten_regrouped (columns : List Column) (context : Context) :
    (∀ xs ys : List Json, (flatten columns context (.list (xs ++ ys))).result = do
      let ps ← (flatten columns context (.list xs)).result
      let qs ← (flatten columns context (.list ys)).result
      return ps ++ qs) ∧
    (∀ entries : Entries, (flatten columns context (.document entries)).result =
      (flatten columns context (.list (entries.map fun e => .document [e]))).result) ∧
    (∀ (key : String) (documents : List Entries), Operator.ofToken? key = none →
      decodeWhere columns
          (.list (documents.map fun entries => .document [(key, .document entries)])) =
        (flatten columns (.column key) (.list (documents.map .document))).result) := by
  refine ⟨fun xs ys => ?_, fun entries => ?_, fun key documents hkey => ?_⟩
  · rw [flatten_list_append, Emission.result_append]
  · rw [flatten_document_eq_singletons]
  · rw [decodeWhere, flatten_list_of_keyed hkey]

/-- A comparison beside an inner key that shadows the outer one, and an empty document. -/
theorem flatten_regrouped_shadowed :
    let columns : List Column := [⟨"age"⟩, ⟨"name"⟩]
    let documents : List Entries :=
      [[("$gt", .boolean true), ("name", .document [("$ne", .string "bob")]), ("$lt", .null)], [],
        [("name", .list [.document [("$eq", .null)]])]]
    Operator.ofToken? "age" = none ∧
      decodeWhere columns
          (.list (documents.map fun entries => .document [("age", .document entries)])) =
        (flatten columns (.column "age") (.list (documents.map .document))).result := by
  intro columns documents
  have hkey : Operator.ofToken? "age" = none := rfl
  exact ⟨hkey, (flatten_regrouped columns .conjunction).2.2 "age" documents hkey⟩

end FindSelect
