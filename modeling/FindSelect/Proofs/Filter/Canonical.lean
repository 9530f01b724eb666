import FindSelect.Proofs.Filter.Leaves

/-!
# Canonical filters

A row of predicates can be asked for by a filter of one form: a list with one document for each
predicate, in which the column leads to the token and the token to the value. Decoding such a filter
gives the row back, and every row that any filter gives is of this kind.

* `canonicalFilter`: the form;
* `tokenFree_entryLeaves`: below the top level no context of a filter is a token;
* **`decodeWhere_canonicalFilter`**: decoding undoes the form, and one pass reaches it.
-/

namespace FindSelect

/-- The document that asks for a predicate. -/
def Predicate.canonical (p : Predicate) : Json :=
  .document [(p.column.name, .document [(p.op.token, p.value)])]

/-- The filter that asks for a row of predicates. -/
def canonicalFilter (ps : List Predicate) : Json := .list (ps.map Predicate.canonical)

/-! ## The leaves of a canonical filter -/

/-- The one leaf of the document of a predicate. A column whose name is a token is taken for the
token. -/
def Predicate.canonicalLeaf (p : Predicate) : Leaf :=
  match Operator.ofToken? p.column.name with
  | some op => .comparison .conjunction op (.document [(p.op.token, p.value)])
  | none => p.leaf

theorem itemLeaves_canonical (p : Predicate) :
    itemLeaves .conjunction p.canonical = [p.canonicalLeaf] := by
  rw [Predicate.canonical, Predicate.canonicalLeaf, itemLeaves, entryLeaves, entryLeaves,
    List.append_nil]
  cases Operator.ofToken? p.column.name with
  | some op => rfl
  | none =>
    dsimp only
    rw [leavesUnder, entryLeaves, entryLeaves, List.append_nil, Operator.ofToken?_token]
    rfl

theorem leaves_canonicalFilter (ps : List Predicate) :
    leaves .conjunction (canonicalFilter ps) = ps.map Predicate.canonicalLeaf := by
  rw [canonicalFilter, leaves, List.flatMap_map]
  simp only [itemLeaves_canonical]
  exact List.map_eq_flatMap.symm

theorem canonicalLeaf_eq_leaf_iff {p : Predicate} :
    p.canonicalLeaf = p.leaf ↔ Operator.ofToken? p.column.name = none := by
  rw [Predicate.canonicalLeaf]
  cases Operator.ofToken? p.column.name with
  | some op => simp [Predicate.leaf]
  | none => simp

/-- A row is read off its canonical filter exactly when all its columns are there and none of them
has the name of a token. -/
theorem decodeWhere_canonicalFilter_iff {columns : List Column} {ps : List Predicate} :
    decodeWhere columns (canonicalFilter ps) = .ok ps ↔
      ∀ p ∈ ps, p.column ∈ columns ∧ Operator.ofToken? p.column.name = none := by
  rw [decodeWhere, result_flatten, mapM_judge_eq_ok_iff, leaves_canonicalFilter,
    List.map_inj_left]
  simp only [canonicalLeaf_eq_leaf_iff]
  constructor
  · rintro ⟨htoken, hmem⟩ p hp
    exact ⟨hmem p hp, htoken p hp⟩
  · intro h
    exact ⟨fun p hp => (h p hp).2, fun p hp => (h p hp).1⟩

/-! ## Contexts are no tokens -/

/-- The name of a context is no token. -/
def Context.TokenFree : Context → Prop
  | .conjunction => True
  | .column name => Operator.ofToken? name = none

/-- The context of a leaf is no token. -/
def Leaf.TokenFree : Leaf → Prop
  | .faulty _ => True
  | .comparison context _ _ => context.TokenFree

theorem tokenFree_entryLeaves (context : Context) (hcontext : context.TokenFree)
    (entries : Entries) : ∀ l ∈ entryLeaves context entries, l.TokenFree :=
  forall_mem_entryLeaves (fun _ _ _ htoken => htoken) (fun _ _ => hcontext) entries

theorem tokenFree_leaves (context : Context) (hcontext : context.TokenFree) (filter : Json) :
    ∀ l ∈ leaves context filter, l.TokenFree := by
  intro l hl
  cases filter with
  | document entries => exact tokenFree_entryLeaves context hcontext entries l hl
  | list items =>
    obtain ⟨v, -, hv⟩ := List.mem_flatMap.1 hl
    cases v with
    | document entries => exact tokenFree_entryLeaves context hcontext entries l hv
    | _ => rw [List.mem_singleton.1 hv]; exact trivial
  | _ => rw [List.mem_singleton.1 hl]; exact trivial

theorem column_of_decodeWhere {columns : List Column} {filter : Json} {ps : List Predicate}
    (h : decodeWhere columns filter = .ok ps) :
    ∀ p ∈ ps, p.column ∈ columns ∧ Operator.ofToken? p.column.name = none := by
  rw [decodeWhere, result_flatten, mapM_judge_eq_ok_iff] at h
  intro p hp
  refine ⟨h.2 p hp, ?_⟩
  have hleaf : p.leaf ∈ leaves .conjunction filter := by
    rw [h.1]
    exact List.mem_map_of_mem hp
  exact tokenFree_leaves .conjunction trivial filter p.leaf hleaf

/-- **Decoding undoes the canonical form.** The canonical filter of a row gives the row exactly when
its columns are there and none has the name of a token; and the row of any filter is such a row, so
that its canonical filter gives it again. -/
theorem decodeWhere_canonicalFilter (columns : List Column) :
    (∀ ps, decodeWhere columns (canonicalFilter ps) = .ok ps ↔
      ∀ p ∈ ps, p.column ∈ columns ∧ Operator.ofToken? p.column.name = none) ∧
    (∀ filter ps, decodeWhere columns filter = .ok ps →
      (∀ p ∈ ps, Operator.ofToken? p.column.name = none) ∧
        decodeWhere columns (canonicalFilter ps) = .ok ps) := by
  refine ⟨fun ps => decodeWhere_canonicalFilter_iff, fun filter ps h => ?_⟩
  have hps := column_of_decodeWhere h
  exact ⟨fun p hp => (hps p hp).2, decodeWhere_canonicalFilter_iff.2 hps⟩

/-- A value that looks like a comparison is left alone on the way there and back. -/
theorem decodeWhere_canonicalFilter_nested :
    let columns : List Column := [⟨"age"⟩, ⟨"name"⟩]
    let filter : Json := .document [("age", .document
      [("$gte", .boolean true), ("name", .document [("$ne", .document [("$gt", .null)])])])]
    let ps : List Predicate :=
      [⟨⟨"age"⟩, .gte, .boolean true⟩, ⟨⟨"name"⟩, .ne, .document [("$gt", .null)]⟩]
    decodeWhere columns filter = .ok ps ∧ (∀ p ∈ ps, Operator.ofToken? p.column.name = none) ∧
      decodeWhere columns (canonicalFilter ps) = .ok ps := by
  intro columns filter ps
  have h : decodeWhere columns filter = .ok ps := rfl
  exact ⟨h, (decodeWhere_canonicalFilter columns).2 filter ps h⟩

end FindSelect
