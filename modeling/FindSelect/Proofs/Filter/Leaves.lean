import FindSelect.Filter
import FindSelect.Proofs.FirstError

/-!
# The leaves of a filter

What a filter asks for can be told in two phases. The first lists its leaves, from left to right,
without a look at the columns: the comparisons, each with the context it stands in, and the places
where something is no document. The second judges the leaves one by one.

* `leaves`, `Leaf.judge`: the two phases;
* `forall_mem_entryLeaves`: what holds of the comparisons in a document;
* `result_flatten`: flattening judges the leaves in their order;
* `decodeWhere_eq_ok_of_subset`: more columns do not change the predicates;
* **`flatten_eq_judged_leaves`**: it gives one predicate for each leaf, or the error of the first
  leaf that fails.
-/

namespace FindSelect

/-! ## Listing -/

/-- A place at which a filter comes to an end. -/
inductive Leaf
  /-- A comparison of the column of a context with a value. -/
  | comparison (context : Context) (op : Operator) (v : Json)
  /-- Something that is no document where only a document can stand. -/
  | faulty (fault : FilterFault)

mutual

/-- The leaves under a key that is no comparison token. -/
def leavesUnder (key : String) : Json → List Leaf
  | .document entries => entryLeaves (.column key) entries
  | v => [.comparison (.column key) .eq v]

/-- The leaves of the entries of a document in a context. -/
def entryLeaves (context : Context) : List (String × Json) → List Leaf
  | [] => []
  | (key, v) :: entries =>
    (match Operator.ofToken? key with
      | some op => [.comparison context op v]
      | none => leavesUnder key v) ++ entryLeaves context entries

end

/-- The leaves of an item of a list in a context. -/
def itemLeaves (context : Context) : Json → List Leaf
  | .document entries => entryLeaves context entries
  | v => [.faulty (.itemNotDocument v)]

/-- The leaves of a filter in a context. -/
def leaves (context : Context) : Json → List Leaf
  | .document entries => entryLeaves context entries
  | .list items => items.flatMap (itemLeaves context)
  | v => [.faulty (.notDocument v)]

mutual

theorem forall_mem_leavesUnder {P : Leaf → Prop}
    (hkey : ∀ key op v, Operator.ofToken? key = none → P (.comparison (.column key) op v))
    {key : String} (htoken : Operator.ofToken? key = none) : ∀ v : Json, ∀ l ∈ leavesUnder key v, P l
  | .document entries => forall_mem_entryLeaves hkey (fun op v => hkey key op v htoken) entries
  | .null | .boolean _ | .number _ | .string _ | .list _ => by
    rintro l (_ | ⟨_, ⟨⟩⟩)
    exact hkey key _ _ htoken

theorem forall_mem_entryLeaves {P : Leaf → Prop}
    (hkey : ∀ key op v, Operator.ofToken? key = none → P (.comparison (.column key) op v))
    {context : Context} (hcontext : ∀ op v, P (.comparison context op v)) :
    ∀ entries : List (String × Json), ∀ l ∈ entryLeaves context entries, P l
  | [] => by
    rintro l ⟨⟩
  | (key, v) :: entries => by
    intro l hl
    rw [entryLeaves, List.mem_append] at hl
    rcases hl with hl | hl
    · cases htoken : Operator.ofToken? key with
      | some op =>
        rw [htoken, List.mem_singleton] at hl
        rw [hl]
        exact hcontext op v
      | none =>
        -- only a key that is no token is handed down as a context
        rw [htoken] at hl
        exact forall_mem_leavesUnder hkey htoken v l hl
    · exact forall_mem_entryLeaves hkey hcontext entries l hl

end

/-! ## Judging -/

/-- The predicate of a leaf: its context must name a column. -/
def Leaf.judge (columns : List Column) : Leaf → Except CallError Predicate
  | .faulty fault => .error (.invalidFilter fault)
  | .comparison .conjunction _ _ => .error (.unknownColumn "and" none)
  | .comparison (.column name) op v =>
    if ⟨name⟩ ∈ columns then .ok ⟨⟨name⟩, op, v⟩
    else .error (.unknownColumn name (suggestion name columns))

/-- The leaf that asks for a predicate. -/
def Predicate.leaf (p : Predicate) : Leaf := .comparison (.column p.column.name) p.op p.value

variable {columns : List Column}

theorem Leaf.judge_eq_ok_iff {l : Leaf} {p : Predicate} :
    l.judge columns = .ok p ↔ l = p.leaf ∧ p.column ∈ columns := by
  constructor
  · intro h
    cases l with
    | faulty fault => cases h
    | comparison context op v =>
      cases context with
      | conjunction => cases h
      | column name =>
        rw [Leaf.judge] at h
        split_ifs at h with hmem
        cases h
        exact ⟨rfl, hmem⟩
  · rintro ⟨rfl, hmem⟩
    exact if_pos hmem

theorem mapM_judge_eq_ok_iff {ls : List Leaf} {ps : List Predicate} :
    ls.mapM (Leaf.judge columns) = .ok ps ↔
      ls = ps.map Predicate.leaf ∧ ∀ p ∈ ps, p.column ∈ columns := by
  rw [mapM_eq_ok_iff]
  simp only [Leaf.judge_eq_ok_iff]
  constructor
  · intro h
    induction h with
    | nil => simp
    | cons h _ ih => simp [h.1, h.2, ih.1]; exact ih.2
  · rintro ⟨rfl, h⟩
    rw [List.forall₂_map_left_iff, List.forall₂_same]
    exact fun p hp => ⟨rfl, h p hp⟩

/-! ## Flattening judges the leaves -/

theorem result_ofColumn_resolve (context : Context) (op : Operator) (v : Json) :
    (Emission.ofColumn (context.resolve columns) op v).result =
      [Leaf.comparison context op v].mapM (Leaf.judge columns) := by
  rw [List.mapM_cons]
  cases context with
  | conjunction => rfl
  | column name =>
    by_cases h : ⟨name⟩ ∈ columns
    · have : Context.resolve columns (.column name) = .ok ⟨name⟩ := resolveColumn_of_mem h
      rw [this, Leaf.judge, if_pos h]
      rfl
    · have : Context.resolve columns (.column name) = .error _ := resolveColumn_of_not_mem h
      rw [this, Leaf.judge, if_neg h]
      rfl

theorem result_append_mapM {a b : Emission} {ls ms : List Leaf}
    (ha : a.result = ls.mapM (Leaf.judge columns)) (hb : b.result = ms.mapM (Leaf.judge columns)) :
    (a ++ b).result = (ls ++ ms).mapM (Leaf.judge columns) := by
  rw [Emission.result_append, List.mapM_append, ha, hb]

mutual

theorem result_flattenValue (key : String) :
    ∀ v : Json, (flattenValue columns key v).result =
      (leavesUnder key v).mapM (Leaf.judge columns)
  | .document entries => result_flattenEntries (.column key) entries
  | .null => result_ofColumn_resolve (.column key) .eq _
  | .boolean _ => result_ofColumn_resolve (.column key) .eq _
  | .number _ => result_ofColumn_resolve (.column key) .eq _
  | .string _ => result_ofColumn_resolve (.column key) .eq _
  | .list _ => result_ofColumn_resolve (.column key) .eq _

theorem result_flattenEntries (context : Context) :
    ∀ entries : List (String × Json), (flattenEntries columns context entries).result =
      (entryLeaves context entries).mapM (Leaf.judge columns)
  | [] => rfl
  | (key, v) :: entries => by
    rw [flattenEntries, entryLeaves, Operator.lookup?_eq_ofToken?]
    refine result_append_mapM ?_ (result_flattenEntries context entries)
    cases Operator.ofToken? key with
    | some op => exact result_ofColumn_resolve context op v
    | none => exact result_flattenValue key v

end

theorem result_flattenItems (context : Context) (items : List Json) :
    (flattenItems columns context items).result =
      (items.flatMap (itemLeaves context)).mapM (Leaf.judge columns) := by
  induction items with
  | nil => rfl
  | cons v items ih =>
    rw [List.flatMap_cons]
    cases v with
    | document entries => exact result_append_mapM (result_flattenEntries context entries) ih
    | _ => rfl

/-- Flattening judges the leaves of a filter in their order. -/
theorem result_flatten (context : Context) (filter : Json) :
    (flatten columns context filter).result =
      (leaves context filter).mapM (Leaf.judge columns) := by
  cases filter with
  | document entries => exact result_flattenEntries context entries
  | list items => exact result_flattenItems context items
  | _ => rfl

theorem decodeWhere_eq_ok_of_subset {columns' : List Column} (h : columns ⊆ columns') {filter : Json}
    {ps : List Predicate} (hps : decodeWhere columns filter = .ok ps) :
    decodeWhere columns' filter = .ok ps := by
  rw [decodeWhere, result_flatten, mapM_judge_eq_ok_iff] at hps ⊢
  exact ⟨hps.1, fun p hp => h (hps.2 p hp)⟩

/-- **Flattening is the two phases.** It succeeds with the predicates whose leaves are exactly those
of the filter, in order, when all their columns are there; and it fails with the error of the first
leaf that is not judged well. -/
theorem flatten_eq_judged_leaves (columns : List Column) (context : Context) (filter : Json) :
    (∀ ps, (flatten columns context filter).result = .ok ps ↔
      leaves context filter = ps.map Predicate.leaf ∧ ∀ p ∈ ps, p.column ∈ columns) ∧
    (∀ e, (flatten columns context filter).result = .error e ↔
      ∃ before leaf after, leaves context filter = before ++ leaf :: after ∧
        (∀ l ∈ before, (l.judge columns).isOk) ∧ leaf.judge columns = .error e) ∧
    decodeWhere columns filter = (flatten columns .conjunction filter).result := by
  refine ⟨fun ps => ?_, fun e => ?_, rfl⟩
  · rw [result_flatten, mapM_judge_eq_ok_iff]
  · rw [result_flatten, mapM_eq_error_iff]

end FindSelect
