import FindSelect.Proofs.Agreement
import FindSelect.Proofs.Filter.Leaves

/-!
# Literals do not shape a query

The literals of a filter are the operands of its comparison tokens, whatever values they are, and
the values under other keys that are no documents. Blotting them out leaves the skeleton of the
filter: its lists and documents, with all keys in order. The skeleton alone decides which columns
are compared, by which operators and in which order, and it decides which error there is, but for
the value that a message quotes.

* `Json.skeleton`: a filter without its literals;
* `Leaf.stem`: what of a leaf no literal decides;
* `stems_leaves`: the skeleton decides the stems of the leaves;
* **`decodeWhere_of_skeleton_eq`**: two filters of one skeleton give predicates that differ only in
  their values, or errors of one cause.
-/

namespace FindSelect

/-! ## Skeletons -/

mutual

/-- A value without its literals. Only a document has anything to keep: its keys, and what is left
under those that are no tokens. -/
def Json.blotted : Json → Json
  | .document entries => .document (blottedEntries entries)
  | _ => .null

/-- The entries of a document without their literals. -/
def Json.blottedEntries : List (String × Json) → List (String × Json)
  | [] => []
  | (key, v) :: entries =>
    (key,
      match Operator.ofToken? key with
      | some _ => .null
      | none => blotted v) ::
      blottedEntries entries

end

/-- The skeleton of a filter: of a list the skeletons of its documents are kept, each in its
place. -/
def Json.skeleton : Json → Json
  | .list items => .list (items.map blotted)
  | v => v.blotted

/-! ## Stems of leaves -/

/-- What of a leaf no literal decides: the context and the operator of a comparison, or that there
is none. -/
def Leaf.stem : Leaf → Option (Context × Operator)
  | .comparison context op _ => some (context, op)
  | .faulty _ => none

mutual

theorem stems_leavesUnder (key : String) :
    ∀ v : Json, (leavesUnder key v.blotted).map Leaf.stem = (leavesUnder key v).map Leaf.stem
  | .document entries => stems_entryLeaves (.column key) entries
  | .null | .boolean _ | .number _ | .string _ | .list _ => rfl

theorem stems_entryLeaves (context : Context) :
    ∀ entries : List (String × Json),
      (entryLeaves context (Json.blottedEntries entries)).map Leaf.stem =
        (entryLeaves context entries).map Leaf.stem
  | [] => rfl
  | (key, v) :: entries => by
    rw [Json.blottedEntries, entryLeaves, entryLeaves, List.map_append, List.map_append,
      stems_entryLeaves context entries]
    cases Operator.ofToken? key with
    | some op => rfl
    | none => rw [stems_leavesUnder key v]

end

theorem stems_itemLeaves (context : Context) (v : Json) :
    (itemLeaves context v.blotted).map Leaf.stem = (itemLeaves context v).map Leaf.stem := by
  cases v with
  | document entries => exact stems_entryLeaves context entries
  | _ => rfl

theorem stems_leaves (context : Context) (filter : Json) :
    (leaves context filter.skeleton).map Leaf.stem = (leaves context filter).map Leaf.stem := by
  cases filter with
  | document entries => exact stems_entryLeaves context entries
  | list items =>
    have h : ∀ v ∈ items, ((itemLeaves context v.blotted).map Leaf.stem) =
        (itemLeaves context v).map Leaf.stem := fun v _ => stems_itemLeaves context v
    simp only [Json.skeleton, leaves, List.map_flatMap, List.flatMap_map]
    exact List.flatMap_congr h
  | _ => rfl

/-! ## Judging stems -/

/-- Predicates that compare the same column by the same operator. -/
def Predicate.SameComparison (p q : Predicate) : Prop := p.column = q.column ∧ p.op = q.op

/-- Errors of one kind, which are the same when they are about a column that is not there: they
report one name with one suggestion. -/
def CallError.SameCause (e e' : CallError) : Prop :=
  e.kind = e'.kind ∧ (e.kind = .unknownColumn → e = e')

theorem agree_judge_of_stem_eq (columns : List Column) {l m : Leaf} (h : l.stem = m.stem) :
    Agree Predicate.SameComparison CallError.SameCause (l.judge columns) (m.judge columns) := by
  cases l with
  | faulty fault =>
    cases m with
    | faulty fault' => exact .error ⟨rfl, nofun⟩
    | comparison context op v => cases h
  | comparison context op v =>
    cases m with
    | faulty fault => cases h
    | comparison context' op' w =>
      cases h
      cases context with
      | conjunction => exact .error ⟨rfl, fun _ => rfl⟩
      | column name =>
        rw [Leaf.judge, Leaf.judge]
        by_cases hmem : ⟨name⟩ ∈ columns
        · rw [if_pos hmem, if_pos hmem]
          exact .ok ⟨rfl, rfl⟩
        · rw [if_neg hmem, if_neg hmem]
          exact .error ⟨rfl, fun _ => rfl⟩

/-- **Literals do not shape a query.** Two filters of one skeleton are both decoded, to rows of
equal length whose predicates compare the same columns by the same operators, place by place; or
neither is, for one cause. -/
theorem decodeWhere_of_skeleton_eq (columns : List Column) {f g : Json}
    (h : f.skeleton = g.skeleton) :
    Agree (List.Forall₂ Predicate.SameComparison) CallError.SameCause
      (decodeWhere columns f) (decodeWhere columns g) := by
  have hstems : (leaves .conjunction f).map Leaf.stem = (leaves .conjunction g).map Leaf.stem := by
    rw [← stems_leaves, h, stems_leaves]
  have hleaves : List.Forall₂ (fun l m => l.stem = m.stem) (leaves .conjunction f)
      (leaves .conjunction g) := by
    rw [← List.forall₂_map_left_iff (f := Leaf.stem) (R := fun s m => s = Leaf.stem m),
      ← List.forall₂_map_right_iff (f := Leaf.stem), List.forall₂_eq_eq_eq]
    exact hstems
  rw [decodeWhere, decodeWhere, result_flatten, result_flatten]
  exact agree_mapM hleaves fun l m hlm => agree_judge_of_stem_eq columns hlm

/-- Operands that look like comparisons, columns and lists of documents are never taken for them. -/
theorem decodeWhere_of_skeleton_eq_disguised :
    let columns : List Column := [⟨"age"⟩, ⟨"name"⟩]
    let f : Json := .list [.document [("age", .document
      [("$gt", .boolean true), ("name", .document [("$ne", .string "bob")])])],
      .document [("name", .null)]]
    let g : Json := .list [.document [("age", .document
      [("$gt", .document [("$lt", .null), ("name", .boolean false)]),
        ("name", .document [("$ne", .list [.document [("id", .null)]])])])],
      .document [("name", .list [.document [("$eq", .null)]])]]
    f.skeleton = g.skeleton ∧
      Agree (List.Forall₂ Predicate.SameComparison) CallError.SameCause
        (decodeWhere columns f) (decodeWhere columns g) := by
  intro columns f g
  have h : f.skeleton = g.skeleton := rfl
  exact ⟨h, decodeWhere_of_skeleton_eq columns h⟩

end FindSelect
