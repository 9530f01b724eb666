import FindSelect.Proofs.Call.Parts
import FindSelect.Proofs.Filter.Canonical
import FindSelect.Proofs.Projection.Resolution
import FindSelect.Proofs.Statement.RoundTrip

/-!
# Statements stay within their table

A statement built from the empty one never leaves its table: it compares and gives only columns that
the table has. This holds also where names repeat, where a projection names no column, and where a
statement is written and read back with operands that change on the way.

* `IsSelection`, `Statement.Closed`: the columns that a statement may give and compare;
* `isSelection_of_projectedColumns`: what a projection gives;
* `Step.closed_apply`: one step;
* `Predicate.ofTokens?`: the predicates of a flat row;
* **`Session.closed_run`**: a list of steps.
-/

namespace FindSelect

variable {columns : List Column}

/-! ## Columns of a table -/

/-- A list gives columns of a table: they stand in the order of the table, and each column of the
table is given as often as the table has it, or not at all. -/
structure IsSelection (columns cs : List Column) : Prop where
  sublist : cs.Sublist columns
  whole : ∀ c ∈ columns, c ∉ cs ∨ cs.count c = columns.count c

/-- The columns that a statement gives are all columns, or columns of the table. -/
def FieldList.Closed (columns : List Column) : FieldList → Prop
  | .wildcard => True
  | .only cs => IsSelection columns cs

/-- A statement compares and gives only columns of the table. -/
structure Statement.Closed (columns : List Column) (s : Statement) : Prop where
  predicates : ∀ p ∈ s.predicates, p.column ∈ columns
  fields : s.fields.Closed columns

theorem isSelection_filter (p : Column → Bool) : IsSelection columns (columns.filter p) where
  sublist := List.filter_sublist
  whole := by
    intro c _
    -- the test takes every occurrence of a column or none
    by_cases hc : p c = true
    · exact .inr (List.count_filter hc)
    · refine .inl fun hmem => hc ?_
      exact (List.mem_filter.1 hmem).2

/-- Both modes select by name, so a projection takes all columns of a name or none. -/
theorem isSelection_of_projectedColumns {given : Option Json} {cs : List Column}
    (h : projectedColumns given columns = .ok (some cs)) : IsSelection columns cs := by
  rcases projectedColumns_eq_ok_iff.1 h with ⟨-, hnone⟩ | ⟨entries, -, hfields⟩
  · cases hnone
  rcases resolveProjection_eq_ok_iff.1 hfields with ⟨-, hnone⟩ | ⟨mode, -, -, hcs⟩
  · cases hnone
  · cases hcs
    cases mode with
    | inclusion => exact isSelection_filter _
    | exclusion => exact isSelection_filter _

/-! ## One step -/

namespace Statement

theorem closed_empty : Statement.empty.Closed columns where
  predicates := List.forall_mem_nil _
  fields := trivial

variable {s t : Statement}

theorem closed_of_decodeQuery {collection : String} {filter given : Option Json}
    (h : decodeQuery collection filter given columns = .ok t) : t.Closed columns := by
  obtain ⟨fields, ps, hfields, hps, rfl⟩ := decodeQuery_eq_ok_iff.1 h
  refine ⟨fun p hp => (column_of_decodeWhere hps p hp).1, ?_⟩
  cases fields with
  | none => exact trivial
  | some cs => exact isSelection_of_projectedColumns hfields

/-- A projection that names no column leaves the columns that were given before. -/
theorem Closed.decodeProjection (hs : s.Closed columns) {given : Option Json}
    (h : decodeProjection s given columns = .ok t) : t.Closed columns := by
  obtain ⟨fields, hfields, ht⟩ := bind_eq_ok_iff.1 h
  cases fields with
  | none =>
    cases ht
    exact hs
  | some cs =>
    cases ht
    exact ⟨hs.predicates, isSelection_of_projectedColumns hfields⟩

theorem Closed.withPredicates (hs : s.Closed columns) {filter : Json} {ps : List Predicate}
    (h : decodeWhere columns filter = .ok ps) : (s.withPredicates ps).Closed columns where
  predicates := fun p hp => (column_of_decodeWhere h p hp).1
  fields := hs.fields

theorem Closed.parse_compact (hs : s.Closed columns) (h : parse s.compact = .ok t) :
    t.Closed columns := by
  obtain ⟨ps, rfl, hps⟩ := parse_compact_eq_ok h
  refine ⟨fun q hq => ?_, hs.fields⟩
  have hmem : (q.column, q.op) ∈ s.predicates.map fun p => (p.column, p.op) := by
    rw [← hps]
    exact List.mem_map_of_mem hq
  obtain ⟨p, hp, heq⟩ := List.mem_map.1 hmem
  rw [← (Prod.mk.inj heq).1]
  exact hs.predicates p hp

end Statement

/-- **A step that succeeds stays within the table.** -/
theorem Step.closed_apply {step : Step} {s t : Statement} (hs : s.Closed columns)
    (h : step.apply columns s = .ok t) : t.Closed columns := by
  cases step with
  | fresh => cases h; exact Statement.closed_empty
  | query collection filter given =>
    exact Statement.closed_of_decodeQuery (mapError_eq_ok_iff.1 h)
  | projection given => exact hs.decodeProjection (mapError_eq_ok_iff.1 h)
  | predicates filter =>
    obtain ⟨ps, hps, rfl⟩ := map_eq_ok_iff.1 (mapError_eq_ok_iff.1 h)
    exact hs.withPredicates hps
  | limit n => cases h; exact ⟨hs.predicates, hs.fields⟩
  | offset n => cases h; exact ⟨hs.predicates, hs.fields⟩
  | sorts keys => cases h; exact ⟨hs.predicates, hs.fields⟩
  | reload =>
    have hread : (Statement.parse s.compact).mapError StepError.reading = .ok t := h
    exact hs.parse_compact (mapError_eq_ok_iff.1 hread)

/-! ## The flat row of predicates -/

/-- The predicates whose parts stand in a flat row, three by three. -/
def Predicate.ofTokens? : List PredicateToken → Option (List Predicate)
  | [] => some []
  | .column c :: .operator op :: .value v :: tokens =>
    (ofTokens? tokens).map (⟨c, op, v⟩ :: ·)
  | _ => none

theorem Statement.length_tokens (s : Statement) : s.tokens.length = 3 * s.predicates.length := by
  unfold tokens
  induction s.predicates with
  | nil => rfl
  | cons p ps ih =>
    have hp : p.tokens.length = 3 := rfl
    rw [List.flatMap_cons, List.length_append, ih, List.length_cons]
    omega

theorem Statement.ofTokens?_tokens (s : Statement) :
    Predicate.ofTokens? s.tokens = some s.predicates := by
  unfold tokens
  induction s.predicates with
  | nil => rfl
  | cons p ps ih =>
    have hcons : Predicate.ofTokens? ((p :: ps).flatMap Predicate.tokens) =
        (Predicate.ofTokens? (ps.flatMap Predicate.tokens)).map (p :: ·) := rfl
    rw [hcons, ih, Option.map_some]

/-! ## Runs -/

namespace Session

theorem closed_advance {s : Statement} (hs : s.Closed columns) (step : Step) :
    (advance columns s step).Closed columns := by
  unfold advance
  cases h : step.apply columns s with
  | ok t => exact Step.closed_apply hs h
  | error e => exact hs

theorem closed_run_from {s : Statement} (hs : s.Closed columns) (steps : List Step) :
    (run columns steps s).Closed columns := by
  unfold run
  induction steps generalizing s with
  | nil => exact hs
  | cons step steps ih => exact ih (closed_advance hs step)

/-- **Statements stay within their table.** After any steps from the empty statement, reloads among
them, every predicate compares a column of the table; the statement gives all columns, or columns of
the table in its order and of each name all or none; and the flat row has three parts for each
predicate, from which the predicates are found again. -/
theorem closed_run (columns : List Column) (steps : List Step) :
    let s := run columns steps .empty
    s.Closed columns ∧ s.tokens.length = 3 * s.predicates.length ∧
      Predicate.ofTokens? s.tokens = some s.predicates := by
  intro s
  have hs : s.Closed columns := closed_run_from Statement.closed_empty steps
  exact ⟨hs, s.length_tokens, s.ofTokens?_tokens⟩

end Session

end FindSelect
