import FindSelect.Proofs.Call.Parts
import FindSelect.Proofs.Overwriting
import FindSelect.Proofs.Projection.Resolution
import FindSelect.Session

/-!
# Who wrote a part of a statement

A statement has six parts. A step that succeeds puts something new into all of them, into one of them
or into none, whatever stood there before; a step that fails puts nothing anywhere. So after a list
of steps every part holds what was put there last. Only a reload is left out here: it writes nothing
of its own.

* `Part`, `Statement.part`: the parts and what they hold;
* `Step.Writes`: the parts that a step writes when it succeeds;
* `Step.put?`: what it puts there;
* `Step.part_advance`: one step;
* **`Session.part_run`**: a list of steps.
-/

namespace FindSelect

/-! ## Parts -/

/-- The parts of a statement. -/
inductive Part
  | table
  | fields
  | predicates
  | limit
  | offset
  | sorts
  deriving DecidableEq, Repr

/-- What a part holds. -/
abbrev Part.Content : Part → Type
  | .table => String
  | .fields => FieldList
  | .predicates => List Predicate
  | .limit => Option UInt64
  | .offset => Option UInt64
  | .sorts => List SortKey

/-- What a part of a statement holds. -/
def Statement.part (s : Statement) : (part : Part) → part.Content
  | .table => s.table
  | .fields => s.fields
  | .predicates => s.predicates
  | .limit => s.limit
  | .offset => s.offset
  | .sorts => s.sorts

/-- An optional projection is a document that names a column of the table. -/
def NamesColumn (columns : List Column) (projection : Option Json) : Prop :=
  ∃ entries : Entries, projection = some (.document entries) ∧
    ∃ c ∈ columns, entries.names c = true

theorem isSome_iff_namesColumn {columns : List Column} {projection : Option Json}
    {fields : Option (List Column)} (h : projectedColumns projection columns = .ok fields) :
    fields.isSome = true ↔ NamesColumn columns projection := by
  rcases projectedColumns_eq_ok_iff.1 h with ⟨hgiven, rfl⟩ | ⟨entries, rfl, hfields⟩
  · have hnot : ¬ NamesColumn columns projection := by
      rintro ⟨entries, rfl, -⟩
      rcases hgiven with hgiven | hgiven
      · cases hgiven
      · cases hgiven
    exact iff_of_false Bool.noConfusion hnot
  · have hnamed : NamesColumn columns (some (.document entries)) ↔
        columns.filter (Entries.names entries) ≠ [] := by
      simp [NamesColumn]
    rw [hnamed]
    rcases resolveProjection_eq_ok_iff.1 hfields with ⟨hnil, rfl⟩ | ⟨mode, hne, -, rfl⟩
    · exact iff_of_false Bool.noConfusion fun hne => hne hnil
    · exact iff_of_true rfl hne

/-! ## What a step puts -/

namespace Step

/-- The parts that a step writes when it succeeds: the empty statement and a query all of them, a
projection the columns if it names one of the table, and every other step its own part. -/
def Writes (columns : List Column) : Step → Part → Prop
  | .fresh, _ => True
  | .query _ _ _, _ => True
  | .projection given, part => part = .fields ∧ NamesColumn columns given
  | .predicates _, part => part = .predicates
  | .limit _, part => part = .limit
  | .offset _, part => part = .offset
  | .sorts _, part => part = .sorts
  | .reload, _ => False

/-- What a step puts into a part, if it succeeds and writes it. A query leaves nothing of an earlier
limit, offset or order, and it gives all columns when its projection gives none. -/
def put? (columns : List Column) : Step → (part : Part) → Option part.Content
  | .fresh, part => some (Statement.empty.part part)
  | .query collection filter given, part =>
    match projectedColumns given columns, decodeWhere columns (effectiveFilter filter) with
    | .ok fields, .ok ps =>
      some (Statement.part ⟨collection, .ofColumns? fields, ps, none, none, []⟩ part)
    | _, _ => none
  | .projection given, .fields =>
    match projectedColumns given columns with
    | .ok (some cs) => some (.only cs)
    | _ => none
  | .predicates filter, .predicates => (decodeWhere columns filter).toOption
  | .limit n, .limit => some (some n)
  | .offset n, .offset => some (some n)
  | .sorts keys, .sorts => some keys
  | _, _ => none

/-- What a step that succeeds makes of a statement: every part holds what the step put there, or what
it held before, and the step put something into the parts that it writes. -/
structure Overwrites (columns : List Column) (step : Step) (s t : Statement) : Prop where
  part : ∀ part, t.part part = (step.put? columns part).getD (s.part part)
  writes : ∀ part, (step.put? columns part).isSome = true ↔ step.Writes columns part

/-- A step succeeds and overwrites parts of the statement, or it fails and puts nothing anywhere. -/
theorem apply_cases (columns : List Column) {step : Step} (hstep : step ≠ .reload) (s : Statement) :
    (∃ t, step.apply columns s = .ok t ∧ step.Overwrites columns s t) ∨
      ∃ e, step.apply columns s = .error e ∧ ∀ part, step.put? columns part = none := by
  cases step with
  | reload => exact absurd rfl hstep
  | fresh => exact .inl ⟨.empty, rfl, fun part => rfl, fun part => iff_of_true rfl trivial⟩
  | query collection filter given =>
    simp only [apply, decodeQuery_eq]
    cases hfields : projectedColumns given columns with
    | error e => exact .inr ⟨.call e, rfl, fun part => by simp [put?, hfields]⟩
    | ok fields =>
      cases hps : decodeWhere columns (effectiveFilter filter) with
      | error e => exact .inr ⟨.call e, rfl, fun part => by simp [put?, hfields, hps]⟩
      | ok ps =>
        refine .inl ⟨_, rfl, fun part => ?_, fun part => iff_of_true ?_ trivial⟩
        · simp only [put?, hfields, hps]
          rfl
        · simp [put?, hfields, hps]
  | projection given =>
    simp only [apply, decodeProjection]
    cases hfields : projectedColumns given columns with
    | error e =>
      refine .inr ⟨.call e, rfl, fun part => ?_⟩
      cases part <;> simp [put?, hfields]
    | ok fields =>
      have hnames := isSome_iff_namesColumn hfields
      -- a projection that names no column succeeds and puts nothing
      cases fields with
      | none =>
        refine .inl ⟨s, rfl, fun part => ?_, fun part => ?_⟩
        · cases part <;> simp [put?, hfields]
        · cases part with
          | fields => simpa [put?, Writes, hfields] using hnames
          | _ => simp [put?, Writes]
      | some cs =>
        refine .inl ⟨_, rfl, fun part => ?_, fun part => ?_⟩
        · cases part <;> simp [put?, hfields, Statement.part]
        · cases part with
          | fields => simpa [put?, Writes, hfields] using hnames
          | _ => simp [put?, Writes]
  | predicates filter =>
    simp only [apply]
    cases hps : decodeWhere columns filter with
    | error e =>
      refine .inr ⟨.call e, rfl, fun part => ?_⟩
      cases part <;> simp [put?, hps, Except.toOption]
    | ok ps =>
      refine .inl ⟨_, rfl, fun part => ?_, fun part => ?_⟩
      · cases part <;> simp [put?, hps, Except.toOption] <;> rfl
      · cases part <;> simp [put?, Writes, hps, Except.toOption]
  | limit n =>
    refine .inl ⟨_, rfl, fun part => ?_, fun part => ?_⟩
    · cases part <;> rfl
    · cases part <;> simp [put?, Writes]
  | offset n =>
    refine .inl ⟨_, rfl, fun part => ?_, fun part => ?_⟩
    · cases part <;> rfl
    · cases part <;> simp [put?, Writes]
  | sorts keys =>
    refine .inl ⟨_, rfl, fun part => ?_, fun part => ?_⟩
    · cases part <;> rfl
    · cases part <;> simp [put?, Writes]

variable {columns : List Column}

theorem isSome_put?_iff {step : Step} (hstep : step ≠ .reload) (s : Statement) (part : Part) :
    (step.put? columns part).isSome = true ↔
      (∃ t, step.apply columns s = .ok t) ∧ step.Writes columns part := by
  rcases apply_cases columns hstep s with ⟨t, ht, hover⟩ | ⟨e, he, hput⟩
  · rw [hover.writes part, ht]
    simp
  · rw [hput part, he]
    simp

theorem part_advance {step : Step} (hstep : step ≠ .reload) (s : Statement) (part : Part) :
    (Session.advance columns s step).part part = (step.put? columns part).getD (s.part part) := by
  unfold Session.advance
  rcases apply_cases columns hstep s with ⟨t, ht, hover⟩ | ⟨e, he, hput⟩
  · rw [ht]
    exact hover.part part
  · rw [he, hput part]
    rfl

/-- A query that succeeds leaves nothing of an earlier limit, offset or order, and gives all columns
unless its projection names one. -/
theorem apply_query_eq_ok {collection : String} {filter given : Option Json} {s t : Statement}
    (h : (query collection filter given).apply columns s = .ok t) :
    t.limit = none ∧ t.offset = none ∧ t.sorts = [] ∧
      (t.fields = .wildcard ↔ ¬ NamesColumn columns given) := by
  obtain ⟨fields, ps, hfields, -, rfl⟩ := decodeQuery_eq_ok_iff.1 (mapError_eq_ok_iff.1 h)
  refine ⟨rfl, rfl, rfl, ?_⟩
  rw [← isSome_iff_namesColumn hfields]
  cases fields with
  | none => simp [FieldList.ofColumns?]
  | some cs => simp [FieldList.ofColumns?]

end Step

/-! ## Runs -/

namespace Session

/-- **Every part holds what was put there last.** After steps from the empty statement, a part holds
what the last step that put something there put there, or what the empty statement holds in it. The
steps that put something into a part are those that succeed and write it. A query that succeeds
clears limit, offset and order, and gives all columns unless its projection names one. -/
theorem part_run (columns : List Column) {steps : List Step} (hsteps : .reload ∉ steps)
    (part : Part) :
    (run columns steps .empty).part part =
        (lastOf? (Step.put? columns · part) steps).getD (Statement.empty.part part) ∧
      (∀ step ∈ steps, ∀ s, (step.put? columns part).isSome = true ↔
        (∃ t, step.apply columns s = .ok t) ∧ step.Writes columns part) ∧
      ∀ collection filter given s t,
        (Step.query collection filter given).apply columns s = .ok t →
          t.limit = none ∧ t.offset = none ∧ t.sorts = [] ∧
            (t.fields = .wildcard ↔ ¬ NamesColumn columns given) := by
  have hne : ∀ step ∈ steps, step ≠ .reload := by
    rintro step hstep rfl
    exact hsteps hstep
  refine ⟨?_, fun step hstep s => Step.isSome_put?_iff (hne step hstep) s part, ?_⟩
  · exact view_foldl_getD (fun s => Statement.part s part)
      (fun step hstep s => Step.part_advance (hne step hstep) s part) .empty
  · exact fun collection filter given s t h => Step.apply_query_eq_ok h

/-- A query in the middle, a projection that names no column, and a filter that fails. -/
theorem part_run_overwritten :
    let columns : List Column := [⟨"age"⟩, ⟨"name"⟩]
    let steps : List Step :=
      [.limit 5, .sorts [⟨"age", 1⟩], .projection (some (.document [("age", .boolean false)])),
        .query "users" (some (.document [("age", .null)])) (some .null),
        .projection (some (.document [("name", .boolean true)])),
        .projection (some (.document [("other", .null)])), .offset 3,
        .predicates (.document [("id", .null)])]
    .reload ∉ steps ∧ (run columns steps .empty).part .limit = none ∧
      (run columns steps .empty).part .fields = .only [⟨"name"⟩] ∧
      (run columns steps .empty).part .predicates = [⟨⟨"age"⟩, .eq, .null⟩] ∧
      (run columns steps .empty).part .offset = some 3 := by
  intro columns steps
  have h : .reload ∉ steps := by simp [steps]
  exact ⟨h, (part_run columns h .limit).1.trans rfl, (part_run columns h .fields).1.trans rfl,
    (part_run columns h .predicates).1.trans rfl, (part_run columns h .offset).1.trans rfl⟩

end Session

end FindSelect
