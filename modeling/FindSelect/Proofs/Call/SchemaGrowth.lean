import FindSelect.Proofs.Call.Parts
import FindSelect.Proofs.Filter.Leaves
import FindSelect.Proofs.Projection.Resolution

/-!
# Columns that are added to a table

A table may get more columns, in any places and also under names that it has already. A call whose
projection names none of them keeps its statement. Only a projection that leaves columns out gives
the added ones too, each in its place.

* `Merged`: a row, and the items that were added to it;
* `Merged.filter`, `exists_merged_iff_sublist`: merged rows and subsequences;
* `projectedColumns_of_merged`: the columns of a projection;
* **`toStatement_of_merged`**: the statement of a call.
-/

namespace FindSelect

/-! ## Merged rows -/

/-- Two rows merged into a third one, in which each keeps its order. -/
inductive Merged {α : Type} : List α → List α → List α → Prop
  | nil : Merged [] [] []
  | keep {x : α} {kept added all : List α} : Merged kept added all →
      Merged (x :: kept) added (x :: all)
  | add {x : α} {kept added all : List α} : Merged kept added all →
      Merged kept (x :: added) (x :: all)

section Merged

variable {α : Type} {kept added all : List α}

theorem Merged.sublist (h : Merged kept added all) : kept.Sublist all := by
  induction h with
  | nil => exact .slnil
  | keep _ ih => exact ih.cons_cons _
  | add _ ih => exact ih.cons _

theorem exists_merged_iff_sublist : (∃ added, Merged kept added all) ↔ kept.Sublist all := by
  constructor
  · rintro ⟨added, h⟩
    exact h.sublist
  · intro h
    induction h with
    | slnil => exact ⟨[], .nil⟩
    | cons x _ ih =>
      obtain ⟨added, hadded⟩ := ih
      exact ⟨x :: added, hadded.add⟩
    | cons_cons x _ ih =>
      obtain ⟨added, hadded⟩ := ih
      exact ⟨added, hadded.keep⟩

theorem Merged.filter (p : α → Bool) (h : Merged kept added all) :
    Merged (kept.filter p) (added.filter p) (all.filter p) := by
  induction h with
  | nil => exact .nil
  | @keep x _ _ _ _ ih =>
    by_cases hx : p x = true
    · simpa only [List.filter_cons_of_pos hx] using ih.keep
    · simpa only [List.filter_cons_of_neg hx] using ih
  | @add x _ _ _ _ ih =>
    by_cases hx : p x = true
    · simpa only [List.filter_cons_of_pos hx] using ih.add
    · simpa only [List.filter_cons_of_neg hx] using ih

theorem Merged.eq_of_nil (h : Merged kept [] all) : all = kept := by
  generalize hnil : ([] : List α) = added at h
  induction h with
  | nil => rfl
  | keep _ ih => rw [ih hnil]
  | add _ _ => cases hnil

end Merged

/-! ## Projections -/

/-- The projection names columns of the table, and it gives all of them one mode. -/
def Entries.HasMode (projection : Entries) (columns : List Column) (mode : ProjectionMode) : Prop :=
  columns.filter projection.names ≠ [] ∧
    ∀ c ∈ columns.filter projection.names, projection.modeOf? c = some mode

/-- What becomes of the columns that a statement gives when its table gets more of them. A statement
without a projection, or with one that names no column of the table, gives all columns before and
after. The columns that a projection includes stay the same. Where it leaves columns out, the
statement gives all the columns that the projection does not name: those that it gave before and
exactly the added ones, in the order of the table. -/
inductive FieldList.Grows (projection : Option Json) (columns added columns' : List Column) :
    FieldList → FieldList → Prop
  | absent : projection = none ∨ projection = some .null →
      Grows projection columns added columns' .wildcard .wildcard
  | unnamed {entries : Entries} :
      projection = some (.document entries) → columns.filter entries.names = [] →
      Grows projection columns added columns' .wildcard .wildcard
  | inclusion {entries : Entries} {fields : List Column} :
      projection = some (.document entries) → entries.HasMode columns .inclusion →
      Grows projection columns added columns' (.only fields) (.only fields)
  | exclusion {entries : Entries} {fields fields' : List Column} :
      projection = some (.document entries) → entries.HasMode columns .exclusion →
      fields' = (columns'.filter fun c => !entries.names c) → Merged fields added fields' →
      Grows projection columns added columns' (.only fields) (.only fields')

variable {columns added columns' : List Column}

/-- The walk along more columns meets the same named columns, so it ends in the same way. -/
theorem resolveProjection_of_merged (h : Merged columns added columns') {entries : Entries}
    (hadded : ∀ c ∈ added, entries.names c = false) {fields : Option (List Column)}
    (hfields : resolveProjection entries columns = .ok fields) :
    ∃ fields', resolveProjection entries columns' = .ok fields' ∧
      FieldList.Grows (some (.document entries)) columns added columns' (.ofColumns? fields)
        (.ofColumns? fields') := by
  have hnone : added.filter entries.names = [] := by
    rw [List.filter_eq_nil_iff]
    exact fun c hc => by simp [hadded c hc]
  have hall : (added.filter fun c => !entries.names c) = added := by
    rw [List.filter_eq_self]
    exact fun c hc => by simp [hadded c hc]
  have hnamed : columns'.filter entries.names = columns.filter entries.names := by
    have := h.filter entries.names
    rw [hnone] at this
    exact this.eq_of_nil
  rcases resolveProjection_eq_ok_iff.1 hfields with ⟨hnil, rfl⟩ | ⟨mode, hne, hmode, rfl⟩
  · exact ⟨none, resolveProjection_eq_ok_iff.2 (.inl ⟨hnamed.trans hnil, rfl⟩),
      .unnamed rfl hnil⟩
  · have hresolve : resolveProjection entries columns' =
        .ok (some (mode.select entries columns')) := by
      refine resolveProjection_eq_ok_iff.2 (.inr ⟨mode, ?_, ?_, rfl⟩)
      · rwa [hnamed]
      · rwa [hnamed]
    refine ⟨_, hresolve, ?_⟩
    cases mode with
    | inclusion =>
      have hselect : ProjectionMode.inclusion.select entries columns' =
          ProjectionMode.inclusion.select entries columns := hnamed
      rw [hselect]
      exact .inclusion rfl ⟨hne, hmode⟩
    | exclusion =>
      have hmerged := h.filter fun c => !entries.names c
      rw [hall] at hmerged
      exact .exclusion rfl ⟨hne, hmode⟩ rfl hmerged

theorem projectedColumns_of_merged (h : Merged columns added columns') {projection : Option Json}
    (hadded : ∀ entries : Entries, projection = some (.document entries) →
      ∀ c ∈ added, entries.names c = false)
    {fields : Option (List Column)} (hfields : projectedColumns projection columns = .ok fields) :
    ∃ fields', projectedColumns projection columns' = .ok fields' ∧
      FieldList.Grows projection columns added columns' (.ofColumns? fields)
        (.ofColumns? fields') := by
  rcases projectedColumns_eq_ok_iff.1 hfields with ⟨hprojection, rfl⟩ | ⟨entries, rfl, hresolve⟩
  · exact ⟨none, projectedColumns_eq_ok_iff.2 (.inl ⟨hprojection, rfl⟩), .absent hprojection⟩
  · exact resolveProjection_of_merged h (hadded entries rfl) hresolve

/-! ## Calls -/

/-- **More columns break no call and change none unseen.** A call that has a statement keeps one
when columns are added that its projection does not name: of the same table, predicates, limit,
offset and sort keys. It gives the same columns as before, unless the projection leaves columns out;
then it gives exactly the added ones besides. -/
theorem toStatement_of_merged {call : FindCall} (h : Merged columns added columns')
    (hadded : ∀ entries : Entries, call.projection = some (.document entries) →
      ∀ c ∈ added, entries.names c = false)
    {s : Statement} (hs : call.toStatement columns = .ok s) :
    ∃ s', call.toStatement columns' = .ok s' ∧
      Statement.Corresponds (FieldList.Grows call.projection columns added columns') Eq s s' := by
  obtain ⟨fields, ps, hfields, hps, rfl⟩ := toStatement_eq_ok_iff.1 hs
  obtain ⟨fields', hfields', hgrows⟩ := projectedColumns_of_merged h hadded hfields
  have hps' := decodeWhere_eq_ok_of_subset h.sublist.subset hps
  refine ⟨_, toStatement_eq_ok_iff.2 ⟨fields', ps, hfields', hps', rfl⟩, ?_⟩
  exact ⟨rfl, hgrows, rfl, rfl, rfl, rfl⟩

/-- A column in front, a second one of a name that is there, and a projection that leaves a third
one out. -/
theorem toStatement_of_merged_repeated :
    let call : FindCall :=
      { collection := "users"
        filter := some (.document [("age", .document [("$gte", .boolean true)])])
        projection := some (.document [("name", .boolean false), ("other", .null)])
        limit := some 5 }
    let columns : List Column := [⟨"age"⟩, ⟨"name"⟩]
    let columns' : List Column := [⟨"id"⟩, ⟨"age"⟩, ⟨"age"⟩, ⟨"name"⟩]
    ∃ s s', call.toStatement columns = .ok s ∧ s.fields = .only [⟨"age"⟩] ∧
      call.toStatement columns' = .ok s' ∧ s'.fields = .only [⟨"id"⟩, ⟨"age"⟩, ⟨"age"⟩] ∧
      Statement.Corresponds
        (FieldList.Grows call.projection columns [⟨"id"⟩, ⟨"age"⟩] columns') Eq s s' := by
  intro call columns columns'
  have h : Merged columns [⟨"id"⟩, ⟨"age"⟩] columns' := .add (.keep (.add (.keep .nil)))
  have hadded : ∀ entries : Entries, call.projection = some (.document entries) →
      ∀ c ∈ [(⟨"id"⟩ : Column), ⟨"age"⟩], entries.names c = false := by
    rintro entries ⟨⟩
    decide
  obtain ⟨s', hs', hcorresponds⟩ := toStatement_of_merged h hadded (s := _) rfl
  cases hs'
  exact ⟨_, _, rfl, rfl, rfl, rfl, hcorresponds⟩

end FindSelect
