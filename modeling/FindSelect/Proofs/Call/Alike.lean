import FindSelect.Proofs.Call.Parts
import FindSelect.Proofs.Filter.Alike

/-!
# Calls that are alike

Calls are alike when they differ only in the order of the entries of documents. The filter is taken
apart in that order, so the predicates may come in another order, and another error may be met
first. The projection is looked up column by column, so its order does not matter.

* `alike_iff`: calls that are alike, part by part;
* `agree_projectedColumns_of_alike`: projections that are alike give the same columns;
* **`toStatement_of_alike`**: calls that are alike have the same statement up to the order of
  predicates and of entries, or errors of one kind.
-/

namespace FindSelect

/-- Optional values are alike when both are absent or their values are alike. -/
abbrev OptionAlike : Option Json → Option Json → Prop := Option.Rel fun v w => v.alike w = true

namespace FindCall

theorem alike_iff {c d : FindCall} :
    c.alike d = true ↔ c.collection = d.collection ∧ OptionAlike c.filter d.filter ∧
      OptionAlike c.projection d.projection ∧ c.limit = d.limit ∧ c.skip = d.skip ∧
      c.sort = d.sort := by
  obtain ⟨collection, filter, projection, limit, skip, sort⟩ := c
  obtain ⟨collection', filter', projection', limit', skip', sort'⟩ := d
  simp only [alike, Bool.and_eq_true, beq_iff_eq, and_assoc]
  cases filter <;> cases filter' <;> cases projection <;> cases projection' <;> simp

end FindCall

/-! ## Projections -/

theorem ofJson?_of_alike {v w : Json} (h : v.alike w = true) :
    ProjectionMode.ofJson? v = ProjectionMode.ofJson? w := by
  cases v with
  | null => cases w with
    | null => rfl
    | _ => cases h
  | boolean b => cases w with
    | boolean b' => rw [beq_iff_eq.1 h]
    | _ => cases h
  | number n => cases w with
    | number n' =>
      cases n with
      | integer i => cases n' with
        | integer j => rw [beq_iff_eq.1 h]
        | real y => cases h
      | real x => cases n' with
        | integer j => cases h
        | real y => rfl
    | _ => cases h
  | string s => cases w with
    | string s' => rfl
    | _ => cases h
  | list xs => cases w with
    | list ys => rfl
    | _ => cases h
  | document es => cases w with
    | document fs => rfl
    | _ => cases h

/-- One step of the walk looks a column up in both projections. -/
theorem agree_step_of_alike {es fs : Entries} (hes : (es.map Prod.fst).Nodup)
    (h : (Json.document es).alike (.document fs) = true) (scan : ProjectionScan) (c : Column) :
    Agree Eq CallError.SameKind (scan.step es c) (scan.step fs c) := by
  have hlookup := Json.lookup_of_alike hes h c.name
  unfold ProjectionScan.step
  generalize es.lookup c.name = v, fs.lookup c.name = w at hlookup ⊢
  cases hlookup with
  | none => exact .ok rfl
  | @some v w halike =>
    dsimp only
    rw [ofJson?_of_alike halike]
    cases ProjectionMode.ofJson? w with
    | none => exact .error rfl
    | some current =>
      dsimp only
      cases scan.mode with
      | none => exact .ok rfl
      | some first =>
        dsimp only
        by_cases hmode : first = current
        · rw [if_pos hmode]
          exact .ok rfl
        · rw [if_neg hmode]
          exact .error rfl

theorem agree_projectedColumns_of_alike (columns : List Column) {p q : Option Json}
    (hp : ∀ v ∈ p, v.DistinctKeys) (h : OptionAlike p q) :
    Agree Eq CallError.SameKind (projectedColumns p columns) (projectedColumns q columns) := by
  cases h with
  | none => exact .ok rfl
  | @some v w halike =>
    have hv := hp v rfl
    cases v with
    | null => cases w with
      | null => exact .ok rfl
      | _ => cases halike
    | document es => cases w with
      | document fs =>
        have hwalk := agree_foldlM columns (agree_step_of_alike hv.1 halike) {}
        exact hwalk.map fun _ _ hscan => congrArg _ hscan
      | _ => cases halike
    | _ => cases w with
      | null => cases halike
      | document fs => cases halike
      | _ => exact .error rfl

/-! ## Filters -/

theorem effectiveFilter_alike {p q : Option Json} (h : OptionAlike p q) :
    (effectiveFilter p).alike (effectiveFilter q) = true := by
  cases h with
  | none => rfl
  | @some v w halike =>
    cases v with
    | null => cases w with
      | null => rfl
      | _ => cases halike
    | _ => cases w with
      | null => cases halike
      | _ => exact halike

theorem effectiveFilter_distinctKeys {p : Option Json} (hp : ∀ v ∈ p, v.DistinctKeys) :
    (effectiveFilter p).DistinctKeys := by
  have hempty : (Json.document []).DistinctKeys := ⟨List.nodup_nil, trivial⟩
  cases p with
  | none => exact hempty
  | some v =>
    cases v with
    | null => exact hempty
    | _ => exact hp _ rfl

/-! ## Calls -/

/-- **Calls that are alike** have, under every schema, statements of the same table, columns, limit,
offset and sort keys whose predicates are alike up to their order, or errors of one kind. The
documents of the first call must have distinct keys, and so have those of the other then. -/
theorem toStatement_of_alike {c d : FindCall} (h : c.alike d = true)
    (hfilter : ∀ v ∈ c.filter, v.DistinctKeys) (hprojection : ∀ v ∈ c.projection, v.DistinctKeys)
    (columns : List Column) :
    Agree (Statement.Corresponds Eq (Rearranged Predicate.Alike)) CallError.SameKind
      (c.toStatement columns) (d.toStatement columns) := by
  obtain ⟨hcollection, hfilters, hprojections, hlimit, hskip, hsort⟩ := FindCall.alike_iff.1 h
  refine agree_toStatement hcollection hlimit hskip hsort ?_ ?_
  · have hfields := agree_projectedColumns_of_alike columns hprojection hprojections
    exact hfields.imp (fun _ _ heq => congrArg _ heq) fun _ _ he => he
  · exact agree_decodeWhere_of_alike columns (effectiveFilter_distinctKeys hfilter)
      (effectiveFilter_alike hfilters)

/-- The entries of the filter, of an operand and of the projection in another order. -/
theorem toStatement_of_alike_reordered :
    let c : FindCall :=
      { collection := "users"
        filter := some (.list [.document [("age", .document [("$gt", .boolean true),
          ("$ne", .document [("a", .null), ("b", .list [])])]), ("name", .string "bob")]])
        projection := some (.document [("age", .boolean true), ("name", .boolean true)])
        limit := some 10 }
    let d : FindCall :=
      { collection := "users"
        filter := some (.list [.document [("name", .string "bob"), ("age", .document
          [("$ne", .document [("b", .list []), ("a", .null)]), ("$gt", .boolean true)])]])
        projection := some (.document [("name", .boolean true), ("age", .boolean true)])
        limit := some 10 }
    c.alike d = true ∧ (∀ v ∈ c.filter, v.DistinctKeys) ∧ (∀ v ∈ c.projection, v.DistinctKeys) ∧
      Agree (Statement.Corresponds Eq (Rearranged Predicate.Alike)) CallError.SameKind
        (c.toStatement [⟨"age"⟩, ⟨"name"⟩]) (d.toStatement [⟨"age"⟩, ⟨"name"⟩]) := by
  intro c d
  have halike : c.alike d = true := rfl
  have hfilter : ∀ v ∈ c.filter, v.DistinctKeys := by
    rintro v ⟨⟩
    simp [Json.DistinctKeys, Json.DistinctKeysItems, Json.DistinctKeysEntries]
  have hprojection : ∀ v ∈ c.projection, v.DistinctKeys := by
    rintro v ⟨⟩
    simp [Json.DistinctKeys, Json.DistinctKeysEntries]
  exact ⟨halike, hfilter, hprojection, toStatement_of_alike halike hfilter hprojection _⟩

end FindSelect
