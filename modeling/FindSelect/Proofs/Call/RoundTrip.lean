import FindSelect.Proofs.Json.Records
import FindSelect.Query

/-!
# Calls read back

A call is read back from its compact text, but a filter or a projection that is null comes back as
absent. Nothing is lost by this, as null and an absent part ask for the same.

* `SortSpec.ofJson_toJson`: both forms of a sort argument are told apart and read back;
* `FindCall.withoutNulls`: what is read back of a call;
* `decodeQuery_withoutNull`, `FindCall.toStatement_withoutNulls`: null asks for what an absent part
  asks for;
* **`FindCall.parse_compact_and_toStatement`**: the compact text of a call gives back the call, up to
  nulls, and the same statement or error.
-/

namespace FindSelect

open Reader

/-! ## Sort arguments -/

namespace SortSpec

theorem direction_ofInt64 (d : Int64) : direction (.ofInt64 d) = .ok d := by
  have hd : (Json.ofInt64 d).toInt64? = some d := WideInt.toInt64?_ofInt64 d
  rw [direction, hd]

theorem pair_pairJson (key : String) (d : Int64) : pair (pairJson key d) = .ok (key, d) := by
  rw [pairJson, pair, direction_ofInt64]
  rfl

theorem pairs_pairJson (ps : List (String × Int64)) :
    pairs (ps.map fun p => pairJson p.1 p.2) = .ok ps := by
  induction ps with
  | nil => rfl
  | cons p ps ih =>
    rw [List.map_cons, pairs, pair_pairJson, ih]
    rfl

theorem ofJson_toJson (spec : SortSpec) : ofJson spec.toJson = .ok spec := by
  cases spec with
  | single key d =>
    rw [toJson, pairJson, ofJson, direction_ofInt64]
    rfl
  | list ps =>
    -- the first item of a list of pairs is a list, so the list is no pair itself
    have hlist : ofJson (.list (ps.map fun p => pairJson p.1 p.2)) =
        .list <$> pairs (ps.map fun p => pairJson p.1 p.2) := by
      cases ps with
      | nil => rfl
      | cons p ps => rfl
    rw [toJson, hlist, pairs_pairJson]
    rfl

theorem plain_toJson (spec : SortSpec) : spec.toJson.Plain := by
  have hpair : ∀ key d, (pairJson key d).Plain := by
    intro key d
    exact ⟨⟨trivial, trivial, trivial⟩, ⟨trivial, trivial, trivial⟩⟩
  cases spec with
  | single key d => exact hpair key d
  | list ps =>
    rw [toJson, Json.plain_list_iff, List.forall_mem_map]
    exact fun p _ => hpair p.1 p.2

theorem nesting_toJson_le (spec : SortSpec) : spec.toJson.nesting ≤ 2 := by
  have hpair : ∀ key d, (pairJson key d).nesting ≤ 1 := fun key d => Nat.le_refl 1
  cases spec with
  | single key d => exact Nat.le_succ_of_le (hpair key d)
  | list ps =>
    rw [toJson, Json.nesting_list_le_iff, List.forall_mem_map]
    exact fun p _ => hpair p.1 p.2

theorem isNull_toJson (spec : SortSpec) : spec.toJson.isNull = false := by
  cases spec <;> rfl

end SortSpec

/-- The reader of sort arguments reads a whole value first. -/
theorem decodes_sort (levels : Nat) (spec : SortSpec) :
    Decodes (FindCall.sortReader (levels + 2)) spec.toJson (.ok spec) := by
  have hvalue : Decodes (Reader.value (levels + 2)) spec.toJson (fits (levels + 2) spec.toJson) :=
    decodes_value spec.plain_toJson
  have hnesting := spec.nesting_toJson_le
  rw [fits, if_pos (by omega)] at hvalue
  intro text htext ws rest hws hrest
  rw [FindCall.sortReader, bind_ok (hvalue text htext ws rest hws hrest)]
  simp only [SortSpec.ofJson_toJson]
  rfl

/-! ## Nulls -/

/-- An optional part of a call, absent when it is null. -/
def withoutNull : Option Json → Option Json
  | some .null => none
  | part => part

theorem decodes_part {levels : Nat} {part : Option Json}
    (h : ∀ v ∈ part, v.Plain ∧ v.nesting ≤ levels) :
    Decodes (optional (Reader.value levels)) (.ofOption id part) (.ok (withoutNull part)) := by
  cases part with
  | none => exact decodes_optional_null _
  | some v =>
    have hv := h v rfl
    have hvalue : Decodes (Reader.value levels) v (fits levels v) := decodes_value hv.1
    rw [fits, if_pos hv.2] at hvalue
    cases v with
    | null => exact decodes_optional_null _
    | _ => exact decodes_optional hvalue rfl

theorem decodeQuery_withoutNull (collection : String) (filter projection : Option Json)
    (columns : List Column) :
    decodeQuery collection (withoutNull filter) (withoutNull projection) columns =
      decodeQuery collection filter projection columns := by
  have hfilter : effectiveFilter (withoutNull filter) = effectiveFilter filter := by
    cases filter with
    | none => rfl
    | some v => cases v <;> rfl
  have hprojection : projectedColumns (withoutNull projection) columns =
      projectedColumns projection columns := by
    cases projection with
    | none => rfl
    | some v => cases v <;> rfl
  unfold decodeQuery decodeProjection
  rw [hfilter, hprojection]

namespace FindCall

/-- The call in which a filter or a projection that is null is absent. -/
def withoutNulls (call : FindCall) : FindCall :=
  { call with filter := withoutNull call.filter, projection := withoutNull call.projection }

theorem toStatement_withoutNulls (call : FindCall) (columns : List Column) :
    call.withoutNulls.toStatement columns = call.toStatement columns := by
  unfold toStatement withoutNulls
  rw [decodeQuery_withoutNull]

/-! ## The written call -/

theorem decodes_call (levels : Nat) {call : FindCall}
    (hfilter : ∀ v ∈ call.filter, v.Plain ∧ v.nesting ≤ levels + 2)
    (hprojection : ∀ v ∈ call.projection, v.Plain ∧ v.nesting ≤ levels + 2) :
    Decodes (reader (levels + 3)) call.toJson (.ok call.withoutNulls) := by
  have hcollection := enters_field "collection" (Draft.mk · none none none none none)
    (decodes_string call.collection)
  have hfilter := enters_field "filter" (Draft.mk call.collection · none none none none)
    (decodes_part hfilter)
  have hprojection := enters_field "projection"
    (Draft.mk call.collection (some (withoutNull call.filter)) · none none none)
    (decodes_part hprojection)
  have hlimit := enters_field "limit"
    (Draft.mk call.collection (some (withoutNull call.filter))
      (some (withoutNull call.projection)) · none none)
    (decodes_ofOption decodes_unsigned (fun _ => rfl) call.limit)
  have hskip := enters_field "skip"
    (Draft.mk call.collection (some (withoutNull call.filter))
      (some (withoutNull call.projection)) (some call.limit) · none)
    (decodes_ofOption decodes_unsigned (fun _ => rfl) call.skip)
  have hsort := enters_field "sort"
    (Draft.mk call.collection (some (withoutNull call.filter))
      (some (withoutNull call.projection)) (some call.limit) (some call.skip))
    (decodes_ofOption (decodes_sort levels) SortSpec.isNull_toJson call.sort)
  exact decodes_record
    (.cons hcollection (.cons hfilter (.cons hprojection (.cons hlimit (.cons hskip
      (.cons hsort .nil))))))
    rfl

/-- **Calls read back.** Take a call whose filter and projection are written without floating-point
numbers, with distinct keys, and nest at most 126 lists and documents. Its compact text gives the
same call back, but that a filter or a projection that is null comes back as absent; under every
schema the call that is read back has the same statement or the same error. -/
theorem parse_compact_and_toStatement (call : FindCall)
    (hfilter : ∀ v ∈ call.filter, v.Plain ∧ v.nesting ≤ 126)
    (hprojection : ∀ v ∈ call.projection, v.Plain ∧ v.nesting ≤ 126) :
    parse call.compact = .ok call.withoutNulls ∧
      ∀ columns, call.withoutNulls.toStatement columns = call.toStatement columns := by
  refine ⟨?_, toStatement_withoutNulls call⟩
  exact run_compact (decodes_call 124 hfilter hprojection)

/-- A call whose filter nests as deeply as it may, whose projection is null, and whose sort argument
is a list of two pairs. -/
def nullProjected : FindCall where
  collection := "users"
  filter := some (.document [("tags", .document [("$eq", (Json.string "a\"b").inLists 124)])])
  projection := some .null
  skip := some 20
  sort := some (.list [("name", 1), ("age", -1)])

theorem parse_compact_and_toStatement_nullProjected :
    parse nullProjected.compact = .ok { nullProjected with projection := none } ∧
      ∀ columns, FindCall.toStatement { nullProjected with projection := none } columns =
        nullProjected.toStatement columns := by
  have hoperand : ((Json.string "a\"b").inLists 124).Plain :=
    Json.plain_inLists (Json.plain_string _) 124
  refine parse_compact_and_toStatement nullProjected ?_ ?_
  · intro v hv
    cases hv
    refine ⟨Json.plain_document_iff.2 ⟨by decide, ?_⟩, ?_⟩
    · rw [List.forall_mem_singleton, Json.plain_document_iff, List.forall_mem_singleton]
      exact ⟨by decide, hoperand⟩
    · rw [Json.nesting_document_le_iff, List.forall_mem_singleton, Json.nesting_document_le_iff,
        List.forall_mem_singleton, Json.nesting_inLists]
      decide
  · intro v hv
    cases hv
    exact ⟨Json.plain_null, Nat.zero_le _⟩

end FindCall

end FindSelect
