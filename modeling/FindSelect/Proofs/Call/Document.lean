import FindSelect.Proofs.Call.RoundTrip

/-!
# Call documents

A call may be written as a document of only those fields that it has, each with any value. It is read
as the call of these fields: null stands for an absent field, also for the sort argument, and any
other sort argument must have one of its forms.

* `CallParts`: the fields of a call as values, and the `document` of those that are there;
* `decodes_sortValue`: what a sort argument is read as, whatever its value is;
* `fills_part`: a field that may be there fills its place in the draft, or leaves it empty;
* **`parse_callDocument`**: what a call document is read as.
-/

namespace FindSelect

open Reader

/-- The fields of a call, but for the collection: those that are there, as values. -/
structure CallParts where
  filter : Option Json := none
  projection : Option Json := none
  limit : Option UInt64 := none
  skip : Option UInt64 := none
  sort : Option Json := none

namespace CallParts

/-- The document of a collection and the fields that are there. -/
def document (collection : String) (parts : CallParts) : Json :=
  .document (("collection", .string collection) ::
    (parts.filter.toList.map (fun v => ("filter", v)) ++
      (parts.projection.toList.map (fun v => ("projection", v)) ++
        (parts.limit.toList.map (fun n => ("limit", .ofUInt64 n)) ++
          (parts.skip.toList.map (fun n => ("skip", .ofUInt64 n)) ++
            parts.sort.toList.map (fun v => ("sort", v)))))))

/-- The call of a collection and the fields that are there, with a sort argument that was checked. -/
def call (collection : String) (parts : CallParts) (sort : Option SortSpec) : FindCall :=
  ⟨collection, parts.filter, parts.projection, parts.limit, parts.skip, sort⟩

/-- The values of a call, but for the amounts. -/
def values (parts : CallParts) : List Json :=
  parts.filter.toList ++ (parts.projection.toList ++ parts.sort.toList)

/-- The values are written without floating-point numbers and with distinct keys, and nest no deeper
than allowed. -/
def Plain (levels : Nat) (parts : CallParts) : Prop :=
  ∀ v ∈ parts.values, v.Plain ∧ v.nesting ≤ levels

variable {parts : CallParts} {v : Json}

theorem mem_values_of_filter (h : v ∈ parts.filter) : v ∈ parts.values :=
  List.mem_append_left _ (Option.mem_toList.2 h)

theorem mem_values_of_projection (h : v ∈ parts.projection) : v ∈ parts.values :=
  List.mem_append_right _ (List.mem_append_left _ (Option.mem_toList.2 h))

theorem mem_values_of_sort (h : v ∈ parts.sort) : v ∈ parts.values :=
  List.mem_append_right _ (List.mem_append_right _ (Option.mem_toList.2 h))

end CallParts

/-! ## Sort arguments -/

/-- The sort argument of a value that may be absent. -/
def SortSpec.ofPart : Option Json → Except CallError (Option SortSpec)
  | none => .ok none
  | some v => some <$> SortSpec.ofJson v

/-- The fault of a text with a sort argument that has none of the forms. -/
def CallError.refusal (e : CallError) : Fault := .mismatch (.refused e.message)

theorem decodes_sortValue {levels : Nat} {v : Json} (hv : v.Plain ∧ v.nesting ≤ levels) :
    Decodes (FindCall.sortReader levels) v ((SortSpec.ofJson v).mapError CallError.refusal) := by
  have hvalue : Decodes (Reader.value levels) v (fits levels v) := decodes_value hv.1
  rw [fits, if_pos hv.2] at hvalue
  intro text htext ws rest hws hrest
  rw [FindCall.sortReader, bind_ok (hvalue text htext ws rest hws hrest)]
  cases SortSpec.ofJson v with
  | ok spec => rfl
  | error e => rfl

theorem withoutNull_of_ne {part : Option Json} (h : part ≠ some .null) :
    withoutNull part = part := by
  unfold withoutNull
  split
  · exact absurd rfl h
  · rfl

theorem decodes_sortPart {levels : Nat} {v : Json} (hv : v.Plain ∧ v.nesting ≤ levels) :
    Decodes (optional (FindCall.sortReader levels)) v
      ((SortSpec.ofPart (withoutNull (some v))).mapError CallError.refusal) := by
  by_cases hnull : v.isNull = true
  · cases v with
    | null => exact decodes_optional_null _
    | _ => cases hnull
  · rw [Bool.not_eq_true] at hnull
    have hpart : withoutNull (some v) = some v := by
      refine withoutNull_of_ne ?_
      rintro ⟨⟩
      cases hnull
    have hsort := decodes_optional (decodes_sortValue hv) hnull
    rw [hpart, SortSpec.ofPart]
    cases hspec : SortSpec.ofJson v with
    | ok spec =>
      rw [hspec] at hsort
      exact hsort
    | error e =>
      rw [hspec] at hsort
      exact hsort

/-! ## Fields that may be there -/

theorem fills_part {α σ ι : Type} {entry : String → σ → Reader σ} {key : String}
    {reader : Reader (Option α)} {part : Option ι} {toJson : ι → Json} {value : ι → Option α}
    (draft : Option (Option α) → σ)
    (hentry : entry key (draft none) = do return draft (← fieldValue key none reader))
    (h : ∀ x ∈ part, Decodes reader (toJson x) (.ok (value x))) {entries : Entries}
    {outcome : Except Fault σ} (hrest : Fills entry (draft (part.map value)) entries outcome) :
    Fills entry (draft none) (part.toList.map (fun x => (key, toJson x)) ++ entries) outcome := by
  cases part with
  | none => exact hrest
  | some x =>
    have henter := enters_field key draft (h x rfl)
    rw [← hentry] at henter
    exact .cons henter hrest

namespace FindCall

/-- The draft of a call document, up to its sort argument. -/
def Draft.ofParts (collection : String) (parts : CallParts) (sort : Option (Option SortSpec)) :
    Draft :=
  ⟨some collection, parts.filter.map fun v => withoutNull (some v),
    parts.projection.map fun v => withoutNull (some v), parts.limit.map some,
    parts.skip.map some, sort⟩

theorem finish_ofParts (collection : String) (parts : CallParts)
    (sort : Option (Option SortSpec)) :
    (Draft.ofParts collection parts sort).finish =
      .ok (parts.call collection sort.join).withoutNulls := by
  have hjson : ∀ part : Option Json,
      (part.map fun v => withoutNull (some v)).join = withoutNull part := by
    intro part
    cases part with
    | none => rfl
    | some v => rfl
  have hnumber : ∀ part : Option UInt64, (part.map some).join = part := by
    intro part
    cases part with
    | none => rfl
    | some n => rfl
  unfold Draft.finish Draft.ofParts CallParts.call withoutNulls
  dsimp only [required]
  rw [hjson, hjson, hnumber, hnumber]
  rfl

theorem fills_parts {levels : Nat} (collection : String) {parts : CallParts}
    (hparts : parts.Plain levels) {entries : Entries} {outcome : Except Fault Draft}
    (h : Fills (shape.field levels) (.ofParts collection parts none) entries outcome) :
    Fills (shape.field levels) shape.empty (("collection", .string collection) ::
      (parts.filter.toList.map (fun v => ("filter", v)) ++
        (parts.projection.toList.map (fun v => ("projection", v)) ++
          (parts.limit.toList.map (fun n => ("limit", .ofUInt64 n)) ++
            (parts.skip.toList.map (fun n => ("skip", .ofUInt64 n)) ++ entries))))) outcome := by
  have hnumber : ∀ n : UInt64, Decodes (optional unsigned) (.ofUInt64 n) (.ok (some n)) :=
    fun n => decodes_optional (decodes_unsigned n) rfl
  have hvalue : ∀ v : Json, v.Plain ∧ v.nesting ≤ levels →
      Decodes (optional (Reader.value levels)) v (.ok (withoutNull (some v))) := by
    intro v hv
    have hpart : ∀ w ∈ some v, w.Plain ∧ w.nesting ≤ levels := by
      rintro _ ⟨⟩
      exact hv
    exact decodes_part hpart
  refine .cons (enters_field "collection" (Draft.mk · none none none none none)
    (decodes_string collection)) ?_
  refine fills_part (Draft.mk collection · none none none none) rfl
    (fun v hv => hvalue v (hparts v (CallParts.mem_values_of_filter hv))) ?_
  refine fills_part (Draft.mk collection _ · none none none) rfl
    (fun v hv => hvalue v (hparts v (CallParts.mem_values_of_projection hv))) ?_
  refine fills_part (Draft.mk collection _ _ · none none) rfl
    (fun n _ => hnumber n) ?_
  exact fills_part (Draft.mk collection _ _ _ · none) rfl (fun n _ => hnumber n) h

theorem decodes_callDocument {levels : Nat} (collection : String) {parts : CallParts}
    (hparts : parts.Plain levels) :
    Decodes (reader (levels + 1)) (parts.document collection)
      (((SortSpec.ofPart (withoutNull parts.sort)).map fun sort =>
        (parts.call collection sort).withoutNulls).mapError CallError.refusal) := by
  cases hsort : parts.sort with
  | none =>
    unfold CallParts.document
    rw [hsort]
    refine decodes_record (fills_parts collection hparts .nil) ?_
    exact congrArg (Except.mapError Fault.mismatch) (finish_ofParts collection parts none)
  | some v =>
    have henter := enters_field "sort" (Draft.ofParts collection parts)
      (decodes_sortPart (hparts v (CallParts.mem_values_of_sort hsort)))
    unfold CallParts.document
    rw [hsort]
    cases hspec : SortSpec.ofPart (withoutNull (some v)) with
    | error e =>
      rw [hspec] at henter
      exact decodes_record (fills_parts collection hparts (.fail henter)) rfl
    | ok sort =>
      rw [hspec] at henter
      refine decodes_record (fills_parts collection hparts (.cons henter .nil)) ?_
      exact congrArg (Except.mapError Fault.mismatch) (finish_ofParts collection parts (some sort))

/-- **What the text of a call document is read as.** -/
theorem parse_callDocument {collection text : String} {parts : CallParts}
    (hparts : parts.Plain 126) (htext : Holds text (parts.document collection)) :
    parse text = ((SortSpec.ofPart (withoutNull parts.sort)).map fun sort =>
      (parts.call collection sort).withoutNulls).mapError CallError.refusal :=
  run_of_holds (decodes_callDocument collection hparts) htext

end FindCall

end FindSelect
