import FindSelect.Proofs.Call.Alike
import FindSelect.Proofs.Json.Results

/-!
# Operands of calls that were read

The operands of a statement stand inside the filter of its call. A filter that was read from a text
has distinct keys throughout, so the operands have them too.

* `distinctKeys_leaves`: the operands of a filter with distinct keys;
* `distinctKeys_predicates`: those of the statement of a call;
* **`distinctKeys_filter_of_parse`**: the filter of a call that was read has distinct keys.
-/

namespace FindSelect

/-! ## Operands of a filter -/

def Leaf.DistinctKeys : Leaf → Prop
  | .comparison _ _ v => v.DistinctKeys
  | .faulty _ => True

mutual

theorem distinctKeys_leavesUnder (key : String) :
    ∀ v : Json, v.DistinctKeys → ∀ l ∈ leavesUnder key v, l.DistinctKeys
  | .document entries, h => distinctKeys_entryLeaves (.column key) entries h.2
  | .null, h | .boolean _, h | .number _, h | .string _, h | .list _, h => by
    rintro l (_ | ⟨_, ⟨⟩⟩)
    exact h

theorem distinctKeys_entryLeaves (context : Context) :
    ∀ entries : List (String × Json), Json.DistinctKeysEntries entries →
      ∀ l ∈ entryLeaves context entries, l.DistinctKeys
  | [], _ => by
    rintro l ⟨⟩
  | (key, v) :: entries, h => by
    intro l hl
    rw [entryLeaves, List.mem_append] at hl
    rcases hl with hl | hl
    · cases htoken : Operator.ofToken? key with
      | some op =>
        rw [htoken, List.mem_singleton] at hl
        rw [hl]
        exact h.1
      | none =>
        rw [htoken] at hl
        exact distinctKeys_leavesUnder key v h.1 l hl
    · exact distinctKeys_entryLeaves context entries h.2 l hl

end

theorem distinctKeys_leaves (context : Context) {filter : Json} (h : filter.DistinctKeys) :
    ∀ l ∈ leaves context filter, l.DistinctKeys := by
  cases filter with
  | document entries => exact distinctKeys_entryLeaves context entries h.2
  | list items =>
    intro l hl
    obtain ⟨v, hv, hl⟩ := List.mem_flatMap.1 hl
    have hitem : v.DistinctKeys := Json.distinctKeysItems_iff.1 h v hv
    cases v with
    | document entries => exact distinctKeys_entryLeaves context entries hitem.2 l hl
    | _ =>
      rw [List.mem_singleton.1 hl]
      exact trivial
  | _ =>
    intro l hl
    rw [List.mem_singleton.1 hl]
    exact trivial

variable {columns : List Column}

theorem distinctKeys_decodeWhere {filter : Json} {ps : List Predicate} (h : filter.DistinctKeys)
    (hps : decodeWhere columns filter = .ok ps) : ∀ p ∈ ps, p.value.DistinctKeys := by
  rw [decodeWhere, result_flatten, mapM_judge_eq_ok_iff] at hps
  intro p hp
  have hleaf : p.leaf ∈ leaves .conjunction filter := by
    rw [hps.1]
    exact List.mem_map_of_mem hp
  exact distinctKeys_leaves .conjunction h p.leaf hleaf

theorem distinctKeys_predicates {call : FindCall} {s : Statement}
    (hfilter : ∀ v ∈ call.filter, v.DistinctKeys) (h : call.toStatement columns = .ok s) :
    ∀ p ∈ s.predicates, p.value.DistinctKeys := by
  obtain ⟨fields, ps, -, hps, rfl⟩ := toStatement_eq_ok_iff.1 h
  exact distinctKeys_decodeWhere (effectiveFilter_distinctKeys hfilter) hps

/-! ## Reading a call -/

open Reader

namespace FindCall

/-- What every field of a call keeps: the filter, once it is there, has distinct keys. -/
def Draft.DistinctKeys (draft : Draft) : Prop := ∀ part ∈ draft.filter, ∀ v ∈ part, v.DistinctKeys

theorem gives_filter (levels : Nat) :
    Gives (optional (Reader.value levels)) fun part => ∀ v ∈ part, v.DistinctKeys :=
  gives_optional (gives_value_distinctKeys levels)

theorem gives_field (levels : Nat) (key : String) {draft : Draft} (h : draft.DistinctKeys) :
    Gives (shape.field levels key draft) Draft.DistinctKeys := by
  unfold shape
  dsimp only
  split
  case h_2 =>
    refine (gives_fieldValue (gives_filter levels) _ _).bind fun part hpart => gives_pure ?_
    exact hpart
  case h_7 => exact gives_skipField h
  -- the other fields leave the filter as it is
  all_goals
    refine Gives.after (fun _ => gives_pure ?_) _
    exact h

theorem gives_ofList (levels : Nat) :
    Gives (shape.ofList levels) fun call => ∀ v ∈ call.filter, v.DistinctKeys := by
  refine Gives.after (fun collection => ?_) _
  refine (gives_optionalItem (gives_filter levels) 1 (by simp)).bind fun filter hfilter => ?_
  refine Gives.after (fun projection => ?_) _
  refine Gives.after (fun limit => ?_) _
  refine Gives.after (fun skip => ?_) _
  refine Gives.after (fun sort => ?_) _
  exact gives_pure hfilter

theorem distinctKeys_of_finish {draft : Draft} {call : FindCall} (h : draft.DistinctKeys)
    (hfinish : draft.finish = .ok call) : ∀ v ∈ call.filter, v.DistinctKeys := by
  obtain ⟨collection, -, hcall⟩ := bind_eq_ok_iff.1 hfinish
  cases hcall
  intro v hv
  have hfilter : draft.filter = some (some v) := Option.join_eq_some_iff.1 hv
  exact h (some v) hfilter v rfl

/-- **The filter of a call that was read has distinct keys**, however the call was written. -/
theorem distinctKeys_filter_of_parse {text : String} {call : FindCall}
    (h : parse text = .ok call) : ∀ v ∈ call.filter, v.DistinctKeys := by
  have hempty : Draft.DistinctKeys shape.empty := by
    rintro part ⟨⟩
  have hreader : Gives (reader maxNesting) fun call => ∀ v ∈ call.filter, v.DistinctKeys :=
    gives_record gives_ofList hempty (fun levels key _ => gives_field levels key)
      (fun _ _ => distinctKeys_of_finish) maxNesting
  exact hreader.run h

end FindCall

end FindSelect
