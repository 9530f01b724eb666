import FindSelect.Proofs.Filter.Leaves
import FindSelect.Proofs.Json.Alike

/-!
# Filters that are alike

A filter that differs from another only in the order of the entries of documents asks for the same
predicates, in another order. When both fail, the first error may be about another column, but it is
of the same kind: a document fails in one way only, and the items of a list keep their order.

* `rearranged_entryLeaves`: the leaves of documents that are alike;
* `agree_judge_of_alike`: leaves that are alike are judged alike;
* **`agree_decodeWhere_of_alike`**: filters that are alike give the same predicates in another order,
  or errors of one kind.
-/

namespace FindSelect

/-! ## Leaves -/

/-- Leaves that differ only in the order of entries inside an operand. What a faulty leaf was made
of does not matter. -/
inductive Leaf.Alike : Leaf → Leaf → Prop
  | comparison {context : Context} {op : Operator} {v w : Json} : v.alike w = true →
      Leaf.Alike (.comparison context op v) (.comparison context op w)
  | faulty (fault fault' : FilterFault) : Leaf.Alike (.faulty fault) (.faulty fault')

theorem not_document_of_alike {v w : Json} (h : v.alike w = true) (hv : ∀ es, v ≠ .document es) :
    ∀ fs, w ≠ .document fs := by
  rintro fs rfl
  cases v with
  | document es => exact hv es rfl
  | _ => cases h

theorem leavesUnder_of_not_document (key : String) {v : Json} (hv : ∀ es, v ≠ .document es) :
    leavesUnder key v = [.comparison (.column key) .eq v] := by
  cases v with
  | document es => exact absurd rfl (hv es)
  | _ => rfl

theorem rearranged_leavesUnder_of_not_document (key : String) {v w : Json}
    (hv : ∀ es, v ≠ .document es) (h : v.alike w = true) :
    Rearranged Leaf.Alike (leavesUnder key v) (leavesUnder key w) := by
  rw [leavesUnder_of_not_document key hv,
    leavesUnder_of_not_document key (not_document_of_alike h hv)]
  exact rearranged_of_forall₂ (.cons (.comparison h) .nil)

theorem perm_entryLeaves (context : Context) {es fs : List (String × Json)} (h : es.Perm fs) :
    (entryLeaves context es).Perm (entryLeaves context fs) := by
  induction h with
  | nil => exact .refl _
  | cons e _ ih =>
    obtain ⟨key, v⟩ := e
    rw [entryLeaves, entryLeaves]
    exact ih.append_left _
  | swap e f es =>
    obtain ⟨key, v⟩ := e
    obtain ⟨key', w⟩ := f
    simp only [entryLeaves]
    exact List.perm_append_comm_assoc _ _ _
  | trans _ _ ih ih' => exact ih.trans ih'

mutual

theorem rearranged_leavesUnder (key : String) :
    ∀ v w : Json, v.DistinctKeys → v.alike w = true →
      Rearranged Leaf.Alike (leavesUnder key v) (leavesUnder key w)
  | .document es, w, hv, h => by
    cases w with
    | document fs =>
      obtain ⟨gs, hgs, hperm⟩ := Json.rearranged_of_alike hv.1 h
      have hleaves := rearranged_entryLeaves (.column key) es gs hv.2 hgs
      exact hleaves.trans_perm (perm_entryLeaves (.column key) hperm)
    | _ => cases h
  | .null, _, _, h | .boolean _, _, _, h | .number _, _, _, h | .string _, _, _, h
  | .list _, _, _, h => rearranged_leavesUnder_of_not_document key nofun h

theorem rearranged_entryLeaves (context : Context) :
    ∀ es gs : List (String × Json), Json.DistinctKeysEntries es →
      List.Forall₂ Json.EntryAlike es gs →
      Rearranged Leaf.Alike (entryLeaves context es) (entryLeaves context gs)
  | [], gs, _, h => by
    cases h
    exact rearranged_of_forall₂ .nil
  | (key, v) :: es, gs, hes, h => by
    cases h with
    | @cons _ g _ gs he hrest =>
      obtain ⟨key', w⟩ := g
      obtain ⟨rfl, halike⟩ := he
      rw [entryLeaves, entryLeaves]
      refine Rearranged.append ?_ (rearranged_entryLeaves context es gs hes.2 hrest)
      cases Operator.ofToken? key with
      | some op => exact rearranged_of_forall₂ (.cons (.comparison halike) .nil)
      | none => exact rearranged_leavesUnder key v w hes.1 halike

end

/-! ## Judging -/

/-- Errors of one kind. -/
def CallError.SameKind (e e' : CallError) : Prop := e.kind = e'.kind

/-- Predicates that differ only in the order of entries inside their operands. -/
def Predicate.Alike (p q : Predicate) : Prop := p.alike q = true

theorem agree_judge_of_alike (columns : List Column) {l m : Leaf} (h : l.Alike m) :
    Agree Predicate.Alike CallError.SameKind (l.judge columns) (m.judge columns) := by
  cases h with
  | faulty fault fault' => exact .error rfl
  | @comparison context op v w halike =>
    cases context with
    | conjunction => exact .error rfl
    | column name =>
      rw [Leaf.judge, Leaf.judge]
      by_cases hmem : ⟨name⟩ ∈ columns
      · rw [if_pos hmem, if_pos hmem]
        refine .ok ?_
        simp [Predicate.Alike, Predicate.alike, halike]
      · rw [if_neg hmem, if_neg hmem]
        exact .error rfl

theorem ne_faulty_of_mem_entryLeaves (context : Context) (entries : Entries) :
    ∀ l ∈ entryLeaves context entries, ∀ fault, l ≠ .faulty fault :=
  forall_mem_entryLeaves (fun _ _ _ _ => nofun) (fun _ _ => nofun) entries

theorem kind_of_judge_eq_error {columns : List Column} {l : Leaf} {e : CallError}
    (hl : ∀ fault, l ≠ .faulty fault) (h : l.judge columns = .error e) :
    e.kind = .unknownColumn := by
  cases l with
  | faulty fault => exact absurd rfl (hl fault)
  | comparison context op v =>
    cases context with
    | conjunction => cases h; rfl
    | column name =>
      rw [Leaf.judge] at h
      split_ifs at h
      cases h
      rfl

/-! ## Filters -/

variable (columns : List Column)

/-- Documents that are alike: the errors of their leaves are all of one kind, so it does not matter
which is met first. -/
theorem agree_mapM_judge_entryLeaves (context : Context) {es fs : Entries}
    (hes : (Json.document es).DistinctKeys)
    (h : (Json.document es).alike (.document fs) = true) :
    Agree (Rearranged Predicate.Alike) CallError.SameKind
      ((entryLeaves context es).mapM (Leaf.judge columns))
      ((entryLeaves context fs).mapM (Leaf.judge columns)) := by
  obtain ⟨gs, hgs, hperm⟩ := Json.rearranged_of_alike hes.1 h
  have hleaves : Rearranged Leaf.Alike (entryLeaves context es) (entryLeaves context fs) :=
    (rearranged_entryLeaves context es gs hes.2 hgs).trans_perm (perm_entryLeaves context hperm)
  refine agree_mapM_rearranged hleaves (fun l m hlm => agree_judge_of_alike columns hlm) ?_
  intro l hl m hm e e' he he'
  have hkind := kind_of_judge_eq_error (ne_faulty_of_mem_entryLeaves context es l hl) he
  have hkind' := kind_of_judge_eq_error (ne_faulty_of_mem_entryLeaves context fs m hm) he'
  exact hkind.trans hkind'.symm

theorem agree_mapM_judge_itemLeaves (context : Context) {v w : Json} (hv : v.DistinctKeys)
    (h : v.alike w = true) :
    Agree (Rearranged Predicate.Alike) CallError.SameKind
      ((itemLeaves context v).mapM (Leaf.judge columns))
      ((itemLeaves context w).mapM (Leaf.judge columns)) := by
  by_cases hdoc : ∃ es, v = .document es
  · obtain ⟨es, rfl⟩ := hdoc
    cases w with
    | document fs => exact agree_mapM_judge_entryLeaves columns context hv h
    | _ => cases h
  · -- no document in either place
    have hv' : ∀ es, v ≠ .document es := fun es hes => hdoc ⟨es, hes⟩
    have hw' := not_document_of_alike h hv'
    have hfaulty : ∀ u : Json, (∀ es, u ≠ .document es) →
        (itemLeaves context u).mapM (Leaf.judge columns) =
          .error (.invalidFilter (.itemNotDocument u)) := by
      intro u hu
      cases u with
      | document es => exact absurd rfl (hu es)
      | _ => rfl
    rw [hfaulty v hv', hfaulty w hw']
    exact .error rfl

theorem agree_mapM_judge_items (context : Context) {xs ys : List Json}
    (hxs : ∀ v ∈ xs, v.DistinctKeys) (h : List.Forall₂ (fun v w => v.alike w = true) xs ys) :
    Agree (Rearranged Predicate.Alike) CallError.SameKind
      ((xs.flatMap (itemLeaves context)).mapM (Leaf.judge columns))
      ((ys.flatMap (itemLeaves context)).mapM (Leaf.judge columns)) := by
  induction h with
  | nil => exact .ok (rearranged_of_forall₂ .nil)
  | cons hvw _ ih =>
    rw [List.forall_mem_cons] at hxs
    rw [List.flatMap_cons, List.flatMap_cons, List.mapM_append, List.mapM_append]
    refine (agree_mapM_judge_itemLeaves columns context hxs.1 hvw).bind fun ps qs hpq => ?_
    refine (ih hxs.2).bind fun ps' qs' hpq' => ?_
    exact .ok (hpq.append hpq')

/-- **Filters that are alike** give the same predicates in another order, or errors of one kind. -/
theorem agree_decodeWhere_of_alike {f g : Json} (hf : f.DistinctKeys) (h : f.alike g = true) :
    Agree (Rearranged Predicate.Alike) CallError.SameKind
      (decodeWhere columns f) (decodeWhere columns g) := by
  rw [decodeWhere, decodeWhere, result_flatten, result_flatten]
  cases f with
  | document es =>
    cases g with
    | document fs => exact agree_mapM_judge_entryLeaves columns .conjunction hf h
    | _ => cases h
  | list xs =>
    cases g with
    | list ys =>
      exact agree_mapM_judge_items columns .conjunction (Json.distinctKeysItems_iff.1 hf)
        (Json.alikeItems_iff.1 h)
    | _ => cases h
  | _ =>
    cases g with
    | document fs => cases h
    | list ys => cases h
    | _ => exact .error rfl

end FindSelect
