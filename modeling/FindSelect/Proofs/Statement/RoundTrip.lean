import FindSelect.Proofs.Json.Records
import FindSelect.Session

/-!
# Statements read back

Around every operand of a written statement stand the record of the statement, the list of its
predicates and the record of the predicate. Of the 127 levels that a text may nest, 124 are left to
the operand.

* `decodes_column`, `decodes_operator`, `decodes_fieldList`, `decodes_sortKey`: the parts of a
  statement are read back;
* `decodes_predicate`, `decodes_statement`: predicates and statements are read back as their operands
  are;
* `Statement.parse_compact_eq_ok`: nothing but the operands can come back as something else;
* **`Statement.parse_compact_and_reload`**: the compact text of a statement gives the statement back,
  or is malformed where an operand is too deep, and a reload never changes a statement.
-/

namespace FindSelect

open Reader

/-! ## Parts of a statement -/

theorem decodes_column (levels : Nat) (c : Column) :
    Decodes (Column.reader (levels + 1)) c.toJson (.ok c) := by
  have hname : Enters (fieldValue "name" none string) (.string c.name) (.ok (some c.name)) :=
    ((decodes_string c.name).map some).enters
  exact decodes_record (.cons hname .nil) rfl

theorem decodes_operator (levels : Nat) (op : Operator) :
    Decodes (Operator.reader levels) op.toJson (.ok op) := by
  refine decodes_choice_bare levels (k := op) ?_ rfl
  rw [Operator.ofName?_name]

theorem decodes_fieldList (levels : Nat) (fields : FieldList) :
    Decodes (FieldList.reader (levels + 3)) fields.toJson (.ok fields) := by
  cases fields with
  | wildcard => exact decodes_choice_bare _ (k := FieldList.Form.wildcard) rfl rfl
  | only columns =>
    have hcolumns := decodes_listOf_ok Column.toJson fun c (_ : c ∈ columns) =>
      decodes_column levels c
    exact decodes_choice (k := FieldList.Form.only) rfl (hcolumns.map FieldList.only)

theorem decodes_sortKey (levels : Nat) (s : SortKey) :
    Decodes (SortKey.reader (levels + 1)) s.toJson (.ok s) := by
  have hkey := enters_field "key" (SortKey.Draft.mk · none) (decodes_string s.key)
  have hdirection := enters_field "direction" (SortKey.Draft.mk s.key) (decodes_signed s.direction)
  exact decodes_record (.cons hkey (.cons hdirection .nil)) rfl

/-! ## Predicates -/

theorem decodes_predicate (levels : Nat) {p : Predicate} {outcome : Except Fault Json}
    (h : Decodes (Reader.value (levels + 1)) p.value outcome) :
    Decodes (Predicate.reader (levels + 2)) p.toJson
      (outcome.map fun v => { p with value := v }) := by
  have hcolumn := enters_field "column" (Predicate.Draft.mk · none none)
    (decodes_column levels p.column)
  have hop := enters_field "op" (Predicate.Draft.mk p.column · none)
    (decodes_operator (levels + 1) p.op)
  have hvalue := enters_field "value" (Predicate.Draft.mk p.column p.op) h
  cases outcome with
  | ok v => exact decodes_record (.cons hcolumn (.cons hop (.cons hvalue .nil))) rfl
  | error fault => exact decodes_record (.cons hcolumn (.cons hop (.fail hvalue))) rfl

/-- A predicate, if its operand nests no deeper than allowed. -/
def Predicate.shallow (levels : Nat) (p : Predicate) : Except Fault Predicate :=
  if p.value.nesting ≤ levels then .ok p else .error .malformed

theorem mapM_shallow (levels : Nat) (ps : List Predicate) :
    ps.mapM (Predicate.shallow levels) =
      if ∀ p ∈ ps, p.value.nesting ≤ levels then .ok ps else .error .malformed :=
  mapM_ite ps

theorem decodes_plainPredicate (levels : Nat) {p : Predicate} (hp : p.value.Plain) :
    Decodes (Predicate.reader (levels + 2)) p.toJson (p.shallow (levels + 1)) := by
  have hpredicate := decodes_predicate levels (decodes_value hp)
  unfold Predicate.shallow
  unfold fits at hpredicate
  split_ifs at hpredicate ⊢
  · exact hpredicate
  · exact hpredicate

/-! ## Statements -/

theorem decodes_statement (levels : Nat) {s : Statement}
    {outcome : Predicate → Except Fault Predicate}
    (h : ∀ p ∈ s.predicates, Decodes (Predicate.reader (levels + 2)) p.toJson (outcome p)) :
    Decodes (Statement.reader (levels + 4)) s.toJson
      ((s.predicates.mapM outcome).map s.withPredicates) := by
  have htable := enters_field "table" (Statement.Draft.mk · none none none none none)
    (decodes_string s.table)
  have hfields := enters_field "fields" (Statement.Draft.mk s.table · none none none none)
    (decodes_fieldList levels s.fields)
  have hwhere := enters_field "where" (Statement.Draft.mk s.table s.fields · none none none)
    (decodes_listOf Predicate.toJson h)
  cases hps : s.predicates.mapM outcome with
  | error fault =>
    rw [hps] at hwhere
    exact decodes_record (.cons htable (.cons hfields (.fail hwhere))) rfl
  | ok ps =>
    rw [hps] at hwhere
    have hlimit := enters_field "limit" (Statement.Draft.mk s.table s.fields ps · none none)
      (decodes_ofOption decodes_unsigned (fun _ => rfl) s.limit)
    have hoffset := enters_field "offset"
      (Statement.Draft.mk s.table s.fields ps (some s.limit) · none)
      (decodes_ofOption decodes_unsigned (fun _ => rfl) s.offset)
    have hsorts := enters_field "sorts"
      (Statement.Draft.mk s.table s.fields ps (some s.limit) (some s.offset))
      (decodes_listOf_ok SortKey.toJson fun k (_ : k ∈ s.sorts) => decodes_sortKey (levels + 1) k)
    exact decodes_record
      (.cons htable (.cons hfields (.cons hwhere (.cons hlimit (.cons hoffset
        (.cons hsorts .nil))))))
      rfl

/-! ## The written statement -/

namespace Statement

/-- A statement, if the operands of its predicates nest no deeper than allowed. -/
def shallow (levels : Nat) (s : Statement) : Except Fault Statement :=
  if ∀ p ∈ s.predicates, p.value.nesting ≤ levels then .ok s else .error .malformed

theorem parse_of_holds {s : Statement} {text : String} (htext : Holds text s.toJson)
    (hs : ∀ p ∈ s.predicates, p.value.Plain) : parse text = s.shallow 124 := by
  have hparse : parse text = _ :=
    run_of_holds (decodes_statement 123 fun p hp => decodes_plainPredicate 123 (hs p hp)) htext
  rw [hparse, mapM_shallow, shallow]
  split_ifs
  · rfl
  · rfl

theorem parse_compact {s : Statement} (hs : ∀ p ∈ s.predicates, p.value.Plain) :
    parse s.compact = s.shallow 124 :=
  parse_of_holds (holds_compact s.toJson) hs

/-- A statement that is read back, with any operands, is the same but for its operands. -/
theorem parse_compact_eq_ok {s t : Statement} (h : parse s.compact = .ok t) :
    ∃ ps, t = s.withPredicates ps ∧
      (ps.map fun p => (p.column, p.op)) = s.predicates.map fun p => (p.column, p.op) := by
  -- each operand has some outcome, and nothing else of its predicate depends on it
  choose outcome houtcome using exists_decodes_value 124
  have hparse : parse s.compact = _ :=
    run_compact (decodes_statement 123 fun p _ => decodes_predicate 123 (houtcome p.value))
  rw [hparse] at h
  obtain ⟨ps, hps, rfl⟩ := map_eq_ok_iff.1 h
  refine ⟨ps, rfl, ?_⟩
  rw [← List.forall₂_eq_eq_eq, List.forall₂_map_left_iff, List.forall₂_map_right_iff]
  refine (mapM_eq_ok_iff.1 hps).flip.imp fun q p hq => ?_
  obtain ⟨v, -, rfl⟩ := map_eq_ok_iff.1 hq
  rfl

/-- **Statements read back.** Take a statement whose operands are written without floating-point
numbers and with distinct keys. When every operand nests at most 124 lists and documents, the
compact text of the statement gives the same statement back; when one of them nests more, the text
is malformed. So a reload never changes the statement. -/
theorem parse_compact_and_reload (s : Statement) (hs : ∀ p ∈ s.predicates, p.value.Plain) :
    ((∀ p ∈ s.predicates, p.value.nesting ≤ 124) → parse s.compact = .ok s) ∧
      ((∃ p ∈ s.predicates, 125 ≤ p.value.nesting) → parse s.compact = .error .malformed) ∧
      ∀ columns, Session.advance columns s .reload = s := by
  have hparse := parse_compact hs
  unfold shallow at hparse
  refine ⟨fun hshallow => ?_, fun ⟨p, hp, hdeep⟩ => ?_, fun columns => ?_⟩
  · rw [hparse, if_pos hshallow]
  · rw [hparse, if_neg]
    intro hshallow
    have := hshallow p hp
    omega
  · unfold Session.advance Step.apply
    rw [hparse]
    split_ifs
    · rfl
    · rfl

/-- A statement whose only operand is a document inside a number of lists. -/
def withOperandInLists (n : Nat) : Statement where
  table := "users"
  fields := .only [⟨"id"⟩, ⟨"tags"⟩]
  predicates := [⟨⟨"tags"⟩, .ne, (Json.document [("$gt", .string "a\"\n"), ("", .null)]).inLists n⟩]
  limit := some 18446744073709551615
  sorts := [⟨"id", -1⟩]

theorem parse_compact_and_reload_at_limit :
    parse (withOperandInLists 123).compact = .ok (withOperandInLists 123) ∧
      parse (withOperandInLists 124).compact = .error .malformed := by
  have hplain : ∀ n, ∀ p ∈ (withOperandInLists n).predicates, p.value.Plain := by
    intro n
    rw [withOperandInLists, List.forall_mem_singleton]
    refine Json.plain_inLists (Json.plain_document_iff.2 ⟨by decide, ?_⟩) n
    rw [List.forall_mem_cons, List.forall_mem_singleton]
    exact ⟨Json.plain_string _, Json.plain_null⟩
  refine ⟨(parse_compact_and_reload _ (hplain 123)).1 ?_,
    (parse_compact_and_reload _ (hplain 124)).2.1 ⟨_, List.mem_singleton_self _, ?_⟩⟩
  · rw [withOperandInLists, List.forall_mem_singleton, Json.nesting_inLists]
    decide
  · rw [Json.nesting_inLists]
    decide

end Statement

end FindSelect
