import FindSelect.Proofs.Statement.Literal

/-!
# Texts of statements

A name may spell a keyword, and a literal may contain whole clauses. Still the text of a statement
can be taken apart in one way only: a name ends at its first blank or comma, a literal where its
quotes and brackets close, and every clause that may follow has a lead of its own.

* `IsWord`, `Statement.Legible`: names of letters, digits and underscores, and literals that show
  their value;
* `determines_predicate`, `determines_fieldList`, `determines_sortKey`: the parts of a statement;
* **`Statement.sql_eq_iff`**: two statements have one text exactly when they differ in nothing but
  the size of the directions in which they sort.
-/

namespace FindSelect

open Reader Text

/-! ## Names and numbers -/

/-- A letter, a digit or an underscore. -/
def isWordChar (c : Char) : Bool := c.isAlphanum || c == '_'

/-- One or more letters, digits and underscores. -/
structure IsWord (s : String) : Prop where
  nonempty : s ≠ ""
  chars : ∀ c ∈ s.toList, isWordChar c = true

instance (s : String) : Decidable (IsWord s) :=
  decidable_of_iff (s ≠ "" ∧ s.toList.all isWordChar = true)
    ⟨fun h => ⟨h.1, List.all_eq_true.1 h.2⟩, fun h => ⟨h.nonempty, List.all_eq_true.2 h.chars⟩⟩

theorem determines_word : Determines String.toList id IsWord (Stopped isWordChar) :=
  (determines_span fun _ hs => hs.chars).of_view fun _ _ _ _ h => String.toList_inj.1 h

theorem determines_naturalText :
    Determines (fun n => (naturalText n).toList) id (fun _ => True) (Stopped Char.isDigit) := by
  have hdigits (n : UInt64) : (naturalText n).toList = Nat.toDigits 10 n.toNat :=
    String.toList_ofList
  refine (determines_span ?_).of_view ?_
  · intro n _ c hc
    rw [hdigits] at hc
    exact Nat.isDigit_of_mem_toDigits (by decide) (by decide) hc
  · intro n m _ _ h
    rw [hdigits, hdigits] at h
    have hvalue := congrArg (Nat.ofDigitChars 10 · 0) h
    simp only [Nat.ofDigitChars_ten_toDigits] at hvalue
    exact UInt64.toNat_inj.1 hvalue

/-! ## Predicates -/

theorem determines_symbol :
    Determines (fun op : Operator => op.symbol.toList) id (fun _ => True) (Stopped (· != ' ')) := by
  refine (determines_span ?_).of_view ?_
  · intro op _
    refine List.all_eq_true.1 ?_
    cases op <;> rfl
  · intro op op' _ _ h
    cases op <;> cases op' <;> first | rfl | exact absurd h (by decide)

/-- A predicate whose column is a word and whose literal shows its value. -/
structure Predicate.Legible (p : Predicate) : Prop where
  column : IsWord p.column.name
  value : p.value.Legible

theorem determines_predicate :
    Determines (fun p : Predicate => p.sql.toList) id Predicate.Legible Ended := by
  intro p q hp hq r s hr hs heq
  have htext (p : Predicate) (r : List Char) :
      p.sql.toList ++ r =
        p.column.name.toList ++ ' ' :: (p.op.symbol.toList ++ ' ' :: (p.value.sql.toList ++ r)) := by
    simp [Predicate.sql]
  rw [htext, htext] at heq
  -- a blank ends the column, another one the operator, and the literal tells its own end
  obtain ⟨hname, heq⟩ :=
    determines_word hp.column hq.column (stopped_cons rfl _) (stopped_cons rfl _) heq
  obtain ⟨hop, heq⟩ := determines_symbol trivial trivial (stopped_cons rfl _) (stopped_cons rfl _)
    (List.cons.inj heq).2
  obtain ⟨hvalue, hrs⟩ := Json.determines_sql hp.value hq.value hr hs (List.cons.inj heq).2
  obtain ⟨⟨name⟩, op, v⟩ := p
  obtain ⟨⟨name'⟩, op', v'⟩ := q
  cases hname
  cases hop
  cases hvalue
  exact ⟨rfl, hrs⟩

/-! ## Columns -/

/-- The words between the commas of a list of columns. -/
def FieldList.words : FieldList → List String
  | .wildcard => ["*"]
  | .only columns => columns.map Column.name

/-- All listed columns are words. -/
def FieldList.Legible (fields : FieldList) : Prop :=
  ∀ columns ∈ fields.columns?, ∀ c ∈ columns, IsWord c.name

theorem FieldList.words_inj {fields fields' : FieldList} (h : fields.Legible) (h' : fields'.Legible)
    (heq : fields.words = fields'.words) : fields = fields' := by
  -- a star is no word
  have hstar {columns : List Column} (hcolumns : (FieldList.only columns).Legible) :
      ["*"] ≠ columns.map Column.name := by
    intro hwords
    have hmem : "*" ∈ columns.map Column.name := by
      rw [← hwords]
      exact List.mem_singleton_self "*"
    obtain ⟨c, hc, hname⟩ := List.mem_map.1 hmem
    have hword : IsWord c.name := hcolumns columns rfl c hc
    rw [hname] at hword
    exact absurd hword (by decide)
  cases fields with
  | wildcard =>
    cases fields' with
    | wildcard => rfl
    | only columns' => exact absurd heq (hstar h')
  | only columns =>
    cases fields' with
    | wildcard => exact absurd heq.symm (hstar h)
    | only columns' =>
      have hname : Function.Injective Column.name := by
        rintro ⟨name⟩ ⟨name'⟩ rfl
        rfl
      exact congrArg FieldList.only (hname.list_map heq)

/-- The characters that a list of columns can have between its commas. -/
def isFieldChar (c : Char) : Bool := isWordChar c || c == '*'

/-- An entry of a list of columns: not empty, and without the blank and the comma that end it. -/
structure IsField (w : String) : Prop where
  nonempty : w.toList ≠ []
  chars : ∀ c ∈ w.toList, isFieldChar c = true

theorem FieldList.Legible.isField {fields : FieldList} (h : fields.Legible) :
    ∀ w ∈ fields.words, IsField w := by
  intro w hw
  cases fields with
  | wildcard =>
    rw [List.mem_singleton.1 hw]
    exact ⟨by decide, List.all_eq_true.1 rfl⟩
  | only columns =>
    obtain ⟨c, hc, rfl⟩ := List.mem_map.1 hw
    have hword : IsWord c.name := h columns rfl c hc
    refine ⟨by simpa using hword.nonempty, fun d hd => ?_⟩
    rw [isFieldChar, hword.chars d hd, Bool.true_or]

theorem FieldList.toList_sql (fields : FieldList) :
    fields.sql.toList = rowClause [] [',', ' '] String.toList fields.words := by
  unfold FieldList.sql rowClause whenPresent
  cases fields with
  | wildcard => rfl
  | only columns =>
    cases columns with
    | nil => rfl
    | cons c columns => simp [words, String.toList_intercalate]

theorem determines_fieldList :
    Determines (fun f : FieldList => f.sql.toList) id FieldList.Legible
      (fun r => ∃ cs, r = ' ' :: cs) := by
  have hword : Determines String.toList id IsField (Stopped isFieldChar) :=
    (determines_span fun _ hw => hw.chars).of_view fun _ _ _ _ h => String.toList_inj.1 h
  have hsep (cs : List Char) : Stopped isFieldChar ([',', ' '] ++ cs) := stopped_cons rfl _
  have hrow : Determines (rowClause [] [',', ' '] String.toList) (List.map id)
      (∀ w ∈ ·, IsField w) (fun r => ∃ cs, r = ' ' :: cs) := by
    refine (hword.rowClause [] hsep).before ?_
    rintro r ⟨cs, rfl⟩
    refine ⟨stopped_cons rfl cs, by simp, fun w hw hpre => ?_⟩
    obtain ⟨c, w', hcs⟩ := List.exists_cons_of_ne_nil hw.nonempty
    have hc : isFieldChar c = true := hw.chars c (by simp [hcs])
    rw [List.nil_append, hcs, List.cons_prefix_cons] at hpre
    rw [hpre.1] at hc
    exact absurd hc (by decide)
  intro f g hf hg r s hr hs heq
  dsimp only at heq
  rw [f.toList_sql, g.toList_sql] at heq
  obtain ⟨hwords, hrs⟩ := hrow hf.isField hg.isField hr hs heq
  rw [List.map_id, List.map_id] at hwords
  exact ⟨FieldList.words_inj hf hg hwords, hrs⟩

/-! ## Sort keys -/

theorem determines_direction :
    Determines (fun ascending : Bool => (if ascending then "ASC" else "DESC").toList) id
      (fun _ => True) (fun _ => True) := by
  intro a b _ _ r s _ _ heq
  -- the two words part at their first letter
  cases a <;> cases b <;> simp at heq <;> exact ⟨rfl, heq⟩

theorem determines_sortKey :
    Determines (fun k : SortKey => k.sql.toList) (fun k => (k.key, k.isAscending))
      (fun k => IsWord k.key) (fun _ => True) := by
  intro k l hk hl r s _ _ heq
  have htext (k : SortKey) (r : List Char) :
      k.sql.toList ++ r =
        k.key.toList ++ ' ' :: ((if k.isAscending then "ASC" else "DESC").toList ++ r) := by
    unfold SortKey.sql
    split_ifs <;> simp
  rw [htext, htext] at heq
  obtain ⟨hkey, heq⟩ := determines_word hk hl (stopped_cons rfl _) (stopped_cons rfl _) heq
  obtain ⟨hascending, hrs⟩ :=
    determines_direction trivial trivial trivial trivial (List.cons.inj heq).2
  exact ⟨Prod.ext hkey hascending, hrs⟩

/-! ## Clauses -/

namespace Statement

theorem toList_whereClause (ps : List Predicate) :
    (whereClause ps).toList = rowClause (' ' :: "WHERE ".toList) (' ' :: "AND ".toList)
      (fun p => p.sql.toList) ps := by
  unfold whereClause rowClause whenPresent
  cases ps with
  | nil => rfl
  | cons p ps => simp [String.toList_intercalate, Function.comp_def]

theorem toList_orderClause (keys : List SortKey) :
    (orderClause keys).toList = rowClause (' ' :: "ORDER BY ".toList) [',', ' ']
      (fun k => k.sql.toList) keys := by
  unfold orderClause rowClause whenPresent
  cases keys with
  | nil => rfl
  | cons k keys => simp [String.toList_intercalate, Function.comp_def]

theorem toList_limitClause (limit : Option UInt64) :
    (limitClause limit).toList =
      partClause (' ' :: "LIMIT ".toList) (fun n => (naturalText n).toList) limit := by
  unfold limitClause partClause whenPresent
  cases limit with
  | none => rfl
  | some n => simp

theorem toList_offsetClause (offset : Option UInt64) :
    (offsetClause offset).toList =
      partClause (' ' :: "OFFSET ".toList) (fun n => (naturalText n).toList) offset := by
  unfold offsetClause partClause whenPresent
  cases offset with
  | none => rfl
  | some n => simp

/-- What stands behind the name of the table. -/
def clauses (s : Statement) : List Char :=
  (whereClause s.predicates).toList ++ ((orderClause s.sorts).toList ++
    ((limitClause s.limit).toList ++ (offsetClause s.offset).toList))

theorem toList_sql (s : Statement) :
    s.sql.toList = "SELECT ".toList ++ (s.fields.sql.toList ++
      (' ' :: ("FROM ".toList ++ (s.table.toList ++ s.clauses)))) := by
  simp [sql, clauses]

/-! ### What can follow a clause -/

theorem goesOn_offsetClause (offset : Option UInt64) :
    GoesOn ["OFFSET "] (offsetClause offset).toList := by
  have h := (goesOn_nil []).whenPresent "OFFSET " Option.isSome
    (fun o => o.elim [] fun n => (naturalText n).toList) offset
  rw [List.append_nil] at h
  rw [toList_offsetClause]
  exact h

theorem goesOn_limitClause (limit offset : Option UInt64) :
    GoesOn ["LIMIT ", "OFFSET "] ((limitClause limit).toList ++ (offsetClause offset).toList) := by
  rw [toList_limitClause]
  exact (goesOn_offsetClause offset).whenPresent "LIMIT " _ _ limit

theorem goesOn_orderClause (keys : List SortKey) (limit offset : Option UInt64) :
    GoesOn ["ORDER BY ", "LIMIT ", "OFFSET "] ((orderClause keys).toList ++
      ((limitClause limit).toList ++ (offsetClause offset).toList)) := by
  rw [toList_orderClause]
  exact (goesOn_limitClause limit offset).whenPresent "ORDER BY " _ _ keys

theorem goesOn_clauses (s : Statement) :
    GoesOn ["WHERE ", "ORDER BY ", "LIMIT ", "OFFSET "] s.clauses := by
  unfold clauses
  rw [toList_whereClause]
  exact (goesOn_orderClause s.sorts s.limit s.offset).whenPresent "WHERE " _ _ s.predicates

/-! ### What a clause tells -/

theorem determines_numberClause {w : String} {words : List String}
    (hw : ∀ w' ∈ words, ¬ w.toList <+: w'.toList ∧ ¬ w'.toList <+: w.toList) :
    Determines (partClause (' ' :: w.toList) fun n => (naturalText n).toList) id (fun _ => True)
      (GoesOn words) := by
  refine (((determines_naturalText.partClause (' ' :: w.toList)).before ?_).on ?_).of_view ?_
  · intro r hr
    exact ⟨hr.stopped rfl, hr.not_prefix hw⟩
  · intro o _ n _
    trivial
  · intro o o' _ _ h
    rwa [Option.map_id] at h

theorem determines_orderClause :
    Determines (fun keys => (orderClause keys).toList)
      (List.map fun k => (k.key, k.isAscending)) (∀ k ∈ ·, IsWord k.key)
      (GoesOn ["LIMIT ", "OFFSET "]) := by
  simp only [toList_orderClause]
  refine (determines_sortKey.rowClause _ fun _ => trivial).before ?_
  intro r hr
  have hlead : ¬ ' ' :: "ORDER BY ".toList <+: r := hr.not_prefix (by decide)
  refine ⟨trivial, fun hpre => ?_, fun _ _ hpre => hlead ((List.prefix_append _ _).trans hpre)⟩
  obtain ⟨cs, rfl⟩ := hpre
  exact absurd (hr.head ',' rfl) (by decide)

theorem determines_whereClause :
    Determines (fun ps => (whereClause ps).toList) id (∀ p ∈ ·, p.Legible)
      (GoesOn ["ORDER BY ", "LIMIT ", "OFFSET "]) := by
  simp only [toList_whereClause]
  have hsep (cs : List Char) : Ended (' ' :: "AND ".toList ++ cs) := by
    rintro c ⟨⟩
    exact .inl rfl
  refine ((determines_predicate.rowClause _ hsep).before ?_).of_view ?_
  · intro r hr
    have hlead : ¬ ' ' :: "WHERE ".toList <+: r := hr.not_prefix (by decide)
    refine ⟨fun c hc => .inl ?_, hr.not_prefix (by decide),
      fun _ _ hpre => hlead ((List.prefix_append _ _).trans hpre)⟩
    rw [hr.head c hc]
    rfl
  · intro ps qs _ _ h
    rwa [List.map_id, List.map_id] at h

/-! ## Statements -/

/-- The table, the columns and the sort keys of a statement are words, and its literals show their
values. -/
structure Legible (s : Statement) : Prop where
  table : IsWord s.table
  fields : s.fields.Legible
  predicates : ∀ p ∈ s.predicates, p.Legible
  sorts : ∀ k ∈ s.sorts, IsWord k.key

theorem eq_of_clauses_eq {s t : Statement} (hs : s.Legible) (ht : t.Legible)
    (h : s.clauses = t.clauses) :
    s.predicates = t.predicates ∧
      s.sorts.map (fun k => (k.key, k.isAscending)) =
        t.sorts.map (fun k => (k.key, k.isAscending)) ∧
      s.limit = t.limit ∧ s.offset = t.offset := by
  unfold clauses at h
  -- each clause is told apart from those that may still follow it
  obtain ⟨hpredicates, h⟩ := determines_whereClause hs.predicates ht.predicates
    (goesOn_orderClause ..) (goesOn_orderClause ..) h
  obtain ⟨hsorts, h⟩ := determines_orderClause hs.sorts ht.sorts
    (goesOn_limitClause ..) (goesOn_limitClause ..) h
  rw [toList_limitClause, toList_limitClause] at h
  obtain ⟨hlimit, h⟩ := determines_numberClause (by decide) trivial trivial
    (goesOn_offsetClause _) (goesOn_offsetClause _) h
  -- behind the last one there is nothing
  rw [toList_offsetClause, toList_offsetClause, ← List.append_nil (partClause _ _ s.offset),
    ← List.append_nil (partClause _ _ t.offset)] at h
  obtain ⟨hoffset, -⟩ := determines_numberClause (by decide) trivial trivial
    (goesOn_nil []) (goesOn_nil []) h
  exact ⟨hpredicates, hsorts, hlimit, hoffset⟩

/-- The clause of the order shows of each direction only whether it ascends. -/
theorem orderClause_congr {keys keys' : List SortKey}
    (h : keys.map (fun k => (k.key, k.isAscending)) =
      keys'.map (fun k => (k.key, k.isAscending))) :
    orderClause keys = orderClause keys' := by
  have htext : SortKey.sql = (fun p : String × Bool => p.1 ++ (if p.2 then " ASC" else " DESC")) ∘
      fun k => (k.key, k.isAscending) := rfl
  have hsql : keys.map SortKey.sql = keys'.map SortKey.sql := by
    rw [htext, ← List.map_map, ← List.map_map, h]
  have hempty : keys.isEmpty = keys'.isEmpty := by
    rw [← List.isEmpty_map (f := SortKey.sql), hsql, List.isEmpty_map]
  unfold orderClause
  rw [hsql, hempty]

/-- **The text of a statement is unambiguous.** -/
theorem sql_eq_iff {s t : Statement} (hs : s.Legible) (ht : t.Legible) :
    s.sql = t.sql ↔
      s.table = t.table ∧ s.fields = t.fields ∧ s.predicates = t.predicates ∧
        s.limit = t.limit ∧ s.offset = t.offset ∧
        s.sorts.map (fun k => (k.key, k.isAscending)) =
          t.sorts.map (fun k => (k.key, k.isAscending)) := by
  constructor
  · intro h
    have htext : s.sql.toList = t.sql.toList := congrArg String.toList h
    rw [toList_sql, toList_sql] at htext
    obtain ⟨hfields, htext⟩ := determines_fieldList hs.fields ht.fields ⟨_, rfl⟩ ⟨_, rfl⟩
      (List.append_cancel_left htext)
    obtain ⟨htable, hclauses⟩ := determines_word hs.table ht.table
      ((goesOn_clauses s).stopped (by decide)) ((goesOn_clauses t).stopped (by decide))
      (List.append_cancel_left (List.cons.inj htext).2)
    obtain ⟨hpredicates, hsorts, hlimit, hoffset⟩ := eq_of_clauses_eq hs ht hclauses
    exact ⟨htable, hfields, hpredicates, hlimit, hoffset, hsorts⟩
  · rintro ⟨htable, hfields, hpredicates, hlimit, hoffset, hsorts⟩
    unfold sql
    rw [htable, hfields, hpredicates, hlimit, hoffset, orderClause_congr hsorts]

/-- Names that are keywords, and operands that contain clauses. Only the size of a direction is not
shown. -/
theorem sql_eq_iff_keywords :
    let p : Predicate :=
      ⟨⟨"LIMIT"⟩, .ne, .document [("k", .list [.string "' ORDER BY a", .null])]⟩
    let s : Statement :=
      { table := "FROM"
        fields := .only [⟨"AND"⟩, ⟨"WHERE"⟩]
        predicates := [⟨⟨"a"⟩, .eq, .string "1 AND b = 2"⟩, p]
        limit := some 1
        sorts := [⟨"DESC", 1⟩] }
    let t : Statement := { s with sorts := [⟨"DESC", 5⟩] }
    let u : Statement :=
      { s with predicates := [⟨⟨"a"⟩, .eq, .string "1"⟩, ⟨⟨"b"⟩, .eq, .ofUInt64 2⟩, p] }
    s.Legible ∧ t.Legible ∧ u.Legible ∧ s.sql = t.sql ∧ s.sql ≠ u.sql := by
  intro p s t u
  have hp : p.Legible := by
    refine ⟨by decide, ?_, nofun⟩
    simp [p, Json.plain_document_iff, Json.plain_list_iff, Json.plain_string, Json.plain_null]
  have hstring {text : String} (h : '\'' ∉ text.toList) :
      Predicate.Legible ⟨⟨"a"⟩, .eq, .string text⟩ := by
    have ha : IsWord "a" := by decide
    refine ⟨ha, Json.plain_string text, ?_⟩
    rintro _ ⟨⟩
    exact h
  have hfields : s.fields.Legible := by
    rintro columns ⟨⟩
    decide
  have hpredicates : ∀ q ∈ s.predicates, q.Legible :=
    List.forall_mem_cons.2 ⟨hstring (by decide), List.forall_mem_singleton.2 hp⟩
  have hpredicates' : ∀ q ∈ u.predicates, q.Legible := by
    have hnumber : Predicate.Legible ⟨⟨"b"⟩, .eq, .ofUInt64 2⟩ :=
      ⟨by decide, ⟨trivial, trivial⟩, nofun⟩
    exact List.forall_mem_cons.2 ⟨hstring (by decide),
      List.forall_mem_cons.2 ⟨hnumber, List.forall_mem_singleton.2 hp⟩⟩
  have hs : s.Legible := ⟨by decide, hfields, hpredicates, by decide⟩
  have ht : t.Legible := ⟨by decide, hfields, hpredicates, by decide⟩
  have hu : u.Legible := ⟨by decide, hfields, hpredicates', by decide⟩
  refine ⟨hs, ht, hu, (sql_eq_iff hs ht).2 ⟨rfl, rfl, rfl, rfl, rfl, by decide⟩, fun h => ?_⟩
  have hsame : s.predicates = u.predicates := ((sql_eq_iff hs hu).1 h).2.2.1
  exact absurd (congrArg List.length hsame) (by decide)

end Statement

end FindSelect
