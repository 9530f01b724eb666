import FindSelect.Proofs.Statement.Unambiguous

/-!
# Strings between quotes

A string literal goes from a single quote to the next one that is not doubled, and a doubled one
stands for one quote. A string is shown between single quotes just as it is, so it is read back
exactly when there is no single quote in it. One whose quotes are all doubled already is read as the
string with half of them; any other one ends too early or too late, and what should follow the
literal is no longer what follows it.

* `readQuoted`, `readStringLiteral`: the reader of string literals;
* `doubleQuotes`, `readQuoted_eq_some_iff`: the texts that are read as a string;
* `Statement.exists_place`: the place of a value in the text of a statement;
* **`readStringLiteral_sql_iff`**: the strings that are read back;
* `readStringLiteral_sql_cut`: one that is cut short.
-/

namespace FindSelect

open Text

/-! ## Reading -/

/-- Reads the rest of a string literal, up to the first single quote that is not doubled. -/
def readQuoted : List Char → Option (List Char × List Char)
  | [] => none
  | '\'' :: '\'' :: cs => (readQuoted cs).map fun p => ('\'' :: p.1, p.2)
  | '\'' :: cs => some ([], cs)
  | c :: cs => (readQuoted cs).map fun p => (c :: p.1, p.2)

/-- Reads a string literal: the string, and what follows the literal. -/
def readStringLiteral : List Char → Option (String × List Char)
  | '\'' :: cs => (readQuoted cs).map fun p => (String.ofList p.1, p.2)
  | _ => none

/-- The characters with every single quote doubled. -/
def doubleQuotes (cs : List Char) : List Char :=
  cs.flatMap fun c => if c = '\'' then ['\'', '\''] else [c]

/-- The text does not go on with a single quote. -/
def Unquoted (rest : List Char) : Prop := rest.head? ≠ some '\''

instance (rest : List Char) : Decidable (Unquoted rest) :=
  inferInstanceAs (Decidable (rest.head? ≠ some '\''))

theorem doubleQuotes_cons_quote (cs : List Char) :
    doubleQuotes ('\'' :: cs) = '\'' :: '\'' :: doubleQuotes cs := rfl

theorem doubleQuotes_cons {c : Char} (hc : c ≠ '\'') (cs : List Char) :
    doubleQuotes (c :: cs) = c :: doubleQuotes cs := by
  rw [doubleQuotes, List.flatMap_cons, if_neg hc]
  rfl

theorem length_doubleQuotes (cs : List Char) :
    (doubleQuotes cs).length = cs.length + cs.count '\'' := by
  induction cs with
  | nil => rfl
  | cons c cs ih =>
    by_cases hc : c = '\''
    · subst hc
      simp only [doubleQuotes_cons_quote, List.length_cons, List.count_cons_self]
      omega
    · simp only [doubleQuotes_cons hc, List.length_cons, List.count_cons_of_ne hc]
      omega

theorem doubleQuotes_of_not_mem {cs : List Char} (h : '\'' ∉ cs) : doubleQuotes cs = cs := by
  induction cs with
  | nil => rfl
  | cons c cs ih =>
    rw [List.mem_cons, not_or] at h
    rw [doubleQuotes_cons (Ne.symm h.1), ih h.2]

theorem eq_doubleQuotes_self_iff {cs : List Char} : cs = doubleQuotes cs ↔ '\'' ∉ cs := by
  constructor
  · intro h
    have hlength := congrArg List.length h
    rw [length_doubleQuotes] at hlength
    exact List.count_eq_zero.1 (by omega)
  · intro h
    exact (doubleQuotes_of_not_mem h).symm

theorem readQuoted_quote {rest : List Char} (h : Unquoted rest) :
    readQuoted ('\'' :: rest) = some ([], rest) := by
  cases rest with
  | nil => rfl
  | cons c rest =>
    have hc : c ≠ '\'' := fun hc => h (by rw [hc]; rfl)
    simp [readQuoted, hc]

theorem readQuoted_cons {c : Char} (hc : c ≠ '\'') (cs : List Char) :
    readQuoted (c :: cs) = (readQuoted cs).map fun p => (c :: p.1, p.2) := by
  simp [readQuoted, hc]

theorem readQuoted_doubleQuotes (s : List Char) {rest : List Char} (h : Unquoted rest) :
    readQuoted (doubleQuotes s ++ '\'' :: rest) = some (s, rest) := by
  induction s with
  | nil => exact readQuoted_quote h
  | cons c s ih =>
    by_cases hc : c = '\''
    · subst hc
      rw [doubleQuotes_cons_quote, List.cons_append, List.cons_append, readQuoted, ih]
      rfl
    · rw [doubleQuotes_cons hc, List.cons_append, readQuoted_cons hc, ih]
      rfl

/-- The texts that are read as a string are those in which its quotes are doubled. -/
theorem readQuoted_eq_some_iff {cs s rest : List Char} :
    readQuoted cs = some (s, rest) ↔ cs = doubleQuotes s ++ '\'' :: rest ∧ Unquoted rest := by
  constructor
  · intro h
    fun_induction readQuoted cs generalizing s with
    | case1 => cases h
    | case2 cs ih =>
      obtain ⟨⟨t, r⟩, ht, heq⟩ := Option.map_eq_some_iff.1 h
      cases heq
      obtain ⟨rfl, hrest⟩ := ih ht
      exact ⟨rfl, hrest⟩
    | case3 cs hne =>
      cases h
      refine ⟨rfl, fun hhead => ?_⟩
      obtain ⟨cs', rfl⟩ := List.head?_eq_some_iff.1 hhead
      exact hne cs' rfl
    | case4 c cs _ hne ih =>
      obtain ⟨⟨t, r⟩, ht, heq⟩ := Option.map_eq_some_iff.1 h
      cases heq
      obtain ⟨rfl, hrest⟩ := ih ht
      have hc : c ≠ '\'' := by
        rintro rfl
        exact hne rfl
      rw [doubleQuotes_cons hc]
      exact ⟨rfl, hrest⟩
  · rintro ⟨rfl, hrest⟩
    exact readQuoted_doubleQuotes s hrest

theorem readStringLiteral_sql_eq_some_iff {s t : String} {rest rest' : List Char} :
    readStringLiteral ((Json.string s).sql.toList ++ rest) = some (t, rest') ↔
      s.toList ++ '\'' :: rest = doubleQuotes t.toList ++ '\'' :: rest' ∧ Unquoted rest' := by
  have htext : (Json.string s).sql.toList ++ rest = '\'' :: (s.toList ++ '\'' :: rest) := by
    simp [Json.sql]
  rw [htext, readStringLiteral, Option.map_eq_some_iff, ← readQuoted_eq_some_iff]
  constructor
  · rintro ⟨⟨cs, r⟩, hread, heq⟩
    cases heq
    rwa [String.toList_ofList]
  · intro hread
    exact ⟨(t.toList, rest'), hread, by rw [String.ofList_toList]⟩

/-! ## The place of a value in a statement -/

/-- Predicates behind one another, each with its separator. -/
def furtherPredicates (ps : List Predicate) : List Char :=
  ps.flatMap fun p => ' ' :: "AND ".toList ++ p.sql.toList

theorem intercalate_predicates (p : Predicate) (ps : List Predicate) :
    (' ' :: "AND ".toList).intercalate ((p :: ps).map fun q => q.sql.toList) =
      p.sql.toList ++ furtherPredicates ps := by
  have hjoined := flatMap_separated (' ' :: "AND ".toList) (fun q : Predicate => q.sql.toList)
    (List.cons_ne_nil p ps)
  rw [List.flatMap_cons, List.append_assoc] at hjoined
  exact (List.append_cancel_left hjoined).symm

theorem toList_whereClause_cons (p : Predicate) (ps : List Predicate) :
    (Statement.whereClause (p :: ps)).toList =
      ' ' :: "WHERE ".toList ++ (p.sql.toList ++ furtherPredicates ps) := by
  rw [Statement.toList_whereClause, ← intercalate_predicates]
  rfl

theorem exists_toList_whereClause (before after : List Predicate) :
    ∃ lead, ∀ p, (Statement.whereClause (before ++ p :: after)).toList =
      lead ++ (p.sql.toList ++ furtherPredicates after) := by
  cases before with
  | nil => exact ⟨' ' :: "WHERE ".toList, fun p => toList_whereClause_cons p after⟩
  | cons q before =>
    refine ⟨' ' :: "WHERE ".toList ++ (q.sql.toList ++
      (furtherPredicates before ++ ' ' :: "AND ".toList)), fun p => ?_⟩
    rw [List.cons_append, toList_whereClause_cons]
    simp [furtherPredicates]

theorem unquoted_of_head {rest : List Char} (h : ∀ c ∈ rest.head?, c = ' ') : Unquoted rest := by
  intro hquote
  exact absurd (h '\'' hquote) (by decide)

/-- The text of a statement has one place for the value of a predicate. What stands around it does
not depend on the value, and does not go on with a single quote. -/
theorem Statement.exists_place (s : Statement) (before after : List Predicate) (c : Column)
    (op : Operator) : ∃ lead tail, Unquoted tail ∧ ∀ v : Json,
      (s.withPredicates (before ++ ⟨c, op, v⟩ :: after)).sql.toList =
        lead ++ (v.sql.toList ++ tail) := by
  obtain ⟨lead, hlead⟩ := exists_toList_whereClause before after
  let rest := (orderClause s.sorts).toList ++
    ((limitClause s.limit).toList ++ (offsetClause s.offset).toList)
  have hrest : ∀ c ∈ rest.head?, c = ' ' := (goesOn_orderClause s.sorts s.limit s.offset).head
  refine ⟨"SELECT ".toList ++ (s.fields.sql.toList ++ (' ' :: ("FROM ".toList ++ (s.table.toList ++
    (lead ++ (c.name.toList ++ ' ' :: (op.symbol.toList ++ [' ']))))))),
    furtherPredicates after ++ rest, unquoted_of_head ?_, fun v => ?_⟩
  · cases after with
    | nil => exact hrest
    | cons p after =>
      rintro c ⟨⟩
      rfl
  · have hsql : (⟨c, op, v⟩ : Predicate).sql.toList =
        c.name.toList ++ ' ' :: (op.symbol.toList ++ ' ' :: v.sql.toList) := by
      simp [Predicate.sql]
    rw [toList_sql, clauses]
    simp only [withPredicates, hlead, hsql]
    simp [rest]

/-! ## Strings that are read back -/

theorem readStringLiteral_sql_eq_doubled_iff {s t : String} {rest : List Char}
    (h : Unquoted rest) :
    readStringLiteral ((Json.string s).sql.toList ++ rest) = some (t, rest) ↔
      s.toList = doubleQuotes t.toList := by
  rw [readStringLiteral_sql_eq_some_iff, and_iff_left h, List.append_left_inj]

theorem readStringLiteral_sql_eq_self_iff {s : String} {rest : List Char} (h : Unquoted rest) :
    readStringLiteral ((Json.string s).sql.toList ++ rest) = some (s, rest) ↔ '\'' ∉ s.toList := by
  rw [readStringLiteral_sql_eq_doubled_iff h, eq_doubleQuotes_self_iff]

/-- **Which strings are read back.** Where no single quote follows, a string literal is read to its
end and gives the string exactly when there is no single quote in the string; it is read to its end
at all exactly when the string has only doubled quotes. In a statement the same holds of the value
of every predicate, and what then remains does not depend on the string. -/
theorem readStringLiteral_sql_iff (s : String) {rest : List Char} (h : Unquoted rest) :
    (readStringLiteral ((Json.string s).sql.toList ++ rest) = some (s, rest) ↔
      '\'' ∉ s.toList) ∧
    (∀ t : String, readStringLiteral ((Json.string s).sql.toList ++ rest) = some (t, rest) ↔
      s.toList = doubleQuotes t.toList) ∧
    ∀ (statement : Statement) (before after : List Predicate) (c : Column) (op : Operator),
      ∃ lead tail, ∀ w : String,
        (statement.withPredicates (before ++ ⟨c, op, .string w⟩ :: after)).sql.toList =
          lead ++ ((Json.string w).sql.toList ++ tail) ∧
        (readStringLiteral ((Json.string w).sql.toList ++ tail) = some (w, tail) ↔
          '\'' ∉ w.toList) := by
  refine ⟨readStringLiteral_sql_eq_self_iff h, fun t => readStringLiteral_sql_eq_doubled_iff h, ?_⟩
  intro statement before after c op
  obtain ⟨lead, tail, htail, hplace⟩ := statement.exists_place before after c op
  exact ⟨lead, tail, fun w => ⟨hplace (.string w), readStringLiteral_sql_eq_self_iff htail⟩⟩

/-- A string with the text of another predicate in it. -/
theorem readStringLiteral_sql_iff_clause :
    Unquoted " LIMIT 1".toList ∧ '\'' ∉ "x AND name = y".toList ∧
      readStringLiteral ((Json.string "x AND name = y").sql.toList ++ " LIMIT 1".toList) =
        some ("x AND name = y", " LIMIT 1".toList) := by
  have hrest : Unquoted " LIMIT 1".toList := by decide
  have hquote : '\'' ∉ "x AND name = y".toList := by decide
  exact ⟨hrest, hquote, (readStringLiteral_sql_iff "x AND name = y" hrest).1.2 hquote⟩

/-- A string with single quotes in it is cut short, and its tail is one more condition of the
statement. -/
theorem readStringLiteral_sql_cut :
    let s := "x' OR name != '"
    let rest := " LIMIT 1".toList
    let statement : Statement :=
      { table := "users", predicates := [⟨⟨"name"⟩, .eq, .string s⟩], limit := some 1 }
    Unquoted rest ∧
      readStringLiteral ((Json.string s).sql.toList ++ rest) =
        some ("x", " OR name != '' LIMIT 1".toList) ∧
      readStringLiteral ((Json.string s).sql.toList ++ rest) ≠ some (s, rest) ∧
      statement.sql = "SELECT * FROM users WHERE name = 'x' OR name != '' LIMIT 1" := by
  intro s rest statement
  have hread : readStringLiteral ((Json.string s).sql.toList ++ rest) =
      some ("x", " OR name != '' LIMIT 1".toList) :=
    readStringLiteral_sql_eq_some_iff.2 ⟨by decide, by decide⟩
  refine ⟨by decide, hread, ?_, rfl⟩
  rw [hread]
  decide

end FindSelect
