import FindSelect.Proofs.Json.Decoding
import FindSelect.Statement.Sql

/-!
# Literals in a statement

A literal is null in capitals, a string between single quotes, or a compact text. The first character
tells which, and the literal can be read back to its end.

* `Json.Legible`: the values that a literal shows in full;
* `Json.readLiteral`: the reader of literals;
* **`Json.determines_sql`**: the text of a literal determines the value.
-/

namespace FindSelect.Json

open Reader Text

/-! ## Compact texts -/

theorem value_chars {v : Json} (hv : v.Plain) {levels : Nat} (hlevels : v.nesting ≤ levels)
    {r : List Char} (hr : Ended r) : Reader.value levels (v.chars ++ r) = .ok (v, r) := by
  have hdecodes : Decodes (Reader.value levels) v (fits levels v) := decodes_value hv
  have hvalue := hdecodes v.chars (written_chars v) [] r blank_nil hr
  rw [fits, if_pos hlevels] at hvalue
  exact hvalue

theorem chars_head (v : Json) : ∃ c cs, v.chars = c :: cs ∧ c ≠ 'N' ∧ c ≠ '\'' := by
  cases v with
  | null => exact ⟨'n', _, rfl, by decide, by decide⟩
  | boolean b => cases b <;> exact ⟨_, _, rfl, by decide, by decide⟩
  | number n =>
    obtain ⟨c, cs, hcs, hc⟩ := numberChars_head n
    exact ⟨c, cs, hcs, ne_of_startsNumber hc rfl, ne_of_startsNumber hc rfl⟩
  | string s => exact ⟨'"', _, rfl, by decide, by decide⟩
  | list items => exact ⟨'[', _, rfl, by decide, by decide⟩
  | document entries => exact ⟨'{', _, rfl, by decide, by decide⟩

/-! ## Literals -/

/-- A value that its literal shows in full: there is no floating-point number in it, no key is
repeated, and if it is a string there is no single quote in it. -/
structure Legible (v : Json) : Prop where
  plain : v.Plain
  quoteFree : ∀ s, v = .string s → '\'' ∉ s.toList

/-- Reads a literal. -/
def readLiteral (levels : Nat) : Reader Json
  | 'N' :: cs => .ok (.null, cs.drop 3)
  | '\'' :: cs =>
    .ok (.string (String.ofList (cs.takeWhile (· != '\''))), (cs.dropWhile (· != '\'')).drop 1)
  | cs => Reader.value levels cs

/-- Neither of the marks of other literals begins a compact text. -/
theorem readLiteral_chars (v : Json) (levels : Nat) (r : List Char) :
    readLiteral levels (v.chars ++ r) = Reader.value levels (v.chars ++ r) := by
  obtain ⟨c, cs, hcs, hN, hquote⟩ := chars_head v
  rw [hcs, List.cons_append]
  unfold readLiteral
  split
  next heq => exact absurd (List.cons.inj heq).1 hN
  next heq => exact absurd (List.cons.inj heq).1 hquote
  next => rfl

theorem readLiteral_string {s : String} (hs : '\'' ∉ s.toList) (levels : Nat) (r : List Char) :
    readLiteral levels ((Json.string s).sql.toList ++ r) = .ok (.string s, r) := by
  have hspan : ∀ c ∈ s.toList, (c != '\'') = true := by
    intro c hc
    rw [bne_iff_ne]
    rintro rfl
    exact hs hc
  have hstop : Stopped (· != '\'') ('\'' :: r) := stopped_cons rfl r
  have htext : (Json.string s).sql.toList ++ r = '\'' :: (s.toList ++ '\'' :: r) := by
    simp [sql]
  rw [htext, readLiteral, takeWhile_append_of_stopped hspan hstop,
    dropWhile_append_of_stopped hspan hstop, String.ofList_toList]
  rfl

theorem readLiteral_sql {v : Json} (hv : v.Legible) {levels : Nat} (hlevels : v.nesting ≤ levels)
    {r : List Char} (hr : Ended r) : readLiteral levels (v.sql.toList ++ r) = .ok (v, r) := by
  have hcompact (h : v.sql = v.compact) :
      readLiteral levels (v.sql.toList ++ r) = .ok (v, r) := by
    rw [h, compact, String.toList_ofList, readLiteral_chars]
    exact value_chars hv.plain hlevels hr
  cases v with
  | null => rfl
  | string s => exact readLiteral_string (hv.quoteFree s rfl) levels r
  | boolean b => exact hcompact rfl
  | number n => exact hcompact rfl
  | list items => exact hcompact rfl
  | document entries => exact hcompact rfl

/-- **A literal determines the value**, with the order of the entries of every document. -/
theorem determines_sql : Determines (fun v : Json => v.sql.toList) id Legible Ended := by
  intro v w hv hw
  -- as many levels as the deeper of the two needs
  let levels := max v.nesting w.nesting
  have hread : Determines (fun v : Json => v.sql.toList) id
      (fun v => v.nesting ≤ levels ∧ v.Legible) Ended :=
    determines_of_read (readLiteral levels) fun v hv r hr => readLiteral_sql hv.2 hv.1 hr
  exact hread ⟨Nat.le_max_left _ _, hv⟩ ⟨Nat.le_max_right _ _, hw⟩

end FindSelect.Json
