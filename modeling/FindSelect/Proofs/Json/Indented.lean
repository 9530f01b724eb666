import FindSelect.Proofs.Json.Records

/-!
# Indented texts

The indented text of a value breaks its lines between the parts of the value only, where blanks count
for nothing. So every reader makes of it what it makes of the compact text.

* `written_indentedChars`: the indented text is a text of the value, at whatever level it begins;
* `holds_indented`, `Holds.line`: the same for the whole text, also with the end of its last line.
-/

namespace FindSelect.Reader

/-! ## Lines -/

theorem blank_newLine (level : Nat) : Blank (Json.newLine level) := by
  intro c hc
  rw [Json.newLine, List.mem_cons] at hc
  rcases hc with rfl | hc
  · rfl
  · rw [List.eq_of_mem_replicate hc]
    rfl

theorem WrittenItems.on_line {level : Nat} {v : Json} {items : List Json} {text body : List Char}
    (h : Written v text) (hbody : WrittenItems false items body) :
    WrittenItems true (v :: items) (Json.newLine level ++ text ++ body) := by
  have hcons := WrittenItems.cons .start (blank_newLine level) h hbody
  rwa [List.nil_append, ← List.append_assoc] at hcons

theorem WrittenEntries.on_line {level : Nat} {key : String} {v : Json}
    {entries : List (String × Json)} {text body : List Char} (h : Written v text)
    (hbody : WrittenEntries false entries body) :
    WrittenEntries true ((key, v) :: entries)
      (Json.newLine level ++ stringChars key ++ ':' :: ' ' :: (text ++ body)) := by
  have hspace : Blank [' '] := by
    rw [Blank, List.forall_mem_singleton]
    rfl
  have hcons : WrittenEntries true ((key, v) :: entries) _ :=
    .cons .start (blank_newLine level) blank_nil hspace h hbody
  rwa [List.nil_append, ← List.append_assoc] at hcons

/-! ## The indented text -/

mutual

/-- The indented text is a text of the value, at whatever level it begins. -/
theorem written_indentedChars (level : Nat) : ∀ v : Json, Written v (v.indentedChars level)
  | .null => .null
  | .boolean b => .boolean b
  | .number n => .number n
  | .string s => .string s
  | .list [] => .list .nil blank_nil
  | .list (v :: items) => by
    have hitems := writtenItems_indentedItems (level + 1) (v :: items)
    rw [Json.indentedChars, List.append_assoc]
    exact .list hitems (blank_newLine level)
  | .document [] => .document .nil blank_nil
  | .document (e :: entries) => by
    have hentries := writtenEntries_indentedEntries (level + 1) (e :: entries)
    rw [Json.indentedChars, List.append_assoc]
    exact .document hentries (blank_newLine level)

theorem writtenItems_indentedItems (level : Nat) :
    ∀ items : List Json, WrittenItems true items (Json.indentedItems level items)
  | [] => .nil
  | [v] => by
    have hitem : WrittenItems true [v] (Json.newLine level ++ v.indentedChars level ++ []) :=
      .on_line (written_indentedChars level v) .nil
    rwa [List.append_nil] at hitem
  | v :: w :: items =>
    .on_line (written_indentedChars level v)
      (writtenItems_indentedItems level (w :: items)).after_comma

theorem writtenEntries_indentedEntries (level : Nat) :
    ∀ entries : List (String × Json),
      WrittenEntries true entries (Json.indentedEntries level entries)
  | [] => .nil
  | [(key, v)] => by
    have hentry : WrittenEntries true [(key, v)]
        (Json.newLine level ++ stringChars key ++ ':' :: ' ' :: (v.indentedChars level ++ [])) :=
      .on_line (written_indentedChars level v) .nil
    rwa [List.append_nil] at hentry
  | (key, v) :: e :: entries =>
    .on_line (written_indentedChars level v)
      (writtenEntries_indentedEntries level (e :: entries)).after_comma

end

/-! ## Whole texts -/

theorem holds_indented (v : Json) : Holds v.indented v := by
  refine ⟨[], v.indentedChars 0, [], blank_nil, written_indentedChars 0 v, blank_nil, ?_⟩
  rw [Json.indented, String.toList_ofList, List.nil_append, List.append_nil]

theorem Holds.line {text : String} {v : Json} (h : Holds text v) : Holds (text ++ "\n") v := by
  obtain ⟨before, cs, after, hbefore, hcs, hafter, htext⟩ := h
  refine ⟨before, cs, after ++ ['\n'], hbefore, hcs, ?_, ?_⟩
  · intro c hc
    rcases List.mem_append.1 hc with hc | hc
    · exact hafter c hc
    · rw [List.mem_singleton.1 hc]
      rfl
  · rw [String.toList_append, htext, List.append_assoc, List.append_assoc]
    rfl

end FindSelect.Reader
