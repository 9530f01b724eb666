import FindSelect.Proofs.Json.Numbers

/-!
# Texts of values

A value has many texts, which differ in the blanks between their parts. Numbers and strings are always
written in the same way.

* `Written`: the texts of a value;
* `Written.head`: how they begin;
* **`written_chars`**: the compact text is one of them.
-/

namespace FindSelect.Reader

/-! ## Texts -/

/-- What separates a member of a list or a document from the one before it: a comma, unless it is
the first. -/
inductive Separator : (first : Bool) → List Char → Prop
  | start : Separator true []
  | comma {ws : List Char} : Blank ws → Separator false (ws ++ [','])

mutual

/-- The texts of a value. They begin and end with a part of the value, not with blanks. -/
inductive Written : Json → List Char → Prop
  | null : Written .null "null".toList
  | boolean (b : Bool) : Written (.boolean b) (boolChars b)
  | number (n : Number) : Written (.number n) n.chars
  | string (s : String) : Written (.string s) (stringChars s)
  | list {items : List Json} {body ws : List Char} : WrittenItems true items body → Blank ws →
      Written (.list items) ('[' :: (body ++ (ws ++ [']'])))
  | document {entries : List (String × Json)} {body ws : List Char} :
      WrittenEntries true entries body → Blank ws →
      Written (.document entries) ('{' :: (body ++ (ws ++ ['}'])))

/-- The texts of the items of a list; `first` tells that none stands before them. -/
inductive WrittenItems : (first : Bool) → List Json → List Char → Prop
  | nil {first : Bool} : WrittenItems first [] []
  | cons {first : Bool} {v : Json} {items : List Json} {sep ws text body : List Char} :
      Separator first sep → Blank ws → Written v text → WrittenItems false items body →
      WrittenItems first (v :: items) (sep ++ (ws ++ (text ++ body)))

/-- The texts of the entries of a document; `first` tells that none stands before them. -/
inductive WrittenEntries : (first : Bool) → List (String × Json) → List Char → Prop
  | nil {first : Bool} : WrittenEntries first [] []
  | cons {first : Bool} {key : String} {v : Json} {entries : List (String × Json)}
      {sep ws₁ ws₂ ws₃ text body : List Char} :
      Separator first sep → Blank ws₁ → Blank ws₂ → Blank ws₃ → Written v text →
      WrittenEntries false entries body →
      WrittenEntries first ((key, v) :: entries)
        (sep ++ (ws₁ ++ (stringChars key ++ (ws₂ ++ ':' :: (ws₃ ++ (text ++ body))))))

end

/-! ## How texts begin -/

/-- A text begins with a character that is neither blank nor a closing bracket, and that tells null
from every other value. -/
theorem Written.head {v : Json} {text : List Char} (h : Written v text) :
    ∃ c cs, text = c :: cs ∧ isBlank c = false ∧ c ≠ ']' ∧ (v.isNull = false → c ≠ 'n') := by
  cases h with
  | null => exact ⟨'n', _, rfl, rfl, by decide, nofun⟩
  | boolean b => cases b <;> exact ⟨_, _, rfl, rfl, by decide, fun _ => by decide⟩
  | number n =>
    obtain ⟨c, cs, hcs, hc⟩ := numberChars_head n
    exact ⟨c, cs, hcs, isBlank_of_startsNumber hc, ne_of_startsNumber hc rfl,
      fun _ => ne_of_startsNumber hc rfl⟩
  | string s => exact ⟨'"', _, rfl, rfl, by decide, fun _ => by decide⟩
  | list _ _ => exact ⟨'[', _, rfl, rfl, by decide, fun _ => by decide⟩
  | document _ _ => exact ⟨'{', _, rfl, rfl, by decide, fun _ => by decide⟩

/-! ## The compact text -/

theorem WrittenItems.after_comma {v : Json} {items : List Json} {body : List Char}
    (h : WrittenItems true (v :: items) body) : WrittenItems false (v :: items) (',' :: body) := by
  cases h with
  | cons hsep hws htext hbody =>
    cases hsep
    exact .cons (.comma blank_nil) hws htext hbody

theorem WrittenEntries.after_comma {e : String × Json} {entries : List (String × Json)}
    {body : List Char} (h : WrittenEntries true (e :: entries) body) :
    WrittenEntries false (e :: entries) (',' :: body) := by
  cases h with
  | cons hsep h₁ h₂ h₃ htext hbody =>
    cases hsep
    exact .cons (.comma blank_nil) h₁ h₂ h₃ htext hbody

theorem WrittenItems.single {v : Json} {text : List Char} (h : Written v text) :
    WrittenItems true [v] text := by
  have := WrittenItems.cons .start blank_nil h .nil
  rwa [List.append_nil] at this

theorem WrittenEntries.single {key : String} {v : Json} {text : List Char} (h : Written v text) :
    WrittenEntries true [(key, v)] (stringChars key ++ ':' :: text) := by
  have hcons : WrittenEntries true [(key, v)] (stringChars key ++ ':' :: (text ++ [])) :=
    .cons .start blank_nil blank_nil blank_nil h .nil
  rwa [List.append_nil] at hcons

mutual

/-- **The compact text is a text of the value.** -/
theorem written_chars : ∀ v : Json, Written v v.chars
  | .null => .null
  | .boolean b => .boolean b
  | .number n => .number n
  | .string s => .string s
  | .list items => .list (writtenItems_itemsChars items) blank_nil
  | .document entries => .document (writtenEntries_entriesChars entries) blank_nil

theorem writtenItems_itemsChars :
    ∀ items : List Json, WrittenItems true items (Json.itemsChars items)
  | [] => .nil
  | [v] => .single (written_chars v)
  | v :: w :: items =>
    .cons .start blank_nil (written_chars v) (writtenItems_itemsChars (w :: items)).after_comma

theorem writtenEntries_entriesChars :
    ∀ entries : List (String × Json), WrittenEntries true entries (Json.entriesChars entries)
  | [] => .nil
  | [(_, v)] => .single (written_chars v)
  | (_, v) :: e :: entries =>
    .cons .start blank_nil blank_nil blank_nil (written_chars v)
      (writtenEntries_entriesChars (e :: entries)).after_comma

end

end FindSelect.Reader
