import FindSelect.Json.Record
import FindSelect.Proofs.Text.Delimited

/-!
# Reading words and strings back

The text of a word and of a string is read back to its end, whatever follows.

* `bind_ok`, `bind_error`: what a reader does after another one;
* `Blank`, `Ended`: what may stand before and after a value;
* `word_append`, `stringTail_escaped`: words and strings are read back.
-/

namespace FindSelect.Reader

variable {α β : Type}

/-! ## Readers after one another -/

theorem bind_ok {x : Reader α} {f : α → Reader β} {cs rest : List Char} {a : α}
    (h : x cs = .ok (a, rest)) : (x >>= f) cs = f a rest := by
  change (x cs >>= fun p => f p.1 p.2) = _
  rw [h]
  rfl

theorem bind_error {x : Reader α} {f : α → Reader β} {cs : List Char} {fault : Fault}
    (h : x cs = .error fault) : (x >>= f) cs = .error fault := by
  change (x cs >>= fun p => f p.1 p.2) = _
  rw [h]
  rfl

theorem map_ok {x : Reader α} {g : α → β} {cs rest : List Char} {a : α}
    (h : x cs = .ok (a, rest)) : (g <$> x) cs = .ok (g a, rest) := by
  change (x cs >>= fun p => Except.ok (g p.1, p.2)) = _
  rw [h]
  rfl

/-! ## Blanks -/

/-- Characters that count for nothing between the parts of a value. -/
def Blank (ws : List Char) : Prop := ∀ c ∈ ws, isBlank c = true

theorem blank_nil : Blank [] := List.forall_mem_nil _

theorem next_blank {ws : List Char} (hws : Blank ws) (cs : List Char) :
    next (ws ++ cs) = next cs := by
  rw [next, List.dropWhile_append_of_pos hws, next]

theorem next_cons {c : Char} (hc : isBlank c = false) (cs : List Char) :
    next (c :: cs) = .ok (some c, c :: cs) := by
  rw [next, List.dropWhile_cons_of_neg (by simp [hc])]
  rfl

/-- What stands after a value does not continue it: there is nothing, a blank, a comma or a closing
bracket. -/
def Ended (rest : List Char) : Prop :=
  ∀ c ∈ rest.head?, isBlank c = true ∨ c = ',' ∨ c = ']' ∨ c = '}'

theorem ended_nil : Ended [] := by
  rintro c ⟨⟩

theorem ended_cons {c : Char} (hc : c = ',' ∨ c = ']' ∨ c = '}') (cs : List Char) :
    Ended (c :: cs) := by
  rintro d ⟨⟩
  exact .inr hc

theorem ended_blank_append {ws cs : List Char} (hws : Blank ws) (hcs : Ended cs) :
    Ended (ws ++ cs) := by
  cases ws with
  | nil => exact hcs
  | cons c ws =>
    rintro d ⟨⟩
    exact .inl (hws c List.mem_cons_self)

theorem Ended.head_cases {rest : List Char} (h : Ended rest) :
    rest = [] ∨ ∃ c cs, rest = c :: cs ∧ c.isDigit = false ∧ c ≠ '.' ∧ c ≠ 'e' ∧ c ≠ 'E' := by
  cases rest with
  | nil => exact .inl rfl
  | cons c cs =>
    refine .inr ⟨c, cs, rfl, ?_⟩
    have hc := h c rfl
    simp only [isBlank, Bool.or_eq_true, beq_iff_eq] at hc
    rcases hc with ((((rfl | rfl) | rfl) | rfl) | rfl | rfl | rfl) <;> decide

/-! ## Words -/

theorem word_append (w rest : List Char) : word w (w ++ rest) = .ok ((), rest) := by
  induction w with
  | nil => rfl
  | cons c w ih => rw [List.cons_append, word, if_pos rfl, ih]

/-! ## Strings -/

theorem hexValue?_hexDigit : ∀ n < 16, Text.hexValue? (hexDigit n) = some n := by decide

theorem escapedNumber_control {c : Char} (hc : c.toNat < 0x20) (rest : List Char) :
    escapedNumber ('0' :: '0' :: hexDigit (c.toNat / 16) :: hexDigit (c.toNat % 16) :: rest) =
      .ok (c, rest) := by
  have h0 : Text.hexValue? '0' = some 0 := by decide
  have hhex : fourHex ('0' :: '0' :: hexDigit (c.toNat / 16) :: hexDigit (c.toNat % 16) :: rest) =
      .ok (c.toNat, rest) := by
    rw [fourHex, h0, hexValue?_hexDigit _ (by omega), hexValue?_hexDigit _ (by omega)]
    dsimp only
    congr 2
    omega
  rw [escapedNumber, bind_ok hhex]
  have htrailing : isTrailingHalf c.toNat = false := by
    simp [isTrailingHalf]
    omega
  have hleading : isLeadingHalf c.toNat = false := by
    simp [isLeadingHalf]
    omega
  rw [if_neg (by simp [htrailing]), if_neg (by simp [hleading]), Char.ofNat_toNat]
  rfl

theorem stringRest_escapedChar (c : Char) (bound : Nat) (done rest : List Char) :
    stringRest escape id (bound + 1) done (escapedChar c ++ rest) =
      stringRest escape id bound (c :: done) rest := by
  unfold escapedChar
  split
  case h_8 c _ _ _ _ _ _ _ =>
    split_ifs with hc
    · have := escapedNumber_control hc rest
      simp only [List.cons_append, List.nil_append, stringRest, escape, this]
    · simp only [List.cons_append, List.nil_append, stringRest, if_neg hc, id]
  all_goals rfl

theorem stringRest_escaped (s : List Char) (rest : List Char) :
    ∀ (bound : Nat) (done : List Char), s.length < bound →
      stringRest escape id bound done (s.flatMap escapedChar ++ '"' :: rest) =
        .ok (done.reverse ++ s, rest) := by
  induction s with
  | nil =>
    intro bound done hbound
    obtain ⟨bound, rfl⟩ := Nat.exists_eq_add_one_of_ne_zero (Nat.ne_of_gt hbound)
    rw [List.append_nil]
    rfl
  | cons c s ih =>
    intro bound done hbound
    obtain ⟨bound, rfl⟩ : ∃ m, bound = m + 1 := ⟨bound - 1, by omega⟩
    rw [List.flatMap_cons, List.append_assoc, stringRest_escapedChar,
      ih bound (c :: done) (Nat.lt_of_succ_lt_succ hbound), List.reverse_cons, List.append_assoc,
      List.singleton_append]

theorem length_le_length_flatMap_escapedChar (s : List Char) :
    s.length ≤ (s.flatMap escapedChar).length := by
  induction s with
  | nil => exact Nat.le_refl 0
  | cons c s ih =>
    have hc : 0 < (escapedChar c).length := by
      unfold escapedChar
      split <;> try split
      all_goals exact Nat.zero_lt_succ _
    rw [List.flatMap_cons, List.length_append, List.length_cons]
    omega

theorem stringTail_escaped (s : String) (rest : List Char) :
    stringTail (s.toList.flatMap escapedChar ++ '"' :: rest) = .ok (s, rest) := by
  have hbound : s.toList.length < (s.toList.flatMap escapedChar ++ '"' :: rest).length + 1 := by
    have := length_le_length_flatMap_escapedChar s.toList
    rw [List.length_append]
    omega
  have h := stringRest_escaped s.toList rest _ [] hbound
  refine (map_ok h).trans ?_
  rw [List.reverse_nil, List.nil_append, String.ofList_toList]

end FindSelect.Reader
